import PermeantOS.AgentWorkspace

namespace PermeantOS

variable {P : Type} (host : AgentHost P)

section Constants

def agentId : String := "agent:local-reference"

def toolId : String := "tool:local-fs"

def postMigrationCreatedAt : String := "2026-06-20T00:00:00Z"

def readToolId : String := "tool:call:read-aws-quota"

def publishToolId : String := "tool:call:publish-release"

def announcementId : String := "artifact:publish-announcement:post-import"

def announcementPath : String := "reports/publish/announcement.md"

end Constants

section Edits

/-- `value[key] = new` -/
def Json.setItem (value : Json P) (key : String) (new : Json P) : Except PyException (Json P) :=
  match value with
  | .dict fields => .ok (.dict (dictInsert fields key new))
  | _ => .error .typeError

/-- `value[key].append(item)` -/
def Json.appendTo (value : Json P) (key : String) (item : Json P) : Except PyException (Json P) := do
  match ← value.item key with
  | .list items => value.setItem key (.list (items ++ [item]))
  | _ => .error .attributeError

def findNode (nodeId : String) : List (Json P) → Except PyException (Json P)
  | [] => .error (.importVerificationError s!"missing graph node: {nodeId}")
  | node :: nodes => do
    let found ← node.get "id"
    if pyEq host found (.str nodeId) = true then pure node else findNode nodeId nodes

def nodeById (graph : Json P) (nodeId : String) : Except PyException (Json P) := do
  let nodes ← graph.getOr "nodes" (.list [])
  let nodes ← nodes.iterate
  findNode host nodeId nodes

/-- The nodes after an edit of the first one with an id. -/
def editNode (nodeId : String) (edit : Json P → Except PyException (Json P)) :
    List (Json P) → Except PyException (List (Json P))
  | [] => .error (.importVerificationError s!"missing graph node: {nodeId}")
  | node :: nodes => do
    let found ← node.get "id"
    if pyEq host found (.str nodeId) = true then do
      let node ← edit node
      pure (node :: nodes)
    else do
      let nodes ← editNode nodeId edit nodes
      pure (node :: nodes)

def nodeContentPayload (fields : Fields P) : Fields P :=
  fields.filter fun field => field.1 ∉ ["id", "type", "created_at", "content_hash", "provenance"]

def refreshNodeContentHash (node : Json P) : Except PyException (Json P) :=
  match node with
  | .dict fields => node.setItem "content_hash" (.str (sha256Json host (.dict (nodeContentPayload fields))))
  | _ => .error .attributeError

/-- What `mark_tool_call_completed` does to the node it finds. -/
def completeToolCall (nodeId approvalState : String) (node : Json P) : Except PyException (Json P) := do
  let type ← node.get "type"
  refuseIf (!pyEq host type (.str "tool_call")) s!"node is not a tool_call: {nodeId}"
  let node ← node.setItem "status" (.str "completed")
  let node ← node.setItem "approval_state" (.str approvalState)
  refreshNodeContentHash host node

/-- The graph is edited in place; only a list of nodes can hold one that is found. -/
def markToolCallCompleted (graph : Json P) (nodeId approvalState : String) : Except PyException (Json P) := do
  let nodes ← graph.getOr "nodes" (.list [])
  let nodes ← nodes.iterate
  let nodes ← editNode host nodeId (completeToolCall host nodeId approvalState) nodes
  graph.setItem "nodes" (.list nodes)

def postMigrationNode (nodeId nodeType : String) (payload : Fields P) : Json P :=
  .dict ([("id", .str nodeId), ("type", .str nodeType), ("created_at", .str postMigrationCreatedAt),
    ("content_hash", .str (sha256Json host (.dict payload))),
    ("provenance", .dict [("runtime", .str runtimeId), ("captured_at", .str postMigrationCreatedAt),
      ("adapter", .str "local_agent.py"), ("migration_phase", .str "post_import_resume")])] ++ payload)

def appendPostMigrationNode (graph : Json P) (nodeId nodeType : String) (payload : Fields P) :
    Except PyException (Json P) :=
  graph.appendTo "nodes" (postMigrationNode host nodeId nodeType payload)

def appendEdges (graph : Json P) : List (String × String × String) → Except PyException (Json P)
  | [] => .ok graph
  | (from', to', type) :: edges => do
    let graph ← graph.appendTo "edges"
      (.dict [("from", .str from'), ("to", .str to'), ("type", .str type)])
    appendEdges graph edges

def appendLineage (graph : Json P) (event : String) : Except PyException (Json P) := do
  match ← graph.item "lineage" with
  | .list items => do
    let graphId ← graph.item "graph_id"
    graph.setItem "lineage" (.list (items ++ [.dict [("graph_id", graphId), ("event", .str event),
      ("created_at", .str postMigrationCreatedAt)]]))
  | _ => .error .attributeError

/-- `text.removeprefix("sha256:")` -/
def bareDigest (text : String) : String :=
  if "sha256:".toList <+: text.toList then String.ofList (text.toList.drop 7) else text

end Edits

section Resume

def simulatedQuotaResult : Json P :=
  .dict [("provider", .str "aws"), ("operation", .str "ec2.describe_instances"),
    ("filters", .list [.str "Project=permeant-os"]), ("active_instances", .int 0), ("stopped_instances", .int 0),
    ("security_groups", .int 0), ("key_pairs", .int 0), ("result", .str "clean")]

def publishAnnouncementContent (result : ImportResult P) (preResumeGraphHash : Json P) : String :=
  String.intercalate "\n"
    ["# PermeantOS Agent Activity Continuation Proof", "",
      "The imported agent resumed after migration, retried safe read-only work,",
      "received explicit publish approval, and wrote this post-migration artifact.", "",
      s!"- pre-resume graph hash: \x60{pyStr host preResumeGraphHash}\x60",
      s!"- prompt token hash: \x60{result.evidence.promptTokenHash}\x60",
      s!"- simulated KV hash: \x60{result.evidence.kvHash}\x60",
      "- safe read-only quota check: \x60completed\x60", "- approved publish write: \x60completed\x60", ""]

/-- The fields that every result of a tool shares. -/
def toolResultPayload (retention resultHash schemaHash : String) (resourceRefs : List String) : Fields P :=
  [("actor_id", .str toolId), ("memory_scope", .str "thread"), ("memory_tier", .str "working"),
    ("sensitivity", .str "internal"), ("retention", .str retention), ("redaction_state", .str "none"),
    ("result_hash", .str resultHash), ("output_schema_hash", .str schemaHash), ("is_error", .bool false),
    ("resource_refs", .list (resourceRefs.map .str)), ("status", .str "completed")]

def quotaResultHash : String := sha256Json host simulatedQuotaResult

def quotaPayload : Fields P :=
  toolResultPayload "session" (quotaResultHash host)
    (sha256Json host (.dict [("active_instances", .str "integer"), ("result", .str "string")])) []

/-- The quota check, which is done again on the imported graph. -/
def resumeRead (graph : Json P) : Except PyException (Json P) := do
  let readTool ← nodeById host graph readToolId
  let sideEffect ← readTool.get "side_effect"
  let resumePolicy ← readTool.get "resume_policy"
  refuseIf (!pyEq host sideEffect (.str "read_only") || !pyEq host resumePolicy (.str "retry_safe"))
    "read-only quota tool is not retry-safe"
  let graph ← markToolCallCompleted host graph readToolId "not_required"
  let graph ← appendPostMigrationNode host graph "tool:result:read-aws-quota:post-import" "tool_result"
    (quotaPayload host)
  appendEdges graph [(readToolId, "tool:result:read-aws-quota:post-import", "produced")]

def executedRead : Json P :=
  .dict [("node_id", .str readToolId), ("name", .str "aws.ec2.describe_instances"),
    ("side_effect", .str "read_only"), ("status", .str "completed"),
    ("result_hash", .str (quotaResultHash host))]

def executedPublish (announcementHash : String) : Json P :=
  .dict [("node_id", .str publishToolId), ("name", .str "fs.write_file"),
    ("side_effect", .str "external_write"), ("status", .str "completed"),
    ("approval_state", .str "approved"), ("artifact_hash", .str announcementHash)]

def announcementPayload (announcementHash : String) (announcementSize : Nat) : Fields P :=
  [("actor_id", .str toolId), ("memory_scope", .str "thread"), ("memory_tier", .str "archival"),
    ("sensitivity", .str "internal"), ("retention", .str "durable"), ("redaction_state", .str "none"),
    ("artifact_kind", .str "file"), ("path", .str announcementPath),
    ("uri", .str ("artifact://local/" ++ announcementPath)), ("sha256", .str (bareDigest announcementHash)),
    ("size_bytes", .int announcementSize), ("media_type", .str "text/markdown"),
    ("root_ref", .str "post-migration-workspace"), ("restore_policy", .str "required")]

def continuedEpisode : Json P :=
  .dict [("schema_version", .str "complex-agent-v0"),
    ("episode_id", .str "episode:complex-agent:post-import"), ("continuity_state", .str "continued"),
    ("actor_ids", .list [.str agentId, .str toolId, .str "operator:release-manager"]),
    ("started_at", .str postMigrationCreatedAt),
    ("boundary_labels", .list [.str "post_import_resume", .str "tool_execution", .str "artifact_write"]),
    ("causal_record_ids", .list [.str readToolId, .str publishToolId]),
    ("related_record_ids", .list [.str announcementId]),
    ("salience", .dict [("reuse", .float (host.parseFloat "1.0".toList)),
      ("novelty", .float (host.parseFloat "0.8".toList)),
      ("unresolved", .float (host.parseFloat "0.0".toList))])]

def continuedPayload : Fields P :=
  [("actor_id", .str agentId), ("memory_scope", .str "thread"), ("memory_tier", .str "recall"),
    ("sensitivity", .str "internal"), ("retention", .str "durable"), ("redaction_state", .str "none"),
    ("quality_state", .str "verified"), ("historical_state", .str "current"), ("trust_level", .str "verified"),
    ("valid_at", .str postMigrationCreatedAt), ("confidence", .float (host.parseFloat "1.0".toList)),
    ("memory_kind", .str "episodic"),
    ("text_hash", .str (sha256Bytes host
      (asBytes "agent resumed after migration and completed approved publish"))),
    ("subject", .str "agent:complex-continuity"), ("predicate", .str "post_migration_activity"),
    ("object", .str "completed_safe_retry_and_approved_publish"),
    ("namespace", .list [.str "complex-agent", .str "post-migration"]),
    ("key", .str "agent-activity-continued"), ("embedding_model", .str embeddingModel),
    ("embedding_dim", .int embeddingDim),
    ("embedding_hash", .str (embeddingHash host (deterministicEmbedding host
      "agent:complex-continuity post_migration_activity completed_safe_retry_and_approved_publish"))),
    ("distance_metric", .str "cosine"), ("vector_store_ref", .str vectorStoreRef),
    ("episode", continuedEpisode host),
    ("conflict", .dict [("review_state", .str "none"), ("conflicting_node_ids", .list []),
      ("drift_score", .float (host.parseFloat "0.0".toList))]),
    ("lineage_links", .list [.dict [("node_id", .str "tool:result:publish-release:post-import"),
      ("relation", .str "derived_from")]])]

def publishedPayload (announcementHash : String) : Fields P :=
  toolResultPayload "durable"
    (sha256Json host (.dict [("path", .str announcementPath), ("sha256", .str announcementHash)]))
    (sha256Json host (.dict [("path", .str "string"), ("sha256", .str "string")]))
    ["artifact:" ++ announcementPath]

/-- What the graph records of the release. -/
def recordPublish (graph : Json P) (announcementHash : String) (announcementSize : Nat) :
    Except PyException (Json P) := do
  let graph ← appendPostMigrationNode host graph "tool:result:publish-release:post-import" "tool_result"
    (publishedPayload host announcementHash)
  let graph ← appendPostMigrationNode host graph announcementId "artifact"
    (announcementPayload announcementHash announcementSize)
  let graph ← appendPostMigrationNode host graph "memory:agent-activity-continued:post-import" "memory"
    (continuedPayload host)
  appendEdges graph [(publishToolId, "tool:result:publish-release:post-import", "produced"),
    (publishToolId, announcementId, "produced"),
    (announcementId, "memory:agent-activity-continued:post-import", "produced")]

structure ResumeState (P : Type) where
  graph : Json P
  executedTools : List (Json P)
  blockedTools : List (Json P)
  writtenArtifacts : List (Json P)

def writtenArtifact (path hash : String) (size : Nat) : Json P :=
  .dict [("path", .str path), ("sha256", .str hash), ("size_bytes", .int size)]

def announcementTarget (workspace : Directory) : List String :=
  workspace.names ++ ["reports", "publish", "announcement.md"]

/-- The release that the user approved: a file in the workspace, and its record. -/
def publishRelease (result : ImportResult P) (preResumeGraphHash publishTool graph : Json P) :
    AgentIO (ResumeState P) := do
  let sideEffect ← liftExcept (publishTool.get "side_effect")
  let resumePolicy ← liftExcept (publishTool.get "resume_policy")
  liftExcept (refuseIf
    (!pyEq host sideEffect (.str "external_write") || !pyEq host resumePolicy (.str "ask_user"))
    "publish tool is not gated by explicit user approval")
  let graph ← liftExcept (markToolCallCompleted host graph publishToolId "approved")
  let target := announcementTarget result.restoredWorkspace
  makeDirectory target.dropLast
  openWrite target (asBytes (publishAnnouncementContent host result preResumeGraphHash))
  let (announcementHash, announcementSize) ← fileSha256AndSize host target
  let graph ← liftExcept (recordPublish host graph announcementHash announcementSize)
  pure ⟨graph, [executedRead host, executedPublish announcementHash], [],
    [writtenArtifact announcementPath announcementHash announcementSize]⟩

def blockRelease (publishTool graph : Json P) : Except PyException (ResumeState P) := do
  let status ← publishTool.get "status"
  let approvalState ← publishTool.get "approval_state"
  pure ⟨graph, [executedRead host],
    [.dict [("node_id", .str publishToolId), ("name", .str "fs.write_file"),
      ("side_effect", .str "external_write"), ("status", status), ("approval_state", approvalState),
      ("reason", .str "explicit publish approval was not supplied")]], []⟩

def resumedPayload : Fields P :=
  [("actor_id", .str agentId), ("event_kind", .str "agent_resumed_after_import"),
    ("memory_scope", .str "thread"), ("memory_tier", .str "working"), ("sensitivity", .str "internal"),
    ("retention", .str "durable"), ("redaction_state", .str "none")]

/-- The last edits, and the hash over all of them. -/
def closeGraph (graph preResumeGraphHash : Json P) : Except PyException (Json P × String) := do
  let graph ← appendPostMigrationNode host graph "event:post-migration-agent-resume" "event" resumedPayload
  let graph ← appendLineage graph "post_migration_agent_resume"
  let graph ← graph.setItem "source_graph_id" preResumeGraphHash
  let graphHash ← canonicalGraphHash host graph
  let graph ← graph.setItem "graph_hash" (.str graphHash)
  pure (graph, graphHash)

/-- The report without its proof. -/
def resumeReportBody (result : ImportResult P) (approvePublish : Bool) (preResumeGraphHash : Json P)
    (graphHash : String) (state : ResumeState P) : Fields P :=
  [("status", .str (if state.executedTools.isEmpty then "not_continued" else "continued")),
    ("activity_continued", .bool (!state.executedTools.isEmpty)), ("publish_approved", .bool approvePublish),
    ("pre_resume_graph_hash", preResumeGraphHash), ("post_resume_graph_hash", .str graphHash),
    ("prompt_token_hash", .str result.evidence.promptTokenHash), ("kv_hash", .str result.evidence.kvHash),
    ("executed_tools", .list state.executedTools), ("blocked_tools", .list state.blockedTools),
    ("written_artifacts", .list state.writtenArtifacts),
    ("resumed_graph_path", .str "reports/resume/resumed-graph.json")]

def resumeReport (result : ImportResult P) (approvePublish : Bool) (preResumeGraphHash : Json P)
    (graphHash : String) (state : ResumeState P) : Fields P :=
  let body := resumeReportBody result approvePublish preResumeGraphHash graphHash state
  body ++ [("proof_hash", .str (sha256Json host (.dict body)))]

def resumedGraphPath (workspace : Directory) : List String :=
  workspace.names ++ ["reports", "resume", "resumed-graph.json"]

def resumeReportPath (workspace : Directory) : List String :=
  workspace.names ++ ["reports", "resume", "resume-report.json"]

/-- The resume of a graph that was loaded. -/
def resumeGraph (result : ImportResult P) (graph : Json P) (approvePublish : Bool) : AgentIO (Json P) := do
  let preResumeGraphHash ← liftExcept (graph.item "graph_hash")
  let graph ← liftExcept (resumeRead host graph)
  let publishTool ← liftExcept (nodeById host graph publishToolId)
  let state ←
    if approvePublish = true then publishRelease host result preResumeGraphHash publishTool graph
    else liftExcept (blockRelease host publishTool graph)
  let (graph, graphHash) ← liftExcept (closeGraph host state.graph preResumeGraphHash)
  writeJson host (resumedGraphPath result.restoredWorkspace) graph
  let report := resumeReport host result approvePublish preResumeGraphHash graphHash state
  writeJson host (resumeReportPath result.restoredWorkspace) (.dict report)
  pure (.dict (report ++ [("resume_report_path", .str "reports/resume/resume-report.json")]))

/-- The import, and the graph that is then loaded. -/
def loadImported (package : Directory) (workspace : Option Directory) :
    AgentIO (ImportResult P × Json P) := do
  let result ← importSession host package workspace runtimeId
  let (_, graph) ← readPackage host package
  pure (result, graph)

def resumeImportedAgent (package : Directory) (workspace : Option Directory) (approvePublish : Bool) :
    AgentIO (Json P) := do
  let (result, graph) ← loadImported host package workspace
  resumeGraph host result graph approvePublish

end Resume

section Loaded

variable {host} {package : Directory} {workspace : Option Directory} {world world' : World}
  {result : ImportResult P} {manifest graph : Json P}

theorem run_loadImported_ok {loaded : Json P}
    (h : (loadImported host package workspace).run world = .ok (result, loaded) world') :
    ∃ middle manifest', (importSession host package workspace runtimeId).run world = .ok result middle ∧
      packageAt host package middle.disk = .ok (manifest', loaded) ∧ world'.disk = middle.disk := by
  obtain ⟨found, middle, himport, h⟩ := run_bind_ok_iff.mp h
  obtain ⟨documents, last, hread, h⟩ := run_bind_ok_iff.mp h
  cases h
  obtain ⟨hpackage, hdisk⟩ := run_readPackage_ok host hread
  exact ⟨middle, documents.1, himport, hpackage, hdisk⟩

theorem run_loadImported_of_import {middle : World}
    (himport : (importSession host package workspace runtimeId).run world = .ok result middle)
    (hpackage : packageAt host package middle.disk = .ok (manifest, graph)) :
    (loadImported host package workspace).run world =
      .ok (result, graph) ⟨middle.disk, middle.log ++ packageReads package manifest⟩ := by
  rw [loadImported, run_bind_of_ok himport, run_bind_of_ok (run_readPackage_of_packageAt host middle hpackage)]
  rfl

/-- The graph that is resumed has the hash that was verified exactly where no artifact is restored over one of
the two documents, or where those that the restore leaves name a graph with the same hash. In the first case it
is the graph that was verified. -/
theorem resumedGraph_verified {loaded : Json P} {artifacts : List (Json P)} {hash : String}
    (h : (loadImported host package workspace).run world = .ok (result, loaded) world')
    (hpackage : packageAt host package world.disk = .ok (manifest, graph))
    (hartifacts : manifestArtifacts manifest = .ok artifacts)
    (hhash : manifest.item "graph_hash" = .ok (.str hash)) :
    (canonicalGraphHash host loaded = .ok hash ↔
      KeepsDocuments host package (workspaceOr package workspace) world.disk manifest artifacts ∨
        LeavesGraph host package (workspaceOr package workspace) world.disk artifacts hash) ∧
    (KeepsDocuments host package (workspaceOr package workspace) world.disk manifest artifacts → loaded = graph) := by
  obtain ⟨middle, manifest', himport, hloaded, _⟩ := run_loadImported_ok h
  obtain ⟨_, _, _, haccepted, _, hplan⟩ := run_importSession_planned himport
  cases hpackage.symm.trans haccepted.documents
  cases hartifacts.symm.trans haccepted.listed
  obtain ⟨expected, hexpected, hcanonical, _⟩ := haccepted.graphHash
  cases hhash.symm.trans hexpected
  have hkept : KeepsDocuments host package (workspaceOr package workspace) world.disk manifest artifacts →
      loaded = graph := by
    intro hkeeps
    cases (hkeeps.packageAt hpackage hplan).symm.trans hloaded
    rfl
  refine ⟨⟨fun hsame => Or.inr ⟨_, _, _, hplan, hloaded, hsame⟩, ?_⟩, hkept⟩
  rintro (hkeeps | ⟨restored, _, graph', hrestored, hleft, hsame⟩)
  · rw [hkept hkeeps, hcanonical]
  · cases hplan.symm.trans hrestored
    cases hloaded.symm.trans hleft
    exact hsame

theorem packageAt_plainImported {nodes : List (Json Int)}
    (h : PrintableItems decimalHost.floatRepr decimalHost.parseFloat nodes) :
    packageAt decimalHost draftPackage (plainImported nodes) =
      .ok (draftManifest decimalHost (plainDraft nodes), draftGraph decimalHost (plainDraft nodes)) := by
  have hrelative : safePackageRelativePath (.str "graph.json" : Json Int) = .ok ⟨"", ["graph.json"]⟩ := rfl
  exact packageAt_of_files decimalHost rfl (printable_blobManifest decimalHost _ _ _ _) rfl hrelative rfl
    (printable_draftGraph decimalHost (plainDraft nodes) h)

theorem apartFrom_plain : ApartFrom draftPackage plainWorkspace := ⟨by decide, by decide⟩

theorem plainGraph_resumed : ∃ result world',
    (loadImported decimalHost draftPackage (some plainWorkspace)).run (plainWorld []) =
      .ok (result, draftGraph decimalHost (plainDraft [])) world' ∧
    ∃ hash, (draftManifest decimalHost (plainDraft [])).item "graph_hash" = .ok (.str hash) ∧
      canonicalGraphHash decimalHost (draftGraph decimalHost (plainDraft [])) = .ok hash := by
  have hnodes : PrintableItems decimalHost.floatRepr decimalHost.parseFloat [] := trivial
  obtain ⟨result, log, himport, _, _⟩ := run_importSession_plain hnodes (by decide +kernel)
    (by decide +kernel) rfl
  have hload := run_loadImported_of_import himport (packageAt_plainImported hnodes)
  refine ⟨result, _, hload, _, rfl, ?_⟩
  exact (resumedGraph_verified hload (packageAt_plain hnodes) rfl rfl).1.mpr
    (Or.inl (keepsDocuments_of_apart apartFrom_plain _ _ _))

/-- A graph that nobody verified. -/
def otherGraph : Json Int := .dict [("graph_id", .str "other")]

/-- A package that keeps its graph in its own workspace, and an artifact for the same place. -/
def swapDraft : PackageDraft Int :=
  blobDraft decimalHost "restored-workspace/reports/graph.json" "reports/graph.json" []
    (jsonBytes decimalHost otherGraph)

def swapWorld : World :=
  ⟨draftDisk decimalHost swapDraft ["package", "restored-workspace", "reports", "graph.json"]
    [["package", "restored-workspace"], ["package", "restored-workspace", "reports"]]
    [(["package", "blob"], jsonBytes decimalHost otherGraph)], []⟩

theorem packageAt_swap (disk : Disk) {graph : Json Int}
    (hmanifest : readBytes disk ["package", "manifest.json"] =
      .ok (jsonBytes decimalHost (draftManifest decimalHost swapDraft)))
    (hgraph : readBytes disk ["package", "restored-workspace", "reports", "graph.json"] =
      .ok (jsonBytes decimalHost graph))
    (hprintable : Printable decimalHost.floatRepr decimalHost.parseFloat graph) :
    packageAt decimalHost draftPackage disk = .ok (draftManifest decimalHost swapDraft, graph) := by
  have hrelative : safePackageRelativePath (.str "restored-workspace/reports/graph.json" : Json Int) =
    .ok ⟨"", ["restored-workspace", "reports", "graph.json"]⟩ := rfl
  exact packageAt_of_files decimalHost hmanifest (printable_blobManifest decimalHost _ _ _ _) rfl hrelative
    hgraph hprintable

theorem otherGraph_hash :
    sha256Json decimalHost otherGraph ≠ sha256Json decimalHost (.dict (draftBody swapDraft)) := by
  have hother : sortKeys otherGraph = otherGraph := sortKeys_of_sorted rfl (by decide)
  have hbody : sortKeys (.dict (draftBody swapDraft)) = .dict (draftBody swapDraft) :=
    sortKeys_of_sorted rfl (by decide)
  rw [sha256Json, sha256Json, jsonDumpsSorted, jsonDumpsSorted, hother, hbody]
  decide +kernel

theorem swappedGraph_loaded : ∃ result loaded world' hash,
    (loadImported decimalHost draftPackage none).run swapWorld = .ok (result, loaded) world' ∧
    packageAt decimalHost draftPackage swapWorld.disk =
      .ok (draftManifest decimalHost swapDraft, draftGraph decimalHost swapDraft) ∧
    (draftManifest decimalHost swapDraft).item "graph_hash" = .ok (.str hash) ∧
    canonicalGraphHash decimalHost loaded ≠ .ok hash := by
  obtain ⟨reports, hreports⟩ := checkDocuments_draft decimalHost swapDraft runtimeId (by decide)
    (by decide +kernel) (by decide +kernel)
  have hpackage := packageAt_swap swapWorld.disk rfl rfl (printable_draftGraph decimalHost swapDraft trivial)
  obtain ⟨log, hrun⟩ := run_importSession_blobDraft decimalHost none ⟨"", ["reports", "graph.json"]⟩
    ["package", "restored-workspace", "reports", "graph.json"] hpackage hreports rfl rfl rfl rfl rfl
    (by intro h; cases h)
    (by decide)
  have hhash : artifactHash (draftArtifact swapDraft) =
    .ok (.str "reports/graph.json", .str swapDraft.artifactSha256) := rfl
  obtain ⟨result, hfinish, _⟩ := finishImport_draft decimalHost swapDraft rfl hhash reports
    [.packaged (.str "reports/graph.json") (.str "blob") swapDraft.artifactSha256]
    (workspaceOr draftPackage none)
    [blobEntry decimalHost "reports/graph.json" ⟨"", ["reports", "graph.json"]⟩
      (jsonBytes decimalHost otherGraph)]
  have himport := hrun.trans (run_liftExcept_ok_iff.mpr ⟨hfinish, rfl⟩)
  have hloaded := packageAt_swap (Function.update swapWorld.disk
    ["package", "restored-workspace", "reports", "graph.json"]
    (some (.file (jsonBytes decimalHost otherGraph)))) rfl rfl (by simp [otherGraph, Printable, PrintableFields])
  exact ⟨result, otherGraph, _, _, run_loadImported_of_import himport hloaded, hpackage, rfl,
    fun h => otherGraph_hash (Except.ok.inj h)⟩

end Loaded

end PermeantOS
