import PermeantOS.AgentKept

namespace PermeantOS

variable {P : Type} (host : AgentHost P) (truncate : P → Except PyException Int)

section Checks

def verifyResumeReportProof (report : Json P) : Except PyException Unit :=
  match report with
  | .dict fields => do
    let expected := sha256Json host (.dict (fields.filter fun field => field.1 ≠ "proof_hash"))
    let proofHash ← report.get "proof_hash"
    refuseIf (!pyEq host proofHash (.str expected)) "target resume report proof hash mismatch"
  | _ => .error .attributeError

/-- The report against the manifest it started from and the graph it ended with. -/
def checkTargetReport (manifest targetGraph targetReport : Json P) : Except PyException Unit := do
  verifyResumeReportProof host targetReport
  let status ← targetReport.get "status"
  let continued ← targetReport.get "activity_continued"
  refuseIf (!pyEq host status (.str "continued") || !continued.isTrue)
    "target resume report did not record continued activity"
  let preResumeGraphHash ← targetReport.get "pre_resume_graph_hash"
  let originHash ← manifest.item "graph_hash"
  refuseIf (!pyEq host preResumeGraphHash originHash)
    "target resume report does not descend from the original graph"
  let targetHash ← targetGraph.get "graph_hash"
  let actualHash ← canonicalGraphHash host targetGraph
  refuseIf (!pyEq host targetHash (.str actualHash)) "target resumed graph hash is invalid"
  let postResumeGraphHash ← targetReport.get "post_resume_graph_hash"
  let graphHash ← targetGraph.item "graph_hash"
  refuseIf (!pyEq host postResumeGraphHash graphHash)
    "target resume report does not match target resumed graph"

/-- The first artifact of the report, and its hash. -/
def targetArtifact (targetReport : Json P) : Except PyException (Json P × String) := do
  match ← targetReport.get "written_artifacts" with
  | .list (artifact :: _) => do
    match ← artifact.get "sha256" with
    | .str hash =>
      if "sha256:".toList <+: hash.toList then pure (artifact, hash)
      else .error (.importVerificationError "target written artifact hash is invalid")
    | _ => .error (.importVerificationError "target written artifact hash is invalid")
  | _ => .error (.importVerificationError
      "target resume report does not include written artifact evidence")

def checkTargetNode (targetGraph : Json P) (targetArtifactHash : String) : Except PyException Unit := do
  let node ← nodeById host targetGraph announcementId
  let sha256 ← node.get "sha256"
  refuseIf (!pyEq host sha256 (.str (bareDigest targetArtifactHash)))
    "target graph artifact node does not match target report"

/-- `int(value)`, where `truncate` is what it does to a float. -/
def Json.toInt : Json P → Except PyException Int
  | .int n => .ok n
  | .bool value => .ok (if value = true then 1 else 0)
  | .float x => truncate x
  | .str text => (pyInt text).elim (.error (.valueError "invalid literal for int() with base 10")) .ok
  | _ => .error .typeError

/-- The file of the artifact, if the caller has it. -/
def checkTargetFile (artifact : Json P) (targetArtifactHash : String) :
    Option (List String) → AgentIO Unit
  | none => pure ()
  | some path => do
    let (actualHash, actualSize) ← fileSha256AndSize host path
    liftExcept (refuseIf (decide (actualHash ≠ targetArtifactHash))
      "target artifact bytes do not match target report hash")
    let size ← liftExcept (artifact.getOr "size_bytes" (.int (-1)))
    let size ← liftExcept (size.toInt truncate)
    liftExcept (refuseIf (decide (size ≠ actualSize)) "target artifact size does not match target report")

/-- What the origin knows of the work that was done elsewhere. -/
structure ReturnEvidence (P : Type) where
  manifest : Json P
  targetGraph : Json P
  targetReport : Json P
  targetArtifactHash : String

/-- Every check of a return, in the order of the source. -/
def checkReturn (package : Directory) (graphPath reportPath : List String)
    (artifactPath : Option (List String)) : AgentIO (ReturnEvidence P) := do
  let manifest ← readJson host (manifestPath package)
  let targetGraph ← readJson host graphPath
  let targetReport ← readJson host reportPath
  liftExcept (checkTargetReport host manifest targetGraph targetReport)
  let (artifact, targetArtifactHash) ← liftExcept (targetArtifact targetReport)
  liftExcept (checkTargetNode host targetGraph targetArtifactHash)
  checkTargetFile host truncate artifact targetArtifactHash artifactPath
  pure ⟨manifest, targetGraph, targetReport, targetArtifactHash⟩

end Checks

section Continuation

def continuationPath : String := "reports/roundtrip/origin-continuation.md"

def continuationTarget (workspace : Directory) : List String :=
  workspace.names ++ ["reports", "roundtrip", "origin-continuation.md"]

def returnHomeContinuationContent (targetProofHash targetGraphHash : Json P) (targetArtifactHash : String) :
    String :=
  String.intercalate "\n"
    ["# PermeantOS Round-Trip Continuation Proof", "",
      "The origin imported the AWS-updated Agent Memory Graph, verified the",
      "remote post-migration work evidence, and continued from the returned state.", "",
      s!"- target post-resume graph hash: \x60{pyStr host targetGraphHash}\x60",
      s!"- target proof hash: \x60{pyStr host targetProofHash}\x60",
      s!"- target artifact hash: \x60{targetArtifactHash}\x60",
      "- origin continuation: \x60completed\x60", ""]

def continuationPayload (continuationHash : String) (continuationSize : Nat) : Fields P :=
  [("actor_id", .str toolId), ("memory_scope", .str "thread"), ("memory_tier", .str "archival"),
    ("sensitivity", .str "internal"), ("retention", .str "durable"), ("redaction_state", .str "none"),
    ("artifact_kind", .str "file"), ("path", .str continuationPath),
    ("uri", .str ("artifact://origin/" ++ continuationPath)), ("sha256", .str (bareDigest continuationHash)),
    ("size_bytes", .int continuationSize), ("media_type", .str "text/markdown"),
    ("root_ref", .str "origin-roundtrip-workspace"), ("restore_policy", .str "required")]

def returnedEpisode : Json P :=
  .dict [("schema_version", .str "complex-agent-v0"),
    ("episode_id", .str "episode:complex-agent:roundtrip-origin-return"),
    ("continuity_state", .str "returned_home"),
    ("actor_ids", .list [.str agentId, .str toolId, .str "origin:local-runtime"]),
    ("started_at", .str postMigrationCreatedAt),
    ("boundary_labels", .list [.str "origin_return", .str "remote_artifact_verification",
      .str "artifact_write"]),
    ("causal_record_ids", .list [.str "memory:agent-activity-continued:post-import", .str announcementId,
      .str "artifact:origin-roundtrip-continuation"]),
    ("related_record_ids", .list [.str "artifact:origin-roundtrip-continuation"]),
    ("salience", .dict [("reuse", .float (host.parseFloat "1.0".toList)),
      ("novelty", .float (host.parseFloat "1.0".toList)),
      ("unresolved", .float (host.parseFloat "0.0".toList))])]

def returnedPayload (targetProofHash : Json P) (targetArtifactHash : String) : Fields P :=
  [("actor_id", .str agentId), ("memory_scope", .str "thread"), ("memory_tier", .str "recall"),
    ("sensitivity", .str "internal"), ("retention", .str "durable"), ("redaction_state", .str "none"),
    ("quality_state", .str "verified"), ("historical_state", .str "current"), ("trust_level", .str "verified"),
    ("valid_at", .str postMigrationCreatedAt), ("confidence", .float (host.parseFloat "1.0".toList)),
    ("memory_kind", .str "episodic"),
    ("text_hash", .str (sha256Bytes host (asBytes "agent returned home after AWS continuation"))),
    ("subject", .str "agent:complex-continuity"), ("predicate", .str "roundtrip_continuation"),
    ("object", .str "aws_work_verified_and_origin_work_completed"),
    ("namespace", .list [.str "complex-agent", .str "roundtrip"]),
    ("key", .str "agent-roundtrip-returned-home"), ("embedding_model", .str embeddingModel),
    ("embedding_dim", .int embeddingDim),
    ("embedding_hash", .str (embeddingHash host (deterministicEmbedding host
      s!"agent returned home after AWS continuation {pyStr host targetProofHash} {targetArtifactHash}"))),
    ("distance_metric", .str "cosine"), ("vector_store_ref", .str vectorStoreRef),
    ("episode", returnedEpisode host),
    ("conflict", .dict [("review_state", .str "none"), ("conflicting_node_ids", .list []),
      ("drift_score", .float (host.parseFloat "0.0".toList))]),
    ("lineage_links", .list [.dict [("node_id", .str announcementId), ("relation", .str "derived_from")],
      .dict [("node_id", .str "artifact:origin-roundtrip-continuation"), ("relation", .str "produced")]])]

def returnEventPayload : Fields P :=
  [("actor_id", .str agentId), ("event_kind", .str "agent_returned_to_origin_after_remote_work"),
    ("memory_scope", .str "thread"), ("memory_tier", .str "working"), ("sensitivity", .str "internal"),
    ("retention", .str "durable"), ("redaction_state", .str "none")]

/-- What the graph records of the return, and the hash over all of it. -/
def recordReturn (graph targetGraphHash targetProofHash : Json P) (targetArtifactHash : String)
    (continuationHash : String) (continuationSize : Nat) : Except PyException (Json P × String) := do
  let graph ← appendPostMigrationNode host graph "artifact:origin-roundtrip-continuation" "artifact"
    (continuationPayload continuationHash continuationSize)
  let graph ← appendPostMigrationNode host graph "memory:agent-roundtrip-returned-home" "memory"
    (returnedPayload host targetProofHash targetArtifactHash)
  let graph ← appendPostMigrationNode host graph "event:roundtrip-origin-return" "event" returnEventPayload
  let graph ← appendEdges graph
    [("memory:agent-activity-continued:post-import", "memory:agent-roundtrip-returned-home", "caused"),
      (announcementId, "artifact:origin-roundtrip-continuation", "referenced"),
      ("artifact:origin-roundtrip-continuation", "memory:agent-roundtrip-returned-home", "produced"),
      ("memory:agent-roundtrip-returned-home", "event:roundtrip-origin-return", "produced")]
  let graph ← appendLineage graph "roundtrip_origin_return"
  let graph ← graph.setItem "roundtrip_source_graph_id" targetGraphHash
  let graphHash ← canonicalGraphHash host graph
  let graph ← graph.setItem "graph_hash" (.str graphHash)
  pure (graph, graphHash)

/-- The report of a return without its proof. -/
def returnReportBody (result : ImportResult P) (originHash targetGraphHash targetProofHash : Json P)
    (graphHash targetArtifactHash continuationHash : String) (continuationSize : Nat) : Fields P :=
  [("status", .str "round_trip_continued"), ("round_trip_continued", .bool true),
    ("origin_pre_graph_hash", originHash), ("target_post_graph_hash", targetGraphHash),
    ("origin_post_graph_hash", .str graphHash), ("target_proof_hash", targetProofHash),
    ("target_artifact_hash", .str targetArtifactHash),
    ("prompt_token_hash", .str result.evidence.promptTokenHash), ("kv_hash", .str result.evidence.kvHash),
    ("origin_written_artifacts",
      .list [writtenArtifact continuationPath continuationHash continuationSize]),
    ("returned_graph_path", .str "reports/roundtrip/returned-home-graph.json")]

/-- What the origin does once the work done elsewhere is checked. -/
def continueHome (workspace : Directory) (result : ImportResult P) (evidence : ReturnEvidence P) :
    AgentIO (Json P) := do
  let targetGraphHash ← liftExcept (evidence.targetGraph.item "graph_hash")
  let targetProofHash ← liftExcept (evidence.targetReport.item "proof_hash")
  let target := continuationTarget workspace
  makeDirectory target.dropLast
  openWrite target (asBytes (returnHomeContinuationContent host targetProofHash targetGraphHash
    evidence.targetArtifactHash))
  let (continuationHash, continuationSize) ← fileSha256AndSize host target
  let (graph, graphHash) ← liftExcept (recordReturn host evidence.targetGraph targetGraphHash targetProofHash
    evidence.targetArtifactHash continuationHash continuationSize)
  writeJson host (workspace.names ++ ["reports", "roundtrip", "returned-home-graph.json"]) graph
  let originHash ← liftExcept (evidence.manifest.item "graph_hash")
  let body := returnReportBody result originHash targetGraphHash targetProofHash graphHash
    evidence.targetArtifactHash continuationHash continuationSize
  let report := body ++ [("proof_hash", .str (sha256Json host (.dict body)))]
  writeJson host (workspace.names ++ ["reports", "roundtrip", "roundtrip-report.json"]) (.dict report)
  pure (.dict (report ++ [("roundtrip_report_path", .str "reports/roundtrip/roundtrip-report.json")]))

/-- The workspace of the origin, and the import of the package that was sent out. -/
def importHome (package workspace : Directory) : AgentIO (ImportResult P) := do
  makeDirectory workspace.names
  importSession host package (some (workspace.child "origin-import" (by decide))) runtimeId

def returnWorkspace (package : Directory) (workspace : Option Directory) : Directory :=
  workspace.getD (package.child "roundtrip-origin-workspace" (by decide))

def returnHomeAfterTargetResume (package : Directory) (graphPath reportPath : List String)
    (workspace : Option Directory) (artifactPath : Option (List String)) : AgentIO (Json P) := do
  let result ← importHome host package (returnWorkspace package workspace)
  let evidence ← checkReturn host truncate package graphPath reportPath artifactPath
  continueHome host (returnWorkspace package workspace) result evidence

end Continuation

section Report

/-- A resume that published, as its report and its files show it. -/
structure PublishedResume (P : Type) where
  result : ImportResult P
  recorded : Json P
  closed : Json P
  originHash : String
  graphHash : String
  announcement : List UInt8

variable {host} (resume : PublishedResume P)

def PublishedResume.artifact (host : AgentHost P) : Json P :=
  writtenArtifact announcementPath (sha256Bytes host resume.announcement) resume.announcement.length

def PublishedResume.report (host : AgentHost P) : Fields P :=
  resumeReport host resume.result true (.str resume.originHash) resume.graphHash
    ⟨resume.recorded, [executedRead host, executedPublish (sha256Bytes host resume.announcement)], [],
      [resume.artifact host]⟩

def PublishedResume.node (host : AgentHost P) : Json P :=
  postMigrationNode host announcementId "artifact"
    (announcementPayload (sha256Bytes host resume.announcement) resume.announcement.length)

theorem keepable_report : Keepable host (.dict (resume.report host)) := by
  rw [keepable_dict_iff]
  refine ⟨by simp [PublishedResume.report, resumeReport, resumeReportBody], ?_⟩
  rw [← printableFields_iff]
  simp [PublishedResume.report, PublishedResume.artifact, resumeReport, resumeReportBody, executedRead,
    executedPublish, writtenArtifact, PrintableFields, PrintableItems, Printable]

theorem get_report {key : String} {value : Json P} (h : ((resume.report host).lookup key).getD .null = value) :
    (sortKeys (.dict (resume.report host))).get key = .ok (sortKeys value) :=
  get_sortKeys (keepable_dict_iff.mp (keepable_report resume)).1 h

/-- The proof does not cover itself, so it is what it was when the report was written. -/
theorem verifyResumeReportProof_report :
    verifyResumeReportProof host (sortKeys (.dict (resume.report host))) = .ok () := by
  have hproof : (sortKeys (.dict (resume.report host))).get "proof_hash" = .ok (sortKeys (.str (sha256Json host
    (.dict ((resume.report host).filter fun field => field.1 ≠ "proof_hash"))))) := get_report resume rfl
  rw [sortKeys_dict] at hproof ⊢
  rw [verifyResumeReportProof, except_bind_of_ok hproof, sha256Json_without (keepable_report resume),
    refuseIf_ok_iff, Bool.not_eq_false']
  exact pyEq_str_self host _

theorem checkTargetReport_report {manifest : Json P}
    (hmanifest : manifest.item "graph_hash" = .ok (.str resume.originHash))
    (hkeep : Keepable host resume.closed)
    (hcanonical : canonicalGraphHash host resume.closed = .ok resume.graphHash)
    (hitem : resume.closed.item "graph_hash" = .ok (.str resume.graphHash)) :
    checkTargetReport host manifest (sortKeys resume.closed) (sortKeys (.dict (resume.report host))) = .ok () := by
  have hself (text : String) (message : String) :
      refuseIf (!pyEq host (.str text) (.str text)) message = .ok () := by
    rw [refuseIf_ok_iff, Bool.not_eq_false']
    exact pyEq_str_self host text
  have hstatus : (sortKeys (.dict (resume.report host))).get "status" = .ok (.str "continued") :=
    get_report resume rfl
  have hcontinued : (sortKeys (.dict (resume.report host))).get "activity_continued" = .ok (.bool true) :=
    get_report resume rfl
  have hpre : (sortKeys (.dict (resume.report host))).get "pre_resume_graph_hash" =
    .ok (.str resume.originHash) := get_report resume rfl
  have hpost : (sortKeys (.dict (resume.report host))).get "post_resume_graph_hash" =
    .ok (.str resume.graphHash) := get_report resume rfl
  have hsorted : (sortKeys resume.closed).item "graph_hash" = .ok (.str resume.graphHash) := by
    obtain ⟨fields, hfields, hlookup⟩ := Json.item_ok_iff.mp hitem
    rw [hfields] at hkeep ⊢
    exact item_sortKeys (keepable_dict_iff.mp hkeep).1 hlookup
  have hactive (message : String) : refuseIf (!pyEq host (.str "continued") (.str "continued") ||
    !(Json.bool true : Json P).isTrue) message = .ok () := rfl
  rw [checkTargetReport, except_bind_of_ok (verifyResumeReportProof_report resume), except_bind_of_ok hstatus,
    except_bind_of_ok hcontinued, except_bind_of_ok (hactive _), except_bind_of_ok hpre,
    except_bind_of_ok hmanifest, except_bind_of_ok (hself _ _), except_bind_of_ok (Json.get_of_item hsorted),
    except_bind_of_ok (canonicalGraphHash_sorted hkeep hcanonical), except_bind_of_ok (hself _ _),
    except_bind_of_ok hpost, except_bind_of_ok hsorted]
  exact hself _ _

theorem targetArtifact_report : targetArtifact (sortKeys (.dict (resume.report host))) =
    .ok (sortKeys (resume.artifact host), sha256Bytes host resume.announcement) := by
  have hlist : (sortKeys (.dict (resume.report host))).get "written_artifacts" =
    .ok (sortKeys (.list [resume.artifact host])) := get_report resume rfl
  have hwritten : (sortKeys (.dict (resume.report host))).get "written_artifacts" =
      .ok (.list [sortKeys (resume.artifact host)]) := by
    rw [hlist, sortKeys_list]
    rfl
  have hsha256 : (sortKeys (resume.artifact host)).get "sha256" = .ok (.str (sha256Bytes host resume.announcement)) :=
    get_sortKeys (by simp) rfl
  have hstarts : "sha256:".toList <+: (sha256Bytes host resume.announcement).toList := by
    rw [sha256Bytes, String.toList_append]
    exact List.prefix_append _ _
  rw [targetArtifact, except_bind_of_ok hwritten]
  dsimp only
  rw [except_bind_of_ok hsha256]
  dsimp only
  rw [if_pos hstarts]
  rfl

theorem checkTargetNode_report {nodes : List (Json P)} (hkeep : Keepable host resume.closed)
    (hnodes : resume.closed.item "nodes" = .ok (.list nodes))
    (hnode : nodeById host resume.closed announcementId = .ok (resume.node host)) :
    checkTargetNode host (sortKeys resume.closed) (sha256Bytes host resume.announcement) = .ok () := by
  have hfound : nodeById host (sortKeys resume.closed) announcementId = .ok (sortKeys (resume.node host)) := by
    rw [nodeById_sorted hkeep hnodes, hnode]
    rfl
  have hsha256 : (sortKeys (resume.node host)).get "sha256" =
      .ok (.str (bareDigest (sha256Bytes host resume.announcement))) :=
    get_sortKeys (by simp [announcementPayload]) rfl
  rw [checkTargetNode, except_bind_of_ok hfound, except_bind_of_ok hsha256, refuseIf_ok_iff,
    Bool.not_eq_false']
  exact pyEq_str_self host _

theorem run_checkTargetFile_report (host : AgentHost P) (truncate : P → Except PyException Int)
    {path : List String} {disk : Disk} (log : List Access) (hdots : ".." ∉ path)
    (hread : readBytes disk path = .ok resume.announcement) :
    (checkTargetFile host truncate (sortKeys (resume.artifact host)) (sha256Bytes host resume.announcement)
      (some path)).run ⟨disk, log⟩ = .ok () ⟨disk, log ++ [.read path]⟩ := by
  have hsize : (sortKeys (resume.artifact host)).item "size_bytes" =
    .ok (sortKeys (.int resume.announcement.length)) := item_sortKeys (by simp) rfl
  have hint : (sortKeys (.int resume.announcement.length) : Json P).toInt truncate =
    .ok (resume.announcement.length : Int) := rfl
  rw [checkTargetFile, run_bind_of_ok (run_fileSha256AndSize_of_readBytes host log hdots hread)]
  dsimp only
  rw [run_liftExcept_bind_of_ok (refuseIf_ok_iff.mpr (by simp)),
    run_liftExcept_bind_of_ok (Json.getOr_of_item hsize _), run_liftExcept_bind_of_ok hint]
  exact run_liftExcept_ok_iff.mpr ⟨refuseIf_ok_iff.mpr (by simp), rfl⟩

end Report

end PermeantOS
