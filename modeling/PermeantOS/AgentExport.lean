import PermeantOS.AgentLinks
import PermeantOS.AgentResume
import PermeantOS.JsonSorted

namespace PermeantOS

variable {P : Type}

section Constants

def graphVersion : String := "0.1"

def createdAt : String := "2026-06-19T00:00:00Z"

def userId : String := "user:local-reference"

def modelId : String := "deterministic-local-agent-v0"

def artifactStoreVersion : String := "content-addressed-v0"

def restorePolicyVersion : String := "workspace-relative-v0"

def exportedGraphId : String := "graph:local-reference:0001"

def queryText : String := "report artifact complete"

def reportText : String := "artifact:report status complete"

end Constants

section Records

structure ChatMessage where
  role : String
  content : String

structure LocalSession where
  messages : List ChatMessage
  artifactPath : String
  artifactBytes : List UInt8
  deterministicResponse : String

inductive Disposition
  | excluded
  | redacted
  | packaged
  deriving DecidableEq, Repr

def Disposition.text : Disposition → String
  | .excluded => "excluded"
  | .redacted => "redacted"
  | .packaged => "packaged"

structure ArtifactExportPolicy where
  excludePaths : Finset String
  redactPaths : Finset String

def ArtifactExportPolicy.dispositionFor (policy : ArtifactExportPolicy) (path : String) : Disposition :=
  if path ∈ policy.excludePaths then .excluded
  else if path ∈ policy.redactPaths then .redacted
  else .packaged

structure ArtifactRecord where
  path : String
  contentHash : String
  sizeBytes : Nat
  mediaType : String
  disposition : Disposition
  blobPath : Option String
  restorePolicy : String
  targetPath : String
  rebindRequired : Bool

/-- `text.removeprefix(start)` -/
def removePrefix (text start : String) : String :=
  if start.toList.isPrefixOf text.toList then String.ofList (text.toList.drop start.toList.length) else text

/-- `Path(path).name` -/
def pathName (path : String) : String := (PurePath.parse path).parts.getLast?.getD ""

def contentAddressedBlobPath (contentHash logicalPath : String) : String :=
  let digest := removePrefix contentHash "sha256:"
  let start := String.ofList (digest.toList.take 2)
  s!"artifacts/sha256/{start}/{digest}/{pathName logicalPath}"

variable (host : AgentHost P)

def buildArtifactRecordFromBytes (path : String) (artifactBytes : List UInt8) (policy : ArtifactExportPolicy) :
    ArtifactRecord :=
  let artifactHash := sha256Bytes host artifactBytes
  let disposition := policy.dispositionFor path
  if disposition = .packaged then
    ⟨path, artifactHash, artifactBytes.length, "application/json", disposition,
      some (contentAddressedBlobPath artifactHash path), "required", path, false⟩
  else
    ⟨path, artifactHash, artifactBytes.length, "application/json", disposition, none, "external_rebind",
      path, true⟩

def buildArtifactRecord (session : LocalSession) (policy : ArtifactExportPolicy) : ArtifactRecord :=
  buildArtifactRecordFromBytes host session.artifactPath session.artifactBytes policy

end Records

section Nodes

variable (host : AgentHost P)

def provenance : Json P :=
  .dict [("runtime", .str runtimeId), ("captured_at", .str createdAt), ("adapter", .str "local_agent.py")]

/-- A node before its common fields are added. -/
structure GraphNode (P : Type) where
  nodeId : String
  nodeType : String
  payload : Fields P

def GraphNode.fields (node : GraphNode P) : Fields P :=
  [("id", .str node.nodeId), ("type", .str node.nodeType), ("created_at", .str createdAt),
    ("content_hash", .str (sha256Json host (.dict node.payload))), ("provenance", provenance)] ++ node.payload

def baseNode (node : GraphNode P) : Json P := .dict (node.fields host)

/-- What the payload of every node says first. -/
def payloadHead (actorId scope tier sensitivity retention redaction : String) : Fields P :=
  [("actor_id", .str actorId), ("memory_scope", .str scope), ("memory_tier", .str tier),
    ("sensitivity", .str sensitivity), ("retention", .str retention), ("redaction_state", .str redaction)]

def startNode : GraphNode P where
  nodeId := "event:start:local"
  nodeType := "event"
  payload := payloadHead userId "thread" "active_context" "internal" "session" "none" ++
    [("event_kind", .str "user_input")]

def messageActor (role : String) : String :=
  if role = "tool" then toolId else if role = "user" then userId else agentId

def messageId (entry : ChatMessage × Nat) : String := s!"turn:{entry.1.role}:{entry.2}"

def messageNode (entry : ChatMessage × Nat) : GraphNode P where
  nodeId := messageId entry
  nodeType := "message"
  payload := payloadHead (messageActor entry.1.role) "thread" "active_context" "internal" "session" "none" ++
    [("role", .str entry.1.role), ("content", .str entry.1.content)]

def writeCallNode (session : LocalSession) (record : ArtifactRecord) : GraphNode P where
  nodeId := "tool:call:write-report"
  nodeType := "tool_call"
  payload := payloadHead agentId "thread" "working" "internal" "durable" "none" ++
    [("name", .str "fs.write_file"), ("provider", .str "local-reference"), ("call_id", .str "call:write-report"),
      ("arguments_hash", .str (sha256Json host (.dict [("path", .str session.artifactPath),
        ("content_sha256", .str record.contentHash)]))),
      ("input_schema_hash", .str (sha256Json host (.dict [("path", .str "string"), ("content", .str "string")]))),
      ("idempotency_key", .str "local-reference-write-report"), ("side_effect", .str "external_write"),
      ("status", .str "completed"), ("resume_policy", .str "never_retry"), ("approval_state", .str "approved"),
      ("external_resource_ids", .list [.str s!"file:{session.artifactPath}"])]

def writeResultNode (session : LocalSession) (record : ArtifactRecord) : GraphNode P where
  nodeId := "tool:result:write-report"
  nodeType := "tool_result"
  payload := payloadHead toolId "thread" "working" "internal" "durable" "none" ++
    [("result_hash", .str (sha256Json host (.dict [("path", .str session.artifactPath),
        ("sha256", .str record.contentHash)]))),
      ("output_schema_hash", .str (sha256Json host (.dict [("path", .str "string"), ("sha256", .str "string")]))),
      ("is_error", .bool false), ("resource_refs", .list [.str s!"artifact:{session.artifactPath}"]),
      ("status", .str "completed")]

def artifactRedaction : Disposition → String
  | .packaged => "none"
  | .redacted => "redacted"
  | .excluded => "external_only"

def artifactUri (record : ArtifactRecord) : String :=
  match record.disposition with
  | .packaged => s!"artifact://local/{record.path}"
  | disposition => s!"artifact://{disposition.text}/{record.path}"

/-- `artifact_node_payload`, whose update of an artifact that is not packaged replaces four entries and adds
two. -/
def artifactNodePayload (record : ArtifactRecord) : Fields P :=
  payloadHead toolId "thread" "archival" "internal" "durable" (artifactRedaction record.disposition) ++
    [("artifact_kind", .str (if record.disposition = .packaged then "file" else "external")),
      ("path", .str record.path), ("uri", .str (artifactUri record)),
      ("sha256", .str (removePrefix record.contentHash "sha256:")), ("size_bytes", .int record.sizeBytes),
      ("media_type", .str record.mediaType), ("root_ref", .str "artifact-root:local-export"),
      ("restore_policy", .str (if record.disposition = .packaged then "required" else "external_rebind"))] ++
    if record.disposition = .packaged then []
    else [("rebind_required", .bool true), ("packaging", .str record.disposition.text)]

def artifactNode (record : ArtifactRecord) : GraphNode P :=
  ⟨"artifact:report", "artifact", artifactNodePayload record⟩

def decimal (text : String) : Json P := .float (host.parseFloat text.toList)

def memoryNode : GraphNode P where
  nodeId := "memory:report-fact"
  nodeType := "memory"
  payload := payloadHead agentId "thread" "recall" "internal" "durable" "none" ++
    [("quality_state", .str "verified"), ("historical_state", .str "current"), ("trust_level", .str "derived"),
      ("valid_at", .str createdAt), ("confidence", decimal host "1.0"), ("memory_kind", .str "semantic"),
      ("text_hash", .str (sha256Bytes host (asBytes "report artifact is complete"))),
      ("subject", .str "artifact:report"), ("predicate", .str "status"), ("object", .str "complete"),
      ("namespace", .list [.str "local-reference", .str "facts"]), ("key", .str "report-status"),
      ("embedding_model", .str embeddingModel), ("embedding_dim", .int embeddingDim),
      ("embedding_hash", .str (embeddingHash host (deterministicEmbedding host reportText))),
      ("distance_metric", .str "cosine"), ("vector_store_ref", .str vectorStoreRef),
      ("episode", .dict [("schema_version", .str "local-reference-v0"), ("episode_id", .str "episode:local-export"),
        ("continuity_state", .str "open"), ("actor_ids", .list [.str agentId, .str userId]),
        ("started_at", .str createdAt), ("boundary_labels", .list [.str "task", .str "session"]),
        ("causal_record_ids", .list [.str "tool:call:write-report"]),
        ("related_record_ids", .list [.str "artifact:report"]),
        ("salience", .dict [("reuse", decimal host "0.5"), ("novelty", decimal host "0.5"),
          ("unresolved", decimal host "0.1")])]),
      ("conflict", .dict [("review_state", .str "none"), ("conflicting_node_ids", .list []),
        ("drift_score", decimal host "0.0")]),
      ("lineage_links", .list [.dict [("node_id", .str "tool:result:write-report"),
        ("relation", .str "derived_from")]])]

def checkpointNode (prompt : String) : GraphNode P where
  nodeId := "checkpoint:prompt"
  nodeType := "checkpoint"
  payload := payloadHead agentId "thread" "external" "internal" "durable" "none" ++
    [("checkpoint_kind", .str "session"), ("state_hash", .str (sha256Bytes host (asBytes prompt))),
      ("resume_ref", .str "local-reference-session")]

/-- The score of the one memory of the export. -/
def reportScore (query : String) : P :=
  host.round8 (cosineSimilarity host (deterministicEmbedding host query) (deterministicEmbedding host reportText))

def vectorRetrievalPayload (query : String) : Fields P :=
  payloadHead agentId "thread" "recall" "internal" "session" "none" ++
    [("query_hash", .str (sha256Bytes host (asBytes query))), ("retrieval_kind", .str "vector"),
      ("planner_profile", .str "continuity_aware"), ("policy_profile", .str "autonomous_agent"),
      ("scorer_kind", .str "semantic"), ("selected_channels", .list [.str "semantic"]),
      ("candidate_sources", .list [.str "semantic_neighbor"]),
      ("planner_stages", .list [.str "embed_query", .str "score_snapshot", .str "rank_results"]),
      ("graph_expansion_max_hops", .int 0), ("historical_mode", .str "current_only"),
      ("results", .list [.dict [("node_id", .str "memory:report-fact"), ("rank", .int 1),
        ("score", .float (reportScore host query)), ("score_kind", .str "cosine"),
        ("score_breakdown", .list [.dict [("name", .str "semantic"),
          ("value", .float (reportScore host query)), ("weight", decimal host "1.0")]]),
        ("candidate_source", .str "semantic_neighbor"),
        ("snippet_hash", .str (sha256Bytes host (asBytes reportText)))]]),
      ("selection_policy", .str "top_vector_score")]

def retrievalNode : GraphNode P :=
  ⟨"retrieval:report-memory", "retrieval", vectorRetrievalPayload host queryText⟩

def tokenizerHash : String := sha256Bytes host (asBytes "permeant-local-byte-tokenizer-v0")

/-- The entries of a span over the whole prompt. -/
def promptSpan (prompt : String) : Fields P :=
  [("token_start", .int 0), ("token_end", .int (tokenizePrompt prompt).length),
    ("cache_ref", .str "kv:simulated:prompt"), ("tokenizer_hash", .str (tokenizerHash host)),
    ("block_hashes", .list [.str (tokenHash host (tokenizePrompt prompt))])]

def kvSpanNode (prompt : String) : GraphNode P where
  nodeId := "kv:span:prompt"
  nodeType := "kv_span"
  payload := payloadHead agentId "thread" "active_context" "internal" "session" "none" ++ promptSpan host prompt

def credentialNode : GraphNode P where
  nodeId := "credential:local-filesystem"
  nodeType := "credential_ref"
  payload := payloadHead toolId "external" "external" "secret" "delete_on_import" "external_only" ++
    [("capability", .str "local.filesystem.write"),
      ("binding", .str "target runtime must authorize reports/ artifact writes"), ("required", .bool true)]

def exportNodes (session : LocalSession) (record : ArtifactRecord) (prompt : String) : List (GraphNode P) :=
  startNode :: ((session.messages.zipIdx 1).map messageNode ++
    [writeCallNode host session record, writeResultNode host session record, artifactNode record,
      memoryNode host, checkpointNode host prompt, retrievalNode host, kvSpanNode host prompt, credentialNode])

end Nodes

section Documents

variable (host : AgentHost P)

def edge (source target kind : String) : Json P :=
  .dict [("from", .str source), ("to", .str target), ("type", .str kind)]

/-- Every message is caused by the one before it. -/
def messageEdges (previous : String) : List String → List (Json P)
  | [] => []
  | nodeId :: nodeIds => edge previous nodeId "caused" :: messageEdges nodeId nodeIds

def exportEdges (session : LocalSession) : List (Json P) :=
  messageEdges "event:start:local" ((session.messages.zipIdx 1).map messageId) ++
    [edge "turn:assistant:3" "tool:call:write-report" "caused",
      edge "tool:call:write-report" "tool:result:write-report" "produced",
      edge "tool:call:write-report" "artifact:report" "produced",
      edge "tool:result:write-report" "memory:report-fact" "produced",
      edge "retrieval:report-memory" "memory:report-fact" "retrieved",
      edge "checkpoint:prompt" "turn:user:2" "checkpointed",
      edge "kv:span:prompt" "checkpoint:prompt" "references",
      edge "credential:local-filesystem" "tool:call:write-report" "approves"]

def exportPolicies : Fields P :=
  [("default_replay_policy", .str "ask_user"), ("redaction_policy", .str "required"),
    ("retention_policy", .str "durable"), ("required_approval_for_side_effects", .bool true)]

/-- The graph, as far as its hash covers it. -/
def graphBody (session : LocalSession) (record : ArtifactRecord) (prompt : String) : Fields P :=
  [("graph_id", .str exportedGraphId), ("graph_version", .str graphVersion), ("created_at", .str createdAt),
    ("agent", .dict [("id", .str agentId), ("runtime", .str runtimeId), ("model", .str modelId),
      ("runtime_version", .str "0.1.0")]),
    ("participants", .list [
      .dict [("id", .str agentId), ("kind", .str "agent"), ("name", .str "Local reference agent"),
        ("model", .str modelId)],
      .dict [("id", .str userId), ("kind", .str "user"), ("name", .str "Local reference user")],
      .dict [("id", .str toolId), ("kind", .str "tool"), ("provider", .str "local-reference")],
      .dict [("id", .str "runtime:local-reference"), ("kind", .str "runtime"),
        ("provider", .str "local-reference")]]),
    ("lineage", .list [.dict [("graph_id", .str exportedGraphId), ("event", .str "exported"),
      ("created_at", .str createdAt)]]),
    ("policies", .dict exportPolicies),
    ("nodes", .list ((exportNodes host session record prompt).map (baseNode host))),
    ("edges", .list (exportEdges session)),
    ("kv_spans", .list [.dict (("node_id", .str "checkpoint:prompt") :: promptSpan host prompt)])]

def buildGraph (session : LocalSession) (record : ArtifactRecord) (prompt : String) :
    Except PyException (Json P) := do
  let graphHash ← canonicalGraphHash host (.dict (graphBody host session record prompt ++ [("graph_hash", .str "")]))
  pure (.dict (graphBody host session record prompt ++ [("graph_hash", .str graphHash)]))

def VectorRecord.fields (record : VectorRecord P) : Fields P :=
  [("node_id", record.nodeId), ("embedding", .list (record.embedding.map .float)),
    ("embedding_hash", .str record.embeddingHash), ("text_hash", record.textHash)]

def VectorRecord.json (record : VectorRecord P) : Json P := .dict record.fields

def VectorSnapshot.fields (snapshot : VectorSnapshot P) (query : String) : Fields P :=
  [("mode", .str "snapshot"), ("vector_store_ref", .str vectorStoreRef),
    ("embedding_model", .str embeddingModel), ("embedding_dim", .int embeddingDim),
    ("distance_metric", .str "cosine"), ("query_text", .str query),
    ("query_hash", .str (sha256Bytes host (asBytes query))),
    ("query_embedding_hash", .str (embeddingHash host (deterministicEmbedding host query))),
    ("records", .list (snapshot.records.map VectorRecord.json)), ("expected_results", snapshot.expectedResults)]

def VectorSnapshot.json (snapshot : VectorSnapshot P) (query : String) : Json P := .dict (snapshot.fields host query)

def AuditEntry.json (entry : AuditEntry P) : Json P :=
  .dict [("node_id", entry.nodeId), ("name", entry.name), ("side_effect", entry.sideEffect),
    ("status", entry.status), ("resume_policy", entry.resumePolicy), ("approval_state", entry.approvalState),
    ("action", .str entry.action), ("safe_to_import", .bool entry.safeToImport), ("reason", .str entry.reason)]

def policyHooks : Fields P :=
  [("allowed_target_runtimes", .list [.str runtimeId]),
    ("allowed_tools", .list [.str "aws.ec2.describe_instances", .str "aws.ec2.run_instances",
      .str "fs.write_file"]),
    ("allowed_artifact_path_prefixes", .list (allowedArtifactPathPrefixes.map .str)),
    ("credential_policy", .str "rebind_only"), ("secret_material_policy", .str "reject_raw_secret_keys")]

def exportEvent (graphHash graphId : Json P) : Fields P :=
  [("graph_id", graphId), ("event", .str "exported"), ("created_at", .str createdAt), ("graph_hash", graphHash),
    ("signer_id", .str trustedSignerId)]

def securityFields (graphHash graphId : Json P) : Fields P :=
  [("policy_version", .str securityPolicyVersion), ("signature_algorithm", .str rootSignatureAlgorithm),
    ("signer_id", .str trustedSignerId),
    ("graph_root_signature", .str (graphRootSignature host graphHash (.str trustedSignerId))),
    ("trusted_signer_ids", .list [.str trustedSignerId]),
    ("provenance_chain", .list [.dict (exportEvent graphHash graphId)]), ("policy_hooks", .dict policyHooks)]

def buildSecurityAttestation (graph : Json P) : Except PyException (Json P) := do
  let graphHash ← graph.item "graph_hash"
  let graphId ← graph.item "graph_id"
  pure (.dict (securityFields host graphHash graphId))

def manifestArtifactFields (record : ArtifactRecord) : Fields P :=
  [("path", .str record.path), ("sha256", .str record.contentHash), ("size_bytes", .int record.sizeBytes),
    ("media_type", .str record.mediaType), ("restore_policy", .str record.restorePolicy),
    ("target_path", .str record.targetPath), ("packaging", .str record.disposition.text)] ++
    record.blobPath.toList.map (fun blobPath => ("blob_path", .str blobPath)) ++
    if record.rebindRequired = true then [("rebind_required", .bool true)] else []

def manifestArtifact (record : ArtifactRecord) : Json P := .dict (manifestArtifactFields record)

def artifactPolicyEntries (record : ArtifactRecord) (disposition : Disposition) : Json P :=
  if record.disposition ≠ disposition then .list []
  else .list [.dict [("path", .str record.path), ("reason", .str "export_policy")]]

def promptFields (prompt : String) : Fields P :=
  [("reconstruction", .str "permeant-local-reference-template-v0"),
    ("byte_hash", .str (sha256Bytes host (asBytes prompt))),
    ("token_hash", .str (tokenHash host (tokenizePrompt prompt))), ("tokenizer_hash", .str (tokenizerHash host)),
    ("token_count", .int (tokenizePrompt prompt).length)]

def kvFields (kvHash : String) : Fields P :=
  [("mode", .str "simulated"), ("cache_ref", .str "kv:simulated:prompt"), ("kv_hash", .str kvHash)]

/-- The manifest, from what is computed of the graph. -/
def manifestFields (graphHash spans security : Json P) (kvHash : String) (snapshot : VectorSnapshot P)
    (audit : List (AuditEntry P)) (session : LocalSession) (prompt : String) (record : ArtifactRecord) : Fields P :=
  [("manifest_version", .str "0.1"), ("created_at", .str createdAt), ("graph_path", .str "graph.json"),
    ("graph_hash", graphHash),
    ("artifact_store", .dict [("version", .str artifactStoreVersion), ("layout", .str "sha256-prefix"),
      ("root", .str "artifacts/sha256")]),
    ("restore_policy", .dict [("version", .str restorePolicyVersion), ("target_root", .str "workspace"),
      ("path_mapping", .str "preserve-relative-path"), ("on_hash_mismatch", .str "fail"),
      ("on_missing_required", .str "fail"), ("on_unresolved_external", .str "require_explicit_rebind")]),
    ("prompt", .dict (promptFields host prompt)), ("kv", .dict (kvFields kvHash)), ("kv_spans", spans),
    ("vector_memory", snapshot.json host queryText), ("side_effect_audit", .list (audit.map AuditEntry.json)),
    ("artifact_policy", .dict [("version", .str "artifact-export-policy-v0"),
      ("excluded_artifacts", artifactPolicyEntries record .excluded),
      ("redacted_artifacts", artifactPolicyEntries record .redacted)]),
    ("security", security), ("artifacts", .list [manifestArtifact record]),
    ("deterministic_next_response", .str session.deterministicResponse)]

def buildManifest (graph : Json P) (session : LocalSession) (prompt : String) (record : ArtifactRecord) :
    Except PyException (Json P) := do
  let snapshot ← buildVectorSnapshot host graph (.str queryText)
  let graphHash ← graph.item "graph_hash"
  let kvHash ← simulatedKvHash host (tokenizePrompt prompt)
  let spans ← graph.item "kv_spans"
  let audit ← auditToolReplaySafety host graph
  let security ← buildSecurityAttestation host graph
  pure (.dict (manifestFields host graphHash spans security kvHash snapshot audit session prompt record))

end Documents

section Export

variable (host : AgentHost P)

/-- A disk without a directory and all that is in it. -/
def withoutTree (disk : Disk) (tree : Location) : Disk := fun location =>
  if tree <+: location then none else disk location

/-- `if directory.exists(): shutil.rmtree(directory)`. What does not exist has nothing in it. -/
def removeTree (directory : Directory) : AgentIO Unit := do
  let world ← get
  match world.disk directory.names with
  | some (.file _) => throw (.osError .notADirectory)
  | _ => set { world with disk := withoutTree world.disk directory.names }

/-- Make the directories of a file, and write it. -/
def writeFile (path : List String) (content : List UInt8) : AgentIO Unit := do
  makeDirectory path.dropLast
  openWrite path content

def writeBlob (outputDir : Directory) (artifactBytes : List UInt8) : Option String → AgentIO Unit
  | some blobPath => writeFile (outputDir.names ++ (PurePath.parse blobPath).parts) artifactBytes
  | none => pure ()

def ChatMessage.json (message : ChatMessage) : Json P × Json P := (.str message.role, .str message.content)

/-- The graph and the manifest of a session. -/
def exportDocuments (session : LocalSession) (policy : ArtifactExportPolicy) :
    Except PyException (Json P × Json P) := do
  let prompt ← reconstructPromptFromMessages host (session.messages.map ChatMessage.json)
  let record := buildArtifactRecord host session policy
  let graph ← buildGraph host session record prompt
  let manifest ← buildManifest host graph session prompt record
  pure (graph, manifest)

/-- `export_session` for any session. -/
def exportPackage (session : LocalSession) (policy : ArtifactExportPolicy) (outputDir : Directory) :
    AgentIO Unit := do
  let (graph, manifest) ← liftExcept (exportDocuments host session policy)
  removeTree outputDir
  writeBlob outputDir session.artifactBytes (buildArtifactRecord host session policy).blobPath
  writeJson host (outputDir.names ++ ["graph.json"]) graph
  writeJson host (outputDir.names ++ ["manifest.json"]) manifest

end Export

end PermeantOS
