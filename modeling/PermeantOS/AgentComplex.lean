import PermeantOS.AgentExport
import PermeantOS.AgentReturn

namespace PermeantOS

variable {P : Type} (host : AgentHost P)

section ComplexNodes

def complexGraphId : String := "graph:complex-agent:0001"

def managerId : String := "operator:release-manager"

/-- The entries that the three tool calls share. -/
def complexCallPayload (retention name provider callId : String) (arguments schema : Json P) : Fields P :=
  payloadHead agentId "thread" "working" "internal" retention "none" ++
    [("name", .str name), ("provider", .str provider), ("call_id", .str callId),
      ("arguments_hash", .str (sha256Json host arguments)), ("input_schema_hash", .str (sha256Json host schema))]

def writeSchema : Json P := .dict [("path", .str "string"), ("content", .str "string")]

def writePlanNode : GraphNode P where
  nodeId := "tool:call:write-plan"
  nodeType := "tool_call"
  payload := complexCallPayload host "durable" "fs.write_file" "local-reference" "call:write-plan"
      (.dict [("path", .str "reports/research/plan.json")]) writeSchema ++
    [("idempotency_key", .str "complex-write-plan"), ("side_effect", .str "external_write"),
      ("status", .str "completed"), ("resume_policy", .str "never_retry"), ("approval_state", .str "approved"),
      ("external_resource_ids", .list [.str "file:reports/research/plan.json"])]

def readQuotaNode : GraphNode P where
  nodeId := readToolId
  nodeType := "tool_call"
  payload := complexCallPayload host "session" "aws.ec2.describe_instances" "aws" "call:read-aws-quota"
      (.dict [("filters", .list [.str "Project=permeant-os"])]) (.dict [("filters", .str "array")]) ++
    [("idempotency_key", .str "complex-read-aws"), ("side_effect", .str "read_only"),
      ("status", .str "not_started"), ("resume_policy", .str "retry_safe"),
      ("approval_state", .str "not_required")]

def publishReleaseNode : GraphNode P where
  nodeId := publishToolId
  nodeType := "tool_call"
  payload := complexCallPayload host "durable" "fs.write_file" "local-reference" "call:publish-release"
      (.dict [("path", .str announcementPath)]) writeSchema ++
    [("idempotency_key", .str "complex-publish-release"), ("side_effect", .str "external_write"),
      ("status", .str "needs_user"), ("resume_policy", .str "ask_user"), ("approval_state", .str "pending"),
      ("external_resource_ids", .list [.str ("file:" ++ announcementPath)])]

def complexEpisode : Json P :=
  .dict [("schema_version", .str "complex-agent-v0"), ("episode_id", .str "episode:complex-agent"),
    ("continuity_state", .str "open"), ("actor_ids", .list [.str agentId, .str userId, .str managerId]),
    ("started_at", .str createdAt),
    ("boundary_labels", .list [.str "migration", .str "release", .str "validation"]),
    ("causal_record_ids", .list [.str "tool:call:write-report", .str "tool:call:write-plan"]),
    ("related_record_ids", .list [.str "artifact:report", .str "artifact:plan", .str "artifact:retrieval-audit"]),
    ("salience", .dict [("reuse", decimal host "0.9"), ("novelty", decimal host "0.7"),
      ("unresolved", decimal host "0.4")])]

def complexFidelityNode : GraphNode P where
  nodeId := "memory:complex-fidelity"
  nodeType := "memory"
  payload := payloadHead agentId "thread" "recall" "internal" "durable" "none" ++
    [("quality_state", .str "verified"), ("historical_state", .str "current"), ("trust_level", .str "derived"),
      ("valid_at", .str createdAt), ("confidence", decimal host "0.99"), ("memory_kind", .str "semantic"),
      ("text_hash", .str (sha256Bytes host (asBytes "complex agent migration preserves exact continuation"))),
      ("subject", .str "migration:e2e"), ("predicate", .str "continuation"),
      ("object", .str "exact-16-token-fidelity"),
      ("namespace", .list [.str "complex-agent", .str "evidence"]), ("key", .str "continuation-fidelity"),
      ("embedding_model", .str embeddingModel), ("embedding_dim", .int embeddingDim),
      ("embedding_hash", .str (embeddingHash host (deterministicEmbedding host
        "migration:e2e continuation exact-16-token-fidelity"))),
      ("distance_metric", .str "cosine"), ("vector_store_ref", .str vectorStoreRef),
      ("episode", complexEpisode host),
      ("conflict", .dict [("review_state", .str "none"), ("conflicting_node_ids", .list []),
        ("drift_score", decimal host "0.0")]),
      ("lineage_links", .list [.dict [("node_id", .str "tool:call:write-plan"),
        ("relation", .str "derived_from")]])]

/-- The one result that the evidence is written with. -/
def evidenceResult : Fields P :=
  [("node_id", .str "memory:complex-fidelity"), ("rank", .int 1), ("score", decimal host "0.9875"),
    ("score_kind", .str "cosine"),
    ("score_breakdown", .list [
      .dict [("name", .str "semantic"), ("value", decimal host "0.82"), ("weight", decimal host "0.7")],
      .dict [("name", .str "recency"), ("value", decimal host "0.95"), ("weight", decimal host "0.2")],
      .dict [("name", .str "trust"), ("value", decimal host "0.99"), ("weight", decimal host "0.1")]]),
    ("candidate_source", .str "semantic_neighbor"),
    ("snippet_hash", .str (sha256Bytes host (asBytes "exact continuation after migration")))]

/-- `{**vector_retrieval_payload(..), "results": [..], "selection_policy": ..}` -/
def evidencePayload : Fields P :=
  dictInsert
    (dictInsert (vectorRetrievalPayload host "which evidence proves the agent can continue after migration")
      "results" (.list [.dict (evidenceResult host)]))
    "selection_policy" (.str "continuity_high_confidence")

def complexEvidenceNode : GraphNode P :=
  ⟨"retrieval:complex-evidence", "retrieval", evidencePayload host⟩

def pendingReleaseNode : GraphNode P where
  nodeId := "event:pending-release"
  nodeType := "event"
  payload := [("actor_id", .str managerId), ("event_kind", .str "approval_required"),
    ("memory_scope", .str "thread"), ("memory_tier", .str "working"), ("sensitivity", .str "internal"),
    ("retention", .str "session"), ("redaction_state", .str "none")]

/-- `{record.path: record for record in artifact_records[1:]}[path]`, where the last record of a path counts. -/
def extraArtifact (records : List ArtifactRecord) (path : String) : Except PyException ArtifactRecord :=
  match (records.drop 1).reverse.find? (·.path = path) with
  | some record => .ok record
  | none => .error (.keyError path)

def additionalNodes (records : List ArtifactRecord) : Except PyException (List (GraphNode P)) := do
  let plan ← extraArtifact records "reports/research/plan.json"
  let audit ← extraArtifact records "reports/audit/retrieval.json"
  let notes ← extraArtifact records "reports/context/notes.md"
  pure [writePlanNode host, readQuotaNode host, publishReleaseNode host, complexFidelityNode host,
    complexEvidenceNode host, pendingReleaseNode, ⟨"artifact:plan", "artifact", artifactNodePayload plan⟩,
    ⟨"artifact:retrieval-audit", "artifact", artifactNodePayload audit⟩,
    ⟨"artifact:context-notes", "artifact", artifactNodePayload notes⟩]

def additionalEdges : List (Json P) :=
  [edge "turn:assistant:5" "tool:call:write-plan" "caused",
    edge "tool:call:write-plan" "artifact:plan" "produced",
    edge "tool:call:write-plan" "artifact:retrieval-audit" "produced",
    edge "tool:call:write-plan" "artifact:context-notes" "produced",
    edge "artifact:plan" "memory:complex-fidelity" "produced",
    edge "retrieval:complex-evidence" "memory:complex-fidelity" "retrieved",
    edge "event:pending-release" publishToolId "caused",
    edge readToolId "memory:complex-fidelity" "references"]

end ComplexNodes

section Extend

/-- `value[key].extend(new)` -/
def Json.extendBy (value : Json P) (key : String) (new : List (Json P)) : Except PyException (Json P) := do
  match ← value.item key with
  | .list items => value.setItem key (.list (items ++ new))
  | _ => .error .attributeError

/-- `value[key][name] = new` -/
def Json.setIn (value : Json P) (key name : String) (new : Json P) : Except PyException (Json P) := do
  let inner ← value.item key
  let inner ← inner.setItem name new
  value.setItem key inner

/-- What the last loop does to a node. The content hash of the node stays as it was. -/
def setVectorResults (expected node : Json P) : Except PyException (Json P) := do
  let type ← node.get "type"
  let kind ← node.get "retrieval_kind"
  if pyEq host type (.str "retrieval") = true ∧ pyEq host kind (.str "vector") = true then
    node.setItem "results" expected
  else pure node

/-- Everything before the results of the retrievals are set. -/
def addComplexNodes (graph : Json P) (records : List ArtifactRecord) : Except PyException (Json P) := do
  let graph ← graph.setItem "graph_id" (.str complexGraphId)
  let graph ← graph.setIn "agent" "id" (.str "agent:complex-continuity")
  let graph ← graph.appendTo "participants"
    (.dict [("id", .str managerId), ("kind", .str "user"), ("name", .str "Release manager")])
  let graph ← graph.appendTo "lineage" (.dict [("graph_id", .str complexGraphId),
    ("event", .str "validated_for_real_runtime_e2e"), ("created_at", .str createdAt)])
  let graph ← graph.setIn "policies" "required_approval_for_publish" (.bool true)
  let added ← additionalNodes host records
  let graph ← graph.extendBy "nodes" (added.map (baseNode host))
  graph.extendBy "edges" additionalEdges

/-- The graph is edited in place, so that the edited one is what is left of it. -/
def extendGraphForComplexAgent (graph : Json P) (records : List ArtifactRecord) : Except PyException (Json P) := do
  let graph ← addComplexNodes host graph records
  let snapshot ← buildVectorSnapshot host graph (.str queryText)
  let nodes ← graph.item "nodes"
  let nodes ← nodes.iterate
  let nodes ← nodes.mapM (setVectorResults host snapshot.expectedResults)
  let graph ← graph.setItem "nodes" (.list nodes)
  let graphHash ← canonicalGraphHash host graph
  graph.setItem "graph_hash" (.str graphHash)

end Extend

end PermeantOS
