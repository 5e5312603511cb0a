import PermeantOS.AgentExport

namespace PermeantOS

variable {P : Type} {host : AgentHost P}

/-- What an export takes for granted of floats: their texts are read back, and the score is a number. -/
structure ExportFloats (host : AgentHost P) : Prop where
  constants : ∀ text ∈ ["1.0", "0.5", "0.1", "0.0"],
    Printable host.floatRepr host.parseFloat (decimal host text)
  score : ReadsBack host.floatRepr host.parseFloat (reportScore host queryText)
  embedding : ∀ x ∈ deterministicEmbedding host reportText, ReadsBack host.floatRepr host.parseFloat x
  score_eq : host.floatEq (reportScore host queryText) (reportScore host queryText) = true

section Nodes

variable {session : LocalSession} {record : ArtifactRecord} {prompt : String}

theorem printable_baseNode {node : GraphNode P} (hkeys : ((node.fields host).map (·.1)).Nodup)
    (hpayload : PrintableFields host.floatRepr host.parseFloat node.payload) :
    Printable host.floatRepr host.parseFloat (baseNode host node) := by
  refine ⟨hkeys, ?_⟩
  simp [GraphNode.fields, PrintableFields, Printable, provenance, hpayload]

theorem uniqueKeys_exportNodes : ∀ node ∈ exportNodes host session record prompt,
    ((node.fields host).map (·.1)).Nodup := by
  intro node hnode
  rw [exportNodes, List.mem_cons, List.mem_append, List.mem_map] at hnode
  obtain rfl | ⟨entry, _, rfl⟩ | hnode := hnode
  · simp [GraphNode.fields, startNode, payloadHead]
  · simp [GraphNode.fields, messageNode, payloadHead]
  · simp only [List.mem_cons, List.not_mem_nil, or_false] at hnode
    obtain rfl | rfl | rfl | rfl | rfl | rfl | rfl | rfl := hnode
    · simp [GraphNode.fields, writeCallNode, payloadHead]
    · simp [GraphNode.fields, writeResultNode, payloadHead]
    · by_cases hpackaged : record.disposition = .packaged
      · simp [GraphNode.fields, artifactNode, artifactNodePayload, payloadHead, hpackaged]
      · simp [GraphNode.fields, artifactNode, artifactNodePayload, payloadHead, hpackaged]
    · simp [GraphNode.fields, memoryNode, payloadHead]
    · simp [GraphNode.fields, checkpointNode, payloadHead]
    · simp [GraphNode.fields, retrievalNode, vectorRetrievalPayload, payloadHead]
    · simp [GraphNode.fields, kvSpanNode, promptSpan, payloadHead]
    · simp [GraphNode.fields, credentialNode, payloadHead]

theorem printable_exportNodes (h : ExportFloats host) : ∀ node ∈ exportNodes host session record prompt,
    Printable host.floatRepr host.parseFloat (baseNode host node) := by
  intro node hnode
  refine printable_baseNode (uniqueKeys_exportNodes node hnode) ?_
  have hconstants := h.constants
  simp only [List.forall_mem_cons, List.not_mem_nil, false_imp_iff, implies_true, and_true] at hconstants
  obtain ⟨hone, hhalf, htenth, hzero⟩ := hconstants
  rw [exportNodes, List.mem_cons, List.mem_append, List.mem_map] at hnode
  obtain rfl | ⟨entry, _, rfl⟩ | hnode := hnode
  · simp [startNode, payloadHead, PrintableFields, Printable]
  · simp [messageNode, payloadHead, PrintableFields, Printable]
  · simp only [List.mem_cons, List.not_mem_nil, or_false] at hnode
    obtain rfl | rfl | rfl | rfl | rfl | rfl | rfl | rfl := hnode
    · simp [writeCallNode, payloadHead, PrintableFields, PrintableItems, Printable]
    · simp [writeResultNode, payloadHead, PrintableFields, PrintableItems, Printable]
    · by_cases hpackaged : record.disposition = .packaged
      · simp [artifactNode, artifactNodePayload, payloadHead, hpackaged, PrintableFields, Printable]
      · simp [artifactNode, artifactNodePayload, payloadHead, hpackaged, PrintableFields, Printable]
    · simp [memoryNode, payloadHead, PrintableFields, PrintableItems, Printable, hone, hhalf, htenth, hzero]
    · simp [checkpointNode, payloadHead, PrintableFields, Printable]
    · simp [retrievalNode, vectorRetrievalPayload, payloadHead, PrintableFields, PrintableItems, Printable,
        hone, h.score]
    · simp [kvSpanNode, promptSpan, payloadHead, PrintableFields, PrintableItems, Printable]
    · simp [credentialNode, payloadHead, PrintableFields, Printable]

variable {f : Json P → Json P}

/-- A selection of nodes by their type. -/
theorem selectNodes_baseNode (hf : Transparent f) {nodes : List (GraphNode P)}
    (hkeys : ∀ node ∈ nodes, ((node.fields host).map (·.1)).Nodup) (kind : String) :
    selectNodes host kind (nodes.map fun node => f (baseNode host node)) =
      .ok ((nodes.filter fun node => node.nodeType = kind).map fun node => f (baseNode host node)) := by
  induction nodes with
  | nil => rfl
  | cons node nodes ih =>
    rw [List.forall_mem_cons] at hkeys
    have htype : (f (baseNode host node)).get "type" = .ok (.str node.nodeType) := by
      rw [← hf.str]
      exact hf.get hkeys.1 rfl
    rw [List.map_cons, selectNodes, except_bind_of_ok htype, except_bind_of_ok (ih hkeys.2)]
    by_cases hkind : node.nodeType = kind
    · rw [List.filter_cons_of_pos (by simpa using hkind), hkind, pyEq_str_self]
      rfl
    · have hother : pyEq host (.str node.nodeType) (.str kind) = false := by simp [pyEq, hkind]
      rw [List.filter_cons_of_neg (by simpa using hkind), hother]
      rfl

/-- The messages among the nodes, with what they say. -/
theorem messagesOf_baseNode (hf : Transparent f) {nodes : List (GraphNode P)}
    (hkeys : ∀ node ∈ nodes, ((node.fields host).map (·.1)).Nodup)
    (message : GraphNode P → ChatMessage) (hrole : ∀ node ∈ nodes, node.nodeType = "message" →
      (node.fields host).lookup "role" = some (.str (message node).role) ∧
      (node.fields host).lookup "content" = some (.str (message node).content)) :
    messagesOf host (nodes.map fun node => f (baseNode host node)) =
      .ok ((nodes.filter fun node => node.nodeType = "message").map fun node => (message node).json) := by
  induction nodes with
  | nil => rfl
  | cons node nodes ih =>
    rw [List.forall_mem_cons] at hkeys hrole
    have htype : (f (baseNode host node)).get "type" = .ok (.str node.nodeType) := by
      rw [← hf.str]
      exact hf.get hkeys.1 rfl
    rw [List.map_cons, messagesOf, except_bind_of_ok htype]
    by_cases hkind : node.nodeType = "message"
    · obtain ⟨hroleOf, hcontent⟩ := hrole.1 hkind
      have hroleItem : (f (baseNode host node)).item "role" = .ok (.str (message node).role) := by
        rw [← hf.str]
        exact hf.item hkeys.1 hroleOf
      have hcontentItem : (f (baseNode host node)).item "content" = .ok (.str (message node).content) := by
        rw [← hf.str]
        exact hf.item hkeys.1 hcontent
      rw [List.filter_cons_of_pos (by simpa using hkind), hkind, pyEq_str_self]
      simp only [if_true]
      rw [except_bind_of_ok hroleItem, except_bind_of_ok hcontentItem, except_bind_of_ok (ih hkeys.2 hrole.2)]
      rfl
    · have hother : pyEq host (.str node.nodeType) (.str "message") = false := by simp [pyEq, hkind]
      rw [List.filter_cons_of_neg (by simpa using hkind), hother]
      simp only [Bool.false_eq_true, if_false]
      exact ih hkeys.2 hrole.2

/-- The nodes of a type that is not that of messages. -/
theorem filter_exportNodes {kind : String} (h : kind ≠ "message") :
    ((exportNodes host session record prompt).filter fun node => node.nodeType = kind) =
      [startNode, writeCallNode host session record, writeResultNode host session record, artifactNode record,
        memoryNode host, checkpointNode host prompt, retrievalNode host, kvSpanNode host prompt,
        credentialNode].filter fun node => node.nodeType = kind := by
  have hmessages : ((session.messages.zipIdx 1).map messageNode : List (GraphNode P)).filter
      (fun node => node.nodeType = kind) = [] := by
    rw [List.filter_eq_nil_iff]
    intro node hnode
    obtain ⟨entry, _, rfl⟩ := List.mem_map.mp hnode
    rw [decide_eq_true_eq]
    exact h.symm
  rw [exportNodes, ← List.singleton_append, List.filter_append, List.filter_append, hmessages, List.nil_append,
    ← List.filter_append]
  rfl

end Nodes

section Graph

variable {session : LocalSession} {record : ArtifactRecord} {prompt : String}

def graphFields (host : AgentHost P) (session : LocalSession) (record : ArtifactRecord) (prompt : String) :
    Fields P :=
  graphBody host session record prompt ++
    [("graph_hash", .str (sha256Json host (.dict (graphBody host session record prompt))))]

/-- The graph of an export. -/
def exportedGraph (host : AgentHost P) (session : LocalSession) (record : ArtifactRecord) (prompt : String) :
    Json P := .dict (graphFields host session record prompt)

theorem canonicalGraphHash_body (graphHash : Json P) :
    canonicalGraphHash host (.dict (graphBody host session record prompt ++ [("graph_hash", graphHash)])) =
      .ok (sha256Json host (.dict (graphBody host session record prompt))) := by
  have hbody : (graphBody host session record prompt ++ [("graph_hash", graphHash)]).filter
      (fun field => field.1 ≠ "graph_hash") = graphBody host session record prompt := by
    simp [graphBody]
  rw [canonicalGraphHash, hbody]

theorem buildGraph_eq : buildGraph host session record prompt = .ok (exportedGraph host session record prompt) := by
  rw [buildGraph, except_bind_of_ok (canonicalGraphHash_body _)]
  rfl

theorem uniqueKeys_graphFields : ((graphFields host session record prompt).map (·.1)).Nodup := by
  simp [graphFields, graphBody]

variable {f : Json P → Json P}

theorem nodesOfType_exported (hf : Transparent f) (kind : String) :
    nodesOfType host kind (f (exportedGraph host session record prompt)) =
      .ok (((exportNodes host session record prompt).filter fun node => node.nodeType = kind).map
        fun node => f (baseNode host node)) := by
  have hlookup : (graphFields host session record prompt).lookup "nodes" =
    some (.list ((exportNodes host session record prompt).map (baseNode host))) := rfl
  have hnodes := hf.getOr uniqueKeys_graphFields hlookup (.list [])
  rw [hf.list, List.map_map] at hnodes
  have hitems : (Json.list ((exportNodes host session record prompt).map (f ∘ baseNode host))).iterate =
    .ok ((exportNodes host session record prompt).map (f ∘ baseNode host)) := rfl
  rw [nodesOfType, exportedGraph, except_bind_of_ok hnodes, except_bind_of_ok hitems]
  exact selectNodes_baseNode hf uniqueKeys_exportNodes kind

/-- The one node of a type that is not that of messages. -/
theorem nodesOfType_one (hf : Transparent f) {kind : String} {node : GraphNode P} (hkind : kind ≠ "message")
    (hone : ([startNode, writeCallNode host session record, writeResultNode host session record,
      artifactNode record, memoryNode host, checkpointNode host prompt, retrievalNode host,
      kvSpanNode host prompt, credentialNode].filter fun node => node.nodeType = kind) = [node]) :
    nodesOfType host kind (f (exportedGraph host session record prompt)) = .ok [f (baseNode host node)] := by
  rw [nodesOfType_exported hf, filter_exportNodes hkind, hone]
  rfl

theorem toolCallNodes_exported (hf : Transparent f) :
    toolCallNodes host (f (exportedGraph host session record prompt)) =
      .ok [f (baseNode host (writeCallNode host session record))] :=
  nodesOfType_one hf (by decide) rfl

theorem memoryNodes_exported (hf : Transparent f) :
    memoryNodes host (f (exportedGraph host session record prompt)) = .ok [f (baseNode host (memoryNode host))] :=
  nodesOfType_one hf (by decide) rfl

theorem retrievalNodes_exported (hf : Transparent f) :
    retrievalNodes host (f (exportedGraph host session record prompt)) =
      .ok [f (baseNode host (retrievalNode host))] :=
  nodesOfType_one hf (by decide) rfl

theorem artifactNodes_exported (hf : Transparent f) :
    artifactNodes host (f (exportedGraph host session record prompt)) =
      .ok [f (baseNode host (artifactNode record))] :=
  nodesOfType_one hf (by decide) rfl

theorem credentialRefNodes_exported (hf : Transparent f) :
    credentialRefNodes host (f (exportedGraph host session record prompt)) =
      .ok [f (baseNode host credentialNode)] :=
  nodesOfType_one hf (by decide) rfl

def nodeMessage (node : GraphNode P) : ChatMessage :=
  ⟨((node.payload.lookup "role").bind Json.asStr).getD "", ((node.payload.lookup "content").bind Json.asStr).getD ""⟩

theorem filter_exportNodes_message :
    ((exportNodes host session record prompt).filter fun node => node.nodeType = "message") =
      (session.messages.zipIdx 1).map messageNode := by
  have hmessages : ((session.messages.zipIdx 1).map messageNode : List (GraphNode P)).filter
      (fun node => node.nodeType = "message") = (session.messages.zipIdx 1).map messageNode := by
    rw [List.filter_eq_self]
    intro node hnode
    obtain ⟨entry, _, rfl⟩ := List.mem_map.mp hnode
    rfl
  have hothers : ([writeCallNode host session record, writeResultNode host session record, artifactNode record,
      memoryNode host, checkpointNode host prompt, retrievalNode host, kvSpanNode host prompt,
      credentialNode].filter fun node => node.nodeType = "message") = [] := rfl
  rw [exportNodes, List.filter_cons_of_neg (by simp [startNode]), List.filter_append, hmessages, hothers,
    List.append_nil]

theorem messagesOf_exported (hf : Transparent f) :
    messagesOf host ((exportNodes host session record prompt).map (f ∘ baseNode host)) =
      .ok (session.messages.map ChatMessage.json) := by
  have hroles : ∀ node ∈ exportNodes host session record prompt, node.nodeType = "message" →
      (node.fields host).lookup "role" = some (.str (nodeMessage node).role) ∧
      (node.fields host).lookup "content" = some (.str (nodeMessage node).content) := by
    intro node hnode hkind
    have hmem : node ∈ (exportNodes host session record prompt).filter fun node => node.nodeType = "message" :=
      List.mem_filter.mpr ⟨hnode, decide_eq_true hkind⟩
    rw [filter_exportNodes_message] at hmem
    obtain ⟨entry, _, rfl⟩ := List.mem_map.mp hmem
    exact ⟨rfl, rfl⟩
  have hmessages := messagesOf_baseNode hf uniqueKeys_exportNodes nodeMessage hroles
  rw [filter_exportNodes_message, List.map_map] at hmessages
  have hentry : ((fun node : GraphNode P => (nodeMessage node).json) ∘ messageNode : _ → Json P × Json P) =
      ChatMessage.json ∘ Prod.fst := rfl
  rw [hentry, ← List.map_map, List.zipIdx_map_fst] at hmessages
  exact hmessages

/-- The prompt comes back from the messages of the graph. -/
theorem reconstructPrompt_exported (hf : Transparent f) :
    reconstructPrompt host (f (exportedGraph host session record prompt)) =
      reconstructPromptFromMessages host (session.messages.map ChatMessage.json) := by
  have hlookup : (graphFields host session record prompt).lookup "nodes" =
    some (.list ((exportNodes host session record prompt).map (baseNode host))) := rfl
  have hnodes := hf.item uniqueKeys_graphFields hlookup
  rw [hf.list, List.map_map] at hnodes
  have hitems : (Json.list ((exportNodes host session record prompt).map (f ∘ baseNode host))).iterate =
    .ok ((exportNodes host session record prompt).map (f ∘ baseNode host)) := rfl
  rw [reconstructPrompt, exportedGraph, except_bind_of_ok hnodes, except_bind_of_ok hitems,
    except_bind_of_ok (messagesOf_exported hf)]

end Graph

section Snapshot

variable {session : LocalSession} {record : ArtifactRecord} {prompt : String} {f : Json P → Json P}

def reportRecord (host : AgentHost P) : VectorRecord P :=
  ⟨.str "memory:report-fact", deterministicEmbedding host reportText,
    embeddingHash host (deterministicEmbedding host reportText),
    .str (sha256Bytes host (asBytes "report artifact is complete"))⟩

def reportResult (host : AgentHost P) : Json P :=
  .dict [("node_id", .str "memory:report-fact"), ("rank", .int 1), ("score", .float (reportScore host queryText))]

/-- The snapshot of an export, whatever the session. -/
def reportSnapshot (host : AgentHost P) : VectorSnapshot P := ⟨[reportRecord host], .list [reportResult host]⟩

theorem uniqueKeys_memoryNode : (((memoryNode host).fields host).map (·.1)).Nodup := by
  simp [GraphNode.fields, memoryNode, payloadHead]

theorem memoryText_exported (hf : Transparent f) :
    memoryText host (f (baseNode host (memoryNode host))) = .ok reportText := by
  have hsubject : (f (baseNode host (memoryNode host))).get "subject" = .ok (.str "artifact:report") :=
    (hf.get uniqueKeys_memoryNode rfl).trans (congrArg _ (hf.str _))
  have hpredicate : (f (baseNode host (memoryNode host))).get "predicate" = .ok (.str "status") :=
    (hf.get uniqueKeys_memoryNode rfl).trans (congrArg _ (hf.str _))
  have hobject : (f (baseNode host (memoryNode host))).get "object" = .ok (.str "complete") :=
    (hf.get uniqueKeys_memoryNode rfl).trans (congrArg _ (hf.str _))
  rw [memoryText, except_bind_of_ok hsubject, except_bind_of_ok hpredicate, except_bind_of_ok hobject]
  rfl

theorem vectorRecords_exported (hf : Transparent f) :
    vectorRecords host [f (baseNode host (memoryNode host))] = .ok [reportRecord host] := by
  have hmodel : (f (baseNode host (memoryNode host))).get "embedding_model" = .ok (.str embeddingModel) :=
    (hf.get uniqueKeys_memoryNode rfl).trans (congrArg _ (hf.str _))
  have hid : (f (baseNode host (memoryNode host))).item "id" = .ok (.str "memory:report-fact") :=
    (hf.item uniqueKeys_memoryNode rfl).trans (congrArg _ (hf.str _))
  have htext : (f (baseNode host (memoryNode host))).get "text_hash" =
      .ok (.str (sha256Bytes host (asBytes "report artifact is complete"))) :=
    (hf.get uniqueKeys_memoryNode rfl).trans (congrArg _ (hf.str _))
  rw [vectorRecords, except_bind_of_ok hmodel, pyEq_str_self]
  simp only [if_true]
  rw [except_bind_of_ok (memoryText_exported hf), except_bind_of_ok hid, except_bind_of_ok htext]
  rfl

theorem buildVectorSnapshot_exported (hf : Transparent f) :
    buildVectorSnapshot host (f (exportedGraph host session record prompt)) (.str queryText) =
      .ok (reportSnapshot host) := by
  have hsorted : sortedResults host ([reportRecord host].map fun record =>
      (record.nodeId, host.round8 (cosineSimilarity host (deterministicEmbedding host queryText)
        record.embedding))) = .ok [(.str "memory:report-fact", reportScore host queryText)] := by
    simp [sortedResults, reportRecord, comparable, reportScore]
  rw [buildVectorSnapshot]
  dsimp only
  rw [except_bind_of_ok rfl, except_bind_of_ok (memoryNodes_exported hf),
    except_bind_of_ok (vectorRecords_exported hf), except_bind_of_ok hsorted]
  rfl

/-- The audit of the one tool call of an export. -/
def writeCallAudit : AuditEntry P :=
  ⟨.str "tool:call:write-report", .str "fs.write_file", .str "external_write", .str "completed",
    .str "never_retry", .str "approved", "no_replay", true, "tool call is completed and must not be replayed"⟩

theorem auditToolReplaySafety_exported (hf : Transparent f) :
    auditToolReplaySafety host (f (exportedGraph host session record prompt)) = .ok [writeCallAudit] := by
  have hkeys : (((writeCallNode host session record).fields host).map (·.1)).Nodup := by
    simp [GraphNode.fields, writeCallNode, payloadHead]
  have hfield (key : String) (text : String)
      (hlookup : ((writeCallNode host session record).fields host).lookup key = some (.str text)) :
      (f (baseNode host (writeCallNode host session record))).item key = .ok (.str text) :=
    (hf.item hkeys hlookup).trans (congrArg _ (hf.str _))
  have hpolicies : (f (exportedGraph host session record prompt)).getOr "policies" (.dict []) =
    .ok (f (.dict exportPolicies)) := hf.getOr uniqueKeys_graphFields rfl _
  have hdefault : (f (.dict exportPolicies)).getOr "default_replay_policy" (.str "ask_user") =
      .ok (.str "ask_user") := by
    rw [← hf.str]
    exact hf.getOr (by simp [exportPolicies]) rfl _
  have hname : (f (baseNode host (writeCallNode host session record))).get "name" = .ok (.str "fs.write_file") :=
    (hf.get hkeys rfl).trans (congrArg _ (hf.str _))
  have hnode : auditNode host (f (exportedGraph host session record prompt))
      (f (baseNode host (writeCallNode host session record))) = .ok writeCallAudit := by
    rw [auditNode, except_bind_of_ok (Json.getOr_of_item (hfield "side_effect" _ rfl) _),
      except_bind_of_ok (Json.getOr_of_item (hfield "status" _ rfl) _), except_bind_of_ok hpolicies,
      except_bind_of_ok hdefault, except_bind_of_ok (Json.getOr_of_item (hfield "resume_policy" _ rfl) _),
      except_bind_of_ok (Json.getOr_of_item (hfield "approval_state" _ rfl) _),
      except_bind_of_ok (hfield "id" _ rfl), except_bind_of_ok hname]
    rfl
  rw [auditToolReplaySafety, except_bind_of_ok (toolCallNodes_exported hf), List.mapM_cons,
    except_bind_of_ok hnode]
  rfl

end Snapshot

section Manifest

variable {session : LocalSession} {record : ArtifactRecord} {prompt : String} {f : Json P → Json P}

/-- The hash of the graph of an export. -/
def exportedHash (host : AgentHost P) (session : LocalSession) (record : ArtifactRecord) (prompt : String) :
    Json P := .str (sha256Json host (.dict (graphBody host session record prompt)))

def exportedSecurity (host : AgentHost P) (session : LocalSession) (record : ArtifactRecord) (prompt : String) :
    Fields P :=
  securityFields host (exportedHash host session record prompt) (.str exportedGraphId)

def exportedManifestFields (host : AgentHost P) (session : LocalSession) (record : ArtifactRecord)
    (prompt : String) : Fields P :=
  manifestFields host (exportedHash host session record prompt)
    (.list [.dict (("node_id", .str "checkpoint:prompt") :: promptSpan host prompt)])
    (.dict (exportedSecurity host session record prompt)) (sha256Bytes host (kvBytes (tokenizePrompt prompt)))
    (reportSnapshot host) [writeCallAudit] session prompt record

/-- The manifest of an export. -/
def exportedManifest (host : AgentHost P) (session : LocalSession) (record : ArtifactRecord) (prompt : String) :
    Json P := .dict (exportedManifestFields host session record prompt)

theorem buildManifest_eq (hprompt : (asBytes prompt).length ≤ 2 ^ 32) :
    buildManifest host (exportedGraph host session record prompt) session prompt record =
      .ok (exportedManifest host session record prompt) := by
  have hkv : simulatedKvHash host (tokenizePrompt prompt) =
      .ok (sha256Bytes host (kvBytes (tokenizePrompt prompt))) := if_pos hprompt
  have hsnapshot : buildVectorSnapshot host (exportedGraph host session record prompt) (.str queryText) =
    .ok (reportSnapshot host) := buildVectorSnapshot_exported transparent_id
  have haudit : auditToolReplaySafety host (exportedGraph host session record prompt) = .ok [writeCallAudit] :=
    auditToolReplaySafety_exported transparent_id
  have hhash : (exportedGraph host session record prompt).item "graph_hash" =
    .ok (exportedHash host session record prompt) := rfl
  have hspans : (exportedGraph host session record prompt).item "kv_spans" =
    .ok (.list [.dict (("node_id", .str "checkpoint:prompt") :: promptSpan host prompt)]) := rfl
  have hsecurity : buildSecurityAttestation host (exportedGraph host session record prompt) =
    .ok (.dict (exportedSecurity host session record prompt)) := rfl
  rw [buildManifest, except_bind_of_ok hsnapshot, except_bind_of_ok hhash, except_bind_of_ok hkv,
    except_bind_of_ok hspans, except_bind_of_ok haudit, except_bind_of_ok hsecurity]
  rfl

theorem uniqueKeys_manifest : ((exportedManifestFields host session record prompt).map (·.1)).Nodup := by
  simp [exportedManifestFields, manifestFields]

theorem uniqueKeys_security : ((exportedSecurity host session record prompt).map (·.1)).Nodup := by
  simp [exportedSecurity, securityFields]

theorem security_exported (hf : Transparent f) :
    (f (exportedManifest host session record prompt)).get "security" =
      .ok (f (.dict (exportedSecurity host session record prompt))) :=
  hf.get uniqueKeys_manifest rfl

theorem graphHash_exported (hf : Transparent f) :
    (f (exportedGraph host session record prompt)).item "graph_hash" =
      .ok (exportedHash host session record prompt) :=
  (hf.item uniqueKeys_graphFields rfl).trans (congrArg _ (hf.str _))

theorem checkSignature_exported (hf : Transparent f) :
    checkSignature host (f (exportedGraph host session record prompt))
      (f (.dict (exportedSecurity host session record prompt))) = .ok (.str trustedSignerId) := by
  have hfield (key text : String)
      (hlookup : (exportedSecurity host session record prompt).lookup key = some (.str text)) :
      (f (.dict (exportedSecurity host session record prompt))).get key = .ok (.str text) :=
    (hf.get uniqueKeys_security (by rw [hlookup, Option.getD_some])).trans (congrArg _ (hf.str _))
  have hsigners : (f (.dict (exportedSecurity host session record prompt))).getOr "trusted_signer_ids" (.list []) =
      .ok (draftNames [trustedSignerId]) := by
    rw [hf.getOr uniqueKeys_security rfl, hf.list, List.map_singleton, hf.str]
    rfl
  have hok (text message : String) : refuseIf (!pyEq host (.str text) (.str text)) message = .ok () := by
    rw [pyEq_str_self]
    rfl
  rw [checkSignature, except_bind_of_ok (hfield "policy_version" _ rfl), except_bind_of_ok (hok _ _),
    except_bind_of_ok (hfield "signature_algorithm" _ rfl), except_bind_of_ok (hok _ _),
    except_bind_of_ok (hfield "signer_id" _ rfl), except_bind_of_ok hsigners,
    except_bind_of_ok (inSet_draftNames host List.mem_cons_self)]
  rw [except_bind_of_ok (show refuseIf (!true) _ = .ok () from rfl), except_bind_of_ok (graphHash_exported hf),
    except_bind_of_ok (hfield "graph_root_signature" _ rfl), except_bind_of_ok (hok _ _)]
  rfl

theorem uniqueKeys_policyHooks : ((policyHooks : Fields P).map (·.1)).Nodup := by
  simp [policyHooks]

theorem uniqueKeys_writeCallNode : (((writeCallNode host session record).fields host).map (·.1)).Nodup := by
  simp [GraphNode.fields, writeCallNode, payloadHead]

theorem checkHooks_exported (hf : Transparent f) :
    checkHooks host (f (exportedGraph host session record prompt))
      (f (.dict (exportedSecurity host session record prompt))) runtimeId = .ok () := by
  have hhooks : (f (.dict (exportedSecurity host session record prompt))).getOr "policy_hooks" (.dict []) =
    .ok (f (.dict policyHooks)) := hf.getOr uniqueKeys_security rfl _
  have htargets : (f (.dict policyHooks)).getOr "allowed_target_runtimes" (.list []) =
      .ok (draftNames [runtimeId]) := by
    rw [hf.getOr uniqueKeys_policyHooks rfl, hf.list, List.map_singleton, hf.str]
    rfl
  have htools : (f (.dict policyHooks)).getOr "allowed_tools" (.list []) =
      .ok (draftNames ["aws.ec2.describe_instances", "aws.ec2.run_instances", "fs.write_file"]) := by
    rw [hf.getOr uniqueKeys_policyHooks rfl, hf.list]
    simp only [List.map_cons, List.map_nil, hf.str]
    rfl
  obtain ⟨answer, hnull⟩ := inSet_null_draftNames host
    ["aws.ec2.describe_instances", "aws.ec2.run_instances", "fs.write_file"]
  have hname : (f (baseNode host (writeCallNode host session record))).get "name" = .ok (.str "fs.write_file") :=
    (hf.get uniqueKeys_writeCallNode rfl).trans (congrArg _ (hf.str _))
  have htool : checkTool host (draftNames ["aws.ec2.describe_instances", "aws.ec2.run_instances", "fs.write_file"])
      (f (baseNode host (writeCallNode host session record))) = .ok () := by
    rw [checkTool, except_bind_of_ok hname, except_bind_of_ok (inSet_draftNames host (by simp))]
    rfl
  have hallowed (message : String) : refuseIf (!true) message = .ok () := rfl
  rw [checkHooks, except_bind_of_ok hhooks, except_bind_of_ok htargets,
    except_bind_of_ok (inSet_draftNames host List.mem_cons_self), except_bind_of_ok (hallowed _),
    except_bind_of_ok htools, except_bind_of_ok hnull, except_bind_of_ok (toolCallNodes_exported hf), checkEach,
    except_bind_of_ok htool]
  rfl

theorem checkProvenance_exported (hf : Transparent f) :
    checkProvenance host (f (exportedGraph host session record prompt))
      (f (.dict (exportedSecurity host session record prompt))) = .ok 1 := by
  have hchain : (f (.dict (exportedSecurity host session record prompt))).getOr "provenance_chain" (.list []) =
      .ok (.list [f (.dict (exportEvent (exportedHash host session record prompt) (.str exportedGraphId)))]) := by
    rw [hf.getOr uniqueKeys_security rfl, hf.list, List.map_singleton]
  have hkeys : ((exportEvent (exportedHash host session record prompt) (.str exportedGraphId)).map
      (·.1)).Nodup := by simp [exportEvent]
  have hlatestId : (f (.dict (exportEvent (exportedHash host session record prompt)
      (.str exportedGraphId)))).get "graph_id" = .ok (.str exportedGraphId) :=
    (hf.get hkeys rfl).trans (congrArg _ (hf.str _))
  have hlatestHash : (f (.dict (exportEvent (exportedHash host session record prompt)
      (.str exportedGraphId)))).get "graph_hash" = .ok (exportedHash host session record prompt) :=
    (hf.get hkeys rfl).trans (congrArg _ (hf.str _))
  have hgraphId : (f (exportedGraph host session record prompt)).get "graph_id" = .ok (.str exportedGraphId) :=
    (hf.get uniqueKeys_graphFields rfl).trans (congrArg _ (hf.str _))
  have hgraphHash : (f (exportedGraph host session record prompt)).get "graph_hash" =
      .ok (exportedHash host session record prompt) :=
    (hf.get uniqueKeys_graphFields rfl).trans (congrArg _ (hf.str _))
  have htruthy : refuseIf (!(Json.list [f (.dict (exportEvent (exportedHash host session record prompt)
    (.str exportedGraphId)))]).truthy host.toAdapterHost) "missing provenance chain" = .ok () := rfl
  have hsame : refuseIf (!(pyEq host (.str exportedGraphId) (.str exportedGraphId) &&
      pyEq host (exportedHash host session record prompt) (exportedHash host session record prompt)))
        "provenance chain does not match graph root" = .ok () := by
    rw [exportedHash, pyEq_str_self, pyEq_str_self]
    rfl
  have hlatest : latestEvent (.list [f (.dict (exportEvent (exportedHash host session record prompt)
    (.str exportedGraphId)))]) = .ok (f (.dict (exportEvent (exportedHash host session record prompt)
      (.str exportedGraphId))), 1) := rfl
  rw [checkProvenance, except_bind_of_ok hchain, except_bind_of_ok htruthy, except_bind_of_ok hlatest]
  dsimp only
  rw [except_bind_of_ok hlatestId, except_bind_of_ok hgraphId, except_bind_of_ok hlatestHash,
    except_bind_of_ok hgraphHash, except_bind_of_ok hsame]
  rfl

end Manifest

end PermeantOS
