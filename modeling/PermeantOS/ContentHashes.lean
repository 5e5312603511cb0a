import PermeantOS.AgentComplex
import PermeantOS.GraphEdits
import PermeantOS.JsonEntry
import PermeantOS.VectorSnapshots

namespace PermeantOS

variable {P : Type}

section Extend

variable {host : AgentHost P} {graph graph' : Json P} {records : List ArtifactRecord}

/-- A node whose results the extension sets. -/
structure VectorRetrieval (fields : Fields P) : Prop where
  type : fields.lookup "type" = some (.str "retrieval")
  kind : fields.lookup "retrieval_kind" = some (.str "vector")

/-- The text that the content hash of a node is taken of. -/
def payloadText (host : AgentHost P) (fields : Fields P) : String :=
  jsonDumpsSorted host.floatRepr (.dict (nodeContentPayload fields))

theorem nodeContentPayload_fields {node : GraphNode P} (h : headFree node.payload = true) :
    nodeContentPayload (node.fields host) = node.payload := by
  rw [show nodeContentPayload (node.fields host) = nodeContentPayload node.payload from rfl,
    nodeContentPayload_of_headFree h]

theorem hashValid_baseNode {node : GraphNode P} (h : headFree node.payload = true) :
    HashValid host (baseNode host node) := by
  refine ⟨_, rfl, ?_⟩
  rw [nodeContentPayload_fields h]
  rfl

theorem headFree_additionalNodes {added : List (GraphNode P)} (h : additionalNodes host records = .ok added) :
    ∀ node ∈ added, headFree node.payload = true := by
  obtain ⟨plan, _, h⟩ := except_bind_ok_iff.mp h
  obtain ⟨audit, _, h⟩ := except_bind_ok_iff.mp h
  obtain ⟨notes, _, h⟩ := except_bind_ok_iff.mp h
  cases h
  have hartifact (record : ArtifactRecord) : headFree (artifactNodePayload record : Fields P) = true := by
    unfold artifactNodePayload
    cases record.disposition <;> rfl
  simp only [List.forall_mem_cons, List.not_mem_nil, false_imp_iff, implies_true, and_true]
  exact ⟨rfl, rfl, rfl, rfl, rfl, rfl, hartifact plan, hartifact audit, hartifact notes⟩

theorem complexEvidence_mem {added : List (GraphNode P)} (h : additionalNodes host records = .ok added) :
    complexEvidenceNode host ∈ added := by
  obtain ⟨plan, _, h⟩ := except_bind_ok_iff.mp h
  obtain ⟨audit, _, h⟩ := except_bind_ok_iff.mp h
  obtain ⟨notes, _, h⟩ := except_bind_ok_iff.mp h
  cases h
  simp

theorem vectorRetrieval_complexEvidence : VectorRetrieval ((complexEvidenceNode host).fields host) := ⟨rfl, rfl⟩

theorem dumpsItems_start (item : Json P) (items : List (Json P)) : ∃ rest,
    dumpsItems host.floatRepr .compact (item :: items) = dumpsChars host.floatRepr .compact item ++ rest := by
  cases items with
  | nil => exact ⟨[], by rw [dumpsItems, List.append_nil]⟩
  | cons next items =>
    refine ⟨Separators.compact.item ++ dumpsItems host.floatRepr .compact (next :: items), ?_⟩
    simp [dumpsItems]

/-- A ranking never has the text of the result that the evidence is written with. -/
theorem rankingText_ne (ranking : List ((Json P × P) × Nat)) :
    jsonDumpsSorted host.floatRepr (.list (ranking.map rankedResult)) ≠
      jsonDumpsSorted host.floatRepr (.list [.dict (evidenceResult host)]) := by
  obtain ⟨rest, hrest⟩ : ∃ rest, dumpsChars host.floatRepr .compact (sortKeys (.dict (evidenceResult host))) =
      '\x7b' :: (dumpsString "candidate_source" ++ rest) := by
    apply dumpsChars_start
    · simp [evidenceResult]
    · exact (by decide : ∀ other ∈ ["node_id", "rank", "score", "score_kind", "score_breakdown", "candidate_source",
        "snippet_hash"], "candidate_source" ≤ other)
  intro h
  rw [jsonDumpsSorted, jsonDumpsSorted, String.ofList_inj, sortKeys_list, sortKeys_list, dumpsChars_list,
    dumpsChars_list, List.map_singleton, dumpsItems, hrest] at h
  have htail := (List.cons.inj h).2
  cases ranking with
  | nil => exact absurd (List.cons.inj htail).1 (by decide)
  | cons entry ranking =>
    obtain ⟨rest', hrest'⟩ : ∃ rest, dumpsChars host.floatRepr .compact (sortKeys (rankedResult entry)) =
        '\x7b' :: (dumpsString "node_id" ++ rest) := by
      apply dumpsChars_start
      · simp
      · exact (by decide : ∀ other ∈ ["node_id", "rank", "score"], "node_id" ≤ other)
    rw [List.map_cons, List.map_cons] at htail
    obtain ⟨more, hmore⟩ := dumpsItems_start (sortKeys (rankedResult entry)) ((ranking.map rankedResult).map sortKeys)
    rw [hmore, hrest'] at htail
    -- the first keys of the two results differ in their first letter
    have hkeys := (List.cons.inj (List.cons.inj (List.cons.inj htail).2).2).1
    exact absurd hkeys (by decide)

/-- The hash of the evidence is never taken of the text that it is left with. -/
theorem evidenceText_changes {queryText : Json P} {snapshot : VectorSnapshot P}
    (h : buildVectorSnapshot host graph queryText = .ok snapshot) :
    payloadText host (dictInsert ((complexEvidenceNode host).fields host) "results" snapshot.expectedResults) ≠
      payloadText host ((complexEvidenceNode host).fields host) := by
  obtain ⟨query, nodes, ranking, _, _, _, _, hresults⟩ := buildVectorSnapshot_ok h
  rw [payloadText, payloadText, nodeContentPayload_dictInsert (by decide), hresults]
  have hpayload : nodeContentPayload ((complexEvidenceNode host).fields host) = evidencePayload host :=
    nodeContentPayload_fields rfl
  have hmem : ("results", .list [.dict (evidenceResult host)]) ∈ evidencePayload host := mem_of_lookup rfl
  have hnodup : ((evidencePayload host).map (·.1)).Nodup :=
    (by decide : ["actor_id", "memory_scope", "memory_tier", "sensitivity", "retention", "redaction_state",
      "query_hash", "retrieval_kind", "planner_profile", "policy_profile", "scorer_kind", "selected_channels",
      "candidate_sources", "planner_stages", "graph_expansion_max_hops", "historical_mode", "results",
      "selection_policy"].Nodup)
  obtain ⟨front, back, hsplit⟩ := List.append_of_mem hmem
  have hkeys : ((front ++ ("results", .null) :: back).map (·.1)).Nodup := by
    rw [hsplit] at hnodup
    simpa using hnodup
  rw [hpayload, hsplit, dictInsert, if_pos (by simp), map_replace_split hkeys]
  exact fun htext => rankingText_ne ranking.zipIdx (jsonDumpsSorted_inj hkeys htext)

theorem extendBy_ok {value value' : Json P} {key : String} {new : List (Json P)}
    (h : value.extendBy key new = .ok value') :
    ∃ items, value.item key = .ok (.list items) ∧ value'.item key = .ok (.list (items ++ new)) ∧
      SameBut [key] value value' := by
  obtain ⟨found, hfound, h⟩ := except_bind_ok_iff.mp h
  cases found with
  | list items => exact ⟨items, hfound, item_of_setItem h, sameBut_setItem h⟩
  | null | bool _ | int _ | float _ | str _ | dict _ => cases h

theorem setIn_ok {value value' new : Json P} {key name : String} (h : value.setIn key name new = .ok value') :
    SameBut [key] value value' := by
  obtain ⟨inner, _, h⟩ := except_bind_ok_iff.mp h
  obtain ⟨edited, _, h⟩ := except_bind_ok_iff.mp h
  exact sameBut_setItem h

/-- Before the results are set, the extension only adds to the nodes. -/
theorem addComplexNodes_nodes {nodes : List (Json P)} (hnodes : graph.item "nodes" = .ok (.list nodes))
    (h : addComplexNodes host graph records = .ok graph') : ∃ added, additionalNodes host records = .ok added ∧
      graph'.item "nodes" = .ok (.list (nodes ++ added.map (baseNode host))) := by
  obtain ⟨named, hnamed, h⟩ := except_bind_ok_iff.mp h
  obtain ⟨owned, howned, h⟩ := except_bind_ok_iff.mp h
  obtain ⟨joined, hjoined, h⟩ := except_bind_ok_iff.mp h
  obtain ⟨traced, htraced, h⟩ := except_bind_ok_iff.mp h
  obtain ⟨guarded, hguarded, h⟩ := except_bind_ok_iff.mp h
  obtain ⟨added, hadded, h⟩ := except_bind_ok_iff.mp h
  obtain ⟨extended, hextended, h⟩ := except_bind_ok_iff.mp h
  obtain ⟨_, _, _, hjoinedSame⟩ := appendTo_ok hjoined
  obtain ⟨_, _, _, htracedSame⟩ := appendTo_ok htraced
  obtain ⟨items, hitems, hitems', _⟩ := extendBy_ok hextended
  obtain ⟨_, _, _, hlinkedSame⟩ := extendBy_ok h
  rw [(setIn_ok hguarded).item (by decide), htracedSame.item (by decide), hjoinedSame.item (by decide),
    (setIn_ok howned).item (by decide), (sameBut_setItem hnamed).item (by decide), hnodes] at hitems
  cases hitems
  exact ⟨added, hadded, (hlinkedSame.item (by decide)).trans hitems'⟩

/-- What the extension leaves of a node with a valid hash. -/
theorem hashValid_setVectorResults {expected node node' : Json P} (hvalid : HashValid host node)
    (h : setVectorResults host expected node = .ok node') : HashValid host node' ↔
      ∀ fields, node = .dict fields → VectorRetrieval fields →
        sha256Json host (.dict (nodeContentPayload (dictInsert fields "results" expected))) =
          sha256Json host (.dict (nodeContentPayload fields)) := by
  obtain ⟨fields, rfl, hhash⟩ := hvalid
  obtain ⟨type, htype, h⟩ := except_bind_ok_iff.mp h
  obtain ⟨kind, hkind, h⟩ := except_bind_ok_iff.mp h
  cases htype
  cases hkind
  split at h
  next hvector =>
    rw [pyEq_str_iff, pyEq_str_iff, getD_null_eq_iff _ (by simp), getD_null_eq_iff _ (by simp)] at hvector
    cases h
    constructor
    · intro h fields' heq _
      cases heq
      obtain ⟨changed, hchanged, hhash'⟩ := h
      cases hchanged
      rw [lookup_dictInsert, if_neg (by decide), hhash, Option.some.injEq, Json.str.injEq] at hhash'
      exact hhash'.symm
    · intro h
      refine ⟨_, rfl, ?_⟩
      rw [lookup_dictInsert, if_neg (by decide), hhash, h fields rfl ⟨hvector.1, hvector.2⟩]
  next hvector =>
    rw [pyEq_str_iff, pyEq_str_iff, getD_null_eq_iff _ (by simp), getD_null_eq_iff _ (by simp)] at hvector
    cases h
    refine iff_of_true ⟨fields, rfl, hhash⟩ ?_
    intro fields' heq hretrieval
    cases heq
    exact absurd ⟨hretrieval.type, hretrieval.kind⟩ hvector

theorem forall_mem_iff_of_forall₂ {α β : Type} {R : α → β → Prop} {p : α → Prop} {q : β → Prop} {xs : List α}
    {ys : List β} (h : List.Forall₂ R xs ys) (hiff : ∀ x ∈ xs, ∀ y, R x y → (q y ↔ p x)) :
    (∀ y ∈ ys, q y) ↔ ∀ x ∈ xs, p x := by
  induction h with
  | nil => simp
  | @cons x y xs ys hxy _ ih =>
    rw [List.forall_mem_cons, List.forall_mem_cons, hiff x List.mem_cons_self y hxy,
      ih fun x' hx' => hiff x' (List.mem_cons_of_mem _ hx')]

theorem buildVectorSnapshot_congr {other queryText : Json P} {nodes : List (Json P)}
    (h : graph.item "nodes" = .ok (.list nodes)) (hother : other.item "nodes" = .ok (.list nodes)) :
    buildVectorSnapshot host graph queryText = buildVectorSnapshot host other queryText := by
  simp only [buildVectorSnapshot, memoryNodes, nodesOfType, Json.getOr_of_item h, Json.getOr_of_item hother]

theorem hashValid_added {nodes : List (Json P)} (hvalid : ∀ node ∈ nodes, HashValid host node)
    {added : List (GraphNode P)} (h : additionalNodes host records = .ok added) :
    ∀ node ∈ nodes ++ added.map (baseNode host), HashValid host node := by
  intro node hmem
  rcases List.mem_append.mp hmem with hmem | hmem
  · exact hvalid node hmem
  · obtain ⟨one, hone, rfl⟩ := List.mem_map.mp hmem
    exact hashValid_baseNode (headFree_additionalNodes h one hone)

/-- The extension keeps the content hashes exactly where setting the results goes unnoticed. -/
theorem extendGraph_valid_iff {nodes : List (Json P)} (hnodes : graph.item "nodes" = .ok (.list nodes))
    (hvalid : ∀ node ∈ nodes, HashValid host node)
    (h : extendGraphForComplexAgent host graph records = .ok graph') :
    ∃ added snapshot, additionalNodes host records = .ok added ∧
      buildVectorSnapshot host (.dict [("nodes", .list (nodes ++ added.map (baseNode host)))]) (.str queryText) =
        .ok snapshot ∧
      (NodesValid host graph' ↔ ∀ node ∈ nodes ++ added.map (baseNode host), ∀ fields, node = .dict fields →
        VectorRetrieval fields →
          sha256Json host (.dict (nodeContentPayload (dictInsert fields "results" snapshot.expectedResults))) =
            sha256Json host (.dict (nodeContentPayload fields))) := by
  obtain ⟨extended, hextended, h⟩ := except_bind_ok_iff.mp h
  obtain ⟨added, hadded, hall⟩ := addComplexNodes_nodes hnodes hextended
  have hitems : (Json.list (nodes ++ added.map (baseNode host))).iterate =
    .ok (nodes ++ added.map (baseNode host)) := rfl
  obtain ⟨snapshot, hsnapshot, h⟩ := except_bind_ok_iff.mp h
  rw [except_bind_of_ok hall, except_bind_of_ok hitems] at h
  obtain ⟨nodes', hnodes', h⟩ := except_bind_ok_iff.mp h
  obtain ⟨listed, hlisted, h⟩ := except_bind_ok_iff.mp h
  obtain ⟨graphHash, _, h⟩ := except_bind_ok_iff.mp h
  have hfields : (.dict [("nodes", .list (nodes ++ added.map (baseNode host)))] : Json P).item "nodes" =
    .ok (.list (nodes ++ added.map (baseNode host))) := rfl
  rw [buildVectorSnapshot_congr hall hfields] at hsnapshot
  refine ⟨added, snapshot, hadded, hsnapshot, ?_⟩
  rw [← forall_mem_iff_of_forall₂ (mapM_ok_iff.mp hnodes')
    fun node hmem node' hnode' => hashValid_setVectorResults (hashValid_added hvalid hadded node hmem) hnode']
  have hlast : graph'.item "nodes" = .ok (.list nodes') :=
    ((sameBut_setItem h).item (by decide)).trans (item_of_setItem hlisted)
  constructor
  · intro hgraph
    obtain ⟨found, hfound, hgraph⟩ := hgraph
    cases hlast.symm.trans hfound
    exact hgraph
  · exact fun hgraph => ⟨nodes', hlast, hgraph⟩

/-- Of a graph with valid content hashes: the extension of a complex agent keeps them only where SHA-256 gives
every vector retrieval one digest for its old and its new results, although for the evidence that it adds the two
texts differ; completed tool calls, and all that a resume and a return do, keep them. -/
theorem contentHashes_kept {nodes : List (Json P)} (hnodes : graph.item "nodes" = .ok (.list nodes))
    (hvalid : ∀ node ∈ nodes, HashValid host node) :
    (∀ records graph', extendGraphForComplexAgent host graph records = .ok graph' →
      ∃ added snapshot, additionalNodes host records = .ok added ∧
        buildVectorSnapshot host (.dict [("nodes", .list (nodes ++ added.map (baseNode host)))]) (.str queryText) =
          .ok snapshot ∧
        (NodesValid host graph' ↔ ∀ node ∈ nodes ++ added.map (baseNode host), ∀ fields, node = .dict fields →
          VectorRetrieval fields →
            sha256Json host (.dict (nodeContentPayload (dictInsert fields "results" snapshot.expectedResults))) =
              sha256Json host (.dict (nodeContentPayload fields))) ∧
        baseNode host (complexEvidenceNode host) ∈ nodes ++ added.map (baseNode host) ∧
        VectorRetrieval ((complexEvidenceNode host).fields host) ∧
        payloadText host (dictInsert ((complexEvidenceNode host).fields host) "results" snapshot.expectedResults) ≠
          payloadText host ((complexEvidenceNode host).fields host)) ∧
    (∀ nodeId approvalState graph', markToolCallCompleted host graph nodeId approvalState = .ok graph' →
      NodesValid host graph') ∧
    (∀ graph', Edited host graph graph' → NodesValid host graph') ∧
    (∀ result approvePublish report world world',
      (resumeGraph host result graph approvePublish).run world = .ok report world' → ∃ resumed,
        NodesValid host resumed ∧
        .write (resumedGraphPath result.restoredWorkspace) (jsonFileBytes host resumed) ∈ world'.log) ∧
    (∀ workspace result evidence report world world', evidence.targetGraph = graph →
      (continueHome host workspace result evidence).run world = .ok report world' → ∃ returned,
        NodesValid host returned ∧
        .write (workspace.names ++ ["reports", "roundtrip", "returned-home-graph.json"])
          (jsonFileBytes host returned) ∈ world'.log) := by
  have hgraph : NodesValid host graph := ⟨nodes, hnodes, hvalid⟩
  refine ⟨?_, ?_, ?_, ?_, ?_⟩
  · intro records graph' h
    obtain ⟨added, snapshot, hadded, hsnapshot, hiff⟩ := extendGraph_valid_iff hnodes hvalid h
    refine ⟨added, snapshot, hadded, hsnapshot, hiff, ?_, vectorRetrieval_complexEvidence,
      evidenceText_changes hsnapshot⟩
    exact List.mem_append_right _ (List.mem_map_of_mem (complexEvidence_mem hadded))
  · intro nodeId approvalState graph' h
    exact hgraph.edit (.marked h)
  · intro graph' h
    exact hgraph.edits h
  · intro result approvePublish report world world' h
    obtain ⟨resumed, hedited, hwritten⟩ := resumeGraph_edited h
    exact ⟨resumed, hgraph.edits hedited, hwritten⟩
  · intro workspace result evidence report world world' htarget h
    obtain ⟨returned, hedited, hwritten⟩ := continueHome_edited h
    rw [htarget] at hedited
    exact ⟨returned, hgraph.edits hedited, hwritten⟩

end Extend

section Sample

/-- A vector retrieval without results. -/
def emptyRetrieval : Fields Int :=
  [("id", .str "retrieval:empty"), ("type", .str "retrieval"),
    ("content_hash", .str (sha256Json decimalHost (.dict [("results", .list []), ("retrieval_kind", .str "vector")]))),
    ("results", .list []), ("retrieval_kind", .str "vector")]

def retrievalGraph : Json Int :=
  .dict [("agent", .dict []), ("participants", .list []), ("lineage", .list []), ("policies", .dict []),
    ("nodes", .list [.dict emptyRetrieval]), ("edges", .list [])]

def complexRecords : List ArtifactRecord :=
  ["reports/result.json", "reports/research/plan.json", "reports/audit/retrieval.json",
    "reports/context/notes.md"].map fun path => buildArtifactRecordFromBytes decimalHost path [] ⟨∅, ∅⟩

theorem hashValid_emptyRetrieval : ∀ node ∈ [Json.dict emptyRetrieval], HashValid decimalHost node := by
  intro node hmem
  rw [List.mem_singleton.mp hmem]
  exact ⟨_, rfl, rfl⟩

/-- The score of the one memory. -/
def fidelityScore : Int :=
  (scoreOf decimalHost queryText ⟨.str "memory:complex-fidelity",
    deterministicEmbedding decimalHost "migration:e2e continuation exact-16-token-fidelity", "", .null⟩).2

def fidelityResults : Json Int :=
  .list [.dict [("node_id", .str "memory:complex-fidelity"), ("rank", .int 1), ("score", .float fidelityScore)]]

theorem exists_setVectorResults {host : AgentHost P} (expected : Json P) {node : Json P}
    (hvalid : HashValid host node) :
    ∃ node', setVectorResults host expected node = .ok node' := by
  obtain ⟨fields, rfl, _⟩ := hvalid
  have htype : (Json.dict fields).get "type" = .ok ((fields.lookup "type").getD .null) := rfl
  have hkind : (Json.dict fields).get "retrieval_kind" = .ok ((fields.lookup "retrieval_kind").getD .null) := rfl
  rw [setVectorResults, except_bind_of_ok htype, except_bind_of_ok hkind]
  split
  next => exact ⟨_, rfl⟩
  next => exact ⟨_, rfl⟩

theorem buildVectorSnapshot_sample {nodes : List (Json Int)} (hmemories : memoryNodes decimalHost
      (.dict [("nodes", .list nodes)]) = .ok [baseNode decimalHost (complexFidelityNode decimalHost)]) :
    ∃ snapshot, buildVectorSnapshot decimalHost (.dict [("nodes", .list nodes)]) (.str queryText) = .ok snapshot ∧
      snapshot.expectedResults = fidelityResults := by
  obtain ⟨record, hrecord, hid, hembedding⟩ : ∃ record,
      vectorRecords decimalHost [baseNode decimalHost (complexFidelityNode decimalHost)] = .ok [record] ∧
        record.nodeId = .str "memory:complex-fidelity" ∧ record.embedding = deterministicEmbedding decimalHost
          "migration:e2e continuation exact-16-token-fidelity" := ⟨_, rfl, rfl, rfl⟩
  have hsorted : sortedResults decimalHost ([record].map fun record =>
      (record.nodeId, decimalHost.round8 (cosineSimilarity decimalHost
        (deterministicEmbedding decimalHost queryText) record.embedding))) =
          .ok [(.str "memory:complex-fidelity", fidelityScore)] := by
    simp [sortedResults, comparable, hid, hembedding, fidelityScore, scoreOf]
  rw [buildVectorSnapshot]
  dsimp only
  rw [except_bind_of_ok rfl, except_bind_of_ok hmemories, except_bind_of_ok hrecord, except_bind_of_ok hsorted]
  exact ⟨_, rfl, rfl⟩

theorem extendGraph_sample : ∃ added snapshot graph', additionalNodes decimalHost complexRecords = .ok added ∧
    buildVectorSnapshot decimalHost
      (.dict [("nodes", .list ([Json.dict emptyRetrieval] ++ added.map (baseNode decimalHost)))]) (.str queryText) =
        .ok snapshot ∧ snapshot.expectedResults = fidelityResults ∧
    extendGraphForComplexAgent decimalHost retrievalGraph complexRecords = .ok graph' := by
  obtain ⟨added, hadded, hmemories⟩ : ∃ added, additionalNodes decimalHost complexRecords = .ok added ∧
      memoryNodes decimalHost
        (.dict [("nodes", .list ([Json.dict emptyRetrieval] ++ added.map (baseNode decimalHost)))]) =
          .ok [baseNode decimalHost (complexFidelityNode decimalHost)] := ⟨_, rfl, rfl⟩
  obtain ⟨snapshot, hsnapshot, hresults⟩ := buildVectorSnapshot_sample hmemories
  obtain ⟨fields, hextended⟩ : ∃ fields, addComplexNodes decimalHost retrievalGraph complexRecords =
    .ok (.dict fields) := ⟨_, rfl⟩
  have hgraph : retrievalGraph.item "nodes" = .ok (.list [.dict emptyRetrieval]) := rfl
  obtain ⟨added', hadded', hnodes⟩ := addComplexNodes_nodes hgraph hextended
  cases hadded.symm.trans hadded'
  have hitems : (Json.list ([Json.dict emptyRetrieval] ++ added.map (baseNode decimalHost))).iterate =
    .ok ([Json.dict emptyRetrieval] ++ added.map (baseNode decimalHost)) := rfl
  have hvalid := hashValid_added hashValid_emptyRetrieval hadded
  obtain ⟨nodes', hnodes', _⟩ := exists_mapM_ok fun node hmem =>
    exists_setVectorResults snapshot.expectedResults (hvalid node hmem)
  obtain ⟨graph', hgraph'⟩ : ∃ graph',
      extendGraphForComplexAgent decimalHost retrievalGraph complexRecords = .ok graph' := by
    rw [extendGraphForComplexAgent, except_bind_of_ok hextended,
      except_bind_of_ok ((buildVectorSnapshot_congr hnodes rfl).trans hsnapshot), except_bind_of_ok hnodes,
      except_bind_of_ok hitems, except_bind_of_ok hnodes']
    exact ⟨_, rfl⟩
  exact ⟨added, snapshot, graph', hadded, hsnapshot, hresults, hgraph'⟩

/-- A payload of results and their kind is in order. -/
theorem sha256Json_results {results : Json Int} (h : sortKeys results = results) :
    sha256Json decimalHost (.dict [("results", results), ("retrieval_kind", .str "vector")]) =
      sha256Bytes decimalHost (asBytes (String.ofList (dumpsChars decimalRepr .compact
        (.dict [("results", results), ("retrieval_kind", .str "vector")])))) := by
  have hsorted : sortKeys (.dict [("results", results), ("retrieval_kind", .str "vector")]) =
      .dict [("results", results), ("retrieval_kind", .str "vector")] := by
    rw [sortKeys_dict, sortedFields_of_sorted]
    · simp [h, sortKeys]
    · simp [keyLe]
  rw [sha256Json, jsonDumpsSorted, hsorted]
  rfl

theorem sortKeys_fidelityResults : sortKeys fidelityResults = fidelityResults := by
  rw [fidelityResults, sortKeys_list, List.map_singleton, sortKeys_dict, sortedFields_of_sorted]
  · simp [sortKeys]
  · simp [keyLe]

theorem fidelityResults_noticed : sha256Json decimalHost
      (.dict (nodeContentPayload (dictInsert emptyRetrieval "results" fidelityResults))) ≠
    sha256Json decimalHost (.dict (nodeContentPayload emptyRetrieval)) := by
  have hafter : nodeContentPayload (dictInsert emptyRetrieval "results" fidelityResults) =
    [("results", fidelityResults), ("retrieval_kind", .str "vector")] := rfl
  have hbefore : nodeContentPayload emptyRetrieval = [("results", .list []), ("retrieval_kind", .str "vector")] := rfl
  rw [hafter, hbefore, sha256Json_results sortKeys_fidelityResults, sha256Json_results rfl]
  decide +kernel

/-- A graph whose one retrieval has a valid hash is extended, and the hash is valid no longer. -/
theorem retrievalGraph_stale : NodesValid decimalHost retrievalGraph ∧ ∃ graph',
    extendGraphForComplexAgent decimalHost retrievalGraph complexRecords = .ok graph' ∧
      ¬NodesValid decimalHost graph' := by
  refine ⟨⟨_, rfl, hashValid_emptyRetrieval⟩, ?_⟩
  obtain ⟨added, snapshot, graph', hadded, hsnapshot, hresults, hgraph'⟩ := extendGraph_sample
  refine ⟨graph', hgraph', ?_⟩
  obtain ⟨added', snapshot', hadded', hsnapshot', hiff⟩ := extendGraph_valid_iff rfl hashValid_emptyRetrieval hgraph'
  cases hadded.symm.trans hadded'
  cases hsnapshot.symm.trans hsnapshot'
  intro hvalid
  have hkept := hiff.mp hvalid (.dict emptyRetrieval) (List.mem_append_left _ (List.mem_singleton_self _)) _ rfl
    ⟨rfl, rfl⟩
  rw [hresults] at hkept
  exact fidelityResults_noticed hkept

/-- A tool call that is still to be made. -/
def pendingCall : Fields Int :=
  [("id", .str readToolId), ("type", .str "tool_call"),
    ("content_hash", .str (sha256Json decimalHost (.dict [("status", .str "not_started")]))),
    ("status", .str "not_started")]

def pendingGraph : Json Int := .dict [("nodes", .list [.dict pendingCall])]

theorem sampleHashes_kept :
    (∃ (added : List (GraphNode Int)) (graph' : Json Int),
      extendGraphForComplexAgent decimalHost retrievalGraph complexRecords = .ok graph' ∧
      baseNode decimalHost (complexEvidenceNode decimalHost) ∈
        [Json.dict emptyRetrieval] ++ added.map (baseNode decimalHost)) ∧
    ∃ graph', markToolCallCompleted decimalHost pendingGraph readToolId "not_required" = .ok graph' ∧
      NodesValid decimalHost graph' := by
  have hpending : ∀ node ∈ [Json.dict pendingCall], HashValid decimalHost node := by
    intro node hmem
    rw [List.mem_singleton.mp hmem]
    exact ⟨_, rfl, rfl⟩
  refine ⟨?_, _, rfl, (contentHashes_kept (rfl : pendingGraph.item "nodes" = .ok (.list [.dict pendingCall]))
    hpending).2.1 readToolId "not_required" _ rfl⟩
  obtain ⟨_, _, graph', _, _, _, hgraph'⟩ := extendGraph_sample
  obtain ⟨added, _, _, _, _, hmem, _⟩ := (contentHashes_kept
    (rfl : retrievalGraph.item "nodes" = .ok (.list [.dict emptyRetrieval])) hashValid_emptyRetrieval).1 _ _ hgraph'
  exact ⟨added, graph', hgraph', hmem⟩

end Sample

end PermeantOS
