import PermeantOS.AgentGraph

namespace PermeantOS

variable {P : Type} (host : AgentHost P)

/-- A memory node whose embedding is of the model. -/
def usesModel (node : Json P) : Bool :=
  match node.get "embedding_model" with
  | .ok model => pyEq host model (.str embeddingModel)
  | .error _ => false

/-- The record of a memory node, with the embedding of its text. -/
def IsRecordOf (node : Json P) (record : VectorRecord P) : Prop :=
  node.item "id" = .ok record.nodeId ∧ ∃ text, memoryText host node = .ok text ∧
    record.embedding = deterministicEmbedding host text ∧
    record.embeddingHash = embeddingHash host (deterministicEmbedding host text)

/-- The last of some nodes that has an id. -/
def LastWithId (nodes : List (Json P)) (nodeId node : Json P) : Prop :=
  ∃ front back, nodes = front ++ node :: back ∧ HasId node ∧ ∀ other ∈ back, ¬HasId other
where
  HasId (node : Json P) : Prop := ∃ found, node.item "id" = .ok found ∧ pyEq host found nodeId = true

/-- A node id with its score. -/
def scoreOf (query : String) (record : VectorRecord P) : Json P × P :=
  (record.nodeId, host.round8 (cosineSimilarity host (deterministicEmbedding host query) record.embedding))

def rankedResult (entry : (Json P × P) × Nat) : Json P :=
  .dict [("node_id", entry.1.1), ("rank", .int (entry.2 + 1)), ("score", .float entry.1.2)]

variable {host}

section Snapshot

variable {nodes : List (Json P)} {records : List (VectorRecord P)}

theorem vectorRecords_ok (h : vectorRecords host nodes = .ok records) :
    List.Forall₂ (IsRecordOf host) (nodes.filter (usesModel host)) records := by
  induction nodes generalizing records with
  | nil =>
    cases h
    exact .nil
  | cons node nodes ih =>
    obtain ⟨model, hmodel, h⟩ := except_bind_ok_iff.mp h
    have huses : usesModel host node = pyEq host model (.str embeddingModel) := by rw [usesModel, hmodel]
    split at h
    next hsame =>
      obtain ⟨text, htext, h⟩ := except_bind_ok_iff.mp h
      obtain ⟨nodeId, hid, h⟩ := except_bind_ok_iff.mp h
      obtain ⟨textHash, _, h⟩ := except_bind_ok_iff.mp h
      obtain ⟨rest, hrest, h⟩ := except_bind_ok_iff.mp h
      cases h
      rw [List.filter_cons_of_pos (huses.trans hsame)]
      exact .cons ⟨hid, text, htext, rfl, rfl⟩ (ih hrest)
    next hother =>
      rw [List.filter_cons_of_neg (huses ▸ hother)]
      exact ih h

theorem perm_of_sortedResults {results ranking : List (Json P × P)} (h : sortedResults host results = .ok ranking) :
    ranking.Perm results := by
  rw [sortedResults] at h
  split at h
  next =>
    cases h
    exact List.mergeSort_perm _ _
  next => cases h

/-- A snapshot has one record for each memory node of the model, and ranks them. -/
theorem buildVectorSnapshot_ok {graph queryText : Json P} {snapshot : VectorSnapshot P}
    (h : buildVectorSnapshot host graph queryText = .ok snapshot) :
    ∃ query nodes, ∃ ranking : List (Json P × P), queryText = .str query ∧ memoryNodes host graph = .ok nodes ∧
      List.Forall₂ (IsRecordOf host) (nodes.filter (usesModel host)) snapshot.records ∧
      sortedResults host (snapshot.records.map (scoreOf host query)) = .ok ranking ∧
      snapshot.expectedResults = .list (ranking.zipIdx.map rankedResult) := by
  cases queryText with
  | str query =>
    obtain ⟨_, hquery, h⟩ := except_bind_ok_iff.mp h
    cases hquery
    obtain ⟨nodes, hnodes, h⟩ := except_bind_ok_iff.mp h
    obtain ⟨records, hrecords, h⟩ := except_bind_ok_iff.mp h
    obtain ⟨ranking, hranking, h⟩ := except_bind_ok_iff.mp h
    cases h
    exact ⟨query, nodes, ranking, rfl, hnodes, vectorRecords_ok hrecords, hranking, rfl⟩
  | null | bool _ | int _ | float _ | list _ | dict _ => cases h

end Snapshot

section Records

variable {nodes : List (Json P)} {snapshot : VectorSnapshot P} {record : Json P}

theorem lastWithKey_ok {X : Type} {key : X → Json P} {xs : List X} {value : Json P} {x : X}
    (h : lastWithKey host key xs value = .ok (some x)) :
    ∃ front back, xs = front ++ x :: back ∧ pyEq host (key x) value = true ∧
      ∀ other ∈ back, pyEq host (key other) value = false := by
  rw [lastWithKey] at h
  split at h
  next =>
    obtain ⟨hfound, back, front, hsplit, hback⟩ := List.find?_eq_some_iff_append.mp (Except.ok.inj h)
    refine ⟨front.reverse, back.reverse, ?_, hfound, ?_⟩
    · rw [← List.reverse_reverse xs, hsplit, List.reverse_append, List.reverse_cons, List.append_assoc,
        List.singleton_append]
    · intro other hmem
      simpa using hback other (List.mem_reverse.mp hmem)
  next => cases h

/-- What the check of a record says about the nodes of its id. -/
theorem checkVectorRecord_ok {memories : List (Json P × Json P)}
    (h : checkVectorRecord host snapshot memories record = .ok ()) :
    ∃ nodeId front back expected memory before after, record.item "node_id" = .ok nodeId ∧
      snapshot.records = front ++ expected :: back ∧ pyEq host expected.nodeId nodeId = true ∧
      (∀ other ∈ back, pyEq host other.nodeId nodeId = false) ∧
      memories = before ++ memory :: after ∧ pyEq host memory.1 nodeId = true ∧
      (∀ other ∈ after, pyEq host other.1 nodeId = false) ∧
      memory.2.get "embedding_hash" = .ok (.str expected.embeddingHash) ∧
      record.get "embedding_hash" = .ok (.str expected.embeddingHash) := by
  obtain ⟨nodeId, hget, h⟩ := except_bind_ok_iff.mp h
  obtain ⟨found, hfound, h⟩ := except_bind_ok_iff.mp h
  cases found with
  | none => cases h
  | some expected =>
    obtain ⟨recordId, hitem, h⟩ := except_bind_ok_iff.mp h
    obtain ⟨known, hknown, h⟩ := except_bind_ok_iff.mp h
    cases known with
    | none => cases h
    | some memory =>
      obtain ⟨memoryHash, hmemory, h⟩ := except_bind_ok_iff.mp h
      obtain ⟨hsame, h⟩ := except_bind_unit_ok_iff.mp h
      obtain ⟨recordHash, hrecord, hchecked⟩ := except_bind_ok_iff.mp h
      rw [refuseIf_ok_iff, Bool.not_eq_false', pyEq_str_iff] at hsame hchecked
      subst hsame hchecked
      cases Except.ok.inj (hget.symm.trans (Json.get_of_item hitem))
      obtain ⟨front, back, hrecords, heq, hlast⟩ := lastWithKey_ok hfound
      obtain ⟨before, after, hmemories, heq', hlast'⟩ := lastWithKey_ok hknown
      exact ⟨_, front, back, expected, memory, before, after, hitem, hrecords, heq, hlast, hmemories, heq', hlast',
        hmemory, hrecord⟩

end Records

section Verified

variable {graph manifest vectorMemory : Json P} {report : VectorReport P} {nodes : List (Json P)}

theorem split_of_forall₂ {α β : Type} {R : α → β → Prop} {xs : List α} {front back : List β} {y : β}
    (h : List.Forall₂ R xs (front ++ y :: back)) :
    ∃ before x after, xs = before ++ x :: after ∧ R x y ∧ List.Forall₂ R after back := by
  induction front generalizing xs with
  | nil =>
    obtain ⟨x, after, hxy, hafter, rfl⟩ := List.forall₂_cons_right_iff.mp h
    exact ⟨[], x, after, rfl, hxy, hafter⟩
  | cons _ front ih =>
    obtain ⟨x, rest, _, hrest, rfl⟩ := List.forall₂_cons_right_iff.mp h
    obtain ⟨before, found, after, rfl, hfound, hafter⟩ := ih hrest
    exact ⟨x :: before, found, after, rfl, hfound, hafter⟩

/-- The last of some values that has an id stands for the last node that has it. -/
theorem lastWithId_of_forall₂ {β : Type} {R : Json P → β → Prop} {key : β → Json P} {front back : List β} {y : β}
    {nodeId : Json P} (h : List.Forall₂ R nodes (front ++ y :: back))
    (hkey : ∀ node other, R node other → node.item "id" = .ok (key other)) (hy : pyEq host (key y) nodeId = true)
    (hback : ∀ other ∈ back, pyEq host (key other) nodeId = false) :
    ∃ node, LastWithId host nodes nodeId node ∧ R node y := by
  obtain ⟨before, node, after, rfl, hnode, hafter⟩ := split_of_forall₂ h
  refine ⟨node, ⟨before, after, rfl, ⟨key y, hkey node y hnode, hy⟩, ?_⟩, hnode⟩
  rintro other hmem ⟨found, hfound, heq⟩
  obtain ⟨value, hvalue, hother⟩ := exists_of_forall₂ hafter hmem
  cases Except.ok.inj (hfound.symm.trans (hkey other value hother))
  rw [hback value hvalue] at heq
  cases heq

variable (host) in
/-- A record whose id is that of a memory node of the model, with the hash of that node's embedding, which the
memory node of this id has too. -/
def RecordChecked (nodes : List (Json P)) (record : Json P) : Prop :=
  ∃ nodeId source named text, record.item "node_id" = .ok nodeId ∧
    LastWithId host (nodes.filter (usesModel host)) nodeId source ∧ LastWithId host nodes nodeId named ∧
    memoryText host source = .ok text ∧
    record.get "embedding_hash" = .ok (.str (embeddingHash host (deterministicEmbedding host text))) ∧
    named.get "embedding_hash" = record.get "embedding_hash"

theorem recordChecked_of_ok {snapshot : VectorSnapshot P} {memories : List (Json P × Json P)} {record : Json P}
    (hsnapshot : List.Forall₂ (IsRecordOf host) (nodes.filter (usesModel host)) snapshot.records)
    (hmemories : List.Forall₂ (fun node memory => node.item "id" = .ok memory.1 ∧ memory.2 = node) nodes memories)
    (h : checkVectorRecord host snapshot memories record = .ok ()) : RecordChecked host nodes record := by
  obtain ⟨nodeId, front, back, expected, memory, before, after, hitem, hrecords, hexpected, hback, hknown, hmemory,
    hafter, hnode, hrecord⟩ := checkVectorRecord_ok h
  rw [hrecords] at hsnapshot
  rw [hknown] at hmemories
  obtain ⟨source, hsource, _, text, htext, _, hhash⟩ :=
    lastWithId_of_forall₂ hsnapshot (fun _ _ hof => hof.1) hexpected hback
  obtain ⟨named, hnamed, _, hsame⟩ := lastWithId_of_forall₂ hmemories (fun _ _ hof => hof.1) hmemory hafter
  rw [hhash] at hrecord hnode
  rw [hsame] at hnode
  exact ⟨nodeId, source, named, text, hitem, hsource, hnamed, htext, hrecord, hnode.trans hrecord.symm⟩

theorem validateVectorMemory_verified (h : validateVectorMemory host graph manifest = .ok report)
    (hstatus : report.status = "verified") :
    ∃ vectorMemory, manifest.get "vector_memory" = .ok vectorMemory ∧
      checkVectorSnapshot host graph vectorMemory = .ok report := by
  have hrebind : "rebind_required" ≠ "verified" := by decide
  have habsent : "not_present" ≠ "verified" := by decide
  obtain ⟨vectorMemory, hmemory, h⟩ := except_bind_ok_iff.mp h
  refine ⟨vectorMemory, hmemory, ?_⟩
  split at h
  next =>
    obtain ⟨mode, _, h⟩ := except_bind_ok_iff.mp h
    split at h
    next =>
      obtain ⟨rebind, _, h⟩ := except_bind_ok_iff.mp h
      obtain ⟨_, h⟩ := except_bind_unit_ok_iff.mp h
      obtain ⟨storeRef, _, h⟩ := except_bind_ok_iff.mp h
      obtain ⟨model, _, h⟩ := except_bind_ok_iff.mp h
      cases h
      exact absurd hstatus hrebind
    next =>
      split at h
      next => exact h
      next => cases h
  next =>
    cases h
    exact absurd hstatus habsent

/-- Verified vector memory lists only memory nodes of the model, with the hashes of their embeddings, and the
ranking that it expects has each of them. -/
theorem verified_vectorMemory (h : validateVectorMemory host graph manifest = .ok report)
    (hstatus : report.status = "verified") :
    ∃ vectorMemory query nodes, manifest.get "vector_memory" = .ok vectorMemory ∧
      vectorMemory.item "query_text" = .ok (.str query) ∧ memoryNodes host graph = .ok nodes ∧
      (∃ found records, vectorMemory.getOr "records" (.list []) = .ok found ∧ found.iterate = .ok records ∧
        ∀ record ∈ records, RecordChecked host nodes record) ∧
      ∃ expected results, ∃ ranking : List (Json P × P),
        List.Forall₂ (IsRecordOf host) (nodes.filter (usesModel host)) expected ∧
        sortedResults host (expected.map (scoreOf host query)) = .ok ranking ∧
        ranking.Perm (expected.map (scoreOf host query)) ∧
        vectorMemory.get "expected_results" = .ok results ∧
        pyEq host results (.list (ranking.zipIdx.map rankedResult)) = true := by
  obtain ⟨vectorMemory, hvector, h⟩ := validateVectorMemory_verified h hstatus
  obtain ⟨model, _, h⟩ := except_bind_ok_iff.mp h
  obtain ⟨_, h⟩ := except_bind_unit_ok_iff.mp h
  obtain ⟨dim, _, h⟩ := except_bind_ok_iff.mp h
  obtain ⟨_, h⟩ := except_bind_unit_ok_iff.mp h
  obtain ⟨metric, _, h⟩ := except_bind_ok_iff.mp h
  obtain ⟨_, h⟩ := except_bind_unit_ok_iff.mp h
  obtain ⟨queryText, hquery, h⟩ := except_bind_ok_iff.mp h
  obtain ⟨snapshot, hsnapshot, h⟩ := except_bind_ok_iff.mp h
  obtain ⟨nodes, hnodes, h⟩ := except_bind_ok_iff.mp h
  obtain ⟨memories, hmemories, h⟩ := except_bind_ok_iff.mp h
  obtain ⟨found, hfound, h⟩ := except_bind_ok_iff.mp h
  obtain ⟨records, hrecords, h⟩ := except_bind_ok_iff.mp h
  obtain ⟨hchecked, h⟩ := except_bind_unit_ok_iff.mp h
  obtain ⟨results, hresults, h⟩ := except_bind_ok_iff.mp h
  obtain ⟨hsame, _⟩ := except_bind_unit_ok_iff.mp h
  obtain ⟨query, listed, ranking, rfl, hlisted, hexpected, hranking, hlist⟩ := buildVectorSnapshot_ok hsnapshot
  cases hnodes.symm.trans hlisted
  rw [refuseIf_ok_iff, Bool.not_eq_false', hlist] at hsame
  have hpairs : List.Forall₂ (fun node memory => node.item "id" = .ok memory.1 ∧ memory.2 = node) nodes memories := by
    refine (mapM_ok_iff.mp hmemories).imp ?_
    intro node memory hpair
    obtain ⟨nodeId, hid, hpair⟩ := except_bind_ok_iff.mp hpair
    cases hpair
    exact ⟨hid, rfl⟩
  refine ⟨vectorMemory, query, nodes, hvector, hquery, hnodes, ⟨found, records, hfound, hrecords, ?_⟩,
    snapshot.records, results, ranking, hexpected, hranking, perm_of_sortedResults hranking, hresults, hsame⟩
  intro record hmem
  obtain ⟨k, hk⟩ := List.mem_iff_getElem?.mp hmem
  exact recordChecked_of_ok hexpected hpairs (checkEach_ok_iff.mp hchecked k record hk)

end Verified

section Examples

/-- A memory node of the model, with the hash of its embedding. -/
def rememberedNode : Json Int :=
  .dict [("id", .str "memory:a"), ("type", .str "memory"), ("embedding_model", .str embeddingModel),
    ("subject", .str "a"),
    ("embedding_hash", .str (embeddingHash decimalHost (deterministicEmbedding decimalHost "a")))]

def rememberedGraph : Json Int := .dict [("nodes", .list [rememberedNode])]

/-- Vector memory that expects the node to be found, with some records. -/
def rememberedManifest (records : List (Json Int)) : Json Int :=
  .dict [("vector_memory", .dict [("mode", .str "snapshot"), ("vector_store_ref", .str vectorStoreRef),
    ("embedding_model", .str embeddingModel), ("embedding_dim", .int embeddingDim),
    ("distance_metric", .str "cosine"), ("query_text", .str "a"), ("query_hash", .str ""),
    ("records", .list records), ("expected_results", .list [.dict [("node_id", .str "memory:a"),
      ("rank", .int 1), ("score", .float (10 ^ 20))]])])]

def IsVerified (graph manifest : Json Int) : Prop :=
  ∃ report, validateVectorMemory decimalHost graph manifest = .ok report ∧ report.status = "verified"

/-- A record of the memory node with an empty embedding. -/
def emptyEmbedding : Json Int :=
  .dict [("node_id", .str "memory:a"), ("embedding", .list []),
    ("embedding_hash", .str (embeddingHash decimalHost (deterministicEmbedding decimalHost "a")))]

theorem isVerified_of_status {graph manifest : Json Int}
    (h : (validateVectorMemory decimalHost graph manifest).toOption.map (·.status) = some "verified") :
    IsVerified graph manifest := by
  cases hreport : validateVectorMemory decimalHost graph manifest with
  | error e =>
    rw [hreport] at h
    cases h
  | ok report =>
    rw [hreport] at h
    exact ⟨report, hreport, Option.some.inj h⟩

theorem isVerified_nil : IsVerified rememberedGraph (rememberedManifest []) :=
  isVerified_of_status (by decide +kernel)

theorem isVerified_emptyEmbedding : IsVerified rememberedGraph (rememberedManifest [emptyEmbedding]) :=
  isVerified_of_status (by decide +kernel)

theorem remembered_listed : ∃ vectorMemory nodes,
    (rememberedManifest [emptyEmbedding]).get "vector_memory" = .ok vectorMemory ∧
      memoryNodes decimalHost rememberedGraph = .ok nodes ∧
      ∃ found records, vectorMemory.getOr "records" (.list []) = .ok found ∧ found.iterate = .ok records ∧
        ∀ record ∈ records, RecordChecked decimalHost nodes record := by
  obtain ⟨report, hreport, hstatus⟩ := isVerified_emptyEmbedding
  obtain ⟨vectorMemory, _, nodes, hmemory, _, hnodes, hrecords, _⟩ := verified_vectorMemory hreport hstatus
  exact ⟨vectorMemory, nodes, hmemory, hnodes, hrecords⟩

/-- A memory node need not have a record, the embedding of a record need not have its hash, nor the query text that
of the query. -/
theorem unchecked_verified :
    (¬∀ graph manifest vectorMemory : Json Int, ∀ nodes records, IsVerified graph manifest →
      memoryNodes decimalHost graph = .ok nodes → manifest.get "vector_memory" = .ok vectorMemory →
      vectorMemory.item "records" = .ok (.list records) → ∀ node ∈ nodes.filter (usesModel decimalHost),
        ∃ record ∈ records, record.item "node_id" = node.item "id") ∧
    (¬∀ graph manifest vectorMemory : Json Int, ∀ records, IsVerified graph manifest →
      manifest.get "vector_memory" = .ok vectorMemory → vectorMemory.item "records" = .ok (.list records) →
      ∀ record ∈ records, ∀ embedding : List Int, record.item "embedding" = .ok (.list (embedding.map .float)) →
        record.item "embedding_hash" = .ok (.str (embeddingHash decimalHost embedding))) ∧
    ¬∀ graph manifest vectorMemory : Json Int, ∀ query, IsVerified graph manifest →
      manifest.get "vector_memory" = .ok vectorMemory → vectorMemory.item "query_text" = .ok (.str query) →
      vectorMemory.item "query_hash" = .ok (.str (sha256Bytes decimalHost (asBytes query))) := by
  refine ⟨?_, ?_, ?_⟩
  · intro h
    obtain ⟨record, hmem, _⟩ := h _ _ _ [rememberedNode] [] isVerified_nil rfl rfl rfl rememberedNode
      List.mem_cons_self
    cases hmem
  · intro h
    have hdiffer : embeddingHash decimalHost (deterministicEmbedding decimalHost "a") ≠
        embeddingHash decimalHost [] := by decide +kernel
    have hhash := h _ _ _ [emptyEmbedding] isVerified_emptyEmbedding rfl rfl emptyEmbedding List.mem_cons_self [] rfl
    exact hdiffer (Json.str.inj (Except.ok.inj hhash))
  · intro h
    have hdiffer : "" ≠ sha256Bytes decimalHost (asBytes "a") := by decide +kernel
    have hhash := h _ _ _ "a" isVerified_nil rfl rfl
    exact hdiffer (Json.str.inj (Except.ok.inj hhash))

end Examples

end PermeantOS
