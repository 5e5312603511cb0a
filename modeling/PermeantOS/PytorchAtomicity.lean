import PermeantOS.PytorchRun

namespace PermeantOS

variable {P T : Type}

section Atomicity

variable (host : AdapterHost P) (materialize : Json P → Except PyException T) (files : Except PyException Unit)

def LayerTaken (grouped : GroupedLayers P) (layerIndex : Int) : Prop :=
  ∃ summary, takenSummary host materialize grouped layerIndex = .ok summary

variable {host materialize files}

theorem mem_writtenLayersWith_cons_iff {grouped : GroupedLayers P} {first : Int} {layers : List Int} {layerIndex : Int}
    {tensors : T × T} : (layerIndex, tensors) ∈ writtenLayersWith host materialize grouped (first :: layers) ↔
      layerIndex = first ∧ layerTensors host materialize grouped first = .ok tensors ∨
      LayerTaken host materialize grouped first ∧
        (layerIndex, tensors) ∈ writtenLayersWith host materialize grouped layers := by
  rw [writtenLayersWith]
  cases hread : layerTensors host materialize grouped first with
  | error e =>
    have hfail : ¬LayerTaken host materialize grouped first := by
      rintro ⟨summary, htaken⟩
      rw [takenSummary, hread] at htaken
      cases htaken
    simp [hfail]
  | ok own =>
    dsimp only
    rw [List.mem_cons, Prod.mk.injEq, Except.ok.injEq, eq_comm (a := own)]
    cases htaken : takenSummary host materialize grouped first with
    | error e =>
      have hfail : ¬LayerTaken host materialize grouped first := by
        rintro ⟨summary, hok⟩
        rw [htaken] at hok
        cases hok
      simp [hfail]
    | ok summary =>
      have hdone : LayerTaken host materialize grouped first := ⟨summary, htaken⟩
      rw [and_iff_right hdone]

/-- A layer is written when its tensors can be read and the loop gets past all layers before it. -/
theorem mem_writtenLayersWith_iff {grouped : GroupedLayers P} {layers : List Int}
    (hsorted : layers.Pairwise (· < ·)) {layerIndex : Int} {tensors : T × T} :
    (layerIndex, tensors) ∈ writtenLayersWith host materialize grouped layers ↔
      layerIndex ∈ layers ∧ layerTensors host materialize grouped layerIndex = .ok tensors ∧
        ∀ before ∈ layers, before < layerIndex → LayerTaken host materialize grouped before := by
  induction layers with
  | nil => simp [writtenLayersWith]
  | cons first layers ih =>
    obtain ⟨hfirst, hsorted⟩ := List.pairwise_cons.mp hsorted
    rw [mem_writtenLayersWith_cons_iff, ih hsorted]
    constructor
    · rintro (⟨rfl, hread⟩ | ⟨htaken, hmem, hok, hall⟩)
      · refine ⟨List.mem_cons_self, hread, ?_⟩
        intro before hmem hlt
        rcases List.mem_cons.mp hmem with rfl | hmem
        · omega
        · have hafter := hfirst before hmem
          omega
      · exact ⟨List.mem_cons_of_mem _ hmem, hok, List.forall_mem_cons.mpr ⟨fun _ => htaken, hall⟩⟩
    · rintro ⟨hmem, hok, hall⟩
      obtain ⟨htaken, hall⟩ := List.forall_mem_cons.mp hall
      rcases List.mem_cons.mp hmem with rfl | hmem
      · exact .inl ⟨rfl, hok⟩
      · exact .inr ⟨htaken (hfirst layerIndex hmem), hmem, hok, hall⟩

/-- Writing tensors changes nothing exactly when the cache holds them. -/
theorem cacheAll_eq_self_iff {writes : List (Int × T × T)} (hnodup : (writes.map (·.1)).Nodup)
    (runtime : PytorchRuntime T) :
    cacheAll runtime writes = runtime ↔
      ∀ write ∈ writes, runtime.kvCache.lookup write.1 = some write.2 := by
  constructor
  · intro h write hwrite
    have hlookup := lookup_cacheAll_of_mem hnodup hwrite runtime
    rwa [h] at hlookup
  · intro h
    obtain ⟨hhashes, hsummaries⟩ := cacheAll_registeredHashes writes runtime
    have hcache : (cacheAll runtime writes).kvCache = runtime.kvCache := by
      apply Finmap.ext_lookup
      intro i
      by_cases hmem : ∃ tensors, (i, tensors) ∈ writes
      · obtain ⟨tensors, hmem⟩ := hmem
        rw [lookup_cacheAll_of_mem hnodup hmem, h _ hmem]
      · apply lookup_cacheAll_of_not_mem
        intro write hwrite heq
        exact hmem ⟨write.2, heq ▸ hwrite⟩
    cases hafter : cacheAll runtime writes
    cases runtime
    simp_all only

theorem finmap_insert_eq_self_iff {α : Type} {m : Finmap fun _ : String => α} {key : String} {value : α} :
    m.insert key value = m ↔ m.lookup key = some value := by
  constructor
  · intro h
    have hlookup := Finmap.lookup_insert (a := key) (b := value) m
    rwa [h] at hlookup
  · intro h
    apply Finmap.ext_lookup
    intro other
    by_cases heq : other = key
    · rw [heq, Finmap.lookup_insert, h]
    · rw [Finmap.lookup_insert_of_ne _ heq]

/-- A block that is recorded after its layers changes nothing exactly when all of it is there. -/
theorem recordBlock_cacheAll_eq_self_iff {writes : List (Int × T × T)} {runtime : PytorchRuntime T}
    {summary : BlockSummary} :
    recordBlock (cacheAll runtime writes) summary = runtime ↔ cacheAll runtime writes = runtime ∧
      summary.hash ∈ runtime.registeredHashes ∧
        runtime.blockSummaries.lookup summary.hash = some summary := by
  obtain ⟨hhashes, hsummaries⟩ := cacheAll_registeredHashes writes runtime
  constructor
  · intro h
    have hcache : (recordBlock (cacheAll runtime writes) summary).kvCache = runtime.kvCache :=
      congrArg PytorchRuntime.kvCache h
    rw [recordBlock] at hcache
    have hinsert := congrArg PytorchRuntime.registeredHashes h
    have hrecord := congrArg PytorchRuntime.blockSummaries h
    rw [recordBlock, hhashes] at hinsert
    rw [recordBlock, hsummaries] at hrecord
    refine ⟨?_, Finset.insert_eq_self.mp hinsert, finmap_insert_eq_self_iff.mp hrecord⟩
    cases hafter : cacheAll runtime writes
    cases runtime
    simp_all only
  · rintro ⟨hcache, hmem, hlookup⟩
    rw [hcache, recordBlock, Finset.insert_eq_self.mpr hmem, finmap_insert_eq_self_iff.mpr hlookup]

variable (host materialize files)

/-- The cache holds the tensors of every layer that the loop reaches and can read. -/
def HoldsReached (runtime : PytorchRuntime T) (grouped : GroupedLayers P) : Prop :=
  ∀ layerIndex ∈ grouped,
    (∀ before ∈ grouped, before < layerIndex → LayerTaken host materialize grouped before) →
      ∀ tensors, layerTensors host materialize grouped layerIndex = .ok tensors →
        runtime.kvCache.lookup layerIndex = some tensors

variable {host materialize files}

theorem cacheAll_writtenLayersWith_eq_self_iff {grouped : GroupedLayers P} {runtime : PytorchRuntime T} :
    cacheAll runtime (writtenLayersWith host materialize grouped (sortedLayers grouped)) = runtime ↔
      HoldsReached host materialize runtime grouped := by
  have hsorted : (sortedLayers grouped).Pairwise (· < ·) := (Finset.sortedLT_sort grouped.keys).pairwise
  rw [cacheAll_eq_self_iff (sortedLayers_nodup.sublist (writtenLayersWith_keys grouped _).sublist)]
  constructor
  · intro h layerIndex hmem hreached tensors hread
    exact h (layerIndex, tensors) ((mem_writtenLayersWith_iff hsorted).mpr
      ⟨mem_sortedLayers_iff.mpr hmem, hread, fun before hbefore => hreached before (mem_sortedLayers_iff.mp hbefore)⟩)
  · rintro h ⟨layerIndex, tensors⟩ hwrite
    obtain ⟨hmem, hread, hreached⟩ := (mem_writtenLayersWith_iff hsorted).mp hwrite
    exact h layerIndex (mem_sortedLayers_iff.mp hmem)
      (fun before hbefore => hreached before (mem_sortedLayers_iff.mpr hbefore)) tensors hread

theorem exists_takenSummaries_iff {grouped : GroupedLayers P} :
    (∃ layers, (sortedLayers grouped).mapM (takenSummary host materialize grouped) = .ok layers) ↔
      ∀ layerIndex ∈ grouped, LayerTaken host materialize grouped layerIndex := by
  constructor
  · rintro ⟨layers, h⟩ layerIndex hmem
    exact mapM_ok_forall h layerIndex (mem_sortedLayers_iff.mpr hmem)
  · intro h
    obtain ⟨layers, hlayers, _⟩ := exists_mapM_ok fun layerIndex hmem => h layerIndex (mem_sortedLayers_iff.mp hmem)
    exact ⟨layers, hlayers⟩

/-- A registration that raises leaves the runtime as it was exactly when it raises before the layers,
or what it wrote by then was there already. -/
theorem registerPermeantBlock_atomic_iff (payload : Json P) (runtime : PytorchRuntime T) :
    (∀ e after, (PytorchRuntime.registerPermeantBlockWith host materialize files payload).run runtime =
        .error e after → after = runtime) ↔
      ∀ blockHash grouped, requestLayers host payload = .ok (blockHash, grouped) →
        ((∀ layerIndex ∈ grouped, LayerTaken host materialize grouped layerIndex) ∧ files = .ok ()) ∨
        (HoldsReached host materialize runtime grouped ∧
          ∀ layers, (sortedLayers grouped).mapM (takenSummary host materialize grouped) = .ok layers →
            blockHash ∈ runtime.registeredHashes ∧
              runtime.blockSummaries.lookup blockHash = some ⟨blockHash, layers⟩) := by
  cases hrequest : requestLayers host payload with
  | error e =>
    constructor
    · intro _ blockHash grouped h
      cases h
    · intro _ e' after h
      rw [run_registerPermeantBlockWith_of_error hrequest] at h
      cases h
      rfl
  | ok request =>
    obtain ⟨blockHash, grouped⟩ := request
    rw [run_registerPermeantBlockWith hrequest]
    have hone (condition : String → GroupedLayers P → Prop) :
        (∀ hash layers, Except.ok (ε := PyException) (blockHash, grouped) = .ok (hash, layers) →
          condition hash layers) ↔ condition blockHash grouped := by
      constructor
      · intro h
        exact h blockHash grouped rfl
      · intro h hash layers heq
        cases heq
        exact h
    rw [hone, ← exists_takenSummaries_iff, ← cacheAll_writtenLayersWith_eq_self_iff]
    cases (sortedLayers grouped).mapM (takenSummary host materialize grouped) with
    | error e =>
      constructor
      · intro h
        exact .inr ⟨h e _ rfl, fun layers hok => by cases hok⟩
      · rintro (⟨⟨layers, hok⟩, _⟩ | ⟨hheld, _⟩) e' after h
        · cases hok
        · cases h
          exact hheld
    | ok layers =>
      cases hfiles : files with
      | ok done =>
        constructor
        · intro _
          exact .inl ⟨⟨layers, rfl⟩, rfl⟩
        · intro _ e' after h
          cases h
      | error e =>
        constructor
        · intro h
          obtain ⟨hheld, hmem, hlookup⟩ := recordBlock_cacheAll_eq_self_iff.mp (h e _ rfl)
          refine .inr ⟨hheld, ?_⟩
          intro layers' heq
          cases heq
          exact ⟨hmem, hlookup⟩
        · rintro (⟨_, hdone⟩ | ⟨hheld, hrecorded⟩) e' after h
          · cases hdone
          · cases h
            exact recordBlock_cacheAll_eq_self_iff.mpr ⟨hheld, hrecorded layers rfl⟩

/-- A layer 0 of one element, and a layer 1 whose value has none. -/
def tornPayload : Json F32 :=
  .dict [("hash", .str "a"), ("tensors", .list [elementTensor "layer.0.key" ⟨0x3f800000⟩,
    elementTensor "layer.0.value" ⟨0x3f800000⟩, elementTensor "layer.1.key" ⟨0x3f800000⟩,
    .dict [("name", .str "layer.1.value"), ("shape", .list [.int 1, .int 1, .int 1]), ("data", .list [])]])]

def tornLayers : GroupedLayers F32 :=
  ((requestLayers pythonAdapter tornPayload).toOption.map (·.2)).getD ∅

theorem requestLayers_tornPayload : requestLayers pythonAdapter tornPayload = .ok ("a", tornLayers) := by
  have hhash : (requestLayers pythonAdapter tornPayload).toOption.map (·.1) = some "a" := by decide +kernel
  unfold tornLayers
  cases hrequest : requestLayers pythonAdapter tornPayload with
  | error e =>
    rw [hrequest] at hhash
    cases hhash
  | ok request =>
    rw [hrequest] at hhash
    obtain ⟨hash, grouped⟩ := request
    cases hhash
    rfl

/-- The registration raises at layer 1, with layer 0 in the cache. -/
theorem tornPayload_not_atomic :
    ¬∀ e after, (PytorchRuntime.registerPermeantBlockWith pythonAdapter Except.ok (.ok ()) tornPayload).run
      (.empty : PytorchRuntime (Json F32)) = .error e after → after = .empty := by
  have hkeys : tornLayers.keys = {0, 1} := by decide +kernel
  have hread : (layerTensors pythonAdapter Except.ok tornLayers 0).toOption.isSome = true := by decide +kernel
  have hfail : (takenSummary pythonAdapter Except.ok tornLayers 1).toOption.isSome = false := by decide +kernel
  intro h
  rw [run_registerPermeantBlockWith requestLayers_tornPayload] at h
  cases hlayers : (sortedLayers tornLayers).mapM (takenSummary pythonAdapter Except.ok tornLayers) with
  | ok layers =>
    have hmem : (1 : Int) ∈ tornLayers := by
      rw [← Finmap.mem_keys, hkeys]
      decide
    obtain ⟨summary, htaken⟩ := exists_takenSummaries_iff.mp ⟨layers, hlayers⟩ 1 hmem
    rw [htaken] at hfail
    cases hfail
  | error e =>
    rw [hlayers] at h
    have hheld := cacheAll_writtenLayersWith_eq_self_iff.mp (h e _ rfl)
    have hmem : (0 : Int) ∈ tornLayers := by
      rw [← Finmap.mem_keys, hkeys]
      decide
    have hfirst : ∀ before ∈ tornLayers, before < 0 → LayerTaken pythonAdapter Except.ok tornLayers before := by
      intro before hbefore hlt
      rw [← Finmap.mem_keys, hkeys, Finset.mem_insert, Finset.mem_singleton] at hbefore
      omega
    cases htensors : layerTensors pythonAdapter Except.ok tornLayers 0 with
    | error e' =>
      rw [htensors] at hread
      cases hread
    | ok tensors =>
      have hlookup := hheld 0 hmem hfirst tensors htensors
      rw [PytorchRuntime.empty, Finmap.lookup_empty] at hlookup
      cases hlookup

end Atomicity

end PermeantOS
