import PermeantOS.Loops
import PermeantOS.VllmPlacements

namespace PermeantOS

variable {P E : Type}

section Pool

variable {host : CacheHost P E} {storage : CacheArray} {source : LayerSource P} {views : LayerViews}
  {layout : CombinedLayout} {ids : List Int}

/-- The block that a token of a source block goes to, before the allocation. -/
def CombinedLayout.logical (block token : Nat) : CombinedLayout → Nat
  | .splitTokenHeadDim tokens blocks => block * blocks + token / tokens
  | .splitHeadTokenDim tokens blocks => block * blocks + token / tokens
  | _ => block

def CombinedLayout.path (token head dim : Nat) : CombinedLayout → List Int
  | .tokenHeadDim => [token, head, dim]
  | .headTokenDim => [head, token, dim]
  | .splitTokenHeadDim tokens _ => [(token % tokens : Nat), head, dim]
  | .splitHeadTokenDim tokens _ => [head, (token % tokens : Nat), dim]
  | .unsupported => []

theorem CombinedLayout.path_nonneg (layout : CombinedLayout) (token head dim : Nat) :
    ∀ i ∈ layout.path token head dim, 0 ≤ i := by
  cases layout <;> simp [CombinedLayout.path] <;> omega

theorem mem_splitLog_iff {targetBlockIds : Option (List Int)} {arrange : Nat → Nat → Nat → List Int}
    {tokens blocks : Nat} {write : Cell × E} :
    write ∈ splitLog host storage source targetBlockIds arrange tokens blocks views ↔
      ∃ block < views.blockCount, ∃ token < views.blockSize, ∃ head < views.kvHeads,
        ∃ dim < views.headDim, ∃ element target,
          sourceValue source block head dim token = .ok element ∧
          targetBlockId ((block * blocks + token / tokens : Nat) : Int) targetBlockIds = .ok target ∧
          write ∈ elementLog host storage target (arrange (token % tokens) head dim) element := by
  simp only [splitLog, mem_logBelow_iff, mem_onOk_iff]
  constructor
  · rintro ⟨block, hb, token, ht, target, htarget, head, hh, dim, hd, element, he, h⟩
    exact ⟨block, hb, token, ht, head, hh, dim, hd, element, target, he, htarget, h⟩
  · rintro ⟨block, hb, token, ht, head, hh, dim, hd, element, target, he, htarget, h⟩
    exact ⟨block, hb, token, ht, target, htarget, head, hh, dim, hd, element, he, h⟩

theorem mem_layoutLog_iff {targetBlockIds : Option (List Int)} {write : Cell × E}
    (hs : layout ≠ .unsupported) :
    write ∈ layoutLog host storage source targetBlockIds views layout ↔
      ∃ block < views.blockCount, ∃ token < views.blockSize, ∃ head < views.kvHeads,
        ∃ dim < views.headDim, ∃ element target,
          sourceValue source block head dim token = .ok element ∧
          targetBlockId (layout.logical block token) targetBlockIds = .ok target ∧
          write ∈ elementLog host storage target (layout.path token head dim) element := by
  cases layout with
  | tokenHeadDim =>
    simp only [layoutLog, tokenHeadDimLog, mem_logBelow_iff, mem_onOk_iff]
    constructor
    · rintro ⟨block, hb, token, ht, head, hh, dim, hd, element, he, target, htarget, h⟩
      exact ⟨block, hb, token, ht, head, hh, dim, hd, element, target, he, htarget, h⟩
    · rintro ⟨block, hb, token, ht, head, hh, dim, hd, element, target, he, htarget, h⟩
      exact ⟨block, hb, token, ht, head, hh, dim, hd, element, he, target, htarget, h⟩
  | headTokenDim =>
    simp only [layoutLog, headTokenDimLog, mem_logBelow_iff, mem_onOk_iff]
    constructor
    · rintro ⟨block, hb, head, hh, token, ht, dim, hd, element, he, target, htarget, h⟩
      exact ⟨block, hb, token, ht, head, hh, dim, hd, element, target, he, htarget, h⟩
    · rintro ⟨block, hb, token, ht, head, hh, dim, hd, element, target, he, htarget, h⟩
      exact ⟨block, hb, head, hh, token, ht, dim, hd, element, he, target, htarget, h⟩
  | splitTokenHeadDim tokens blocks =>
    simp only [layoutLog, mem_splitLog_iff, CombinedLayout.logical, CombinedLayout.path]
  | splitHeadTokenDim tokens blocks =>
    simp only [layoutLog, mem_splitLog_iff, CombinedLayout.logical, CombinedLayout.path]
  | unsupported => exact absurd rfl hs

theorem splitsEvenly_ok_true_iff {sizes : Bool} {blockSize tokens : Nat} :
    splitsEvenly sizes blockSize tokens = .ok true ↔
      sizes = true ∧ tokens ≠ 0 ∧ blockSize % tokens = 0 := by
  unfold splitsEvenly
  cases sizes <;> by_cases ht : tokens = 0 <;> simp [ht]

/-- The blocks of a split layout make up the source block. -/
def CombinedLayout.FillsBlock (blockSize : Nat) : CombinedLayout → Prop
  | .splitTokenHeadDim tokens blocks => blockSize = blocks * tokens
  | .splitHeadTokenDim tokens blocks => blockSize = blocks * tokens
  | _ => True

theorem eq_div_mul_of_mod {a b : Nat} (h : a % b = 0) : a = a / b * b := by
  have hdm := Nat.div_add_mod a b
  rw [Nat.mul_comm] at hdm
  omega

theorem combinedLayout_fillsBlock {shape : List Nat} (h : combinedLayout shape views = .ok layout) :
    layout.FillsBlock views.blockSize := by
  unfold combinedLayout at h
  split at h
  next a b c =>
    split at h
    next => cases h; trivial
    split at h
    next => cases h; trivial
    obtain ⟨first, hfirst, h⟩ := except_bind_ok_iff.mp h
    split at h
    next heven =>
      cases h
      rw [heven, splitsEvenly_ok_true_iff] at hfirst
      exact eq_div_mul_of_mod hfirst.2.2
    next =>
      obtain ⟨second, hsecond, h⟩ := except_bind_ok_iff.mp h
      split at h
      next heven =>
        cases h
        rw [heven, splitsEvenly_ok_true_iff] at hsecond
        exact eq_div_mul_of_mod hsecond.2.2
      next => cases h; trivial
  next => cases h; trivial

/-- A block and a token are determined by the target block and the place in it. -/
theorem split_indices_eq {blocks tokens size block token block' token' : Nat}
    (hsize : size = blocks * tokens) (ht : token < size) (ht' : token' < size)
    (hsum : block * blocks + token / tokens = block' * blocks + token' / tokens)
    (hmod : token % tokens = token' % tokens) : block = block' ∧ token = token' := by
  have hlt : token / tokens < blocks := Nat.div_lt_of_lt_mul (by rwa [Nat.mul_comm, ← hsize])
  have hlt' : token' / tokens < blocks := Nat.div_lt_of_lt_mul (by rwa [Nat.mul_comm, ← hsize])
  have hblock : block = block' := by
    rw [← mul_add_div_of_lt (a := block) hlt, hsum, mul_add_div_of_lt hlt']
  refine ⟨hblock, ?_⟩
  have hdiv : token / tokens = token' / tokens := by
    rw [hblock] at hsum
    omega
  rw [← Nat.div_add_mod token tokens, hdiv, hmod, Nat.div_add_mod]

/-- Equal places come from equal indices. -/
theorem CombinedLayout.indices_eq (hl : combinedLayout storage.shape views = .ok layout)
    (hs : layout ≠ .unsupported) {block token head dim block' token' head' dim' : Nat}
    (ht : token < views.blockSize) (ht' : token' < views.blockSize)
    (hlogical : layout.logical block token = layout.logical block' token')
    (hpath : layout.path token head dim = layout.path token' head' dim') :
    block = block' ∧ token = token' ∧ head = head' ∧ dim = dim' := by
  have hfills := combinedLayout_fillsBlock hl
  cases layout with
  | tokenHeadDim =>
    simp only [CombinedLayout.logical, CombinedLayout.path, List.cons.injEq, Nat.cast_inj] at hlogical hpath
    tauto
  | headTokenDim =>
    simp only [CombinedLayout.logical, CombinedLayout.path, List.cons.injEq, Nat.cast_inj] at hlogical hpath
    tauto
  | splitTokenHeadDim tokens blocks =>
    simp only [CombinedLayout.logical, CombinedLayout.path, List.cons.injEq, Nat.cast_inj] at hlogical hpath
    have hsame := split_indices_eq hfills ht ht' hlogical hpath.1
    tauto
  | splitHeadTokenDim tokens blocks =>
    simp only [CombinedLayout.logical, CombinedLayout.path, List.cons.injEq, Nat.cast_inj] at hlogical hpath
    have hsame := split_indices_eq hfills ht ht' hlogical hpath.2.1
    tauto
  | unsupported => exact absurd rfl hs

/-- The block of a cell, as a number of the code. -/
def Cell.targetBlock (cell : Cell) : Option Int := (cell.2.map fun (n : Nat) => (n : Int)).head?

/-- Logical blocks go to blocks of the cache that are counted from its front, and no two to one. -/
def DistinctTargets (targetBlockIds : Option (List Int)) : Prop :=
  ∀ (k : Nat) (target : Int), targetBlockId k targetBlockIds = .ok target →
    0 ≤ target ∧ ∀ k' : Nat, targetBlockId k' targetBlockIds = .ok target → k = k'

theorem distinctTargets_none : DistinctTargets none := by
  intro k target h
  cases Except.ok.inj h
  refine ⟨by omega, ?_⟩
  intro k' h'
  have := Except.ok.inj h'
  omega

theorem distinctTargets_some (hnodup : ids.Nodup) (hn : ∀ id ∈ ids, 0 ≤ id) :
    DistinctTargets (some ids) := by
  intro k target h
  rw [targetBlockId, pyIndex_natCast_ok_iff] at h
  refine ⟨hn target (List.mem_of_getElem? h), ?_⟩
  intro k' h'
  rw [targetBlockId, pyIndex_natCast_ok_iff] at h'
  obtain ⟨hlt, _⟩ := List.getElem?_eq_some_iff.mp h
  exact (List.getElem?_inj hlt hnodup).mp (h.trans h'.symm)

/-- A write of a layer is one of an element, to the block that its logical block goes to. -/
theorem mem_combinedLog {targetBlockIds : Option (List Int)} {write : Cell × E}
    (h : write ∈ combinedLog host storage source targetBlockIds) :
    ∃ views layout, layerBlockViews source = .ok views ∧
      combinedLayout storage.shape views = .ok layout ∧ layout ≠ .unsupported ∧
      write ∈ layoutLog host storage source targetBlockIds views layout := by
  obtain ⟨views, hviews, h⟩ := mem_onOk_iff.mp h
  obtain ⟨layout, hlayout, h⟩ := mem_onOk_iff.mp h
  refine ⟨views, layout, hviews, hlayout, ?_, h⟩
  rintro rfl
  cases h

theorem targetBlock_of_elementLog {target : Int} {token head dim : Nat} {element : P × P}
    {write : Cell × E} (ht : 0 ≤ target)
    (h : write ∈ elementLog host storage target (layout.path token head dim) element) :
    write.1.1 = storage.id ∧ Cell.targetBlock write.1 = some target := by
  obtain ⟨hid, ⟨hpath, _⟩ | ⟨hpath, _⟩⟩ := mem_elementLog h ht (layout.path_nonneg _ _ _)
  · exact ⟨hid, by rw [Cell.targetBlock, hpath]; rfl⟩
  · exact ⟨hid, by rw [Cell.targetBlock, hpath]; rfl⟩

theorem targetBlock_of_combinedLog (hn : ∀ id ∈ ids, 0 ≤ id) {write : Cell × E}
    (h : write ∈ combinedLog host storage source (some ids)) :
    write.1.1 = storage.id ∧ ∃ target ∈ ids, Cell.targetBlock write.1 = some target := by
  obtain ⟨views, layout, _, _, hs, h⟩ := mem_combinedLog h
  obtain ⟨block, _, token, _, head, _, dim, _, element, target, _, htarget, h⟩ :=
    (mem_layoutLog_iff hs).mp h
  have hmem : target ∈ ids := List.mem_of_getElem? (pyIndex_natCast_ok_iff.mp htarget)
  obtain ⟨hid, hblock⟩ := targetBlock_of_elementLog (hn target hmem) h
  exact ⟨hid, target, hmem, hblock⟩

/-- Into distinct target blocks a layer writes every cell once. -/
theorem combinedLog_consistent {targetBlockIds : Option (List Int)}
    (hdistinct : DistinctTargets targetBlockIds) :
    Consistent (combinedLog host storage source targetBlockIds) := by
  intro first hfirst second hsecond hcell
  obtain ⟨views, layout, hviews, hlayout, hsupported, hfirst⟩ := mem_combinedLog hfirst
  obtain ⟨views', layout', hviews', hlayout', _, hsecond⟩ := mem_combinedLog hsecond
  cases hviews.symm.trans hviews'
  cases hlayout.symm.trans hlayout'
  obtain ⟨block, _, token, ht, head, _, dim, _, element, target, he, htarget, hfirst⟩ :=
    (mem_layoutLog_iff hsupported).mp hfirst
  obtain ⟨block', _, token', ht', head', _, dim', _, element', target', he', htarget', hsecond⟩ :=
    (mem_layoutLog_iff hsupported).mp hsecond
  -- Equal paths give equal indices, and equal indices read the same element.
  have hsame : target :: layout.path token head dim = target' :: layout.path token' head' dim' →
      element = element' := by
    intro hpaths
    obtain ⟨rfl, hpath⟩ := List.cons.inj hpaths
    have hlogical := (hdistinct _ _ htarget).2 _ htarget'
    obtain ⟨rfl, rfl, rfl, rfl⟩ := CombinedLayout.indices_eq hlayout hsupported ht ht' hlogical hpath
    exact Except.ok.inj (he.symm.trans he')
  have hpos := (hdistinct _ _ htarget).1
  have hpos' := (hdistinct _ _ htarget').1
  obtain ⟨_, hone⟩ := mem_elementLog hfirst hpos (layout.path_nonneg _ _ _)
  obtain ⟨_, htwo⟩ := mem_elementLog hsecond hpos' (layout.path_nonneg _ _ _)
  rw [← hcell] at htwo
  rcases hone with ⟨hone, hx⟩ | ⟨hone, hx⟩ <;> rcases htwo with ⟨htwo, hy⟩ | ⟨htwo, hy⟩ <;>
    rw [hone] at htwo <;> simp only [List.cons.injEq] at htwo
  · rw [hx, hy, hsame (by rw [htwo.1, htwo.2.2])]
  · exact absurd htwo.2.1 (by decide)
  · exact absurd htwo.2.1 (by decide)
  · rw [hx, hy, hsame (by rw [htwo.1, htwo.2.2])]

variable {runtime : VllmRuntime}

def combinedArray (runtime : VllmRuntime) (layerMap : List (Int × String)) (layer : PreparedLayer P) :
    Option CacheArray :=
  match layerCache runtime layerMap layer with
  | .ok (_, .array storage) => if storage.shape.length = 5 then some storage else none
  | _ => none

/-- A registration into blocks of the pool: its layers go to combined caches, no two of them to one. -/
def FromPool (runtime : VllmRuntime) (call : RegistryCall P) (ids : List Int) : Prop :=
  ∃ layerMap, getLayerMap runtime = .ok layerMap ∧
    allocateTargetBlockIds runtime layerMap call = .ok (some ids) ∧
    (∀ layer ∈ call.layers, ∃ storage, combinedArray runtime layerMap layer = some storage) ∧
    call.layers.Pairwise fun a b => ∀ storage ∈ combinedArray runtime layerMap a,
      ∀ other ∈ combinedArray runtime layerMap b, storage.id ≠ other.id

def FreshIds (ids : List (List Int)) : Prop :=
  (∀ blocks ∈ ids, blocks.Nodup ∧ ∀ id ∈ blocks, 0 ≤ id) ∧ ids.Pairwise List.Disjoint

/-- Every registration of a run has its blocks from the pool. -/
def PoolRun (runtime : VllmRuntime) (calls : List (RegistryCall P)) : Prop :=
  ∃ ids, List.Forall₂ (FromPool runtime) calls ids ∧ FreshIds ids

theorem layer_log_of_combinedArray {layerMap : List (Int × String)} {layer : PreparedLayer P}
    (h : combinedArray runtime layerMap layer = some storage) (targetBlockIds : Option (List Int)) :
    (onOk (layerCache runtime layerMap layer) fun (_, cache) =>
      layerLog host layer.source targetBlockIds cache) =
        combinedLog host storage layer.source targetBlockIds := by
  unfold combinedArray at h
  split at h
  next name array heq =>
    split at h
    next hfive =>
      cases h
      rw [heq]
      simp only [onOk, layerLog, hfive, if_true]
    next => cases h
  next => cases h

theorem FromPool.placements_eq {call : RegistryCall P} (h : FromPool runtime call ids)
    (host : CacheHost P E) :
    ∃ layerMap, (∀ layer ∈ call.layers, ∃ storage,
        combinedArray runtime layerMap layer = some storage) ∧
      (call.layers.Pairwise fun a b => ∀ storage ∈ combinedArray runtime layerMap a,
        ∀ other ∈ combinedArray runtime layerMap b, storage.id ≠ other.id) ∧
      placements host runtime call = call.layers.flatMap fun layer =>
        onOk (layerCache runtime layerMap layer) fun (_, cache) =>
          layerLog host layer.source (some ids) cache := by
  obtain ⟨layerMap, hmap, hids, hcombined, hdistinct⟩ := h
  refine ⟨layerMap, hcombined, hdistinct, ?_⟩
  rw [placements, hmap, onOk, hids, onOk]

theorem FromPool.mem_placements {call : RegistryCall P} (h : FromPool runtime call ids)
    (hn : ∀ id ∈ ids, 0 ≤ id) {write : Cell × E} (hw : write ∈ placements host runtime call) :
    ∃ target ∈ ids, Cell.targetBlock write.1 = some target := by
  obtain ⟨layerMap, hcombined, _, heq⟩ := h.placements_eq host
  rw [heq] at hw
  obtain ⟨layer, hlayer, hw⟩ := List.mem_flatMap.mp hw
  obtain ⟨storage, hstorage⟩ := hcombined layer hlayer
  rw [layer_log_of_combinedArray hstorage] at hw
  exact (targetBlock_of_combinedLog hn hw).2

theorem FromPool.consistent {call : RegistryCall P} (h : FromPool runtime call ids)
    (hnodup : ids.Nodup) (hn : ∀ id ∈ ids, 0 ≤ id) : Consistent (placements host runtime call) := by
  obtain ⟨layerMap, hcombined, hdistinct, heq⟩ := h.placements_eq host
  rw [heq]
  apply consistent_flatMap
  · intro layer hlayer
    obtain ⟨storage, hstorage⟩ := hcombined layer hlayer
    rw [layer_log_of_combinedArray hstorage]
    exact combinedLog_consistent (distinctTargets_some hnodup hn)
  · refine hdistinct.imp_of_mem ?_
    intro a b ha hb hab first hfirst second hsecond hcell
    obtain ⟨storage, hstorage⟩ := hcombined a ha
    obtain ⟨other, hother⟩ := hcombined b hb
    rw [layer_log_of_combinedArray hstorage] at hfirst
    rw [layer_log_of_combinedArray hother] at hsecond
    apply hab storage hstorage other hother
    rw [← (targetBlock_of_combinedLog hn hfirst).1, ← (targetBlock_of_combinedLog hn hsecond).1, hcell]

/-- Registrations into fresh blocks do not write a cell twice. -/
theorem consistent_of_poolRun {calls : List (RegistryCall P)} (h : PoolRun runtime calls) :
    Consistent (calls.flatMap (placements host runtime)) := by
  obtain ⟨ids, hcalls, hfresh, hdisjoint⟩ := h
  induction hcalls with
  | nil => simp [Consistent]
  | @cons call blocks calls ids hcall hcalls ih =>
    obtain ⟨⟨hnodup, hn⟩, hrest⟩ := List.forall_mem_cons.mp hfresh
    obtain ⟨hapart, hdisjoint⟩ := List.pairwise_cons.mp hdisjoint
    rw [List.flatMap_cons]
    apply consistent_append (hcall.consistent hnodup hn) (ih hrest hdisjoint)
    intro first hfirst second hsecond hcell
    obtain ⟨other, hother, hsecond⟩ := List.mem_flatMap.mp hsecond
    obtain ⟨target, htarget, hblock⟩ := hcall.mem_placements hn hfirst
    obtain ⟨otherBlocks, hmem, hotherCall⟩ := exists_of_forall₂ hcalls hother
    obtain ⟨target', htarget', hblock'⟩ := hotherCall.mem_placements (hrest _ hmem).2 hsecond
    rw [← hcell, hblock] at hblock'
    cases hblock'
    exact hapart otherBlocks hmem htarget htarget'

end Pool

section Runs

variable {host : CacheHost P E} {limit : Int} {runtime : VllmRuntime}

/-- Registrations that all succeed, one after the other. -/
inductive Registers (host : CacheHost P E) (limit : Int) (runtime : VllmRuntime) :
    (Cell → E) → List (RegistryCall P) → (Cell → E) → Prop
  | nil {cells : Cell → E} : Registers host limit runtime cells [] cells
  | cons {cells next last : Cell → E} {call : RegistryCall P} {calls : List (RegistryCall P)}
      {registration : Registration}
      (registered : (directRegisterIntoKvCaches host limit runtime call).run cells =
        .ok registration next)
      (rest : Registers host limit runtime next calls last) :
      Registers host limit runtime cells (call :: calls) last

theorem Registers.cells_eq {cells last : Cell → E} {calls : List (RegistryCall P)}
    (h : Registers host limit runtime cells calls last) :
    last = applyWrites (calls.flatMap (placements host runtime)) cells := by
  induction h with
  | nil => rfl
  | @cons cells next last call calls registration hregistered _ ih =>
    rw [ih, stores_directRegister call cells registration next hregistered, List.flatMap_cons,
      applyWrites_append]

theorem Registers.placesAll {cells last : Cell → E} {calls : List (RegistryCall P)}
    (h : Registers host limit runtime cells calls last) :
    ∀ call ∈ calls, PlacesAll host runtime call := by
  induction h with
  | nil => simp
  | cons hregistered _ ih => exact List.forall_mem_cons.mpr ⟨placesAll_of_registered hregistered, ih⟩

/-- Every element of every payload is in the cell that its registration put it in. -/
def Readable (host : CacheHost P E) (runtime : VllmRuntime) (calls : List (RegistryCall P))
    (cells : Cell → E) : Prop :=
  ∀ call ∈ calls, ∀ placed ∈ placements host runtime call, cells placed.1 = placed.2

/-- No two registrations put different elements in one cell. -/
def Undisturbed (host : CacheHost P E) (runtime : VllmRuntime) (calls : List (RegistryCall P)) :
    Prop :=
  ∀ first ∈ calls, ∀ second ∈ calls, ∀ placed ∈ placements host runtime first,
    ∀ other ∈ placements host runtime second, placed.1 = other.1 → placed.2 = other.2

theorem undisturbed_iff_consistent {calls : List (RegistryCall P)} :
    Undisturbed host runtime calls ↔ Consistent (calls.flatMap (placements host runtime)) := by
  simp only [Consistent, Undisturbed, List.mem_flatMap]
  constructor
  · rintro hu placed ⟨first, hfirst, hplaced⟩ other ⟨second, hsecond, hother⟩
    exact hu first hfirst second hsecond placed hplaced other hother
  · intro hc first hfirst second hsecond placed hplaced other hother
    exact hc placed ⟨first, hfirst, hplaced⟩ other ⟨second, hsecond, hother⟩

theorem readable_iff {cells last : Cell → E} {calls : List (RegistryCall P)}
    (h : Registers host limit runtime cells calls last) :
    Readable host runtime calls last ↔ Undisturbed host runtime calls := by
  rw [undisturbed_iff_consistent, h.cells_eq, ← applyWrites_holds_iff cells]
  simp only [Readable, List.mem_flatMap]
  constructor
  · rintro hr placed ⟨call, hcall, hplaced⟩
    exact hr call hcall placed hplaced
  · intro hr call hcall placed hplaced
    exact hr placed ⟨call, hcall, hplaced⟩

/-- Registrations write every element of their payloads. All of it is there after the run exactly where
no two of them put different elements in one cell, as in runs that have their blocks from the pool. -/
theorem registrations_readable {cells last : Cell → E} {calls : List (RegistryCall P)}
    (h : Registers host limit runtime cells calls last) :
    (∀ call ∈ calls, PlacesAll host runtime call) ∧
      (Readable host runtime calls last ↔ Undisturbed host runtime calls) ∧
      (PoolRun runtime calls → Readable host runtime calls last) := by
  refine ⟨h.placesAll, readable_iff h, ?_⟩
  intro hpool
  rw [readable_iff h, undisturbed_iff_consistent]
  exact consistent_of_poolRun hpool

def exactHost : CacheHost Int Int := ⟨id, fun source target => decide (source = target)⟩

def twoBlockRuntime : VllmRuntime where
  permeantLayerMap := [(0, "model.layers.0")]
  kvCaches := [("model.layers.0", .array ⟨0, [2, 2, 1, 1, 1]⟩)]

def oneElementCall (hash : String) (key value : Int) (pool : Option (List Int)) : RegistryCall Int where
  hash := hash
  layers := [⟨some 0, .flat ⟨[1, 1, 1, 1], [key]⟩ ⟨[1, 1, 1, 1], [value]⟩⟩]
  pool := fun _ => pool

def pooledCalls : List (RegistryCall Int) :=
  [oneElementCall "a" 1 2 (some [0]), oneElementCall "b" 3 4 (some [1])]

def fallbackCalls : List (RegistryCall Int) :=
  [oneElementCall "a" 1 2 none, oneElementCall "b" 3 4 none]

theorem oneElementCall_fromPool (hash : String) (key value id : Int) :
    FromPool twoBlockRuntime (oneElementCall hash key value (some [id])) [id] := by
  refine ⟨[(0, "model.layers.0")], rfl, rfl, ?_, List.pairwise_singleton _ _⟩
  intro layer hlayer
  cases List.mem_singleton.mp hlayer
  exact ⟨⟨0, [2, 2, 1, 1, 1]⟩, rfl⟩

theorem pooledCalls_readable : ∃ last,
    Registers exactHost 4 twoBlockRuntime (fun _ => 0) pooledCalls last ∧
      Readable exactHost twoBlockRuntime pooledCalls last := by
  have hrun : Registers exactHost 4 twoBlockRuntime (fun _ => 0) pooledCalls _ :=
    .cons rfl (.cons rfl .nil)
  have hfresh : FreshIds [[0], [1]] := by simp [FreshIds, List.Disjoint]
  refine ⟨_, hrun, (registrations_readable hrun).2.2 ⟨[[0], [1]], ?_, hfresh⟩⟩
  exact .cons (oneElementCall_fromPool _ _ _ _) (.cons (oneElementCall_fromPool _ _ _ _) .nil)

/-- Without a pool the second registration writes over the first. -/
theorem fallbackCalls_overwritten :
    (fallbackCalls.map fun call => call.hash).Nodup ∧ ∃ last,
      Registers exactHost 4 twoBlockRuntime (fun _ => 0) fallbackCalls last ∧
        ¬Readable exactHost twoBlockRuntime fallbackCalls last := by
  have hrun : Registers exactHost 4 twoBlockRuntime (fun _ => 0) fallbackCalls _ :=
    .cons rfl (.cons rfl .nil)
  refine ⟨by decide, _, hrun, ?_⟩
  intro h
  have hkey := h _ List.mem_cons_self ((0, [0, 0, 0, 0, 0]), 1) (by decide)
  exact absurd hkey (by decide)

end Runs

end PermeantOS
