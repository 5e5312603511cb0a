import PermeantOS.VllmRegistryRun
import PermeantOS.VllmSources

namespace PermeantOS

variable {P E : Type} {host : CacheHost P E} {limit : Int} {storage : CacheArray}
  {source : LayerSource P} {ids : Option (List Int)} {views : LayerViews} {layout : CombinedLayout}
  {count : Nat}

section Shapes

/-- The sizes of one side of a block. -/
def CombinedLayout.sizes (views : LayerViews) : CombinedLayout → List Nat
  | .tokenHeadDim => [views.blockSize, views.kvHeads, views.headDim]
  | .headTokenDim => [views.kvHeads, views.blockSize, views.headDim]
  | .splitTokenHeadDim tokens _ => [tokens, views.kvHeads, views.headDim]
  | .splitHeadTokenDim tokens _ => [views.kvHeads, tokens, views.headDim]
  | .unsupported => []

/-- The place of an element in its side of a block. -/
def CombinedLayout.place (token head dim : Nat) : CombinedLayout → List Nat
  | .tokenHeadDim => [token, head, dim]
  | .headTokenDim => [head, token, dim]
  | .splitTokenHeadDim tokens _ => [token % tokens, head, dim]
  | .splitHeadTokenDim tokens _ => [head, token % tokens, dim]
  | .unsupported => []

theorem CombinedLayout.path_eq_place (layout : CombinedLayout) (token head dim : Nat) :
    layout.path token head dim = (layout.place token head dim).map fun (n : Nat) => (n : Int) := by
  cases layout <;> rfl

theorem combinedLayout_shape (h : combinedLayout storage.shape views = .ok layout)
    (hs : layout ≠ .unsupported) :
    storage.shape = storage.shape.headD 0 :: 2 :: layout.sizes views := by
  generalize storage.shape = shape at h
  unfold combinedLayout at h
  split at h
  next blocks a b c =>
    split at h
    next hsizes =>
      obtain ⟨rfl, rfl, rfl⟩ := hsizes
      cases h
      rfl
    split at h
    next hsizes =>
      obtain ⟨rfl, rfl, rfl⟩ := hsizes
      cases h
      rfl
    obtain ⟨first, hfirst, h⟩ := except_bind_ok_iff.mp h
    split at h
    next heven =>
      cases h
      rw [heven, splitsEvenly_ok_true_iff, decide_eq_true_iff] at hfirst
      obtain ⟨⟨rfl, rfl⟩, _⟩ := hfirst
      rfl
    next =>
      obtain ⟨second, hsecond, h⟩ := except_bind_ok_iff.mp h
      split at h
      next heven =>
        cases h
        rw [heven, splitsEvenly_ok_true_iff, decide_eq_true_iff] at hsecond
        obtain ⟨⟨rfl, rfl⟩, _⟩ := hsecond
        rfl
      next => exact absurd (Except.ok.inj h).symm hs
  next => exact absurd (Except.ok.inj h).symm hs

theorem CombinedLayout.place_lt (hfills : layout.FillsBlock views.blockSize) {token head dim : Nat}
    (ht : token < views.blockSize) (hh : head < views.kvHeads) (hd : dim < views.headDim) :
    List.Forall₂ (· < ·) (layout.place token head dim) (layout.sizes views) := by
  have hmod : ∀ {tokens blocks : Nat}, views.blockSize = blocks * tokens → token % tokens < tokens := by
    intro tokens blocks hsize
    refine Nat.mod_lt _ (Nat.pos_of_ne_zero ?_)
    rintro rfl
    omega
  cases layout with
  | tokenHeadDim => exact .cons ht (.cons hh (.cons hd .nil))
  | headTokenDim => exact .cons hh (.cons ht (.cons hd .nil))
  | splitTokenHeadDim tokens blocks => exact .cons (hmod hfills) (.cons hh (.cons hd .nil))
  | splitHeadTokenDim tokens blocks => exact .cons hh (.cons (hmod hfills) (.cons hd .nil))
  | unsupported => exact .nil

theorem split_logical_lt {blocks tokens size block token count : Nat} (hsize : size = blocks * tokens)
    (hb : block < count) (ht : token < size) :
    blocks ≠ 0 ∧ block * blocks + token / tokens < count * blocks := by
  have hdiv : token / tokens < blocks := Nat.div_lt_of_lt_mul (by rwa [Nat.mul_comm, ← hsize])
  exact ⟨Nat.ne_of_gt (lt_of_le_of_lt (Nat.zero_le _) hdiv), mul_add_lt_mul hb hdiv⟩

/-- The logical blocks of a layer are as many as are allocated for it. -/
theorem CombinedLayout.logical_lt (hfills : layout.FillsBlock views.blockSize) {block token : Nat}
    (hb : block < views.blockCount) (ht : token < views.blockSize) :
    layout.logical block token < views.blockCount * layout.blocksPerSource := by
  cases layout with
  | splitTokenHeadDim tokens blocks =>
    obtain ⟨hne, hlt⟩ := split_logical_lt hfills hb ht
    simpa [CombinedLayout.logical, CombinedLayout.blocksPerSource, hne] using hlt
  | splitHeadTokenDim tokens blocks =>
    obtain ⟨hne, hlt⟩ := split_logical_lt hfills hb ht
    simpa [CombinedLayout.logical, CombinedLayout.blocksPerSource, hne] using hlt
  | tokenHeadDim => simpa [CombinedLayout.logical, CombinedLayout.blocksPerSource] using hb
  | headTokenDim => simpa [CombinedLayout.logical, CombinedLayout.blocksPerSource] using hb
  | unsupported => simpa [CombinedLayout.logical, CombinedLayout.blocksPerSource] using hb

/-- The indices of an element, as the loops go there. -/
theorem combinedTargetIndices_eq (hfills : layout.FillsBlock views.blockSize)
    (hs : layout ≠ .unsupported) {block token head dim : Nat} (ht : token < views.blockSize)
    {target : Int} (htarget : targetBlockId (layout.logical block token) ids = .ok target) :
    combinedTargetIndices layout ⟨block, token, head, dim⟩ ids =
      .ok (target :: 0 :: layout.path token head dim, target :: 1 :: layout.path token head dim) := by
  cases layout with
  | tokenHeadDim =>
    simp only [CombinedLayout.logical] at htarget
    simp only [combinedTargetIndices, htarget]
    rfl
  | headTokenDim =>
    simp only [CombinedLayout.logical] at htarget
    simp only [combinedTargetIndices, htarget]
    rfl
  | splitTokenHeadDim tokens blocks =>
    obtain ⟨hne, _⟩ := split_logical_lt hfills (Nat.lt_succ_self block) ht
    have hlogical : (block : Int) * blocks + (token : Int) / tokens =
      ((block * blocks + token / tokens : Nat) : Int) := by push_cast; rfl
    rw [CombinedLayout.logical, ← hlogical] at htarget
    simp only [combinedTargetIndices, CombinedLayout.blocksPerSource, if_neg hne, htarget]
    rfl
  | splitHeadTokenDim tokens blocks =>
    obtain ⟨hne, _⟩ := split_logical_lt hfills (Nat.lt_succ_self block) ht
    have hlogical : (block : Int) * blocks + (token : Int) / tokens =
      ((block * blocks + token / tokens : Nat) : Int) := by push_cast; rfl
    rw [CombinedLayout.logical, ← hlogical] at htarget
    simp only [combinedTargetIndices, CombinedLayout.blocksPerSource, if_neg hne, htarget]
    rfl
  | unsupported => exact absurd rfl hs

end Shapes

section Calls

/-- Without an allocation there are enough blocks; else the ids are distinct, in range and enough. -/
def TargetsFit (storage : CacheArray) (count : Nat) : Option (List Int) → Prop
  | none => count ≤ storage.shape.headD 0
  | some ids => ids.Nodup ∧ (∀ id ∈ ids, 0 ≤ id ∧ id < storage.shape.headD 0) ∧ count ≤ ids.length

theorem TargetsFit.distinct (h : TargetsFit storage count ids) : DistinctTargets ids := by
  cases ids with
  | none => exact distinctTargets_none
  | some ids =>
    obtain ⟨hnodup, hrange, _⟩ := h
    exact distinctTargets_some hnodup fun id hid => (hrange id hid).1

theorem TargetsFit.exists_target (h : TargetsFit storage count ids) {k : Nat} (hk : k < count) :
    ∃ target : Nat, targetBlockId k ids = .ok target ∧ target < storage.shape.headD 0 := by
  cases ids with
  | none => exact ⟨k, rfl, lt_of_lt_of_le hk h⟩
  | some ids =>
    obtain ⟨_, hrange, henough⟩ := h
    have hget := List.getElem?_eq_getElem (l := ids) (i := k) (by omega)
    obtain ⟨hnonneg, hlt⟩ := hrange _ (List.mem_of_getElem? hget)
    refine ⟨ids[k].toNat, ?_, by omega⟩
    rw [targetBlockId, pyIndex_natCast_ok_iff, hget, Int.toNat_of_nonneg hnonneg]

/-- A layer and a cache that are in one of the supported layouts, and the blocks to write to. -/
structure CombinedCall (storage : CacheArray) (source : LayerSource P) (ids : Option (List Int))
    (views : LayerViews) (layout : CombinedLayout) (count : Nat) : Prop where
  wellShaped : WellShaped source views
  layout_eq : combinedLayout storage.shape views = .ok layout
  supported : layout ≠ .unsupported
  count_eq : combinedTargetBlockCount storage source = .ok count
  targetsFit : TargetsFit storage count ids

variable (h : CombinedCall storage source ids views layout count)
include h

theorem CombinedCall.fillsBlock : layout.FillsBlock views.blockSize :=
  combinedLayout_fillsBlock h.layout_eq

theorem CombinedCall.count_eq_mul : count = views.blockCount * layout.blocksPerSource := by
  have hcount := h.count_eq
  rw [combinedTargetBlockCount, except_bind_of_ok h.wellShaped.views_eq,
    except_bind_of_ok h.layout_eq] at hcount
  exact (Except.ok.inj hcount).symm

theorem CombinedCall.exists_target {block token : Nat} (hb : block < views.blockCount)
    (ht : token < views.blockSize) :
    ∃ target : Nat, targetBlockId (layout.logical block token) ids = .ok target ∧
      target < storage.shape.headD 0 := by
  refine h.targetsFit.exists_target ?_
  rw [h.count_eq_mul]
  exact CombinedLayout.logical_lt h.fillsBlock hb ht

/-- Both indices of an element are in range. -/
theorem CombinedCall.resolve {target token head dim : Nat} (htarget : target < storage.shape.headD 0)
    (ht : token < views.blockSize) (hh : head < views.kvHeads) (hd : dim < views.headDim) :
    resolvePath storage.shape (target :: 0 :: layout.path token head dim) =
        some (target :: 0 :: layout.place token head dim) ∧
      resolvePath storage.shape (target :: 1 :: layout.path token head dim) =
        some (target :: 1 :: layout.place token head dim) := by
  have hplace := CombinedLayout.place_lt h.fillsBlock ht hh hd
  rw [combinedLayout_shape h.layout_eq h.supported, layout.path_eq_place]
  exact ⟨resolvePath_of_forall₂ (.cons htarget (.cons (by omega : 0 < 2) hplace)),
    resolvePath_of_forall₂ (.cons htarget (.cons (by omega : 1 < 2) hplace))⟩

theorem CombinedCall.returns_writeElement {target token head dim : Nat} (element : P × P)
    (htarget : target < storage.shape.headD 0) (ht : token < views.blockSize)
    (hh : head < views.kvHeads) (hd : dim < views.headDim) :
    Returns (writeElement host storage target (layout.path token head dim) element) := by
  obtain ⟨hkey, hvalue⟩ := h.resolve htarget ht hh hd
  exact (returns_writeCell _ hkey).bind fun _ => returns_writeCell _ hvalue

theorem CombinedCall.returns_write : Returns (writeCombinedCache host storage source ids) := by
  rw [writeCombinedCache_eq]
  refine .lift h.wellShaped.views_eq ?_
  have hfive : ¬(storage.shape.length ≠ 5 ∨ storage.shape.getD 1 0 ≠ 2) := by
    have hsupported := h.supported
    rw [combinedLayout_shape h.layout_eq hsupported]
    cases layout <;> simp_all [CombinedLayout.sizes]
  rw [if_neg hfive]
  refine .lift h.layout_eq ?_
  -- The element and its block are there; only the order of the loops differs.
  have hround : ∀ block < views.blockCount, ∀ token < views.blockSize,
      ∃ target : Nat, targetBlockId (layout.logical block token) ids = .ok target ∧
        ∀ head < views.kvHeads, ∀ dim < views.headDim, ∃ element,
          sourceValue source block head dim token = .ok element ∧
          Returns (writeElement host storage target (layout.path token head dim) element) := by
    intro block hb token ht
    obtain ⟨target, htarget, hlt⟩ := h.exists_target hb ht
    refine ⟨target, htarget, ?_⟩
    intro head hh dim hd
    obtain ⟨element, helement⟩ := h.wellShaped.exists_sourceValue hb ht hh hd
    exact ⟨element, helement, h.returns_writeElement element hlt ht hh hd⟩
  cases layout with
  | tokenHeadDim =>
    refine .forBelow fun block hb => .forBelow fun token ht => .forBelow fun head hh =>
      .forBelow fun dim hd => ?_
    obtain ⟨target, htarget, hrest⟩ := hround block hb token ht
    obtain ⟨element, helement, hwrite⟩ := hrest head hh dim hd
    exact .lift helement (.lift htarget hwrite)
  | headTokenDim =>
    refine .forBelow fun block hb => .forBelow fun head hh => .forBelow fun token ht =>
      .forBelow fun dim hd => ?_
    obtain ⟨target, htarget, hrest⟩ := hround block hb token ht
    obtain ⟨element, helement, hwrite⟩ := hrest head hh dim hd
    exact .lift helement (.lift htarget hwrite)
  | splitTokenHeadDim tokens blocks =>
    refine .forBelow fun block hb => .forBelow fun token ht => ?_
    obtain ⟨target, htarget, hrest⟩ := hround block hb token ht
    refine .lift htarget (.forBelow fun head hh => .forBelow fun dim hd => ?_)
    obtain ⟨element, helement, hwrite⟩ := hrest head hh dim hd
    exact .lift helement hwrite
  | splitHeadTokenDim tokens blocks =>
    refine .forBelow fun block hb => .forBelow fun token ht => ?_
    obtain ⟨target, htarget, hrest⟩ := hround block hb token ht
    refine .lift htarget (.forBelow fun head hh => .forBelow fun dim hd => ?_)
    obtain ⟨element, helement, hwrite⟩ := hrest head hh dim hd
    exact .lift helement hwrite
  | unsupported => exact absurd rfl h.supported

theorem CombinedCall.combinedLog_eq : combinedLog host storage source ids =
    layoutLog host storage source ids views layout := by
  rw [combinedLog, h.wellShaped.views_eq, onOk, h.layout_eq, onOk]

end Calls

section Written

/-- Every element, at the indices of its place in the layout. -/
def ElementsReadBack (host : CacheHost P E) (storage : CacheArray) (source : LayerSource P)
    (ids : Option (List Int)) (views : LayerViews) (layout : CombinedLayout) (after : Cell → E) : Prop :=
  ∀ block < views.blockCount, ∀ token < views.blockSize, ∀ head < views.kvHeads, ∀ dim < views.headDim,
    ∃ element keyIndices valueIndices, sourceValue source block head dim token = .ok element ∧
      combinedTargetIndices layout ⟨block, token, head, dim⟩ ids = .ok (keyIndices, valueIndices) ∧
      (readCell storage keyIndices).run after = .ok (host.cast element.1) after ∧
      (readCell storage valueIndices).run after = .ok (host.cast element.2) after

/-- Other arrays are unchanged, and so are the blocks that no logical block goes to. -/
def OthersUnchanged (storage : CacheArray) (ids : Option (List Int)) (count : Nat)
    (cells after : Cell → E) : Prop :=
  ∀ cell : Cell, (cell.1 = storage.id → ∀ k < count, ∀ target, targetBlockId k ids = .ok target →
    Cell.targetBlock cell ≠ some target) → after cell = cells cell

variable (h : CombinedCall storage source ids views layout count)
include h

theorem CombinedCall.readsBack {cells after : Cell → E}
    (hrun : (writeCombinedCache host storage source ids).run cells = .ok () after) :
    ElementsReadBack host storage source ids views layout after := by
  intro block hb token ht head hh dim hd
  obtain ⟨target, htarget, hlt⟩ := h.exists_target hb ht
  obtain ⟨element, helement⟩ := h.wellShaped.exists_sourceValue hb ht hh hd
  obtain ⟨hkey, hvalue⟩ := h.resolve hlt ht hh hd
  refine ⟨element, _, _, helement, combinedTargetIndices_eq h.fillsBlock h.supported ht htarget, ?_⟩
  rw [run_readCell hkey, run_readCell hvalue, stores_writeCombinedCache _ _ _ hrun]
  have hconsistent : Consistent (combinedLog host storage source ids) :=
    combinedLog_consistent h.targetsFit.distinct
  have hholds := (applyWrites_holds_iff cells).mpr hconsistent
  have hmem : ∀ write ∈ elementLog host storage target (layout.path token head dim) element,
      write ∈ combinedLog host storage source ids := by
    intro write hwrite
    rw [h.combinedLog_eq, mem_layoutLog_iff h.supported]
    exact ⟨block, hb, token, ht, head, hh, dim, hd, element, target, helement, htarget, hwrite⟩
  rw [hholds _ (hmem ((storage.id, target :: 0 :: layout.place token head dim), host.cast element.1)
      (List.mem_append_left _ (mem_cellLog_iff.mpr ⟨_, hkey, rfl⟩))),
    hholds _ (hmem ((storage.id, target :: 1 :: layout.place token head dim), host.cast element.2)
      (List.mem_append_right _ (mem_cellLog_iff.mpr ⟨_, hvalue, rfl⟩)))]
  exact ⟨rfl, rfl⟩

theorem CombinedCall.othersUnchanged {cells after : Cell → E}
    (hrun : (writeCombinedCache host storage source ids).run cells = .ok () after) :
    OthersUnchanged storage ids count cells after := by
  intro cell hcell
  rw [stores_writeCombinedCache _ _ _ hrun]
  refine applyWrites_of_same ?_ (Or.inl rfl)
  rintro write hwrite rfl
  rw [h.combinedLog_eq, mem_layoutLog_iff h.supported] at hwrite
  obtain ⟨block, hb, token, ht, head, _, dim, _, element, target, _, htarget, hwrite⟩ := hwrite
  obtain ⟨hid, hblock⟩ := targetBlock_of_elementLog (h.targetsFit.distinct _ _ htarget).1 hwrite
  refine absurd hblock (hcell hid _ ?_ target htarget)
  rw [h.count_eq_mul]
  exact CombinedLayout.logical_lt h.fillsBlock hb ht

end Written

section Samples

/-- What is stored for an element is close to it. -/
def CacheHost.storesClose (host : CacheHost P E) (element : P × P) : Bool :=
  host.isClose element.1 (host.cast element.1) && host.isClose element.2 (host.cast element.2)

def SamplePoint.element (source : LayerSource P) (point : SamplePoint) : Except PyException (P × P) :=
  sourceValue source point.blockIndex point.headIndex point.dimIndex point.tokenIndex

def SamplePoint.InRange (views : LayerViews) (point : SamplePoint) : Prop :=
  ∃ block < views.blockCount, ∃ token < views.blockSize, ∃ head < views.kvHeads, ∃ dim < views.headDim,
    point = ⟨block, token, head, dim⟩

theorem samplePoints_inRange (hw : WellShaped source views) (hn : 0 < views.blockCount) :
    ∀ point ∈ samplePoints limit views, point.InRange views := by
  have hb := hw.blockSize_pos
  have hh := hw.kvHeads_pos
  have hd := hw.headDim_pos
  intro point hpoint
  have hmem := List.mem_eraseDups.mp (List.mem_of_mem_take hpoint)
  simp only [List.mem_cons, List.not_mem_nil, or_false] at hmem
  obtain rfl | rfl | rfl := hmem
  · exact ⟨0, hn, 0, hb, 0, hh, 0, hd, rfl⟩
  · refine ⟨0, hn, min (views.blockSize - 1) 1, by omega, min (views.kvHeads - 1) 1, by omega,
      min (views.headDim - 1) 1, by omega, ?_⟩
    simp only [SamplePoint.mk.injEq]
    omega
  · refine ⟨views.blockCount - 1, by omega, views.blockSize - 1, by omega, views.kvHeads - 1, by omega,
      views.headDim - 1, by omega, ?_⟩
    simp only [SamplePoint.mk.injEq]
    omega

/-- The first sample is taken of the first block, whatever the limit is. -/
theorem samplePoints_eq_cons (limit : Int) (views : LayerViews) :
    ∃ points, samplePoints limit views = ⟨0, 0, 0, 0⟩ :: points := by
  obtain ⟨k, hk⟩ : ∃ k, (max 1 limit).toNat = k + 1 := ⟨(max 1 limit).toNat - 1, by omega⟩
  rw [samplePoints, hk, List.eraseDups_cons, List.take_succ_cons]
  exact ⟨_, rfl⟩

theorem run_slotSample {after : Cell → E} (hback : ElementsReadBack host storage source ids views layout after)
    {point : SamplePoint} (hpoint : point.InRange views) :
    ∃ element, point.element source = .ok element ∧
      (slotSample host storage source ids layout point).run after =
        .ok (host.storesClose element) after := by
  obtain ⟨block, hb, token, ht, head, hh, dim, hd, rfl⟩ := hpoint
  obtain ⟨element, keyIndices, valueIndices, helement, hindices, hkey, hvalue⟩ :=
    hback block hb token ht head hh dim hd
  refine ⟨element, helement, ?_⟩
  rw [slotSample, run_liftExcept_bind_of_ok helement]
  dsimp only
  rw [run_liftExcept_bind_of_ok hindices]
  dsimp only
  rw [run_bind_of_ok hkey, run_bind_of_ok hvalue]
  rfl

theorem run_slotSamples {after : Cell → E} (hback : ElementsReadBack host storage source ids views layout after)
    {points : List SamplePoint} (hpoints : ∀ point ∈ points, point.InRange views) :
    ∃ matching, (slotSamples host storage source ids layout points).run after = .ok matching after ∧
      (matching = true ↔ ∀ point ∈ points, ∀ element, point.element source = .ok element →
        host.storesClose element = true) := by
  induction points with
  | nil => exact ⟨true, rfl, by simp⟩
  | cons point points ih =>
    obtain ⟨hpoint, hrest⟩ := List.forall_mem_cons.mp hpoints
    obtain ⟨element, helement, hrun⟩ := run_slotSample hback hpoint
    obtain ⟨matching, hmatching, hiff⟩ := ih hrest
    refine ⟨host.storesClose element && matching, ?_, ?_⟩
    · rw [slotSamples, run_bind_of_ok hrun, run_bind_of_ok hmatching]
      rfl
    · rw [Bool.and_eq_true, hiff, List.forall_mem_cons, helement]
      simp

/-- The cache after a layer was written, and what the slot probe says then. -/
def CombinedWritten (host : CacheHost P E) (limit : Int) (storage : CacheArray) (source : LayerSource P)
    (ids : Option (List Int)) (views : LayerViews) (layout : CombinedLayout) (count : Nat)
    (cells : Cell → E) : Prop :=
  ∃ after, (writeCombinedCache host storage source ids).run cells = .ok () after ∧
    ElementsReadBack host storage source ids views layout after ∧
    OthersUnchanged storage ids count cells after ∧
    (combinedSlotSamples host limit storage source ids).run after = .ok true after

/-- A layer is written as it should be exactly where it has a block to take samples of, and what the
cache stores for a sampled element is close to it. -/
theorem combinedWritten_iff (h : CombinedCall storage source ids views layout count) (cells : Cell → E) :
    CombinedWritten host limit storage source ids views layout count cells ↔
      0 < views.blockCount ∧ ∀ point ∈ samplePoints limit views, ∀ element,
        point.element source = .ok element → host.storesClose element = true := by
  have hreturns : Returns (writeCombinedCache host storage source ids) := h.returns_write
  obtain ⟨_, after, hrun⟩ := hreturns cells
  have hback := h.readsBack hrun
  have hsamples : (combinedSlotSamples host limit storage source ids).run after =
      (slotSamples host storage source ids layout (samplePoints limit views)).run after := by
    rw [combinedSlotSamples, run_liftExcept_bind_of_ok h.wellShaped.views_eq,
      run_liftExcept_bind_of_ok h.layout_eq]
  constructor
  · rintro ⟨after', hrun', _, _, hmatch⟩
    cases hrun.symm.trans hrun'
    rw [hsamples] at hmatch
    have hn : 0 < views.blockCount := by
      obtain ⟨points, hpoints⟩ := samplePoints_eq_cons limit views
      rw [hpoints, slotSamples] at hmatch
      obtain ⟨_, _, hfirst, _⟩ := run_bind_ok_iff.mp hmatch
      obtain ⟨element, helement, _⟩ := run_liftExcept_bind_ok_iff.mp hfirst
      have hzero : sourceValue source ((0 : Nat) : Int) ((0 : Nat) : Int) ((0 : Nat) : Int)
        ((0 : Nat) : Int) = .ok element := helement
      exact h.wellShaped.block_lt hzero
    obtain ⟨matching, hmatching, hiff⟩ := run_slotSamples hback (samplePoints_inRange h.wellShaped hn)
    cases hmatching.symm.trans hmatch
    exact ⟨hn, hiff.mp rfl⟩
  · rintro ⟨hn, hclose⟩
    obtain ⟨matching, hmatching, hiff⟩ := run_slotSamples hback (samplePoints_inRange h.wellShaped hn)
    refine ⟨after, hrun, hback, h.othersUnchanged hrun, ?_⟩
    rw [hsamples, hmatching, hiff.mpr hclose]

theorem exactHost_storesClose (element : Int × Int) : exactHost.storesClose element = true := by
  simp [CacheHost.storesClose, exactHost]

def threeBlocks : CacheArray := ⟨0, [3, 2, 1, 1, 1]⟩

def twoTokenLayer : LayerSource Int := .flat ⟨[1, 1, 1, 2], [5, 6]⟩ ⟨[1, 1, 2, 1], [7, 8]⟩

theorem twoTokenLayer_call : CombinedCall threeBlocks twoTokenLayer (some [2, 0]) ⟨1, 2, 1, 1⟩
    (.splitTokenHeadDim 1 2) 2 where
  wellShaped := ⟨rfl, by decide, by decide, by decide, rfl, rfl, rfl, rfl⟩
  layout_eq := rfl
  supported := by decide
  count_eq := rfl
  targetsFit := ⟨by decide, by decide, by decide⟩

theorem twoTokenLayer_written : CombinedWritten exactHost 4 threeBlocks twoTokenLayer (some [2, 0])
    ⟨1, 2, 1, 1⟩ (.splitTokenHeadDim 1 2) 2 (fun _ => 0) :=
  (combinedWritten_iff twoTokenLayer_call _).mpr
    ⟨by decide, fun _ _ element _ => exactHost_storesClose element⟩

def noBlocksLayer : LayerSource Int := .flat ⟨[0, 1, 1, 1], []⟩ ⟨[0, 1, 1, 1], []⟩

/-- A layer without blocks is written, and its slot probe then looks at the first block. -/
theorem noBlocksLayer_notWritten :
    CombinedCall threeBlocks noBlocksLayer none ⟨0, 1, 1, 1⟩ .tokenHeadDim 0 ∧
      ¬CombinedWritten exactHost 4 threeBlocks noBlocksLayer none ⟨0, 1, 1, 1⟩ .tokenHeadDim 0
        (fun _ => 0) := by
  refine ⟨⟨⟨rfl, by decide, by decide, by decide, rfl, rfl, rfl, rfl⟩, rfl, by decide, rfl,
    Nat.zero_le _⟩, ?_⟩
  rintro ⟨after, _, _, _, hmatch⟩
  have hraises : (combinedSlotSamples exactHost 4 threeBlocks noBlocksLayer none).run after =
    .error .indexError after := rfl
  cases hraises.symm.trans hmatch

end Samples

end PermeantOS
