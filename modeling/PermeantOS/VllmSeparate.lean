import PermeantOS.VllmRegistryRun
import PermeantOS.VllmSources

namespace PermeantOS

variable {P E : Type} {host : CacheHost P E} {storage : CacheArray} {source : LayerSource P}
  {views : LayerViews}

section Sides

variable {n₀ n₁ n₂ n₃ : Nat} {element : Nat → Nat → Nat → Nat → Except PyException P}

theorem mem_separateLog_iff (hshape : storage.shape = [n₀, n₁, n₂, n₃]) {write : Cell × E} :
    write ∈ separateLog host storage n₀ n₁ n₂ n₃ element ↔
      ∃ i₀ < n₀, ∃ i₁ < n₁, ∃ i₂ < n₂, ∃ i₃ < n₃, ∃ x, element i₀ i₁ i₂ i₃ = .ok x ∧
        write = ((storage.id, [i₀, i₁, i₂, i₃]), host.cast x) := by
  simp only [separateLog, mem_logBelow_iff, mem_onOk_iff, mem_cellLog_iff]
  have hresolve : ∀ {i₀ i₁ i₂ i₃ : Nat}, i₀ < n₀ → i₁ < n₁ → i₂ < n₂ → i₃ < n₃ →
      resolvePath storage.shape [(i₀ : Int), i₁, i₂, i₃] = some [i₀, i₁, i₂, i₃] := by
    intro i₀ i₁ i₂ i₃ h₀ h₁ h₂ h₃
    rw [hshape]
    exact resolvePath_of_forall₂ (.cons h₀ (.cons h₁ (.cons h₂ (.cons h₃ .nil))))
  constructor
  · rintro ⟨i₀, h₀, i₁, h₁, i₂, h₂, i₃, h₃, x, hx, index, hindex, rfl⟩
    cases (hresolve h₀ h₁ h₂ h₃).symm.trans hindex
    exact ⟨i₀, h₀, i₁, h₁, i₂, h₂, i₃, h₃, x, hx, rfl⟩
  · rintro ⟨i₀, h₀, i₁, h₁, i₂, h₂, i₃, h₃, x, hx, rfl⟩
    exact ⟨i₀, h₀, i₁, h₁, i₂, h₂, i₃, h₃, x, hx, _, hresolve h₀ h₁ h₂ h₃, rfl⟩

/-- The four loops leave every element in its place. -/
theorem writeSeparate_holds (hshape : storage.shape = [n₀, n₁, n₂, n₃]) {cells after : Cell → E}
    (hrun : (writeSeparate host storage n₀ n₁ n₂ n₃ element).run cells = .ok () after)
    {i₀ i₁ i₂ i₃ : Nat} (h₀ : i₀ < n₀) (h₁ : i₁ < n₁) (h₂ : i₂ < n₂) (h₃ : i₃ < n₃) :
    ∃ x, element i₀ i₁ i₂ i₃ = .ok x ∧ after (storage.id, [i₀, i₁, i₂, i₃]) = host.cast x := by
  obtain ⟨x, hx, _⟩ := placed_of_writeSeparate hrun h₀ h₁ h₂ h₃
  refine ⟨x, hx, ?_⟩
  rw [stores_writeSeparate _ _ _ _ _ _ _ _ hrun]
  refine applyWrites_of_same ?_ (Or.inr ⟨_, (mem_separateLog_iff hshape).mpr
    ⟨i₀, h₀, i₁, h₁, i₂, h₂, i₃, h₃, x, hx, rfl⟩, rfl⟩)
  intro write hwrite hcell
  obtain ⟨j₀, _, j₁, _, j₂, _, j₃, _, y, hy, rfl⟩ := (mem_separateLog_iff hshape).mp hwrite
  cases hcell
  rw [Except.ok.inj (hx.symm.trans hy)]

/-- They leave other arrays and the blocks after their last as they were. -/
theorem writeSeparate_frame (hshape : storage.shape = [n₀, n₁, n₂, n₃]) {cells after : Cell → E}
    (hrun : (writeSeparate host storage n₀ n₁ n₂ n₃ element).run cells = .ok () after) {cell : Cell}
    (hcell : cell.1 = storage.id → ∀ block < n₀, cell.2.head? ≠ some block) :
    after cell = cells cell := by
  rw [stores_writeSeparate _ _ _ _ _ _ _ _ hrun]
  refine applyWrites_of_same ?_ (Or.inl rfl)
  rintro write hwrite rfl
  obtain ⟨i₀, h₀, i₁, _, i₂, _, i₃, _, x, _, rfl⟩ := (mem_separateLog_iff hshape).mp hwrite
  exact absurd rfl (hcell rfl i₀ h₀)

theorem returns_writeSeparate (hshape : storage.shape = [n₀, n₁, n₂, n₃])
    (h : ∀ i₀ < n₀, ∀ i₁ < n₁, ∀ i₂ < n₂, ∀ i₃ < n₃, ∃ x, element i₀ i₁ i₂ i₃ = .ok x) :
    Returns (writeSeparate host storage n₀ n₁ n₂ n₃ element) := by
  refine .forBelow fun i₀ h₀ => .forBelow fun i₁ h₁ => .forBelow fun i₂ h₂ => .forBelow fun i₃ h₃ => ?_
  obtain ⟨x, hx⟩ := h i₀ h₀ i₁ h₁ i₂ h₂ i₃ h₃
  have hresolve : resolvePath storage.shape [(i₀ : Int), i₁, i₂, i₃] = some [i₀, i₁, i₂, i₃] := by
    rw [hshape]
    exact resolvePath_of_forall₂ (.cons h₀ (.cons h₁ (.cons h₂ (.cons h₃ .nil))))
  exact .lift hx (returns_writeCell _ hresolve)

/-- A side in one of its two layouts is written by four loops in the order of its array. -/
theorem writeSide_cases {side : String} {a b c : Nat}
    {first second : Nat → Nat → Nat → Nat → Except PyException P}
    (h : storage.shape.tail = [a, b, c] ∨
      storage.shape.tail = [views.blockSize, views.kvHeads, views.headDim]) :
    (storage.shape = [storage.shape.headD 0, a, b, c] ∧ storage.shape.tail = [a, b, c] ∧
      writeSide host side storage views a b c first second =
        writeSeparate host storage (storage.shape.headD 0) a b c first) ∨
    (storage.shape = [storage.shape.headD 0, views.blockSize, views.kvHeads, views.headDim] ∧
      storage.shape.tail ≠ [a, b, c] ∧
      writeSide host side storage views a b c first second =
        writeSeparate host storage (storage.shape.headD 0) views.blockSize views.kvHeads views.headDim
          second) := by
  unfold writeSide
  cases hshape : storage.shape with
  | nil => simp [hshape] at h
  | cons blocks sizes =>
    rw [hshape, List.tail_cons] at h
    by_cases hfirst : sizes = [a, b, c]
    · left
      simp [hfirst]
    · right
      obtain rfl := h.resolve_left hfirst
      simp [hfirst]

end Sides

section Places

/-- The place of a key in its block, in the layout that the sizes are in. -/
def keyCachePlace (views : LayerViews) (sizes : List Nat) (token head dim : Nat) : List Nat :=
  if sizes = [views.kvHeads, views.headDim, views.blockSize] then [head, dim, token]
  else [token, head, dim]

def valueCachePlace (views : LayerViews) (sizes : List Nat) (token head dim : Nat) : List Nat :=
  if sizes = [views.kvHeads, views.blockSize, views.headDim] then [head, token, dim]
  else [token, head, dim]

/-- Two arrays, each in one of the layouts of its side. -/
structure SeparateCall (cache : KvCache) (source : LayerSource P) (views : LayerViews)
    (key value : CacheArray) : Prop where
  wellShaped : WellShaped source views
  arrays_eq : separateArrays cache = .ok (key, value)
  apart : key.id ≠ value.id
  keySizes : key.shape.tail = [views.kvHeads, views.headDim, views.blockSize] ∨
    key.shape.tail = [views.blockSize, views.kvHeads, views.headDim]
  valueSizes : value.shape.tail = [views.kvHeads, views.blockSize, views.headDim] ∨
    value.shape.tail = [views.blockSize, views.kvHeads, views.headDim]

/-- One side after its loops: its blocks hold what `part` reads of the source, and nothing else changed. -/
structure SideWritten (host : CacheHost P E) (storage : CacheArray) (views : LayerViews)
    (place : Nat → Nat → Nat → List Nat) (part : Nat → Nat → Nat → Nat → Except PyException P)
    (cells after : Cell → E) : Prop where
  holds : ∀ block < storage.shape.headD 0, ∀ token < views.blockSize, ∀ head < views.kvHeads,
    ∀ dim < views.headDim, ∃ x, part block token head dim = .ok x ∧
      after (storage.id, block :: place token head dim) = host.cast x
  frame : ∀ cell : Cell, (cell.1 = storage.id → ∀ block < storage.shape.headD 0,
    cell.2.head? ≠ some block) → after cell = cells cell

variable {cache : KvCache} {key value : CacheArray} (h : SeparateCall cache source views key value)
include h

theorem SeparateCall.keyWritten {cells after : Cell → E}
    (hrun : (writeKeyCache host source views key).run cells = .ok () after) :
    SideWritten host key views (keyCachePlace views key.shape.tail)
      (fun block token head dim => source.keyOnly block head dim token) cells after := by
  rcases writeSide_cases h.keySizes with ⟨hshape, htail, heq⟩ | ⟨hshape, htail, heq⟩
  · rw [writeKeyCache, heq] at hrun
    refine ⟨?_, fun cell => writeSeparate_frame hshape hrun⟩
    intro block hb token ht head hh dim hd
    rw [keyCachePlace, if_pos htail]
    exact writeSeparate_holds hshape hrun hb hh hd ht
  · rw [writeKeyCache, heq] at hrun
    refine ⟨?_, fun cell => writeSeparate_frame hshape hrun⟩
    intro block hb token ht head hh dim hd
    rw [keyCachePlace, if_neg htail]
    exact writeSeparate_holds hshape hrun hb ht hh hd

theorem SeparateCall.valueWritten {cells after : Cell → E}
    (hrun : (writeValueCache host source views value).run cells = .ok () after) :
    SideWritten host value views (valueCachePlace views value.shape.tail)
      (fun block token head dim => source.valueOnly block head dim token) cells after := by
  rcases writeSide_cases h.valueSizes with ⟨hshape, htail, heq⟩ | ⟨hshape, htail, heq⟩
  · rw [writeValueCache, heq] at hrun
    refine ⟨?_, fun cell => writeSeparate_frame hshape hrun⟩
    intro block hb token ht head hh dim hd
    rw [valueCachePlace, if_pos htail]
    exact writeSeparate_holds hshape hrun hb hh ht hd
  · rw [writeValueCache, heq] at hrun
    refine ⟨?_, fun cell => writeSeparate_frame hshape hrun⟩
    intro block hb token ht head hh dim hd
    rw [valueCachePlace, if_neg htail]
    exact writeSeparate_holds hshape hrun hb ht hh hd

theorem SeparateCall.returns_key (hroom : key.shape.headD 0 ≤ views.blockCount) :
    Returns (writeKeyCache host source views key) := by
  have hpart : ∀ block < key.shape.headD 0, ∀ token < views.blockSize, ∀ head < views.kvHeads,
      ∀ dim < views.headDim, ∃ x, source.keyOnly block head dim token = .ok x := by
    intro block hb token ht head hh dim hd
    obtain ⟨x, _, hx, _⟩ := h.wellShaped.exists_parts (lt_of_lt_of_le hb hroom) ht hh hd
    exact ⟨x, hx⟩
  rcases writeSide_cases h.keySizes with ⟨hshape, _, heq⟩ | ⟨hshape, _, heq⟩
  · rw [writeKeyCache, heq]
    exact returns_writeSeparate hshape fun block hb head hh dim hd token ht => hpart block hb token ht head hh dim hd
  · rw [writeKeyCache, heq]
    exact returns_writeSeparate hshape hpart

theorem SeparateCall.returns_value (hroom : value.shape.headD 0 ≤ views.blockCount) :
    Returns (writeValueCache host source views value) := by
  have hpart : ∀ block < value.shape.headD 0, ∀ token < views.blockSize, ∀ head < views.kvHeads,
      ∀ dim < views.headDim, ∃ x, source.valueOnly block head dim token = .ok x := by
    intro block hb token ht head hh dim hd
    obtain ⟨_, x, _, hx⟩ := h.wellShaped.exists_parts (lt_of_lt_of_le hb hroom) ht hh hd
    exact ⟨x, hx⟩
  rcases writeSide_cases h.valueSizes with ⟨hshape, _, heq⟩ | ⟨hshape, _, heq⟩
  · rw [writeValueCache, heq]
    exact returns_writeSeparate hshape fun block hb head hh token ht dim hd => hpart block hb token ht head hh dim hd
  · rw [writeValueCache, heq]
    exact returns_writeSeparate hshape hpart

theorem SeparateCall.run_eq (cells : Cell → E) :
    (writeSeparateCache host source cache).run cells =
      (writeKeyCache host source views key >>= fun _ => writeValueCache host source views value).run
        cells := by
  rw [writeSeparateCache, run_liftExcept_bind_of_ok h.arrays_eq]
  dsimp only
  rw [run_liftExcept_bind_of_ok h.wellShaped.views_eq]

/-- The loops go over the blocks of the caches, and every one of these has to be in the source. -/
theorem SeparateCall.returns_iff (cells : Cell → E) :
    (∃ after, (writeSeparateCache host source cache).run cells = .ok () after) ↔
      key.shape.headD 0 ≤ views.blockCount ∧ value.shape.headD 0 ≤ views.blockCount := by
  rw [h.run_eq]
  constructor
  · rintro ⟨after, hrun⟩
    obtain ⟨_, mid, hkey, hvalue⟩ := run_bind_ok_iff.mp hrun
    have ht := h.wellShaped.blockSize_pos
    have hh := h.wellShaped.kvHeads_pos
    have hd := h.wellShaped.headDim_pos
    constructor
    · by_contra hlt
      obtain ⟨x, hx, _⟩ := (h.keyWritten hkey).holds _ (not_le.mp hlt) 0 ht 0 hh 0 hd
      exact absurd (h.wellShaped.block_lt_of_key hx) (lt_irrefl _)
    · by_contra hlt
      obtain ⟨x, hx, _⟩ := (h.valueWritten hvalue).holds _ (not_le.mp hlt) 0 ht 0 hh 0 hd
      exact absurd (h.wellShaped.block_lt_of_value hx) (lt_irrefl _)
  · rintro ⟨hkey, hvalue⟩
    have hreturns : Returns (writeKeyCache host source views key >>= fun _ =>
      writeValueCache host source views value) :=
      (h.returns_key hkey).bind fun _ => h.returns_value hvalue
    obtain ⟨_, after, hrun⟩ := hreturns cells
    exact ⟨after, hrun⟩

end Places

section Written

/-- Every element of the source is in its place in both caches. -/
def BothHold (host : CacheHost P E) (source : LayerSource P) (views : LayerViews)
    (key value : CacheArray) (after : Cell → E) : Prop :=
  ∀ block < views.blockCount, ∀ token < views.blockSize, ∀ head < views.kvHeads, ∀ dim < views.headDim,
    ∃ element, sourceValue source block head dim token = .ok element ∧
      after (key.id, block :: keyCachePlace views key.shape.tail token head dim) = host.cast element.1 ∧
      after (value.id, block :: valueCachePlace views value.shape.tail token head dim) = host.cast element.2

/-- What is no block of the source in one of the two caches is unchanged. -/
def BlocksUnchanged (views : LayerViews) (key value : CacheArray) (cells after : Cell → E) : Prop :=
  ∀ cell : Cell, (cell.1 = key.id ∨ cell.1 = value.id → ∀ block < views.blockCount,
    cell.2.head? ≠ some block) → after cell = cells cell

/-- With room for every block a layer is written; with less, the write raises. -/
def CoversSource (host : CacheHost P E) (source : LayerSource P) (views : LayerViews) (cache : KvCache)
    (key value : CacheArray) (cells : Cell → E) : Prop :=
  (views.blockCount ≤ key.shape.headD 0 ∧ views.blockCount ≤ value.shape.headD 0 →
    ∃ after, (writeSeparateCache host source cache).run cells = .ok () after ∧
      BothHold host source views key value after ∧ BlocksUnchanged views key value cells after) ∧
  (key.shape.headD 0 < views.blockCount ∨ value.shape.headD 0 < views.blockCount →
    ∃ e after, (writeSeparateCache host source cache).run cells = .error e after)

variable {cache : KvCache} {key value : CacheArray}

theorem SeparateCall.written (h : SeparateCall cache source views key value)
    (hkeyBlocks : key.shape.headD 0 = views.blockCount) (hvalueBlocks : value.shape.headD 0 = views.blockCount)
    {cells after : Cell → E} (hrun : (writeSeparateCache host source cache).run cells = .ok () after) :
    BothHold host source views key value after ∧ BlocksUnchanged views key value cells after := by
  rw [h.run_eq] at hrun
  obtain ⟨_, mid, hkey, hvalue⟩ := run_bind_ok_iff.mp hrun
  have hkeyWritten := h.keyWritten hkey
  have hvalueWritten := h.valueWritten hvalue
  constructor
  · intro block hb token ht head hh dim hd
    obtain ⟨x, hx, hkeyCell⟩ := hkeyWritten.holds block (by omega) token ht head hh dim hd
    obtain ⟨y, hy, hvalueCell⟩ := hvalueWritten.holds block (by omega) token ht head hh dim hd
    refine ⟨(x, y), sourceValue_of_parts hx hy, ?_, hvalueCell⟩
    rw [hvalueWritten.frame _ fun hid => absurd hid h.apart]
    exact hkeyCell
  · intro cell hcell
    rw [hvalueWritten.frame cell fun hid block hb => hcell (Or.inr hid) block (by omega),
      hkeyWritten.frame cell fun hid block hb => hcell (Or.inl hid) block (by omega)]

/-- The blocks of both caches have to be as many as the source has, or too few of one to go with too
many of the other. -/
theorem coversSource_iff (h : SeparateCall cache source views key value) (cells : Cell → E) :
    CoversSource host source views cache key value cells ↔
      (key.shape.headD 0 = views.blockCount ∧ value.shape.headD 0 = views.blockCount) ∨
      (key.shape.headD 0 < views.blockCount ∧ views.blockCount < value.shape.headD 0) ∨
      (views.blockCount < key.shape.headD 0 ∧ value.shape.headD 0 < views.blockCount) := by
  have hreturns : (∃ after, (writeSeparateCache host source cache).run cells = .ok () after) ↔ _ :=
    h.returns_iff cells
  constructor
  · rintro ⟨hroom, hshort⟩
    by_cases henough : views.blockCount ≤ key.shape.headD 0 ∧ views.blockCount ≤ value.shape.headD 0
    · obtain ⟨after, hrun, _⟩ := hroom henough
      have hle := hreturns.mp ⟨after, hrun⟩
      omega
    · obtain ⟨e, after, hrun⟩ := hshort (by omega)
      have hnot : ¬(key.shape.headD 0 ≤ views.blockCount ∧ value.shape.headD 0 ≤ views.blockCount) := by
        intro hle
        obtain ⟨other, hother⟩ := hreturns.mpr hle
        cases hrun.symm.trans hother
      omega
  · intro hblocks
    constructor
    · intro henough
      obtain ⟨hkey, hvalue⟩ : key.shape.headD 0 = views.blockCount ∧ value.shape.headD 0 = views.blockCount := by
        omega
      obtain ⟨after, hrun⟩ := hreturns.mpr (by omega)
      exact ⟨after, hrun, h.written hkey hvalue hrun⟩
    · intro hshort
      cases hrun : (writeSeparateCache host source cache).run cells with
      | error e after => exact ⟨e, after, rfl⟩
      | ok _ after =>
        have hle := hreturns.mp ⟨after, hrun⟩
        omega

def oneBlockLayer : LayerSource Int := .flat ⟨[1, 1, 1, 1], [5]⟩ ⟨[1, 1, 1, 1], [6]⟩

def blocksPair (keyBlocks valueBlocks : Nat) : KvCache :=
  .pair ⟨0, [keyBlocks, 1, 1, 1]⟩ ⟨1, [valueBlocks, 1, 1, 1]⟩

theorem blocksPair_call (keyBlocks valueBlocks : Nat) :
    SeparateCall (blocksPair keyBlocks valueBlocks) oneBlockLayer ⟨1, 1, 1, 1⟩
      ⟨0, [keyBlocks, 1, 1, 1]⟩ ⟨1, [valueBlocks, 1, 1, 1]⟩ where
  wellShaped := ⟨rfl, by decide, by decide, by decide, rfl, rfl, rfl, rfl⟩
  arrays_eq := rfl
  apart := Nat.zero_ne_one
  keySizes := Or.inl rfl
  valueSizes := Or.inl rfl

/-- Two blocks of three tokens, two heads and two dimensions, each value another number. -/
def twoBlockLayer : LayerSource Int :=
  .flat ⟨[2, 2, 2, 3], (List.range 24).map Int.ofNat⟩
    ⟨[2, 2, 3, 2], (List.range 24).map fun n => Int.ofNat (100 + n)⟩

def twoBlockPair : KvCache := .pair ⟨0, [2, 2, 2, 3]⟩ ⟨1, [2, 3, 2, 2]⟩

theorem twoBlockPair_call : SeparateCall twoBlockPair twoBlockLayer ⟨2, 3, 2, 2⟩ ⟨0, [2, 2, 2, 3]⟩
    ⟨1, [2, 3, 2, 2]⟩ where
  wellShaped := ⟨rfl, by decide, by decide, by decide, rfl, rfl, rfl, rfl⟩
  arrays_eq := rfl
  apart := Nat.zero_ne_one
  keySizes := Or.inl rfl
  valueSizes := Or.inr rfl

theorem twoBlocks_covered : CoversSource exactHost twoBlockLayer ⟨2, 3, 2, 2⟩ twoBlockPair
    ⟨0, [2, 2, 2, 3]⟩ ⟨1, [2, 3, 2, 2]⟩ (fun _ => 0) :=
  (coversSource_iff twoBlockPair_call _).mpr (Or.inl ⟨rfl, rfl⟩)

/-- A cache with a block more makes the write raise, and one without blocks takes nothing of a layer
that has one. -/
theorem unequalBlocks_notCovered :
    (SeparateCall (blocksPair 2 2) oneBlockLayer ⟨1, 1, 1, 1⟩ ⟨0, [2, 1, 1, 1]⟩ ⟨1, [2, 1, 1, 1]⟩ ∧
      ¬CoversSource exactHost oneBlockLayer ⟨1, 1, 1, 1⟩ (blocksPair 2 2) ⟨0, [2, 1, 1, 1]⟩
        ⟨1, [2, 1, 1, 1]⟩ (fun _ => 0)) ∧
    SeparateCall (blocksPair 0 0) oneBlockLayer ⟨1, 1, 1, 1⟩ ⟨0, [0, 1, 1, 1]⟩ ⟨1, [0, 1, 1, 1]⟩ ∧
      ¬CoversSource exactHost oneBlockLayer ⟨1, 1, 1, 1⟩ (blocksPair 0 0) ⟨0, [0, 1, 1, 1]⟩
        ⟨1, [0, 1, 1, 1]⟩ (fun _ => 0) := by
  refine ⟨⟨blocksPair_call 2 2, ?_⟩, blocksPair_call 0 0, ?_⟩
  · rintro ⟨hroom, _⟩
    obtain ⟨after, hrun, _⟩ := hroom (by decide)
    have hraises : ∃ cells, (writeSeparateCache exactHost oneBlockLayer (blocksPair 2 2)).run
      (fun _ => 0) = .error .indexError cells := ⟨_, rfl⟩
    obtain ⟨cells, hraises⟩ := hraises
    cases hraises.symm.trans hrun
  · rintro ⟨_, hshort⟩
    obtain ⟨e, after, hrun⟩ := hshort (by decide)
    have hreturns : (writeSeparateCache exactHost oneBlockLayer (blocksPair 0 0)).run (fun _ => 0) =
      .ok () (fun _ => 0) := rfl
    cases hreturns.symm.trans hrun

end Written

end PermeantOS
