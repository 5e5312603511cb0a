import PermeantOS.Loops
import PermeantOS.VllmPlacements

namespace PermeantOS

variable {P E : Type}

section Rectangular

/-- Lists of lists of lists of lists, of which every list at one depth has one length. -/
def Rectangular (n₀ n₁ n₂ n₃ : Nat) (blocks : List (List (List (List P)))) : Prop :=
  blocks.length = n₀ ∧ ∀ first ∈ blocks, first.length = n₁ ∧
    ∀ second ∈ first, second.length = n₂ ∧ ∀ third ∈ second, third.length = n₃

theorem blockElement_ok_iff {blocks : List (List (List (List P)))} {i j k l : Nat} {x : P} :
    blockElement blocks i j k l = .ok x ↔ ∃ first second third, blocks[i]? = some first ∧
      first[j]? = some second ∧ second[k]? = some third ∧ third[l]? = some x := by
  simp only [blockElement, except_bind_ok_iff, pyIndex_natCast_ok_iff]
  constructor
  · rintro ⟨first, hfirst, second, hsecond, third, hthird, hx⟩
    exact ⟨first, second, third, hfirst, hsecond, hthird, hx⟩
  · rintro ⟨first, second, third, hfirst, hsecond, hthird, hx⟩
    exact ⟨first, hfirst, second, hsecond, third, hthird, hx⟩

theorem Rectangular.exists_element {n₀ n₁ n₂ n₃ : Nat} {blocks : List (List (List (List P)))}
    (h : Rectangular n₀ n₁ n₂ n₃ blocks) {i j k l : Nat} (hi : i < n₀) (hj : j < n₁) (hk : k < n₂)
    (hl : l < n₃) : ∃ x, blockElement blocks i j k l = .ok x := by
  obtain ⟨hlen, hfirsts⟩ := h
  have hfirst := List.getElem?_eq_getElem (l := blocks) (i := i) (by omega)
  obtain ⟨hlen₁, hseconds⟩ := hfirsts _ (List.mem_of_getElem? hfirst)
  have hsecond := List.getElem?_eq_getElem (l := blocks[i]) (i := j) (by omega)
  obtain ⟨hlen₂, hthirds⟩ := hseconds _ (List.mem_of_getElem? hsecond)
  have hthird := List.getElem?_eq_getElem (l := blocks[i][j]) (i := k) (by omega)
  have hlen₃ := hthirds _ (List.mem_of_getElem? hthird)
  have hx := List.getElem?_eq_getElem (l := blocks[i][j][k]) (i := l) (by omega)
  exact ⟨_, blockElement_ok_iff.mpr ⟨_, _, _, hfirst, hsecond, hthird, hx⟩⟩

theorem Rectangular.block_lt {n₀ n₁ n₂ n₃ : Nat} {blocks : List (List (List (List P)))}
    (h : Rectangular n₀ n₁ n₂ n₃ blocks) {i j k l : Nat} {x : P}
    (hx : blockElement blocks i j k l = .ok x) : i < n₀ := by
  obtain ⟨first, _, _, hfirst, _⟩ := blockElement_ok_iff.mp hx
  obtain ⟨hlt, _⟩ := List.getElem?_eq_some_iff.mp hfirst
  rwa [h.1] at hlt

end Rectangular

section Flat

variable {key value : FlatTensor P} {n₀ n₁ n₂ n₃ : Nat}

/-- The place of an element in a flat tensor. -/
def flatOffset (n₁ n₂ n₃ i j k l : Nat) : Nat := ((i * n₁ + j) * n₂ + k) * n₃ + l

theorem flatOffset_lt {i j k l : Nat} (hi : i < n₀) (hj : j < n₁) (hk : k < n₂) (hl : l < n₃) :
    flatOffset n₁ n₂ n₃ i j k l < n₀ * n₁ * n₂ * n₃ :=
  mul_add_lt_mul (mul_add_lt_mul (mul_add_lt_mul hi hj) hk) hl

theorem le_flatOffset {i j k l : Nat} (hi : n₀ ≤ i) :
    n₀ * n₁ * n₂ * n₃ ≤ flatOffset n₁ n₂ n₃ i j k l :=
  calc n₀ * n₁ * n₂ * n₃ ≤ i * n₁ * n₂ * n₃ := by gcongr
    _ ≤ ((i * n₁ + j) * n₂ + k) * n₃ + l := by
      have hfirst : i * n₁ * n₂ ≤ (i * n₁ + j) * n₂ := Nat.mul_le_mul_right _ (Nat.le_add_right _ _)
      have hsecond := Nat.mul_le_mul_right n₃ (le_trans hfirst (Nat.le_add_right _ k))
      exact le_trans hsecond (Nat.le_add_right _ _)

theorem flatKeyValue_ok_iff {n h d b : Nat} (hkey : key.shape = [n, h, d, b])
    (hvalue : value.shape = [n, h, b, d]) {block head dim token : Nat} {x y : P} :
    flatKeyValue key value block head dim token = .ok (x, y) ↔
      key.data[flatOffset h d b block head dim token]? = some x ∧
        value.data[flatOffset h b d block head token dim]? = some y := by
  have hkeyOffset : ((block * (h : Nat) + head : Int) * (d : Nat) + dim) * (b : Nat) + token =
      (flatOffset h d b block head dim token : Nat) := by
    unfold flatOffset
    push_cast
    rfl
  have hvalueOffset : ((block * (h : Nat) + head : Int) * (b : Nat) + token) * (d : Nat) + dim =
      (flatOffset h b d block head token dim : Nat) := by
    unfold flatOffset
    push_cast
    rfl
  simp only [flatKeyValue, hkey, hvalue, List.getD_cons_succ, List.getD_cons_zero, hkeyOffset,
    hvalueOffset, except_bind_ok_iff, pyIndex_natCast_ok_iff]
  constructor
  · rintro ⟨x', hx, y', hy, h⟩
    cases h
    exact ⟨hx, hy⟩
  · rintro ⟨hx, hy⟩
    exact ⟨x, hx, y, hy, rfl⟩

end Flat

section WellShaped

/-- Every element that the sizes speak of is there, once. -/
def LayerSource.HasShape (views : LayerViews) : LayerSource P → Prop
  | .blocks keyBlocks valueBlocks =>
    Rectangular views.blockCount views.kvHeads views.headDim views.blockSize keyBlocks ∧
      Rectangular views.blockCount views.kvHeads views.blockSize views.headDim valueBlocks
  | .flat key value =>
    key.shape = [views.blockCount, views.kvHeads, views.headDim, views.blockSize] ∧
      value.shape = [views.blockCount, views.kvHeads, views.blockSize, views.headDim] ∧
      key.data.length = views.blockCount * views.kvHeads * views.headDim * views.blockSize ∧
      value.data.length = views.blockCount * views.kvHeads * views.blockSize * views.headDim
  | .missing => False

structure WellShaped (source : LayerSource P) (views : LayerViews) : Prop where
  views_eq : layerBlockViews source = .ok views
  blockSize_pos : 0 < views.blockSize
  kvHeads_pos : 0 < views.kvHeads
  headDim_pos : 0 < views.headDim
  hasShape : source.HasShape views

variable {source : LayerSource P} {views : LayerViews}

theorem WellShaped.exists_parts (h : WellShaped source views) {block token head dim : Nat}
    (hb : block < views.blockCount) (ht : token < views.blockSize) (hh : head < views.kvHeads)
    (hd : dim < views.headDim) :
    ∃ x y, source.keyOnly block head dim token = .ok x ∧ source.valueOnly block head dim token = .ok y := by
  have hshape := h.hasShape
  cases source with
  | blocks keyBlocks valueBlocks =>
    obtain ⟨x, hx⟩ := hshape.1.exists_element hb hh hd ht
    obtain ⟨y, hy⟩ := hshape.2.exists_element hb hh ht hd
    exact ⟨x, y, hx, hy⟩
  | flat key value =>
    obtain ⟨hkey, hvalue, hkeyLen, hvalueLen⟩ := hshape
    have hkeyLt := flatOffset_lt hb hh hd ht
    have hvalueLt := flatOffset_lt hb hh ht hd
    rw [← hkeyLen] at hkeyLt
    rw [← hvalueLen] at hvalueLt
    have hx := List.getElem?_eq_getElem hkeyLt
    have hy := List.getElem?_eq_getElem hvalueLt
    have hboth := (flatKeyValue_ok_iff hkey hvalue).mpr ⟨hx, hy⟩
    exact ⟨_, _, congrArg (Except.map Prod.fst) hboth, congrArg (Except.map Prod.snd) hboth⟩
  | missing => exact absurd hshape id

theorem WellShaped.exists_sourceValue (h : WellShaped source views) {block token head dim : Nat}
    (hb : block < views.blockCount) (ht : token < views.blockSize) (hh : head < views.kvHeads)
    (hd : dim < views.headDim) : ∃ element, sourceValue source block head dim token = .ok element := by
  obtain ⟨x, y, hx, hy⟩ := h.exists_parts hb ht hh hd
  exact ⟨(x, y), sourceValue_of_parts hx hy⟩

theorem WellShaped.block_lt_of_flat {key value : FlatTensor P} (h : WellShaped (.flat key value) views)
    {block token head dim : Nat} {element : P × P}
    (helement : sourceValue (.flat key value) block head dim token = .ok element) :
    block < views.blockCount := by
  obtain ⟨hkey, hvalue, hkeyLen, _⟩ := h.hasShape
  obtain ⟨hx, _⟩ := (flatKeyValue_ok_iff hkey hvalue).mp helement
  obtain ⟨hlt, _⟩ := List.getElem?_eq_some_iff.mp hx
  by_contra hle
  have hfar : views.blockCount * views.kvHeads * views.headDim * views.blockSize ≤
      flatOffset views.kvHeads views.headDim views.blockSize block head dim token :=
    le_flatOffset (not_lt.mp hle)
  omega

/-- A block after the last one has no element. -/
theorem WellShaped.block_lt_of_key (h : WellShaped source views) {block token head dim : Nat} {x : P}
    (hx : source.keyOnly block head dim token = .ok x) : block < views.blockCount := by
  cases source with
  | blocks keyBlocks valueBlocks => exact h.hasShape.1.block_lt hx
  | flat key value =>
    obtain ⟨element, helement⟩ := exists_ok_of_map_ok (f := Prod.fst) hx
    exact h.block_lt_of_flat helement
  | missing => exact absurd h.hasShape id

theorem WellShaped.block_lt_of_value (h : WellShaped source views) {block token head dim : Nat} {x : P}
    (hx : source.valueOnly block head dim token = .ok x) : block < views.blockCount := by
  cases source with
  | blocks keyBlocks valueBlocks => exact h.hasShape.2.block_lt hx
  | flat key value =>
    obtain ⟨element, helement⟩ := exists_ok_of_map_ok (f := Prod.snd) hx
    exact h.block_lt_of_flat helement
  | missing => exact absurd h.hasShape id

theorem WellShaped.block_lt (h : WellShaped source views) {block token head dim : Nat} {element : P × P}
    (helement : sourceValue source block head dim token = .ok element) : block < views.blockCount := by
  cases source with
  | blocks keyBlocks valueBlocks =>
    obtain ⟨x, hx, _⟩ := except_bind_ok_iff.mp helement
    exact h.hasShape.1.block_lt hx
  | flat key value => exact h.block_lt_of_flat helement
  | missing => exact absurd h.hasShape id

end WellShaped

section Paths

/-- Indices that are in range stand for themselves. -/
theorem resolvePath_of_forall₂ {shape index : List Nat} (h : List.Forall₂ (· < ·) index shape) :
    resolvePath shape (index.map fun (n : Nat) => (n : Int)) = some index := by
  induction h with
  | nil => rfl
  | @cons i size index shape hi _ ih =>
    have hnonneg : ¬((i : Int) < 0) := by omega
    have hlt : 0 ≤ (i : Int) ∧ (i : Int) < size := by omega
    rw [List.map_cons, resolvePath]
    simp only [hnonneg, if_false, hlt, and_self, if_true, ih, Option.map_some, Int.toNat_natCast]

theorem returns_writeCell {storage : CacheArray} {path : List Int} {index : List Nat} (x : E)
    (h : resolvePath storage.shape path = some index) : Returns (writeCell storage path x) := by
  intro cells
  rw [writeCell, h]
  exact ⟨_, _, rfl⟩

theorem run_readCell {storage : CacheArray} {path : List Int} {index : List Nat}
    (h : resolvePath storage.shape path = some index) (cells : Cell → E) :
    (readCell storage path).run cells = .ok (cells (storage.id, index)) cells := by
  rw [readCell, run_get_bind, h]
  rfl

end Paths

end PermeantOS
