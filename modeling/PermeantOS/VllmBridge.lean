import PermeantOS.LayoutRoundTrip
import PermeantOS.VllmSources

namespace PermeantOS

section Division

/-- The binary64 number nearest to a positive number of its normal range, halves to the even one. -/
def roundBinary64 (q : ℚ) : ℚ :=
  roundHalfEven (q / 2 ^ (Int.log 2 q - 52)) * 2 ^ (Int.log 2 q - 52)

/-- `a / b`, the float nearest to the quotient. -/
def trueDivide (a b : Nat) : ℚ := roundBinary64 (a / b)

/-- `max(1, math.ceil(seq_len / block_size))` -/
def bridgeBlockCount (seqLen blockSize : Nat) : Except PyException Nat :=
  if blockSize = 0 then .error .zeroDivisionError
  else .ok (max 1 ⌈trueDivide seqLen blockSize⌉.toNat)

theorem abs_roundHalfEven_sub (q : ℚ) : |(roundHalfEven q : ℚ) - q| ≤ 1 / 2 := by
  have hbelow := Int.floor_le q
  have habove := Int.lt_floor_add_one q
  rw [abs_le, roundHalfEven]
  by_cases hlow : q - ⌊q⌋ < 1 / 2
  · rw [if_pos hlow]
    constructor <;> linarith
  · rw [if_neg hlow]
    split_ifs with hhigh heven
    · push_cast
      constructor <;> linarith
    · constructor <;> linarith
    · push_cast
      constructor <;> linarith

theorem roundHalfEven_le {q : ℚ} {n : Int} (h : q ≤ n) : roundHalfEven q ≤ n := by
  have hnear := abs_le.mp (abs_roundHalfEven_sub q)
  by_contra hlt
  have hn : (n : ℚ) + 1 ≤ roundHalfEven q := by exact_mod_cast Int.add_one_le_of_lt (not_le.mp hlt)
  linarith [hnear.2]

/-- Rounding moves a number by less than its share of `2 ^ 53`. -/
theorem abs_roundBinary64_sub {q : ℚ} (hq : 0 < q) : |roundBinary64 q - q| ≤ q / 2 ^ 53 := by
  have hu : (0 : ℚ) < 2 ^ (Int.log 2 q - 52) := zpow_pos (by norm_num) _
  have hlog : (2 : ℚ) ^ Int.log 2 q ≤ q := by exact_mod_cast Int.zpow_log_le_self (by norm_num) hq
  have hunit : (2 : ℚ) ^ (Int.log 2 q - 52) = 2 ^ Int.log 2 q / 2 ^ 52 := by
    rw [zpow_sub₀ (by norm_num)]
    norm_num
  have hsplit : roundBinary64 q - q =
      (roundHalfEven (q / 2 ^ (Int.log 2 q - 52)) - q / 2 ^ (Int.log 2 q - 52)) *
        2 ^ (Int.log 2 q - 52) := by
    rw [roundBinary64, sub_mul, div_mul_cancel₀ _ hu.ne']
  rw [hsplit, abs_mul, abs_of_pos hu]
  calc _ ≤ 1 / 2 * (2 : ℚ) ^ (Int.log 2 q - 52) :=
        mul_le_mul_of_nonneg_right (abs_roundHalfEven_sub _) hu.le
    _ = 2 ^ Int.log 2 q / 2 ^ 53 := by rw [hunit]; ring
    _ ≤ q / 2 ^ 53 := by gcongr

/-- No rounding goes past an integer. -/
theorem roundBinary64_le {q : ℚ} {n : Nat} (hq : 0 < q) (hsmall : q < 2 ^ 53) (h : q ≤ n) :
    roundBinary64 q ≤ n := by
  have hexp : Int.log 2 q - 52 ≤ 0 := by
    have hlt : Int.log 2 q < 53 := by
      refine (Int.lt_zpow_iff_log_lt (by norm_num) hq).mp ?_
      exact_mod_cast hsmall
    omega
  obtain ⟨k, hk⟩ : ∃ k : Nat, Int.log 2 q - 52 = -(k : Int) := ⟨(52 - Int.log 2 q).toNat, by omega⟩
  have hu : (2 : ℚ) ^ (Int.log 2 q - 52) = 1 / 2 ^ k := by
    rw [hk, zpow_neg, zpow_natCast, one_div]
  have hle : roundHalfEven (q / 2 ^ (Int.log 2 q - 52)) ≤ ((n * 2 ^ k : Nat) : Int) := by
    apply roundHalfEven_le
    rw [hu]
    push_cast
    rw [div_div_eq_mul_div, div_one]
    gcongr
  have hle' : (roundHalfEven (q / 2 ^ (Int.log 2 q - 52)) : ℚ) ≤ n * 2 ^ k := by exact_mod_cast hle
  rw [roundBinary64, hu] at *
  rw [mul_one_div, div_le_iff₀ (by positivity)]
  exact hle'

/-- Below `2 ^ 53` the rounded quotient has the ceiling of the quotient. -/
theorem ceil_trueDivide {a b : Nat} (ha : 0 < a) (hsmall : a < 2 ^ 53) (hb : 0 < b) :
    ⌈trueDivide a b⌉ = ((a ⌈/⌉ b : Nat) : Int) := by
  have ha' : (0 : ℚ) < a := by exact_mod_cast ha
  have hb' : (0 : ℚ) < b := by exact_mod_cast hb
  have hq : (0 : ℚ) < a / b := div_pos ha' hb'
  have hone : (1 : ℚ) ≤ b := by exact_mod_cast hb
  have hqsmall : (a : ℚ) / b < 2 ^ 53 := by
    rw [div_lt_iff₀ hb']
    have : (a : ℚ) < 2 ^ 53 := by exact_mod_cast hsmall
    nlinarith
  have hup : (a : ℚ) / b ≤ ((a ⌈/⌉ b : Nat) : ℚ) := by
    rw [div_le_iff₀ hb']
    have : a ≤ b • (a ⌈/⌉ b) := le_smul_ceilDiv hb
    rw [smul_eq_mul, Nat.mul_comm] at this
    exact_mod_cast this
  have hdown : ((a ⌈/⌉ b : Nat) : ℚ) - 1 + 1 / b ≤ a / b := by
    have hlt : (a ⌈/⌉ b - 1) * b < a := by
      by_contra hle
      have : a ⌈/⌉ b ≤ a ⌈/⌉ b - 1 := (ceilDiv_le_iff_le_smul hb).mpr (by
        rw [smul_eq_mul, Nat.mul_comm]
        exact not_lt.mp hle)
      have hpos : 0 < a ⌈/⌉ b := by
        by_contra hzero
        rw [Nat.le_zero.mp (not_lt.mp hzero)] at hup
        linarith
      omega
    have hpos : 1 ≤ a ⌈/⌉ b := by
      by_contra hzero
      rw [show a ⌈/⌉ b = 0 by omega] at hup
      linarith
    have hle : (((a ⌈/⌉ b : Nat) : ℚ) - 1) * b + 1 ≤ a := by
      have := Nat.succ_le_of_lt hlt
      have hcast : (((a ⌈/⌉ b - 1 : Nat) * b + 1 : Nat) : ℚ) ≤ a := by exact_mod_cast this
      rw [Nat.cast_add, Nat.cast_mul, Nat.cast_sub hpos] at hcast
      simpa using hcast
    rw [le_div_iff₀ hb', add_mul, one_div_mul_cancel hb'.ne']
    exact hle
  have hnear := abs_le.mp (abs_roundBinary64_sub hq)
  rw [Int.ceil_eq_iff]
  constructor
  · -- The quotient is at least one `b`-th above the integer, and rounding moves it by less.
    have hmove : (a : ℚ) / b / 2 ^ 53 < 1 / b := by
      rw [div_div, div_lt_div_iff₀ (by positivity) hb']
      have : (a : ℚ) < 2 ^ 53 := by exact_mod_cast hsmall
      nlinarith
    rw [trueDivide]
    push_cast
    linarith [hnear.1]
  · exact_mod_cast roundBinary64_le hq hqsmall hup

theorem bridgeBlockCount_eq {seqLen blockSize : Nat} (hseq : 0 < seqLen) (hsmall : seqLen < 2 ^ 53)
    (hblock : 0 < blockSize) : bridgeBlockCount seqLen blockSize = .ok (seqLen ⌈/⌉ blockSize) := by
  have hpos : 0 < seqLen ⌈/⌉ blockSize := by
    by_contra hzero
    have hle := le_smul_ceilDiv (b := seqLen) hblock
    rw [Nat.le_zero.mp (not_lt.mp hzero), smul_zero] at hle
    omega
  rw [bridgeBlockCount, if_neg hblock.ne', ceil_trueDivide hseq hsmall hblock, Int.toNat_natCast]
  congr 1
  omega

end Division

variable {F : Type}

section Flatten

/-- Lists of one length, end to end. -/
theorem getElem?_flatten {α : Type} {rows : List (List α)} {n : Nat} (h : ∀ row ∈ rows, row.length = n)
    (i : Nat) {j : Nat} (hj : j < n) : rows.flatten[i * n + j]? = rows[i]?.bind fun row => row[j]? := by
  induction rows generalizing i with
  | nil => simp
  | cons row rows ih =>
    obtain ⟨hrow, hrest⟩ := List.forall_mem_cons.mp h
    cases i with
    | zero => simp [List.getElem?_append, hrow, hj]
    | succ i =>
      have hskip : (i + 1) * n + j = row.length + (i * n + j) := by rw [hrow, Nat.succ_mul]; omega
      rw [List.flatten_cons, hskip, List.getElem?_append_right (Nat.le_add_right _ _),
        Nat.add_sub_cancel_left, ih hrest, List.getElem?_cons_succ]

theorem length_flatten_of_rows {α : Type} {rows : List (List α)} {n : Nat}
    (h : ∀ row ∈ rows, row.length = n) : rows.flatten.length = rows.length * n := by
  rw [List.length_flatten, List.map_congr_left h]
  simp

/-- What stands at four indices. -/
def elementAt (blocks : List (List (List (List F)))) (i j k l : Nat) : Option F :=
  blocks[i]?.bind fun first => first[j]?.bind fun second => second[k]?.bind fun third => third[l]?

theorem blockElement_ok_iff_elementAt {blocks : List (List (List (List F)))} {i j k l : Nat} {x : F} :
    blockElement blocks i j k l = .ok x ↔ elementAt blocks i j k l = some x := by
  rw [blockElement_ok_iff]
  simp only [elementAt, Option.bind_eq_some_iff]
  constructor
  · rintro ⟨first, second, third, hfirst, hsecond, hthird, hx⟩
    exact ⟨first, hfirst, second, hsecond, third, hthird, hx⟩
  · rintro ⟨first, hfirst, second, hsecond, third, hthird, hx⟩
    exact ⟨first, second, third, hfirst, hsecond, hthird, hx⟩

variable {n₀ n₁ n₂ n₃ : Nat} {blocks : List (List (List (List F)))}

theorem Rectangular.rows (h : Rectangular n₀ n₁ n₂ n₃ blocks) :
    (∀ first ∈ blocks, first.length = n₁) ∧ (∀ second ∈ blocks.flatten, second.length = n₂) ∧
      ∀ third ∈ blocks.flatten.flatten, third.length = n₃ := by
  refine ⟨fun first hf => (h.2 first hf).1, ?_, ?_⟩
  · intro second hs
    obtain ⟨first, hf, hs⟩ := List.mem_flatten.mp hs
    exact ((h.2 first hf).2 second hs).1
  · intro third ht
    obtain ⟨second, hs, ht⟩ := List.mem_flatten.mp ht
    obtain ⟨first, hf, hs⟩ := List.mem_flatten.mp hs
    exact ((h.2 first hf).2 second hs).2 third ht

/-- Row-major, the lists of a rectangular block stand end to end. -/
theorem Rectangular.flatten_getElem? (h : Rectangular n₀ n₁ n₂ n₃ blocks) (i : Nat) {j k l : Nat}
    (hj : j < n₁) (hk : k < n₂) (hl : l < n₃) :
    blocks.flatten.flatten.flatten[((i * n₁ + j) * n₂ + k) * n₃ + l]? = elementAt blocks i j k l := by
  obtain ⟨hfirst, hsecond, hthird⟩ := h.rows
  rw [getElem?_flatten hthird _ hl, getElem?_flatten hsecond _ hk, getElem?_flatten hfirst _ hj]
  simp only [elementAt, Option.bind_assoc]

theorem Rectangular.flatten_length (h : Rectangular n₀ n₁ n₂ n₃ blocks) :
    blocks.flatten.flatten.flatten.length = n₀ * n₁ * n₂ * n₃ := by
  obtain ⟨hfirst, hsecond, hthird⟩ := h.rows
  rw [length_flatten_of_rows hthird, length_flatten_of_rows hsecond, length_flatten_of_rows hfirst, h.1]

end Flatten

section Store

/-- `blocks[i][j][k][l] = x` -/
def storeElement (blocks : List (List (List (List F)))) (i j k l : Nat) (x : F) :
    Except PyException (List (List (List (List F)))) := do
  let _ ← blockElement blocks i j k l
  pure (blocks.modify i fun first => first.modify j fun second => second.modify k fun third =>
    third.set l x)

variable {n₀ n₁ n₂ n₃ : Nat} {blocks : List (List (List (List F)))}

theorem forall_mem_modify {α : Type} {Q : α → Prop} {f : α → α} (hf : ∀ a, Q a → Q (f a)) {xs : List α}
    (h : ∀ a ∈ xs, Q a) (i : Nat) : ∀ a ∈ xs.modify i f, Q a := by
  intro a ha
  obtain ⟨k, hk⟩ := List.mem_iff_getElem?.mp ha
  rw [List.getElem?_modify] at hk
  obtain ⟨b, hb, rfl⟩ := Option.map_eq_some_iff.mp hk
  have hq := h b (List.mem_of_getElem? hb)
  split
  · exact hf b hq
  · exact hq

/-- An assignment in range keeps the shape and changes one element. -/
theorem storeElement_ok (h : Rectangular n₀ n₁ n₂ n₃ blocks) {i j k l : Nat} (hi : i < n₀) (hj : j < n₁)
    (hk : k < n₂) (hl : l < n₃) (x : F) :
    ∃ stored, storeElement blocks i j k l x = .ok stored ∧ Rectangular n₀ n₁ n₂ n₃ stored ∧
      ∀ i' j' k' l', elementAt stored i' j' k' l' =
        if i = i' ∧ j = j' ∧ k = k' ∧ l = l' then some x else elementAt blocks i' j' k' l' := by
  obtain ⟨old, hold⟩ := h.exists_element hi hj hk hl
  refine ⟨_, by rw [storeElement, except_bind_of_ok hold]; rfl, ?_, ?_⟩
  · refine ⟨by rw [List.length_modify, h.1], forall_mem_modify ?_ h.2 i⟩
    rintro first ⟨hlen₁, hseconds⟩
    refine ⟨by rw [List.length_modify, hlen₁], forall_mem_modify ?_ hseconds j⟩
    rintro second ⟨hlen₂, hthirds⟩
    refine ⟨by rw [List.length_modify, hlen₂], forall_mem_modify ?_ hthirds k⟩
    intro third hlen₃
    rw [List.length_set, hlen₃]
  · intro i' j' k' l'
    rw [blockElement_ok_iff_elementAt] at hold
    by_cases hsame : i = i' ∧ j = j' ∧ k = k' ∧ l = l'
    · obtain ⟨rfl, rfl, rfl, rfl⟩ := hsame
      simp only [elementAt, Option.bind_eq_some_iff] at hold
      obtain ⟨first, hfirst, second, hsecond, third, hthird, hx⟩ := hold
      obtain ⟨hlt, _⟩ := List.getElem?_eq_some_iff.mp hx
      simp [elementAt, hfirst, hsecond, hthird, hlt]
    · rw [if_neg hsame]
      simp only [elementAt, List.getElem?_modify]
      cases hfirst : blocks[i']? with
      | none => rfl
      | some first =>
        by_cases hi' : i = i'
        · simp only [hi', if_true, Option.map_eq_map, Option.map_some, Option.bind_some, List.getElem?_modify]
          cases hsecond : first[j']? with
          | none => rfl
          | some second =>
            by_cases hj' : j = j'
            · simp only [hj', if_true, Option.map_some, Option.bind_some, List.getElem?_modify,
                Option.map_eq_map]
              cases hthird : second[k']? with
              | none => rfl
              | some third =>
                by_cases hk' : k = k'
                · have hl' : l ≠ l' := fun hl' => hsame ⟨hi', hj', hk', hl'⟩
                  simp [hk', List.getElem?_set_ne hl']
                · simp [hk']
            · simp [hj']
        · simp [hi']

end Store

section Nested

def tokenElement (data : List (List (List F))) (seqIndex headIndex dimIndex : Nat) :
    Except PyException F := do
  let heads ← pyIndex data seqIndex
  let dims ← pyIndex heads headIndex
  pyIndex dims dimIndex

/-- A list that has the elements of a flat tensor of three sizes, in their order. -/
structure IsNested (data : List (List (List F))) (seqLen kvHeads headDim : Nat) (flat : List F) :
    Prop where
  length_eq : data.length = seqLen
  heads : ∀ heads ∈ data, heads.length = kvHeads
  dims : ∀ dims ∈ data.flatten, dims.length = headDim
  flat_eq : data.flatten.flatten = flat

variable {data : List (List (List F))} {seqLen kvHeads headDim : Nat} {flat : List F}

theorem IsNested.flat_length (h : IsNested data seqLen kvHeads headDim flat) :
    flat.length = seqLen * kvHeads * headDim := by
  rw [← h.flat_eq, length_flatten_of_rows h.dims, length_flatten_of_rows h.heads, h.length_eq]

theorem IsNested.tokenElement_ok_iff (h : IsNested data seqLen kvHeads headDim flat) (token : Nat)
    {head dim : Nat} (hh : head < kvHeads) (hd : dim < headDim) {x : F} :
    tokenElement data token head dim = .ok x ↔
      flat[(token * kvHeads + head) * headDim + dim]? = some x := by
  rw [← h.flat_eq, getElem?_flatten h.dims _ hd, getElem?_flatten h.heads _ hh]
  simp only [tokenElement, except_bind_ok_iff, pyIndex_natCast_ok_iff, Option.bind_eq_some_iff]
  constructor
  · rintro ⟨heads, hheads, dims, hdims, hx⟩
    exact ⟨dims, ⟨heads, hheads, hdims⟩, hx⟩
  · rintro ⟨dims, ⟨heads, hheads, hdims⟩, hx⟩
    exact ⟨heads, hheads, dims, hdims, hx⟩

theorem IsNested.sizes (h : IsNested data seqLen kvHeads headDim flat) (hs : 0 < seqLen)
    (hk : 0 < kvHeads) :
    (data.headD []).length = kvHeads ∧ ((data.headD []).headD []).length = headDim := by
  cases data with
  | nil =>
    have := h.length_eq
    simp only [List.length_nil] at this
    omega
  | cons heads rest =>
    have hheads : heads.length = kvHeads := h.heads heads List.mem_cons_self
    refine ⟨hheads, ?_⟩
    cases heads with
    | nil =>
      simp only [List.length_nil] at hheads
      omega
    | cons dims more => exact h.dims dims (by simp)

/-- The last two sizes of a block, and where in them an offset and a dimension go. -/
structure Places (place : Nat → Nat → Nat × Nat) (blockSize headDim n₂ n₃ : Nat) : Prop where
  lt : ∀ offset < blockSize, ∀ dim < headDim, (place offset dim).1 < n₂ ∧ (place offset dim).2 < n₃
  inj : ∀ offset dim offset' dim', place offset dim = place offset' dim' → offset = offset' ∧ dim = dim'

/-- Slots with different indices have different numbers. -/
theorem slot_number_eq_iff {blockSize : Nat} (block token : Nat) {offset head dim head' dim' : Nat}
    (ho : offset < blockSize)
    (hh : head < kvHeads) (hd : dim < headDim) (hh' : head' < kvHeads) (hd' : dim' < headDim) :
    ((block * blockSize + offset) * kvHeads + head) * headDim + dim =
        (token * kvHeads + head') * headDim + dim' ↔
      (token / blockSize = block ∧ head' = head ∧ token % blockSize = offset ∧ dim' = dim) := by
  constructor
  · intro heq
    have hdim : dim = dim' := by
      rw [← mul_add_mod_of_lt (a := (block * blockSize + offset) * kvHeads + head) hd, heq,
        mul_add_mod_of_lt hd']
    have hrest : (block * blockSize + offset) * kvHeads + head = token * kvHeads + head' := by
      rw [← mul_add_div_of_lt (a := (block * blockSize + offset) * kvHeads + head) hd, heq,
        mul_add_div_of_lt hd']
    have hhead : head = head' := by
      rw [← mul_add_mod_of_lt (a := block * blockSize + offset) hh, hrest, mul_add_mod_of_lt hh']
    have htoken : block * blockSize + offset = token := by
      rw [← mul_add_div_of_lt (a := block * blockSize + offset) hh, hrest, mul_add_div_of_lt hh']
    rw [← htoken]
    exact ⟨mul_add_div_of_lt ho, hhead.symm, mul_add_mod_of_lt ho, hdim.symm⟩
  · rintro ⟨rfl, rfl, rfl, rfl⟩
    rw [Nat.div_add_mod']

end Nested

section Blocking

variable [F32Arith F] {data : List (List (List F))} {seqLen kvHeads headDim : Nat} {flat : List F}

def zeroBlocks (n₀ n₁ n₂ n₃ : Nat) : List (List (List (List F))) :=
  List.replicate n₀ (List.replicate n₁ (List.replicate n₂ (List.replicate n₃ (F32Arith.lit 0))))

/-- The three loops of both functions; `place` orders the last two indices of a block. -/
def fillFromTokens (data : List (List (List F))) (blockSize : Nat) (place : Nat → Nat → Nat × Nat)
    (seqLen kvHeads headDim : Nat) (blocks : List (List (List (List F)))) :
    Except PyException (List (List (List (List F)))) :=
  forRange (fun seqIndex => forRange (fun headIndex => forRange (fun dimIndex blocks => do
      let x ← tokenElement data seqIndex headIndex dimIndex
      let (k, l) := place (seqIndex % blockSize) dimIndex
      storeElement blocks (seqIndex / blockSize) headIndex k l x)
    headDim) kvHeads) seqLen blocks

def keyToBlocks (data : List (List (List F))) (blockSize : Nat) :
    Except PyException (List (List (List (List F)))) := do
  let kvHeads := (data.headD []).length
  let headDim := ((data.headD []).headD []).length
  let numBlocks ← bridgeBlockCount data.length blockSize
  fillFromTokens data blockSize (fun offset dimIndex => (dimIndex, offset)) data.length kvHeads headDim
    (zeroBlocks numBlocks kvHeads headDim blockSize)

def valueToBlocks (data : List (List (List F))) (blockSize : Nat) :
    Except PyException (List (List (List (List F)))) := do
  let kvHeads := (data.headD []).length
  let headDim := ((data.headD []).headD []).length
  let numBlocks ← bridgeBlockCount data.length blockSize
  fillFromTokens data blockSize (fun offset dimIndex => (offset, dimIndex)) data.length kvHeads headDim
    (zeroBlocks numBlocks kvHeads blockSize headDim)

theorem rectangular_zeroBlocks (n₀ n₁ n₂ n₃ : Nat) :
    Rectangular n₀ n₁ n₂ n₃ (zeroBlocks n₀ n₁ n₂ n₃ : List (List (List (List F)))) := by
  refine ⟨List.length_replicate, ?_⟩
  intro first hfirst
  obtain rfl := List.eq_of_mem_replicate hfirst
  refine ⟨List.length_replicate, ?_⟩
  intro second hsecond
  obtain rfl := List.eq_of_mem_replicate hsecond
  refine ⟨List.length_replicate, ?_⟩
  intro third hthird
  obtain rfl := List.eq_of_mem_replicate hthird
  exact List.length_replicate

theorem elementAt_zeroBlocks {n₀ n₁ n₂ n₃ i j k l : Nat} (hi : i < n₀) (hj : j < n₁) (hk : k < n₂)
    (hl : l < n₃) : elementAt (zeroBlocks n₀ n₁ n₂ n₃) i j k l = some (F32Arith.lit 0 : F) := by
  simp [elementAt, zeroBlocks, hi, hj, hk, hl]

/-- The blocks after the first `n` rounds: what was copied, and zero elsewhere. -/
structure FilledBelow (flat : List F) (numBlocks blockSize kvHeads headDim : Nat)
    (place : Nat → Nat → Nat × Nat) (n₂ n₃ : Nat) (n : Nat) (blocks : List (List (List (List F)))) :
    Prop where
  rectangular : Rectangular numBlocks kvHeads n₂ n₃ blocks
  element : ∀ block < numBlocks, ∀ head < kvHeads, ∀ offset < blockSize, ∀ dim < headDim,
    elementAt blocks block head (place offset dim).1 (place offset dim).2 =
      if ((block * blockSize + offset) * kvHeads + head) * headDim + dim < n then
        flat[((block * blockSize + offset) * kvHeads + head) * headDim + dim]?
      else some (F32Arith.lit 0)

variable {numBlocks blockSize n₂ n₃ : Nat} {place : Nat → Nat → Nat × Nat}

/-- One round copies the next element of the flat tensor. -/
theorem fill_round (h : IsNested data seqLen kvHeads headDim flat) (hb : 0 < blockSize)
    (hplaces : Places place blockSize headDim n₂ n₃) (hroom : seqLen ≤ numBlocks * blockSize)
    {token head dim : Nat} (ht : token < seqLen) (hh : head < kvHeads) (hd : dim < headDim)
    {blocks : List (List (List (List F)))}
    (hfilled : FilledBelow flat numBlocks blockSize kvHeads headDim place n₂ n₃
      ((token * kvHeads + head) * headDim + dim) blocks) :
    ∃ x stored, tokenElement data token head dim = .ok x ∧
      storeElement blocks (token / blockSize) head (place (token % blockSize) dim).1
        (place (token % blockSize) dim).2 x = .ok stored ∧
      FilledBelow flat numBlocks blockSize kvHeads headDim place n₂ n₃
        ((token * kvHeads + head) * headDim + dim + 1) stored := by
  have hlt : (token * kvHeads + head) * headDim + dim < flat.length := by
    rw [h.flat_length]
    exact mul_add_lt_mul (mul_add_lt_mul ht hh) hd
  have hx := List.getElem?_eq_getElem hlt
  have hblock : token / blockSize < numBlocks :=
    Nat.div_lt_of_lt_mul (by rw [Nat.mul_comm]; omega)
  have hoffset := Nat.mod_lt token hb
  obtain ⟨hk, hl⟩ := hplaces.lt _ hoffset dim hd
  obtain ⟨stored, hstored, hrect, helement⟩ := storeElement_ok hfilled.rectangular hblock hh hk hl
    (flat[(token * kvHeads + head) * headDim + dim])
  refine ⟨_, stored, (h.tokenElement_ok_iff token hh hd).mpr hx, hstored, hrect, ?_⟩
  intro block' hblock' head' hh' offset' ho' dim' hd'
  have hnumber := slot_number_eq_iff block' token ho' hh' hd' hh hd
  rw [helement, hfilled.element block' hblock' head' hh' offset' ho' dim' hd']
  by_cases hsame : ((block' * blockSize + offset') * kvHeads + head') * headDim + dim' =
      (token * kvHeads + head) * headDim + dim
  · obtain ⟨hb', hh'', ho'', hd''⟩ := hnumber.mp hsame
    rw [if_pos ⟨hb', hh'', by rw [ho'', hd''], by rw [ho'', hd'']⟩, if_pos (by omega), hsame, hx]
  · have hother : ¬(token / blockSize = block' ∧ head = head' ∧
        (place (token % blockSize) dim).1 = (place offset' dim').1 ∧
        (place (token % blockSize) dim).2 = (place offset' dim').2) := by
      rintro ⟨hb', hh'', hfst, hsnd⟩
      obtain ⟨ho'', hd''⟩ := hplaces.inj _ _ _ _ (Prod.ext hfst hsnd)
      exact hsame (hnumber.mpr ⟨hb', hh'', ho'', hd''⟩)
    rw [if_neg hother]
    by_cases hbelow : ((block' * blockSize + offset') * kvHeads + head') * headDim + dim' <
        (token * kvHeads + head) * headDim + dim
    · rw [if_pos hbelow, if_pos (by omega)]
    · rw [if_neg hbelow, if_neg (by omega)]

theorem exists_fillFromTokens (h : IsNested data seqLen kvHeads headDim flat) (hb : 0 < blockSize)
    (hplaces : Places place blockSize headDim n₂ n₃) (hroom : seqLen ≤ numBlocks * blockSize) :
    ∃ blocks, fillFromTokens data blockSize place seqLen kvHeads headDim
        (zeroBlocks numBlocks kvHeads n₂ n₃) = .ok blocks ∧
      FilledBelow flat numBlocks blockSize kvHeads headDim place n₂ n₃ (seqLen * kvHeads * headDim)
        blocks := by
  rw [fillFromTokens, forRange_mul, forRange_mul]
  refine exists_forRange_ok ⟨rectangular_zeroBlocks _ _ _ _, ?_⟩ ?_
  · intro block hblock head hh offset ho dim hd
    obtain ⟨hk, hl⟩ := hplaces.lt offset ho dim hd
    rw [elementAt_zeroBlocks hblock hh hk hl, if_neg (Nat.not_lt_zero _)]
  · intro k hk blocks hfilled
    have hpos : 0 < seqLen * kvHeads * headDim := lt_of_le_of_lt (Nat.zero_le k) hk
    have hheadDim : 0 < headDim := Nat.pos_of_mul_pos_left hpos
    have hkvHeads : 0 < kvHeads := Nat.pos_of_mul_pos_left (Nat.pos_of_mul_pos_right hpos)
    have hnumber : (k / headDim / kvHeads * kvHeads + k / headDim % kvHeads) * headDim + k % headDim =
        k := by
      rw [Nat.div_add_mod', Nat.div_add_mod']
    rw [← hnumber] at hfilled
    have htoken : k / headDim / kvHeads < seqLen := by
      rw [Nat.div_lt_iff_lt_mul hkvHeads, Nat.div_lt_iff_lt_mul hheadDim]
      exact hk
    obtain ⟨x, stored, hx, hstored, hnext⟩ := fill_round h hb hplaces hroom htoken
      (Nat.mod_lt _ hkvHeads) (Nat.mod_lt _ hheadDim) hfilled
    rw [hnumber] at hnext
    refine ⟨stored, ?_, hnext⟩
    dsimp only
    rw [except_bind_of_ok hx]
    exact hstored

/-- What the blocks hold for a token: its element, or zero after the last token. -/
def flatSlot (flat : List F) (seqLen kvHeads headDim token head dim : Nat) : Option F :=
  if token < seqLen then flat[(token * kvHeads + head) * headDim + dim]? else some (F32Arith.lit 0)

theorem FilledBelow.slot {blocks : List (List (List (List F)))}
    (h : FilledBelow flat numBlocks blockSize kvHeads headDim place n₂ n₃ (seqLen * kvHeads * headDim)
      blocks) {block head offset dim : Nat} (hb : block < numBlocks) (hh : head < kvHeads)
    (ho : offset < blockSize) (hd : dim < headDim) :
    elementAt blocks block head (place offset dim).1 (place offset dim).2 =
      flatSlot flat seqLen kvHeads headDim (block * blockSize + offset) head dim := by
  rw [h.element block hb head hh offset ho dim hd, flatSlot]
  by_cases hlive : block * blockSize + offset < seqLen
  · rw [if_pos hlive, if_pos (mul_add_lt_mul (mul_add_lt_mul hlive hh) hd)]
  · have hle : seqLen * kvHeads * headDim ≤ (block * blockSize + offset) * kvHeads * headDim :=
      Nat.mul_le_mul_right _ (Nat.mul_le_mul_right _ (not_lt.mp hlive))
    rw [if_neg hlive, if_neg]
    rw [Nat.add_mul]
    omega

/-- Every list of tokens is blocked, and the shape and every slot of the result. -/
theorem toBlocks_ok (h : IsNested data seqLen kvHeads headDim flat) (hs : 0 < seqLen)
    (hsmall : seqLen < 2 ^ 53) (hk : 0 < kvHeads) (hb : 0 < blockSize) :
    (∃ blocks, keyToBlocks data blockSize = .ok blocks ∧
      Rectangular (seqLen ⌈/⌉ blockSize) kvHeads headDim blockSize blocks ∧
      ∀ block < seqLen ⌈/⌉ blockSize, ∀ head < kvHeads, ∀ dim < headDim, ∀ offset < blockSize,
        elementAt blocks block head dim offset =
          flatSlot flat seqLen kvHeads headDim (block * blockSize + offset) head dim) ∧
    ∃ blocks, valueToBlocks data blockSize = .ok blocks ∧
      Rectangular (seqLen ⌈/⌉ blockSize) kvHeads blockSize headDim blocks ∧
      ∀ block < seqLen ⌈/⌉ blockSize, ∀ head < kvHeads, ∀ dim < headDim, ∀ offset < blockSize,
        elementAt blocks block head offset dim =
          flatSlot flat seqLen kvHeads headDim (block * blockSize + offset) head dim := by
  obtain ⟨hheads, hdims⟩ := h.sizes hs hk
  have hcount := bridgeBlockCount_eq hs hsmall hb
  have hroom : seqLen ≤ seqLen ⌈/⌉ blockSize * blockSize := by
    have := le_smul_ceilDiv (b := seqLen) hb
    rwa [smul_eq_mul, Nat.mul_comm] at this
  have hkeyPlaces : Places (fun offset dim => (dim, offset)) blockSize headDim headDim blockSize :=
    ⟨fun offset ho dim hd => ⟨hd, ho⟩, fun offset dim offset' dim' heq => by cases heq; exact ⟨rfl, rfl⟩⟩
  have hvaluePlaces : Places (fun offset dim => (offset, dim)) blockSize headDim blockSize headDim :=
    ⟨fun offset ho dim hd => ⟨ho, hd⟩, fun offset dim offset' dim' heq => by cases heq; exact ⟨rfl, rfl⟩⟩
  constructor
  · obtain ⟨blocks, hblocks, hfilled⟩ := exists_fillFromTokens h hb hkeyPlaces hroom
    refine ⟨blocks, ?_, hfilled.rectangular, ?_⟩
    · rw [keyToBlocks, hheads, hdims, h.length_eq, except_bind_of_ok hcount, hblocks]
    · intro block hblock head hh dim hd offset ho
      exact hfilled.slot hblock hh ho hd
  · obtain ⟨blocks, hblocks, hfilled⟩ := exists_fillFromTokens h hb hvaluePlaces hroom
    refine ⟨blocks, ?_, hfilled.rectangular, ?_⟩
    · rw [valueToBlocks, hheads, hdims, h.length_eq, except_bind_of_ok hcount, hblocks]
    · intro block hblock head hh dim hd offset ho
      exact hfilled.slot hblock hh ho hd

end Blocking

section Layers

variable {E : Type} {host : CacheHost F E} {storage : CacheArray} {ids : Option (List Int)}
  {source source' : LayerSource F} {views : LayerViews}

theorem forBelow_congr {ε σ : Type} {n : Nat} {body body' : Nat → EStateM ε σ Unit}
    (h : ∀ i < n, body i = body' i) : forBelow n body = forBelow n body' := by
  unfold forBelow
  replace h : ∀ i ∈ List.range n, body i = body' i := fun i hi => h i (List.mem_range.mp hi)
  generalize List.range n = rounds at h
  induction rounds with
  | nil => rfl
  | cons i rounds ih =>
    obtain ⟨hfirst, hrest⟩ := List.forall_mem_cons.mp h
    rw [List.forM_cons, List.forM_cons, hfirst, ih hrest]

/-- Layers of the same sizes and the same elements are written alike. -/
theorem writeCombinedCache_congr (hviews : layerBlockViews source = .ok views)
    (hviews' : layerBlockViews source' = .ok views)
    (hsame : ∀ block < views.blockCount, ∀ token < views.blockSize, ∀ head < views.kvHeads,
      ∀ dim < views.headDim, sourceValue source block head dim token =
        sourceValue source' block head dim token) (cells : Cell → E) :
    (writeCombinedCache host storage source ids).run cells =
      (writeCombinedCache host storage source' ids).run cells := by
  have htokens : writeTokenHeadDim host storage source ids views =
      writeTokenHeadDim host storage source' ids views := by
    refine forBelow_congr fun block hb => forBelow_congr fun token ht => forBelow_congr fun head hh =>
      forBelow_congr fun dim hd => ?_
    rw [hsame block hb token ht head hh dim hd]
  have hheads : writeHeadTokenDim host storage source ids views =
      writeHeadTokenDim host storage source' ids views := by
    refine forBelow_congr fun block hb => forBelow_congr fun head hh => forBelow_congr fun token ht =>
      forBelow_congr fun dim hd => ?_
    rw [hsame block hb token ht head hh dim hd]
  have hsplit : ∀ arrange tokens blocks, writeSplit host storage source ids arrange tokens blocks views =
      writeSplit host storage source' ids arrange tokens blocks views := by
    intro arrange tokens blocks
    refine forBelow_congr fun block hb => forBelow_congr fun token ht => ?_
    congr 1
    funext target
    refine forBelow_congr fun head hh => forBelow_congr fun dim hd => ?_
    rw [hsame block hb token ht head hh dim hd]
  rw [writeCombinedCache, writeCombinedCache, run_liftExcept_bind_of_ok hviews,
    run_liftExcept_bind_of_ok hviews']
  simp only [htokens, hheads, hsplit]

/-- Nested lists of one shape, and their sizes. -/
theorem layerBlockViews_blocks {keyBlocks valueBlocks : List (List (List (List F)))} {n h d b : Nat}
    (hkey : Rectangular n h d b keyBlocks) (hvalue : Rectangular n h b d valueBlocks) (hn : 0 < n)
    (hk : 0 < h) : layerBlockViews (.blocks keyBlocks valueBlocks) = .ok ⟨n, b, h, d⟩ := by
  have hheadD : ∀ {α : Type} (xs : List (List α)), 0 < xs.length → xs.headD [] ∈ xs := by
    intro α xs hpos
    cases xs with
    | nil => exact absurd hpos (lt_irrefl 0)
    | cons x xs => exact List.mem_cons_self
  obtain ⟨hheads, hdims⟩ := hkey.2 _ (hheadD _ (by rw [hkey.1]; exact hn))
  obtain ⟨hvalueHeads, hoffsets⟩ := hvalue.2 _ (hheadD _ (by rw [hvalue.1]; exact hn))
  obtain ⟨hdim, _⟩ := hdims _ (hheadD _ (by rw [hheads]; exact hk))
  obtain ⟨hoffset, _⟩ := hoffsets _ (hheadD _ (by rw [hvalueHeads]; exact hk))
  simp only [layerBlockViews, hkey.1, hheads, hdim, hoffset]

theorem Rectangular.flatten_eq {n₀ n₁ n₂ n₃ : Nat} {blocks : List (List (List (List F)))}
    (h : Rectangular n₀ n₁ n₂ n₃ blocks) {flat : List F} (hlen : flat.length = n₀ * n₁ * n₂ * n₃)
    (hsame : ∀ i < n₀, ∀ j < n₁, ∀ k < n₂, ∀ l < n₃,
      flat[((i * n₁ + j) * n₂ + k) * n₃ + l]? = elementAt blocks i j k l) :
    blocks.flatten.flatten.flatten = flat := by
  apply List.ext_getElem?
  intro m
  by_cases hm : m < n₀ * n₁ * n₂ * n₃
  · obtain ⟨h₀, h₁, h₂, h₃⟩ := digits_bounds hm
    have hnumber : ((m / n₃ / n₂ / n₁ * n₁ + m / n₃ / n₂ % n₁) * n₂ + m / n₃ % n₂) * n₃ + m % n₃ = m := by
      rw [Nat.div_add_mod', Nat.div_add_mod', Nat.div_add_mod']
    rw [← hnumber, h.flatten_getElem? _ h₁ h₂ h₃, hsame _ h₀ _ h₁ _ h₂ _ h₃]
  · rw [List.getElem?_eq_none (by rw [h.flatten_length]; omega), List.getElem?_eq_none (by omega)]

/-- The tensor as a request of the daemon carries it. -/
def Tensor.preblocked (tensor : Tensor F) : FlatTensor F := ⟨tensor.shape.map UInt64.toNat, tensor.data⟩

/-- Nested blocks and the flat tensors of their elements have the same elements. -/
theorem sourceValue_flatten {keyBlocks valueBlocks : List (List (List (List F)))} {key value : FlatTensor F}
    {n h d b : Nat} (hkey : Rectangular n h d b keyBlocks) (hvalue : Rectangular n h b d valueBlocks)
    (hkeyShape : key.shape = [n, h, d, b]) (hvalueShape : value.shape = [n, h, b, d])
    (hkeyData : keyBlocks.flatten.flatten.flatten = key.data)
    (hvalueData : valueBlocks.flatten.flatten.flatten = value.data) {block head dim token : Nat}
    (hblock : block < n) (hhead : head < h) (hdim : dim < d) (htoken : token < b) :
    sourceValue (.blocks keyBlocks valueBlocks) block head dim token =
      sourceValue (.flat key value) block head dim token := by
  obtain ⟨x, hx⟩ := hkey.exists_element hblock hhead hdim htoken
  obtain ⟨y, hy⟩ := hvalue.exists_element hblock hhead htoken hdim
  have hflat : flatKeyValue key value block head dim token = .ok (x, y) := by
    rw [flatKeyValue_ok_iff hkeyShape hvalueShape, ← hkeyData, ← hvalueData, flatOffset, flatOffset,
      hkey.flatten_getElem? _ hhead hdim htoken, hvalue.flatten_getElem? _ hhead htoken hdim]
    exact ⟨blockElement_ok_iff_elementAt.mp hx, blockElement_ok_iff_elementAt.mp hy⟩
  have hnested : sourceValue (.blocks keyBlocks valueBlocks) block head dim token = .ok (x, y) :=
    sourceValue_of_parts hx hy
  rw [hnested]
  exact hflat.symm

end Layers

section Agreement

variable [F32Arith F] {seqLen numKvHeads headDim blockSize : Usize}

/-- One tensor, as the daemon has it and as the bridge reads it. A list of `2 ^ 53` entries of eight
bytes would fill the whole address space of a process. -/
structure SameTensor (canonical : Tensor F) (data : List (List (List F)))
    (seqLen numKvHeads headDim : Usize) : Prop where
  shape_eq : canonical.shape = [seqLen, numKvHeads, headDim]
  nested : IsNested data seqLen.toNat numKvHeads.toNat headDim.toNat canonical.data
  seqLen_lt : seqLen.toNat < 2 ^ 53

theorem flatSlot_eq_slot {canonical : Tensor F} (hshape : canonical.shape = [seqLen, numKvHeads, headDim])
    (token head dim : Nat) :
    flatSlot canonical.data seqLen.toNat numKvHeads.toNat headDim.toNat token head dim =
      canonical.slot seqLen token head dim := by
  unfold flatSlot Tensor.slot
  rw [element_three hshape]

variable {key value : Tensor F} {keyData valueData : List (List (List F))}

theorem keyToBlocks_agrees (h : SameTensor key keyData seqLen numKvHeads headDim) (hs : 0 < seqLen.toNat)
    (hk : 0 < numKvHeads.toNat) (hblock : blockSize ≠ 0)
    (hsize : (divCeil seqLen blockSize).toNat * numKvHeads.toNat * headDim.toNat * blockSize.toNat < 2 ^ 64) :
    ∃ keyBlocks blocked, keyToBlocks keyData blockSize.toNat = .ok keyBlocks ∧
      canonicalToVllmBlockKey key blockSize = .ok blocked ∧
      blocked.shape = [divCeil seqLen blockSize, numKvHeads, headDim, blockSize] ∧
      Rectangular (divCeil seqLen blockSize).toNat numKvHeads.toNat headDim.toNat blockSize.toNat keyBlocks ∧
      keyBlocks.flatten.flatten.flatten = blocked.data := by
  obtain ⟨⟨keyBlocks, hkeyBlocks, hrect, helement⟩, _⟩ :=
    toBlocks_ok h.nested hs h.seqLen_lt hk (usize_pos_of_ne_zero hblock)
  obtain ⟨blocked, hblocked, hshape⟩ :=
    exists_canonicalToVllmBlockKey h.shape_eq h.nested.flat_length.ge hblock hsize
  obtain ⟨_, hlen, hslots⟩ := canonicalToVllmBlockKey_ok h.shape_eq hblocked
  rw [← divCeil_toNat hblock] at hrect helement
  refine ⟨keyBlocks, blocked, hkeyBlocks, hblocked, hshape, hrect, hrect.flatten_eq hlen ?_⟩
  intro block hb head hh dim hd offset ho
  rw [hslots block hb head hh dim hd offset ho, helement block hb head hh dim hd offset ho,
    flatSlot_eq_slot h.shape_eq]

theorem valueToBlocks_agrees (h : SameTensor value valueData seqLen numKvHeads headDim)
    (hs : 0 < seqLen.toNat) (hk : 0 < numKvHeads.toNat) (hblock : blockSize ≠ 0)
    (hsize : (divCeil seqLen blockSize).toNat * numKvHeads.toNat * headDim.toNat * blockSize.toNat < 2 ^ 64) :
    ∃ valueBlocks blocked, valueToBlocks valueData blockSize.toNat = .ok valueBlocks ∧
      canonicalToVllmBlockValue value blockSize = .ok blocked ∧
      blocked.shape = [divCeil seqLen blockSize, numKvHeads, blockSize, headDim] ∧
      Rectangular (divCeil seqLen blockSize).toNat numKvHeads.toNat blockSize.toNat headDim.toNat valueBlocks ∧
      valueBlocks.flatten.flatten.flatten = blocked.data := by
  obtain ⟨_, valueBlocks, hvalueBlocks, hrect, helement⟩ :=
    toBlocks_ok h.nested hs h.seqLen_lt hk (usize_pos_of_ne_zero hblock)
  obtain ⟨blocked, hblocked, hshape⟩ :=
    exists_canonicalToVllmBlockValue h.shape_eq h.nested.flat_length.ge hblock hsize
  obtain ⟨_, hlen, hslots⟩ := canonicalToVllmBlockValue_ok h.shape_eq hblocked
  rw [← divCeil_toNat hblock] at hrect helement
  refine ⟨valueBlocks, blocked, hvalueBlocks, hblocked, hshape, hrect, hrect.flatten_eq hlen ?_⟩
  intro block hb head hh offset ho dim hd
  rw [hslots block hb head hh offset ho dim hd, helement block hb head hh dim hd offset ho,
    flatSlot_eq_slot h.shape_eq]

/-- The bridge and the daemon block a layer alike, and a combined cache is left alike by both. -/
theorem blockings_agree (hkey : SameTensor key keyData seqLen numKvHeads headDim)
    (hvalue : SameTensor value valueData seqLen numKvHeads headDim) (hs : 0 < seqLen.toNat)
    (hk : 0 < numKvHeads.toNat) (hblock : blockSize ≠ 0)
    (hsize : (divCeil seqLen blockSize).toNat * numKvHeads.toNat * headDim.toNat * blockSize.toNat < 2 ^ 64) :
    ∃ keyBlocks valueBlocks blockedKey blockedValue,
      keyToBlocks keyData blockSize.toNat = .ok keyBlocks ∧
      canonicalToVllmBlockKey key blockSize = .ok blockedKey ∧
      keyBlocks.flatten.flatten.flatten = blockedKey.data ∧
      valueToBlocks valueData blockSize.toNat = .ok valueBlocks ∧
      canonicalToVllmBlockValue value blockSize = .ok blockedValue ∧
      valueBlocks.flatten.flatten.flatten = blockedValue.data ∧
      ∀ (E : Type) (host : CacheHost F E) (storage : CacheArray) (ids : Option (List Int))
        (cells : Cell → E),
        (writeCombinedCache host storage (.blocks keyBlocks valueBlocks) ids).run cells =
          (writeCombinedCache host storage
            (.flat blockedKey.preblocked blockedValue.preblocked) ids).run cells := by
  obtain ⟨keyBlocks, blockedKey, hkeyBlocks, hblockedKey, hkeyShape, hkeyRect, hkeyData⟩ :=
    keyToBlocks_agrees hkey hs hk hblock hsize
  obtain ⟨valueBlocks, blockedValue, hvalueBlocks, hblockedValue, hvalueShape, hvalueRect, hvalueData⟩ :=
    valueToBlocks_agrees hvalue hs hk hblock hsize
  refine ⟨keyBlocks, valueBlocks, blockedKey, blockedValue, hkeyBlocks, hblockedKey, hkeyData,
    hvalueBlocks, hblockedValue, hvalueData, ?_⟩
  intro E host storage ids cells
  have hcount : 0 < (divCeil seqLen blockSize).toNat := by
    rw [divCeil_toNat hblock]
    have hle := le_smul_ceilDiv (b := seqLen.toNat) (usize_pos_of_ne_zero hblock)
    by_contra hzero
    rw [Nat.le_zero.mp (not_lt.mp hzero), smul_zero] at hle
    omega
  refine writeCombinedCache_congr (layerBlockViews_blocks hkeyRect hvalueRect hcount hk) ?_ ?_ cells
  · simp [layerBlockViews, Tensor.preblocked, hkeyShape, hvalueShape]
  · intro block hb token ht head hh dim hd
    refine sourceValue_flatten hkeyRect hvalueRect ?_ ?_ hkeyData hvalueData hb hh hd ht
    · simp [Tensor.preblocked, hkeyShape]
    · simp [Tensor.preblocked, hvalueShape]

def threeTokenLists : List (List (List ExactF32)) := [[[.fin 1]], [[.fin 2]], [[.fin 3]]]

theorem threeTokens_same : SameTensor threeTokens threeTokenLists 3 1 1 where
  shape_eq := rfl
  nested := ⟨rfl, by decide, by decide, rfl⟩
  seqLen_lt := by decide

/-- Three tokens in blocks of two, of which the last has a slot of padding. -/
theorem threeTokens_blocked : ∃ keyBlocks blockedKey,
    keyToBlocks threeTokenLists 2 = .ok keyBlocks ∧
      canonicalToVllmBlockKey threeTokens 2 = .ok blockedKey ∧
      keyBlocks.flatten.flatten.flatten = blockedKey.data := by
  have hblock : (2 : Usize) ≠ 0 := by decide
  obtain ⟨keyBlocks, _, blockedKey, _, hblocks, hblocked, hflatten, _⟩ :=
    blockings_agree threeTokens_same threeTokens_same (by decide) (by decide) hblock (by decide)
  exact ⟨keyBlocks, blockedKey, hblocks, hblocked, hflatten⟩

end Agreement

end PermeantOS
