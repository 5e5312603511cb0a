import PermeantOS.PyJson
import Mathlib.Logic.Nontrivial.Basic

namespace PermeantOS

/-- What `tolist` makes of an array: a number or a list. -/
inductive Nested (α : Type)
  | scalar (x : α)
  | list (items : List (Nested α))

/-- A tensor as a cache holds it: an array with `tolist`, a tuple, a list, or a number. -/
inductive CacheTensor (α : Type)
  | array (contents : Nested α)
  | tuple (items : List (CacheTensor α))
  | list (items : List (CacheTensor α))
  | scalar (x : α)

variable {α : Type}

section Access

/-- `value[index]` -/
def Nested.at (index : Nat) : Nested α → Except PyException (Nested α)
  | .scalar _ => .error .typeError
  | .list items => (items[index]?).elim (.error .indexError) .ok

/-- `len(value)` -/
def Nested.len : Nested α → Except PyException Nat
  | .scalar _ => .error .typeError
  | .list items => .ok items.length

/-- `value[:stop]` -/
def Nested.upTo (stop : Int) : Nested α → Except PyException (Nested α)
  | .scalar _ => .error .typeError
  | .list items => .ok (.list (items.take (if 0 ≤ stop then stop.toNat else items.length - (-stop).toNat)))

end Access

section Canonicalize

mutual

def toBuiltin : CacheTensor α → Nested α
  | .array contents => contents
  | .tuple items => .list (toBuiltinItems items)
  | .list items => .list (toBuiltinItems items)
  | .scalar x => .scalar x

def toBuiltinItems : List (CacheTensor α) → List (Nested α)
  | [] => []
  | item :: items => toBuiltin item :: toBuiltinItems items

end

/-- The loop of `_shape_of`. It does not leave an empty list, and appends zeros until the memory is used up. -/
def shapeLoop : Nat → List Nat → Nested α → Except PyException (List Nat)
  | _, shape, .scalar _ => .ok shape
  | 0, _, .list _ => .error .memoryError
  | memory + 1, shape, .list items =>
    shapeLoop memory (shape ++ [items.length]) (items.head?.getD (.list []))

/-- `_shape_of`, where a shape of more than `memory` entries does not fit. -/
def shapeOf (memory : Nat) (value : Nested α) : Except PyException (List Nat) := shapeLoop memory [] value

/-- `len(tensor[0]) if tensor else 0` -/
def secondLen (tensor : Nested α) : Except PyException Nat := do
  let first ← tensor.len
  if first = 0 then pure 0
  else do
    let row ← tensor.at 0
    row.len

def transpose01 (tensor : Nested α) : Except PyException (Nested α) := do
  let first ← tensor.len
  let second ← secondLen tensor
  let rows ← (List.range second).mapM fun j => do
    let row ← (List.range first).mapM fun i => do
      let inner ← tensor.at i
      inner.at j
    pure (.list row)
  pure (.list rows)

def trimSeqLen (tensor : Nested α) : Option Int → Except PyException (Nested α)
  | none => .ok tensor
  | some seqLen => tensor.upTo seqLen

/-- Whether the sizes of the first two axes are taken for heads before tokens. -/
def headsFirst (seqLen : Int) (first second : Nat) : Bool :=
  decide ((first : Int) ≠ seqLen ∧ ((second : Int) = seqLen ∨ first < second ∧ seqLen ≤ second))

/-- The tensor with its tokens first, as far as the sizes tell, and their number. -/
def tokensToFront (memory : Nat) (data : Nested α) (first second : Nat) (seqLen : Int) :
    Except PyException (Nested α × Nat) :=
  if headsFirst seqLen first second then do
    let data ← transpose01 data
    let shape ← shapeOf memory data
    pure (data, shape.headD 0)
  else .ok (data, first)

/-- The part of `_canonicalize_tensor` behind the batch axis. -/
def orderAxes (memory : Nat) (name : String) (data : Nested α) (shape : List Nat) (seqLen : Option Int) :
    Except PyException (Nested α) :=
  match shape, seqLen with
  | [_, _, _], none => trimSeqLen data none
  | [first, second, _], some seqLen => do
    let (data, first) ← tokensToFront memory data first second seqLen
    if (first : Int) < seqLen then
      .error (.adapterError s!"{name} only contains {first} positions but seq_len={seqLen}")
    else trimSeqLen data (some seqLen)
  | _, _ => .error (.adapterError
      s!"{name} must normalize to a 3D tensor [seq, kv_heads, head_dim]; got shape {shape}")

def canonicalizeTensor (memory : Nat) (name : String) (tensor : CacheTensor α) (seqLen : Option Int) :
    Except PyException (Nested α) := do
  let data := toBuiltin tensor
  let shape ← shapeOf memory data
  if shape.length = 4 ∧ shape.head? = some 1 then do
    let data ← data.at 0
    let shape ← shapeOf memory data
    orderAxes memory name data shape seqLen
  else orderAxes memory name data shape seqLen

end Canonicalize

section Tabulate

/-- The list of the values of a function. -/
def tabulate (n : Nat) (f : Nat → Nested α) : Nested α := .list ((List.range n).map f)

/-- The element at `(i, j, k)` is `x i j k`. -/
def tensor3 (a b c : Nat) (x : Nat → Nat → Nat → α) : Nested α :=
  tabulate a fun i => tabulate b fun j => tabulate c fun k => .scalar (x i j k)

variable {n m : Nat} {f g : Nat → Nested α}

theorem tabulate_at {i : Nat} (h : i < n) : (tabulate n f).at i = .ok (f i) := by
  rw [tabulate, Nested.at, List.getElem?_map, List.getElem?_range h]
  rfl

theorem tabulate_len : (tabulate n f).len = .ok n := by
  rw [tabulate, Nested.len, List.length_map, List.length_range]

theorem tabulate_upTo (h : n ≤ m) : (tabulate m f).upTo n = .ok (tabulate n f) := by
  rw [tabulate, Nested.upTo, if_pos (by omega), Int.toNat_natCast, ← List.map_take, List.take_range,
    Nat.min_eq_left h]
  rfl

theorem tabulate_eq_iff : tabulate n f = tabulate m g ↔ n = m ∧ ∀ i < n, f i = g i := by
  rw [tabulate, tabulate, Nested.list.injEq]
  constructor
  · intro h
    have hlength := congrArg List.length h
    simp only [List.length_map, List.length_range] at hlength
    subst hlength
    exact ⟨rfl, fun i hi => List.map_inj_left.mp h i (List.mem_range.mpr hi)⟩
  · rintro ⟨rfl, h⟩
    exact List.map_inj_left.mpr fun i hi => h i (List.mem_range.mp hi)

theorem tensor3_eq_iff {a b c a' b' c' : Nat} {x y : Nat → Nat → Nat → α} (ha : 0 < a) (hb : 0 < b) :
    tensor3 a b c x = tensor3 a' b' c' y ↔
      (a = a' ∧ b = b' ∧ c = c') ∧ ∀ i < a, ∀ j < b, ∀ k < c, x i j k = y i j k := by
  simp only [tensor3, tabulate_eq_iff, Nested.scalar.injEq]
  constructor
  · rintro ⟨ha', h⟩
    obtain ⟨hb', hrow⟩ := h 0 ha
    obtain ⟨hc', _⟩ := hrow 0 hb
    exact ⟨⟨ha', hb', hc'⟩, fun i hi j hj k hk => ((h i hi).2 j hj).2 k hk⟩
  · rintro ⟨⟨ha', hb', hc'⟩, h⟩
    exact ⟨ha', fun i hi => ⟨hb', fun j hj => ⟨hc', fun k hk => h i hi j hj k hk⟩⟩⟩

theorem shapeLoop_empty (memory : Nat) (shape : List Nat) :
    shapeLoop memory shape (.list [] : Nested α) = .error .memoryError := by
  induction memory generalizing shape with
  | zero => rfl
  | succ memory ih => exact ih _

theorem shapeLoop_tabulate {memory : Nat} {shape : List Nat} (h : 0 < n) :
    shapeLoop (memory + 1) shape (tabulate n f) = shapeLoop memory (shape ++ [n]) (f 0) := by
  obtain ⟨n, rfl⟩ : ∃ k, n = k + 1 := ⟨n - 1, by omega⟩
  rw [tabulate, shapeLoop, List.length_map, List.length_range, List.range_succ_eq_map]
  rfl

/-- The loop ends where no axis is empty. -/
theorem shapeLoop_tensor3 {memory a b c : Nat} {x : Nat → Nat → Nat → α} (shape : List Nat) (hmemory : 3 ≤ memory) :
    shapeLoop memory shape (tensor3 a b c x) =
      if 0 < a ∧ 0 < b ∧ 0 < c then .ok (shape ++ [a, b, c]) else .error .memoryError := by
  obtain ⟨memory, rfl⟩ : ∃ k, memory = k + 3 := ⟨memory - 3, by omega⟩
  have hempty (memory : Nat) (shape : List Nat) (f : Nat → Nested α) :
      shapeLoop memory shape (tabulate 0 f) = .error .memoryError := shapeLoop_empty memory shape
  rw [tensor3]
  by_cases ha : 0 < a
  · rw [shapeLoop_tabulate ha]
    by_cases hb : 0 < b
    · rw [shapeLoop_tabulate hb]
      by_cases hc : 0 < c
      · rw [shapeLoop_tabulate hc, shapeLoop, if_pos ⟨ha, hb, hc⟩]
        simp
      · rw [if_neg (fun h => hc h.2.2), Nat.eq_zero_of_not_pos hc, hempty]
    · rw [if_neg (fun h => hb h.2.1), Nat.eq_zero_of_not_pos hb, hempty]
  · rw [if_neg (fun h => ha h.1), Nat.eq_zero_of_not_pos ha, hempty]

theorem transpose01_tensor3 {a b c : Nat} {x : Nat → Nat → Nat → α} (ha : 0 < a) :
    transpose01 (tensor3 a b c x) = .ok (tensor3 b a c fun j i k => x i j k) := by
  have hat (i : Nat) (hi : i < a) : (tensor3 a b c x).at i =
      .ok (tabulate b fun j => tabulate c fun k => .scalar (x i j k)) := tabulate_at hi
  have hlen : (tensor3 a b c x).len = .ok a := tabulate_len
  have hsecond : secondLen (tensor3 a b c x) = .ok b := by
    rw [secondLen, except_bind_of_ok hlen, if_neg (by omega), except_bind_of_ok (hat 0 ha), tabulate_len]
  have hrow (j : Nat) (hj : j < b) : (List.range a).mapM (fun i => do
      let inner ← (tensor3 a b c x).at i
      inner.at j) = .ok ((List.range a).map fun i => tabulate c fun k => .scalar (x i j k)) := by
    apply mapM_eq_map
    intro i hi
    rw [except_bind_of_ok (hat i (List.mem_range.mp hi)), tabulate_at hj]
  rw [transpose01, except_bind_of_ok hlen, except_bind_of_ok hsecond,
    except_bind_of_ok (mapM_eq_map (g := fun j => tabulate a fun i => tabulate c fun k => .scalar (x i j k)) ?_)]
  · rfl
  · intro j hj
    rw [except_bind_of_ok (hrow j (List.mem_range.mp hj))]
    rfl

end Tabulate

section Exactness

variable {memory kvHeads positions headDim seqLen : Nat} {name : String} {x : Nat → Nat → Nat → α}

/-- A cache tensor of shape `[1, kvHeads, positions, headDim]`. -/
def CacheTensor.Holds (tensor : CacheTensor α) (kvHeads positions headDim : Nat) (x : Nat → Nat → Nat → α) : Prop :=
  toBuiltin tensor = tabulate 1 fun _ => tensor3 kvHeads positions headDim x

theorem headsFirst_iff (h : seqLen ≤ positions) :
    headsFirst seqLen kvHeads positions = true ↔ kvHeads ≠ seqLen ∧ (positions = seqLen ∨ kvHeads < positions) := by
  rw [headsFirst, decide_eq_true_eq]
  omega

/-- Where the axes are not exchanged, what is cut off is the head axis. -/
theorem orderAxes_tensor3 (hmemory : 3 ≤ memory) (hheads : 0 < kvHeads) (hdim : 0 < headDim) (hseq : 1 ≤ seqLen)
    (hpositions : seqLen ≤ positions) :
    orderAxes memory name (tensor3 kvHeads positions headDim x) [kvHeads, positions, headDim] (some seqLen) =
      if headsFirst seqLen kvHeads positions then .ok (tensor3 seqLen kvHeads headDim fun t h d => x h t d)
      else .ok (tensor3 seqLen positions headDim x) := by
  have hcut (first second : Nat) (y : Nat → Nat → Nat → α) (hfirst : seqLen ≤ first) :
      (if (first : Int) < seqLen then
        .error (.adapterError s!"{name} only contains {first} positions but seq_len={(seqLen : Int)}")
      else trimSeqLen (tensor3 first second headDim y) (some (seqLen : Int))) =
        Except.ok (tensor3 seqLen second headDim y) := by
    rw [if_neg (by omega), trimSeqLen, tensor3, tabulate_upTo hfirst]
    rfl
  rw [orderAxes, tokensToFront]
  by_cases horder : headsFirst seqLen kvHeads positions = true
  · have hshape : shapeOf memory (tensor3 positions kvHeads headDim fun t h d => x h t d) =
        .ok [positions, kvHeads, headDim] := by
      rw [shapeOf, shapeLoop_tensor3 [] hmemory, if_pos ⟨by omega, hheads, hdim⟩]
      rfl
    rw [if_pos horder, if_pos horder, except_bind_of_ok (transpose01_tensor3 hheads), except_bind_of_ok hshape]
    exact hcut positions kvHeads _ hpositions
  · rw [if_neg horder, if_neg horder]
    have hfirst : seqLen ≤ kvHeads := by
      rw [headsFirst_iff hpositions] at horder
      omega
    exact hcut kvHeads positions x hfirst

theorem canonicalizeTensor_of_holds {tensor : CacheTensor α} (hmemory : 4 ≤ memory)
    (h : tensor.Holds kvHeads positions headDim x) (hpositions : 0 < positions) (seqLen : Option Int) :
    canonicalizeTensor memory name tensor seqLen =
      if 0 < kvHeads ∧ 0 < headDim then
        orderAxes memory name (tensor3 kvHeads positions headDim x) [kvHeads, positions, headDim] seqLen
      else .error .memoryError := by
  obtain ⟨memory, rfl⟩ : ∃ k, memory = k + 1 := ⟨memory - 1, by omega⟩
  have hshape : shapeOf (memory + 1) (toBuiltin tensor) =
      if 0 < kvHeads ∧ 0 < headDim then .ok [1, kvHeads, positions, headDim] else .error .memoryError := by
    rw [h, shapeOf, shapeLoop_tabulate (by omega), shapeLoop_tensor3 _ (by omega)]
    simp [hpositions]
  have hdata : (toBuiltin tensor).at 0 = .ok (tensor3 kvHeads positions headDim x) := by
    rw [h, tabulate_at (by omega)]
  rw [canonicalizeTensor, hshape]
  by_cases hsizes : 0 < kvHeads ∧ 0 < headDim
  · have hinner : shapeOf (memory + 1) (tensor3 kvHeads positions headDim x) = .ok [kvHeads, positions, headDim] := by
      rw [shapeOf, shapeLoop_tensor3 [] (by omega), if_pos ⟨hsizes.1, hpositions, hsizes.2⟩]
      rfl
    rw [if_pos hsizes, if_pos hsizes, except_bind_of_ok rfl, if_pos (by simp), except_bind_of_ok hdata,
      except_bind_of_ok hinner]
  · rw [if_neg hsizes, if_neg hsizes]
    rfl

/-- One cache tensor comes out right where its axes are exchanged, or where they need not be. -/
theorem canonicalizeTensor_iff {tensor : CacheTensor α} (hmemory : 4 ≤ memory) (hseq : 1 ≤ seqLen)
    (hpositions : seqLen ≤ positions) (h : tensor.Holds kvHeads positions headDim x) :
    canonicalizeTensor memory name tensor (some seqLen) =
        .ok (tensor3 seqLen kvHeads headDim fun t h d => x h t d) ↔
      (0 < kvHeads ∧ 0 < headDim) ∧ (headsFirst seqLen kvHeads positions = true ∨
        kvHeads = positions ∧ ∀ t < seqLen, ∀ h < kvHeads, ∀ d < headDim, x h t d = x t h d) := by
  rw [canonicalizeTensor_of_holds hmemory h (by omega)]
  by_cases hsizes : 0 < kvHeads ∧ 0 < headDim
  · rw [if_pos hsizes, and_iff_right hsizes, orderAxes_tensor3 (by omega) hsizes.1 hsizes.2 hseq hpositions]
    by_cases horder : headsFirst seqLen kvHeads positions = true
    · simp [horder]
    · rw [if_neg horder, or_iff_right horder, Except.ok.injEq, tensor3_eq_iff (by omega) (by omega)]
      constructor
      · rintro ⟨⟨_, hsame, _⟩, helements⟩
        refine ⟨hsame.symm, ?_⟩
        intro t ht h hh d hd
        exact (helements t ht h (by omega) d hd).symm
      · rintro ⟨hsame, helements⟩
        refine ⟨⟨rfl, hsame.symm, rfl⟩, ?_⟩
        intro t ht h hh d hd
        exact (helements t ht h (by omega) d hd).symm
  · rw [if_neg hsizes]
    exact iff_of_false (fun heq => by cases heq) fun hboth => hsizes hboth.1

/-- Which cache tensors are put into canonical order, and for which sizes all of them are. -/
theorem canonicalizeTensor_exact [Nontrivial α] (hmemory : 4 ≤ memory) (name : String) (hseq : 1 ≤ seqLen)
    (hpositions : seqLen ≤ positions) :
    (∀ (tensor : CacheTensor α) x, tensor.Holds kvHeads positions headDim x →
      (canonicalizeTensor memory name tensor (some seqLen) =
          .ok (tensor3 seqLen kvHeads headDim fun t h d => x h t d) ↔
        (0 < kvHeads ∧ 0 < headDim) ∧ (headsFirst seqLen kvHeads positions = true ∨
          kvHeads = positions ∧ ∀ t < seqLen, ∀ h < kvHeads, ∀ d < headDim, x h t d = x t h d))) ∧
    ((∀ (tensor : CacheTensor α) x, tensor.Holds kvHeads positions headDim x →
      canonicalizeTensor memory name tensor (some seqLen) =
        .ok (tensor3 seqLen kvHeads headDim fun t h d => x h t d)) ↔
      (0 < kvHeads ∧ 0 < headDim) ∧ (kvHeads ≠ seqLen ∧ (positions = seqLen ∨ kvHeads < positions) ∨
        kvHeads = 1 ∧ positions = 1)) := by
  refine ⟨fun tensor x h => canonicalizeTensor_iff hmemory hseq hpositions h, ?_⟩
  rw [← headsFirst_iff hpositions]
  constructor
  · intro hall
    obtain ⟨a, b, hne⟩ := exists_pair_ne α
    -- the element at head 0 and position 1 differs from the one at head 1 and position 0
    have hholds (y : Nat → Nat → Nat → α) : (CacheTensor.array (tabulate 1 fun _ =>
      tensor3 kvHeads positions headDim y)).Holds kvHeads positions headDim y := rfl
    have hone := (canonicalizeTensor_iff hmemory hseq hpositions
      (hholds fun h t _ => if h = 0 ∧ t = 1 then a else b)).mp (hall _ _ (hholds _))
    refine ⟨hone.1, hone.2.imp id ?_⟩
    rintro ⟨hsame, helements⟩
    by_contra hlarge
    have hswapped := helements 0 (by omega) 1 (by omega) 0 (by omega)
    simp at hswapped
    exact hne hswapped.symm
  · rintro ⟨hsizes, hcases⟩ tensor x h
    refine (canonicalizeTensor_iff hmemory hseq hpositions h).mpr ⟨hsizes, hcases.imp id ?_⟩
    rintro ⟨hheads, hones⟩
    refine ⟨by omega, ?_⟩
    intro t ht h hh d _
    have ht0 : t = 0 := by omega
    have hh0 : h = 0 := by omega
    rw [ht0, hh0]

/-- The number at head `h` and position `t`. -/
def headAndPosition (h t _ : Nat) : Int := 10 * h + t

def mlxArray (kvHeads positions headDim : Nat) : CacheTensor Int :=
  .array (tabulate 1 fun _ => tensor3 kvHeads positions headDim headAndPosition)

theorem twoHeads_threeTokens : (mlxArray 2 3 1).Holds 2 3 1 headAndPosition ∧
    canonicalizeTensor 4 "key" (mlxArray 2 3 1) (some (3 : Nat)) =
      .ok (tensor3 3 2 1 fun t h d => headAndPosition h t d) := by
  have hholds : (mlxArray 2 3 1).Holds 2 3 1 headAndPosition := rfl
  have hseq : 1 ≤ 3 := by omega
  have hexact := (canonicalizeTensor_exact (le_refl 4) "key" hseq (le_refl 3)).1 (mlxArray 2 3 1) headAndPosition hholds
  exact ⟨hholds, hexact.mpr ⟨by decide, .inl rfl⟩⟩

/-- As many heads as tokens asked for: the axes are not exchanged, and the positions of the first heads are
taken for the heads of the first tokens. -/
theorem twoHeads_twoTokens : (mlxArray 2 4 1).Holds 2 4 1 headAndPosition ∧
    canonicalizeTensor 4 "key" (mlxArray 2 4 1) (some (2 : Nat)) ≠
      .ok (tensor3 2 2 1 fun t h d => headAndPosition h t d) := by
  refine ⟨rfl, ?_⟩
  have hrun : canonicalizeTensor 4 "key" (mlxArray 2 4 1) (some (2 : Nat)) = .ok (tensor3 2 4 1 headAndPosition) := rfl
  rw [hrun, ne_eq, Except.ok.injEq, tensor3_eq_iff (by omega) (by omega)]
  rintro ⟨⟨_, hheads, _⟩, _⟩
  omega

end Exactness

end PermeantOS
