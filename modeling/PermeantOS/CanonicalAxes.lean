import PermeantOS.SimMigrate

namespace PermeantOS

section Axes

variable {F : Type}

theorem element_four {tensor : Tensor F} {batch numKvHeads seqLen headDim : Usize}
    (hshape : tensor.shape = [batch, numKvHeads, seqLen, headDim]) (head token dim : Nat) :
    tensor.element [0, head, token, dim] =
      tensor.data[(head * seqLen.toNat + token) * headDim.toNat + dim]? := by
  simp [Tensor.element, rowMajor, hshape]

/-- The result holds the elements of the input, with the token axis before the head axis. -/
def TokensFirst (tensor : Tensor F) (numKvHeads seqLen headDim : Usize) (result : Tensor F) : Prop :=
  result.shape = [seqLen, numKvHeads, headDim] ∧
    ∀ token < seqLen.toNat, ∀ head < numKvHeads.toNat, ∀ dim < headDim.toNat,
      result.element [token, head, dim] = tensor.element [0, head, token, dim]

/-- The data is the same whether its elements are counted by tokens first or by heads first. -/
def AxesCommute (data : List F) (numKvHeads seqLen headDim : Nat) : Prop :=
  ∀ token < seqLen, ∀ head < numKvHeads, ∀ dim < headDim,
    data[(token * numKvHeads + head) * headDim + dim]? = data[(head * seqLen + token) * headDim + dim]?

variable {tensor : Tensor F} {numKvHeads seqLen headDim : Usize}

theorem tokensFirst_iff (hshape : tensor.shape = [1, numKvHeads, seqLen, headDim]) :
    TokensFirst tensor numKvHeads seqLen headDim ⟨tensor.data, [seqLen, numKvHeads, headDim]⟩ ↔
      AxesCommute tensor.data numKvHeads.toNat seqLen.toNat headDim.toNat := by
  have hthree : ∀ token head dim, (⟨tensor.data, [seqLen, numKvHeads, headDim]⟩ : Tensor F).element [token, head, dim] =
      tensor.data[(token * numKvHeads.toNat + head) * headDim.toNat + dim]? := element_three rfl
  simp only [TokensFirst, AxesCommute, element_four hshape, hthree, true_and]

theorem normalizeCanonicalKvTensor_four (tensorName : String)
    (hshape : tensor.shape = [1, numKvHeads, seqLen, headDim]) :
    normalizeCanonicalKvTensor tensorName tensor = .ok ⟨tensor.data, [seqLen, numKvHeads, headDim]⟩ := by
  simp [normalizeCanonicalKvTensor, hshape]

theorem normalizeCanonicalKvTensor_three (tensorName : String)
    (hshape : tensor.shape = [seqLen, numKvHeads, headDim]) :
    normalizeCanonicalKvTensor tensorName tensor = .ok tensor := by
  cases tensor
  cases hshape
  rfl

theorem axesCommute_of_thin {data : List F} {numKvHeads seqLen headDim : Nat}
    (h : numKvHeads ≤ 1 ∨ seqLen ≤ 1 ∨ headDim = 0) : AxesCommute data numKvHeads seqLen headDim := by
  intro token htoken head hhead dim hdim
  obtain h | h | h := h
  · obtain rfl : numKvHeads = 1 := by omega
    obtain rfl : head = 0 := by omega
    rw [Nat.mul_one, Nat.add_zero, Nat.zero_mul, Nat.zero_add]
  · obtain rfl : seqLen = 1 := by omega
    obtain rfl : token = 0 := by omega
    rw [Nat.zero_mul, Nat.zero_add, Nat.mul_one, Nat.add_zero]
  · omega

/-- With two heads and two tokens there is data that does not commute. -/
theorem exists_not_axesCommute {a b : F} (hab : a ≠ b) {numKvHeads seqLen headDim : Nat} (hheads : 2 ≤ numKvHeads)
    (htokens : 2 ≤ seqLen) (hdims : 1 ≤ headDim) :
    ∃ data : List F, data.length = numKvHeads * seqLen * headDim ∧ ¬AxesCommute data numKvHeads seqLen headDim := by
  refine ⟨(List.replicate (numKvHeads * seqLen * headDim) a).set (seqLen * headDim) b, by simp, ?_⟩
  intro hcommute
  have hfirst : headDim < seqLen * headDim := by nlinarith
  have hsecond : seqLen * headDim < numKvHeads * seqLen * headDim := by nlinarith
  have hread := hcommute 0 (by omega) 1 (by omega) 0 (by omega)
  have hleft : (0 * numKvHeads + 1) * headDim + 0 = headDim := by ring
  have hright : (1 * seqLen + 0) * headDim + 0 = seqLen * headDim := by ring
  rw [hleft, hright, List.getElem?_set_ne hfirst.ne', List.getElem?_set_self (by simpa using hsecond),
    List.getElem?_replicate_of_lt (hfirst.trans hsecond)] at hread
  exact hab (Option.some.inj hread)

/-- A tensor of four dimensions comes out right if its axes commute, and all tensors of a shape do if and only if
there is at most one head, at most one token or no element; a tensor of three dimensions is returned as it is. -/
theorem normalizeCanonicalKvTensor_exact (tensorName : String) :
    (∀ numKvHeads seqLen headDim : Usize, ∀ tensor : Tensor F32, tensor.shape = [1, numKvHeads, seqLen, headDim] →
      tensor.data.length = numKvHeads.toNat * seqLen.toNat * headDim.toNat →
      ((∃ result, normalizeCanonicalKvTensor tensorName tensor = .ok result ∧
        TokensFirst tensor numKvHeads seqLen headDim result) ↔
        AxesCommute tensor.data numKvHeads.toNat seqLen.toNat headDim.toNat)) ∧
    (∀ numKvHeads seqLen headDim : Usize,
      (∀ tensor : Tensor F32, tensor.shape = [1, numKvHeads, seqLen, headDim] →
        tensor.data.length = numKvHeads.toNat * seqLen.toNat * headDim.toNat →
        ∃ result, normalizeCanonicalKvTensor tensorName tensor = .ok result ∧
          TokensFirst tensor numKvHeads seqLen headDim result) ↔
      numKvHeads.toNat ≤ 1 ∨ seqLen.toNat ≤ 1 ∨ headDim.toNat = 0) ∧
    ∀ tensor : Tensor F32, tensor.shape.length = 3 → normalizeCanonicalKvTensor tensorName tensor = .ok tensor := by
  have htensor : ∀ {numKvHeads seqLen headDim : Usize} {tensor : Tensor F32},
      tensor.shape = [1, numKvHeads, seqLen, headDim] →
      ((∃ result, normalizeCanonicalKvTensor tensorName tensor = .ok result ∧
        TokensFirst tensor numKvHeads seqLen headDim result) ↔
        AxesCommute tensor.data numKvHeads.toNat seqLen.toNat headDim.toNat) := by
    intro numKvHeads seqLen headDim tensor hshape
    rw [normalizeCanonicalKvTensor_four tensorName hshape, ← tokensFirst_iff hshape]
    simp
  refine ⟨fun _ _ _ _ hshape _ => htensor hshape, ?_, ?_⟩
  · intro numKvHeads seqLen headDim
    constructor
    · intro hall
      by_contra hthick
      push Not at hthick
      obtain ⟨hheads, htokens, hdims⟩ := hthick
      have hab : (⟨0⟩ : F32) ≠ ⟨1⟩ := by decide
      obtain ⟨data, hlength, hdata⟩ := exists_not_axesCommute hab hheads htokens (Nat.pos_of_ne_zero hdims)
      exact hdata ((htensor rfl).mp (hall ⟨data, [1, numKvHeads, seqLen, headDim]⟩ rfl hlength))
    · intro hthin tensor hshape _
      exact (htensor hshape).mpr (axesCommute_of_thin hthin)
  · intro tensor hshape
    obtain ⟨seqLen, numKvHeads, headDim, hthree⟩ := List.length_eq_three.mp hshape
    exact normalizeCanonicalKvTensor_three tensorName hthree

/-- Two heads of two tokens: the first token of the second head is read as the second token of the first. -/
def twoHeads : Tensor F32 := ⟨[⟨0⟩, ⟨1⟩, ⟨2⟩, ⟨3⟩], [1, 2, 2, 1]⟩

theorem twoHeads_mixed : normalizeCanonicalKvTensor "layer.0.key" twoHeads = .ok ⟨twoHeads.data, [2, 2, 1]⟩ ∧
    (⟨twoHeads.data, [2, 2, 1]⟩ : Tensor F32).element [0, 1, 0] ≠ twoHeads.element [0, 1, 0, 0] := by
  constructor <;> decide

end Axes

end PermeantOS
