import PermeantOS.Injector
import PermeantOS.Loops
import PermeantOS.RustFloat
import Mathlib.Tactic.Ring

namespace PermeantOS

/-- Where a tensor of the given shape stores the element of an index. -/
def rowMajor (shape : List Usize) (index : List Nat) : Nat :=
  (shape.zip index).foldl (fun offset (size, i) => offset * size.toNat + i) 0

variable {F : Type}

def Tensor.element (tensor : Tensor F) (index : List Nat) : Option F :=
  tensor.data[rowMajor tensor.shape index]?

theorem element_three {canonical : Tensor F} {seqLen numKvHeads headDim : Usize}
    (hshape : canonical.shape = [seqLen, numKvHeads, headDim])
    (token head dim : Nat) : canonical.element [token, head, dim] =
      canonical.data[(token * numKvHeads.toNat + head) * headDim.toNat + dim]? := by
  simp [Tensor.element, rowMajor, hshape]

variable [F32Arith F]

/-- The four loops of a transpiler: the elements of the target shape `[n₀, n₁, n₂, n₃]` are written
in storage order into a zeroed buffer. Sizes and offsets are `usize` and wrap. A buffer of more than
`isize::MAX` bytes, for which `vec!` panics with a capacity overflow, is not modelled. -/
def fillBlocks (n₀ n₁ n₂ n₃ : Nat) (element : Nat → Nat → Nat → Nat → Fallible F) :
    Fallible (List F) :=
  forRange (fun i₀ => forRange (fun i₁ => forRange (fun i₂ => forRange (fun i₃ data => do
      let x ← element i₀ i₁ i₂ i₃
      setAt data ((i₀ * (n₁ * n₂ * n₃) + i₁ * (n₂ * n₃) + i₂ * n₃ + i₃) % 2 ^ 64) x)
    n₃) n₂) n₁) n₀
    (List.replicate (n₀ * n₁ * n₂ * n₃ % 2 ^ 64) (F32Arith.lit 0))

/-- The source element of one slot; slots after the last token are padded with zero. -/
def canonicalElement (canonical : Tensor F) (seqLen numKvHeads headDim globalTokenIdx headIdx
    dimIdx : Nat) : Fallible F :=
  if globalTokenIdx < seqLen then indexAt canonical.data
    ((globalTokenIdx * (numKvHeads * headDim) + headIdx * headDim + dimIdx) % 2 ^ 64)
  else .ok (F32Arith.lit 0)

def canonicalToVllmBlockKey (canonical : Tensor F) (blockSize : Usize) : Fallible (Tensor F) :=
  match canonical.shape with
  | [seqLen, numKvHeads, headDim] => do
    panicIf (blockSize = 0) "attempt to divide by zero"
    let numBlocks := divCeil seqLen blockSize
    let data ← fillBlocks numBlocks.toNat numKvHeads.toNat headDim.toNat blockSize.toNat
      fun blockIdx headIdx dimIdx tokenInBlock =>
        canonicalElement canonical seqLen.toNat numKvHeads.toNat headDim.toNat
          ((blockIdx * blockSize.toNat + tokenInBlock) % 2 ^ 64) headIdx dimIdx
    pure ⟨data, [numBlocks, numKvHeads, headDim, blockSize]⟩
  | _ => bail "Canonical key must have 3 dimensions [seq_len, num_kv_heads, head_dim]"

def canonicalToVllmBlockValue (canonical : Tensor F) (blockSize : Usize) : Fallible (Tensor F) :=
  match canonical.shape with
  | [seqLen, numKvHeads, headDim] => do
    panicIf (blockSize = 0) "attempt to divide by zero"
    let numBlocks := divCeil seqLen blockSize
    let data ← fillBlocks numBlocks.toNat numKvHeads.toNat blockSize.toNat headDim.toNat
      fun blockIdx headIdx tokenInBlock dimIdx =>
        canonicalElement canonical seqLen.toNat numKvHeads.toNat headDim.toNat
          ((blockIdx * blockSize.toNat + tokenInBlock) % 2 ^ 64) headIdx dimIdx
    pure ⟨data, [numBlocks, numKvHeads, blockSize, headDim]⟩
  | _ => bail "Canonical value must have 3 dimensions [seq_len, num_kv_heads, head_dim]"

/-- The offset of the slot with number `k` in storage order is `k`. -/
theorem offset_of_digits (n₁ n₂ n₃ k : Nat) :
    k / n₃ / n₂ / n₁ * (n₁ * n₂ * n₃) + k / n₃ / n₂ % n₁ * (n₂ * n₃) + k / n₃ % n₂ * n₃ + k % n₃ =
      k := by
  have h₁ := Nat.div_add_mod (k / n₃ / n₂) n₁
  have h₂ := Nat.div_add_mod (k / n₃) n₂
  have h₃ := Nat.div_add_mod k n₃
  calc k / n₃ / n₂ / n₁ * (n₁ * n₂ * n₃) + k / n₃ / n₂ % n₁ * (n₂ * n₃) + k / n₃ % n₂ * n₃ + k % n₃
      = n₃ * (n₂ * (n₁ * (k / n₃ / n₂ / n₁) + k / n₃ / n₂ % n₁) + k / n₃ % n₂) + k % n₃ := by ring
    _ = k := by rw [h₁, h₂, h₃]

theorem fillBlocks_eq (n₀ n₁ n₂ n₃ : Nat) (element : Nat → Nat → Nat → Nat → Fallible F) :
    fillBlocks n₀ n₁ n₂ n₃ element = fillRange (2 ^ 64)
      (fun k => element (k / n₃ / n₂ / n₁) (k / n₃ / n₂ % n₁) (k / n₃ % n₂) (k % n₃))
      (n₀ * n₁ * n₂ * n₃) (List.replicate (n₀ * n₁ * n₂ * n₃ % 2 ^ 64) (F32Arith.lit 0)) := by
  rw [fillBlocks, forRange_mul, forRange_mul, forRange_mul, fillRange]
  apply forRange_congr
  intro k _ data
  rw [offset_of_digits]

section Filled

variable {n₀ n₁ n₂ n₃ : Nat} {element : Nat → Nat → Nat → Nat → Fallible F} {data : List F}

theorem digits_lt {i₀ i₁ i₂ i₃ : Nat} (h₀ : i₀ < n₀) (h₁ : i₁ < n₁) (h₂ : i₂ < n₂) (h₃ : i₃ < n₃) :
    ((i₀ * n₁ + i₁) * n₂ + i₂) * n₃ + i₃ < n₀ * n₁ * n₂ * n₃ :=
  mul_add_lt_mul (mul_add_lt_mul (mul_add_lt_mul h₀ h₁) h₂) h₃

/-- A transpiler that returned did not overflow, and every slot holds its element. -/
theorem fillBlocks_ok (h : fillBlocks n₀ n₁ n₂ n₃ element = .ok data) :
    n₀ * n₁ * n₂ * n₃ < 2 ^ 64 ∧ data.length = n₀ * n₁ * n₂ * n₃ ∧
      ∀ i₀ < n₀, ∀ i₁ < n₁, ∀ i₂ < n₂, ∀ i₃ < n₃, ∃ x, element i₀ i₁ i₂ i₃ = .ok x ∧
        data[((i₀ * n₁ + i₁) * n₂ + i₂) * n₃ + i₃]? = some x := by
  have hmod : n₀ * n₁ * n₂ * n₃ % 2 ^ 64 < 2 ^ 64 := Nat.mod_lt _ (by norm_num)
  rw [fillBlocks_eq] at h
  obtain ⟨hroom, hlen, hfilled⟩ := fillRange_ok (by rwa [List.length_replicate]) h
  rw [List.length_replicate] at hroom hlen
  have hlt : n₀ * n₁ * n₂ * n₃ < 2 ^ 64 := lt_of_le_of_lt hroom hmod
  refine ⟨hlt, by rw [hlen, Nat.mod_eq_of_lt hlt], ?_⟩
  intro i₀ h₀ i₁ h₁ i₂ h₂ i₃ h₃
  have hx := hfilled _ (digits_lt h₀ h₁ h₂ h₃)
  simpa only [mul_add_div_of_lt h₃, mul_add_mod_of_lt h₃, mul_add_div_of_lt h₂,
    mul_add_mod_of_lt h₂, mul_add_div_of_lt h₁, mul_add_mod_of_lt h₁] using hx

theorem digits_bounds {k : Nat} (h : k < n₀ * n₁ * n₂ * n₃) :
    k / n₃ / n₂ / n₁ < n₀ ∧ k / n₃ / n₂ % n₁ < n₁ ∧ k / n₃ % n₂ < n₂ ∧ k % n₃ < n₃ := by
  have hpos : 0 < n₀ * n₁ * n₂ * n₃ := by omega
  have h₃ := Nat.pos_of_mul_pos_left hpos
  have h₂ := Nat.pos_of_mul_pos_left (Nat.pos_of_mul_pos_right hpos)
  have h₁ := Nat.pos_of_mul_pos_left (Nat.pos_of_mul_pos_right (Nat.pos_of_mul_pos_right hpos))
  refine ⟨?_, Nat.mod_lt _ h₁, Nat.mod_lt _ h₂, Nat.mod_lt _ h₃⟩
  rw [Nat.div_lt_iff_lt_mul h₁, Nat.div_lt_iff_lt_mul h₂, Nat.div_lt_iff_lt_mul h₃]
  exact h

/-- A transpiler whose size does not overflow returns where every element can be read. -/
theorem exists_fillBlocks (hsize : n₀ * n₁ * n₂ * n₃ < 2 ^ 64)
    (h : ∀ i₀ < n₀, ∀ i₁ < n₁, ∀ i₂ < n₂, ∀ i₃ < n₃, ∃ x, element i₀ i₁ i₂ i₃ = .ok x) :
    ∃ data, fillBlocks n₀ n₁ n₂ n₃ element = .ok data := by
  rw [fillBlocks_eq]
  have hlen : (List.replicate (n₀ * n₁ * n₂ * n₃ % 2 ^ 64) (F32Arith.lit 0 : F)).length = n₀ * n₁ * n₂ * n₃ := by
    rw [List.length_replicate, Nat.mod_eq_of_lt hsize]
  refine exists_fillRange (by omega) (by omega) ?_
  intro k hk
  obtain ⟨h₀, h₁, h₂, h₃⟩ := digits_bounds hk
  exact h _ h₀ _ h₁ _ h₂ _ h₃

end Filled

section Slots

variable {canonical blocked : Tensor F} {seqLen numKvHeads headDim blockSize : Usize}

/-- What a blocked tensor holds for a token: its element, or zero after the last token. -/
def Tensor.slot (canonical : Tensor F) (seqLen : Usize) (token head dim : Nat) : Option F :=
  if token < seqLen.toNat then canonical.element [token, head, dim] else some (F32Arith.lit 0)

theorem canonicalElement_ok (hshape : canonical.shape = [seqLen, numKvHeads, headDim])
    {token head dim bound : Nat} (htoken : token < bound) (hhead : head < numKvHeads.toNat)
    (hdim : dim < headDim.toNat) (hbound : bound * numKvHeads.toNat * headDim.toNat < 2 ^ 64) {x : F}
    (h : canonicalElement canonical seqLen.toNat numKvHeads.toNat headDim.toNat (token % 2 ^ 64) head
      dim = .ok x) : canonical.slot seqLen token head dim = some x := by
  have hoffset : (token * numKvHeads.toNat + head) * headDim.toNat + dim <
      bound * numKvHeads.toNat * headDim.toNat :=
    mul_add_lt_mul (mul_add_lt_mul htoken hhead) hdim
  have hexpand : token * (numKvHeads.toNat * headDim.toNat) + head * headDim.toNat + dim =
      (token * numKvHeads.toNat + head) * headDim.toNat + dim := by ring
  have hword : token < 2 ^ 64 := by
    have hle : token ≤ (token * numKvHeads.toNat + head) * headDim.toNat + dim := by
      calc token = token * 1 * 1 := by ring
        _ ≤ token * numKvHeads.toNat * headDim.toNat :=
          Nat.mul_le_mul (Nat.mul_le_mul_left token (by omega)) (by omega)
        _ ≤ (token * numKvHeads.toNat + head) * headDim.toNat + dim :=
          le_trans (Nat.mul_le_mul_right _ (Nat.le_add_right _ _)) (Nat.le_add_right _ _)
    omega
  rw [canonicalElement, Nat.mod_eq_of_lt hword, hexpand, Nat.mod_eq_of_lt (by omega)] at h
  unfold Tensor.slot
  split
  next hlive =>
    rw [if_pos hlive] at h
    rw [element_three hshape, indexAt_ok_iff.mp h]
  next hpad =>
    rw [if_neg hpad] at h
    rw [Except.ok.inj h]

/-- Every slot of a blocked key, in the shape `[num_blocks, num_kv_heads, head_dim, block_size]`. -/
theorem canonicalToVllmBlockKey_ok (hshape : canonical.shape = [seqLen, numKvHeads, headDim])
    (h : canonicalToVllmBlockKey canonical blockSize = .ok blocked) :
    (divCeil seqLen blockSize).toNat * numKvHeads.toNat * headDim.toNat * blockSize.toNat < 2 ^ 64 ∧
      blocked.data.length =
        (divCeil seqLen blockSize).toNat * numKvHeads.toNat * headDim.toNat * blockSize.toNat ∧
      ∀ block < (divCeil seqLen blockSize).toNat, ∀ head < numKvHeads.toNat,
        ∀ dim < headDim.toNat, ∀ offset < blockSize.toNat,
        blocked.data[((block * numKvHeads.toNat + head) * headDim.toNat + dim) * blockSize.toNat +
          offset]? = canonical.slot seqLen (block * blockSize.toNat + offset) head dim := by
  rw [canonicalToVllmBlockKey, hshape] at h
  obtain ⟨_, h⟩ := except_bind_unit_ok_iff.mp h
  obtain ⟨data, hdata, h⟩ := except_bind_ok_iff.mp h
  cases h
  obtain ⟨hlt, hlen, hfilled⟩ := fillBlocks_ok hdata
  refine ⟨hlt, hlen, ?_⟩
  intro block hblock head hhead dim hdim offset hoffset
  obtain ⟨x, hx, hget⟩ := hfilled block hblock head hhead dim hdim offset hoffset
  rw [hget, canonicalElement_ok hshape (mul_add_lt_mul hblock hoffset) hhead hdim ?_ hx]
  calc _ = _ := by ring
    _ < 2 ^ 64 := hlt

/-- Every slot of a blocked value, in the shape `[num_blocks, num_kv_heads, block_size, head_dim]`. -/
theorem canonicalToVllmBlockValue_ok (hshape : canonical.shape = [seqLen, numKvHeads, headDim])
    (h : canonicalToVllmBlockValue canonical blockSize = .ok blocked) :
    (divCeil seqLen blockSize).toNat * numKvHeads.toNat * blockSize.toNat * headDim.toNat < 2 ^ 64 ∧
      blocked.data.length =
        (divCeil seqLen blockSize).toNat * numKvHeads.toNat * blockSize.toNat * headDim.toNat ∧
      ∀ block < (divCeil seqLen blockSize).toNat, ∀ head < numKvHeads.toNat,
        ∀ offset < blockSize.toNat, ∀ dim < headDim.toNat,
        blocked.data[((block * numKvHeads.toNat + head) * blockSize.toNat + offset) * headDim.toNat +
          dim]? = canonical.slot seqLen (block * blockSize.toNat + offset) head dim := by
  rw [canonicalToVllmBlockValue, hshape] at h
  obtain ⟨_, h⟩ := except_bind_unit_ok_iff.mp h
  obtain ⟨data, hdata, h⟩ := except_bind_ok_iff.mp h
  cases h
  obtain ⟨hlt, hlen, hfilled⟩ := fillBlocks_ok hdata
  refine ⟨hlt, hlen, ?_⟩
  intro block hblock head hhead offset hoffset dim hdim
  obtain ⟨x, hx, hget⟩ := hfilled block hblock head hhead offset hoffset dim hdim
  rw [hget, canonicalElement_ok hshape (mul_add_lt_mul hblock hoffset) hhead hdim ?_ hx]
  calc _ = _ := by ring
    _ < 2 ^ 64 := hlt

end Slots

end PermeantOS
