import PermeantOS.Layout

namespace PermeantOS

variable {F : Type} [F32Arith F]

section Gather

/-- The three loops back: the elements of the canonical shape `[n₀, n₁, n₂]` are written in storage
order into a zeroed buffer, which is `vec!` as far as `isize::MAX` bytes go. -/
def fillTokens (n₀ n₁ n₂ : Nat) (element : Nat → Nat → Nat → Fallible F) : Fallible (List F) :=
  forRange (fun t => forRange (fun h => forRange (fun d data => do
      let x ← element t h d
      setAt data ((t * (n₁ * n₂) + h * n₂ + d) % 2 ^ 64) x)
    n₂) n₁) n₀
    (List.replicate (n₀ * n₁ * n₂ % 2 ^ 64) (F32Arith.lit 0))

def vllmBlockToCanonicalKey (vllm : Tensor F) (seqLen blockSize : Usize) : Fallible (Tensor F) :=
  match vllm.shape with
  | [numBlocks, numKvHeads, headDim, blockSizeCheck] => do
    bailIf (blockSize ≠ blockSizeCheck)
      s!"Block size mismatch: expected {blockSize}, found {blockSizeCheck}"
    panicIf (blockSize = 0) "attempt to divide by zero"
    bailIf (numBlocks < divCeil seqLen blockSize)
      s!"vLLM tensor doesn't contain enough blocks for seq_len {seqLen}"
    let data ← fillTokens seqLen.toNat numKvHeads.toNat headDim.toNat fun t h d =>
      let blockIdx := t / blockSize.toNat
      let tokenInBlock := t % blockSize.toNat
      indexAt vllm.data ((blockIdx * (numKvHeads.toNat * headDim.toNat * blockSize.toNat) +
        h * (headDim.toNat * blockSize.toNat) + d * blockSize.toNat + tokenInBlock) % 2 ^ 64)
    pure ⟨data, [seqLen, numKvHeads, headDim]⟩
  | _ => bail "vLLM block key must have 4 dimensions [num_blocks, num_kv_heads, head_dim, block_size]"

def vllmBlockToCanonicalValue (vllm : Tensor F) (seqLen blockSize : Usize) : Fallible (Tensor F) :=
  match vllm.shape with
  | [numBlocks, numKvHeads, blockSizeCheck, headDim] => do
    bailIf (blockSize ≠ blockSizeCheck)
      s!"Block size mismatch: expected {blockSize}, found {blockSizeCheck}"
    panicIf (blockSize = 0) "attempt to divide by zero"
    bailIf (numBlocks < divCeil seqLen blockSize)
      s!"vLLM tensor doesn't contain enough blocks for seq_len {seqLen}"
    let data ← fillTokens seqLen.toNat numKvHeads.toNat headDim.toNat fun t h d =>
      let blockIdx := t / blockSize.toNat
      let tokenInBlock := t % blockSize.toNat
      indexAt vllm.data ((blockIdx * (numKvHeads.toNat * blockSize.toNat * headDim.toNat) +
        h * (blockSize.toNat * headDim.toNat) + tokenInBlock * headDim.toNat + d) % 2 ^ 64)
    pure ⟨data, [seqLen, numKvHeads, headDim]⟩
  | _ => bail "vLLM block value must have 4 dimensions [num_blocks, num_kv_heads, block_size, head_dim]"

variable {n₀ n₁ n₂ : Nat} {element : Nat → Nat → Nat → Fallible F}

theorem fillTokens_eq (n₀ n₁ n₂ : Nat) (element : Nat → Nat → Nat → Fallible F) :
    fillTokens n₀ n₁ n₂ element = fillRange (2 ^ 64)
      (fun k => element (k / n₂ / n₁) (k / n₂ % n₁) (k % n₂)) (n₀ * n₁ * n₂)
      (List.replicate (n₀ * n₁ * n₂ % 2 ^ 64) (F32Arith.lit 0)) := by
  rw [fillTokens, forRange_mul, forRange_mul, fillRange]
  apply forRange_congr
  intro k _ data
  have hk : k / n₂ / n₁ * (n₁ * n₂) + k / n₂ % n₁ * n₂ + k % n₂ = k := by
    have h₁ := Nat.div_add_mod (k / n₂) n₁
    have h₂ := Nat.div_add_mod k n₂
    calc k / n₂ / n₁ * (n₁ * n₂) + k / n₂ % n₁ * n₂ + k % n₂
        = n₂ * (n₁ * (k / n₂ / n₁) + k / n₂ % n₁) + k % n₂ := by ring
      _ = k := by rw [h₁, h₂]
  rw [hk]

/-- The loops back rebuild a list from its elements. -/
theorem fillTokens_of_elements {data : List F} (hlen : data.length = n₀ * n₁ * n₂)
    (hsize : n₀ * n₁ * n₂ < 2 ^ 64)
    (h : ∀ t < n₀, ∀ i < n₁, ∀ d < n₂, ∃ x, element t i d = .ok x ∧
      data[(t * n₁ + i) * n₂ + d]? = some x) :
    fillTokens n₀ n₁ n₂ element = .ok data := by
  have hslot : ∀ k < n₀ * n₁ * n₂, ∃ x, element (k / n₂ / n₁) (k / n₂ % n₁) (k % n₂) = .ok x ∧
      data[k]? = some x := by
    intro k hk
    have hpos : 0 < n₀ * n₁ * n₂ := by omega
    have h₂ := Nat.pos_of_mul_pos_left hpos
    have h₁ := Nat.pos_of_mul_pos_left (Nat.pos_of_mul_pos_right hpos)
    have hfirst : k / n₂ / n₁ < n₀ := by
      rw [Nat.div_lt_iff_lt_mul h₁, Nat.div_lt_iff_lt_mul h₂]
      exact hk
    have hx := h (k / n₂ / n₁) hfirst (k / n₂ % n₁) (Nat.mod_lt _ h₁) (k % n₂) (Nat.mod_lt _ h₂)
    rwa [Nat.div_add_mod', Nat.div_add_mod'] at hx
  have hreplicate : (List.replicate (n₀ * n₁ * n₂ % 2 ^ 64) (F32Arith.lit 0 : F)).length = n₀ * n₁ * n₂ := by
    rw [List.length_replicate, Nat.mod_eq_of_lt hsize]
  rw [fillTokens_eq]
  obtain ⟨found, hfound⟩ : ∃ found, fillRange (2 ^ 64)
      (fun k => element (k / n₂ / n₁) (k / n₂ % n₁) (k % n₂)) (n₀ * n₁ * n₂)
      (List.replicate (n₀ * n₁ * n₂ % 2 ^ 64) (F32Arith.lit 0)) = .ok found :=
    exists_fillRange (by omega) (by omega) fun k hk => (hslot k hk).imp fun x hx => hx.1
  obtain ⟨_, hfoundLen, hfilled⟩ := fillRange_ok (by omega) hfound
  rw [hfound]
  congr 1
  apply List.ext_getElem?
  intro k
  by_cases hk : k < n₀ * n₁ * n₂
  · obtain ⟨x, hx, hget⟩ := hfilled k hk
    obtain ⟨y, hy, hdata⟩ := hslot k hk
    cases hx.symm.trans hy
    rw [hget, hdata]
  · rw [List.getElem?_eq_none (by omega), List.getElem?_eq_none (by omega)]

end Gather

section RoundTrip

variable {canonical blocked : Tensor F} {seqLen numKvHeads headDim blockSize : Usize}

theorem exists_canonicalElement (token : Nat)
    (hdata : seqLen.toNat * numKvHeads.toNat * headDim.toNat ≤ canonical.data.length) {head dim : Nat}
    (hword : seqLen.toNat * numKvHeads.toNat * headDim.toNat < 2 ^ 64)
    (hhead : head < numKvHeads.toNat) (hdim : dim < headDim.toNat) :
    ∃ x, canonicalElement canonical seqLen.toNat numKvHeads.toNat headDim.toNat token head dim = .ok x := by
  unfold canonicalElement
  split
  next hlive =>
    have hoffset := mul_add_lt_mul (mul_add_lt_mul hlive hhead) hdim
    have hexpand : token * (numKvHeads.toNat * headDim.toNat) + head * headDim.toNat + dim =
        (token * numKvHeads.toNat + head) * headDim.toNat + dim := by ring
    rw [hexpand, Nat.mod_eq_of_lt (by omega)]
    exact ⟨_, indexAt_ok_iff.mpr (List.getElem?_eq_getElem (by omega))⟩
  next => exact ⟨_, rfl⟩

/-- A canonical tensor is no larger than its blocks. -/
theorem canonicalSize_le (hblock : blockSize ≠ 0) :
    seqLen.toNat * numKvHeads.toNat * headDim.toNat ≤
      (divCeil seqLen blockSize).toNat * numKvHeads.toNat * headDim.toNat * blockSize.toNat := by
  have hcover : seqLen.toNat ≤ (divCeil seqLen blockSize).toNat * blockSize.toNat := by
    rw [divCeil_toNat hblock, Nat.mul_comm]
    exact le_smul_ceilDiv (usize_pos_of_ne_zero hblock)
  calc seqLen.toNat * numKvHeads.toNat * headDim.toNat
      ≤ (divCeil seqLen blockSize).toNat * blockSize.toNat * numKvHeads.toNat * headDim.toNat :=
        Nat.mul_le_mul_right _ (Nat.mul_le_mul_right _ hcover)
    _ = _ := by ring

theorem exists_canonicalToVllmBlockKey (hshape : canonical.shape = [seqLen, numKvHeads, headDim])
    (hdata : seqLen.toNat * numKvHeads.toNat * headDim.toNat ≤ canonical.data.length) (hblock : blockSize ≠ 0)
    (hsize : (divCeil seqLen blockSize).toNat * numKvHeads.toNat * headDim.toNat * blockSize.toNat < 2 ^ 64) :
    ∃ blocked, canonicalToVllmBlockKey canonical blockSize = .ok blocked ∧
      blocked.shape = [divCeil seqLen blockSize, numKvHeads, headDim, blockSize] := by
  have hword := lt_of_le_of_lt (canonicalSize_le hblock) hsize
  obtain ⟨data, hfill⟩ := exists_fillBlocks hsize fun block _ head hhead dim hdim offset _ =>
    exists_canonicalElement ((block * blockSize.toNat + offset) % 2 ^ 64) hdata hword hhead hdim
  refine ⟨⟨data, [divCeil seqLen blockSize, numKvHeads, headDim, blockSize]⟩, ?_, rfl⟩
  have hpanic : panicIf (blockSize = 0) "attempt to divide by zero" = .ok () := if_neg hblock
  rw [canonicalToVllmBlockKey, hshape]
  dsimp only
  rw [except_bind_of_ok hpanic, except_bind_of_ok hfill]
  rfl

theorem exists_canonicalToVllmBlockValue (hshape : canonical.shape = [seqLen, numKvHeads, headDim])
    (hdata : seqLen.toNat * numKvHeads.toNat * headDim.toNat ≤ canonical.data.length) (hblock : blockSize ≠ 0)
    (hsize : (divCeil seqLen blockSize).toNat * numKvHeads.toNat * headDim.toNat * blockSize.toNat < 2 ^ 64) :
    ∃ blocked, canonicalToVllmBlockValue canonical blockSize = .ok blocked ∧
      blocked.shape = [divCeil seqLen blockSize, numKvHeads, blockSize, headDim] := by
  have hword := lt_of_le_of_lt (canonicalSize_le hblock) hsize
  rw [Nat.mul_right_comm] at hsize
  obtain ⟨data, hfill⟩ := exists_fillBlocks hsize fun block _ head hhead offset _ dim hdim =>
    exists_canonicalElement ((block * blockSize.toNat + offset) % 2 ^ 64) hdata hword hhead hdim
  refine ⟨⟨data, [divCeil seqLen blockSize, numKvHeads, blockSize, headDim]⟩, ?_, rfl⟩
  have hpanic : panicIf (blockSize = 0) "attempt to divide by zero" = .ok () := if_neg hblock
  rw [canonicalToVllmBlockValue, hshape]
  dsimp only
  rw [except_bind_of_ok hpanic, except_bind_of_ok hfill]
  rfl

/-- Where a token stands in the blocks. -/
theorem token_in_blocks (hblock : blockSize ≠ 0) {token : Nat} (h : token < seqLen.toNat) :
    token / blockSize.toNat < (divCeil seqLen blockSize).toNat ∧ token % blockSize.toNat < blockSize.toNat := by
  have hpos := usize_pos_of_ne_zero hblock
  refine ⟨?_, Nat.mod_lt _ hpos⟩
  rw [divCeil_toNat hblock, Nat.div_lt_iff_lt_mul hpos, Nat.mul_comm]
  exact lt_of_lt_of_le h (le_smul_ceilDiv hpos)

theorem slot_of_lt (hshape : canonical.shape = [seqLen, numKvHeads, headDim]) {token : Nat}
    (h : token < seqLen.toNat) (head dim : Nat) :
    canonical.slot seqLen token head dim =
      canonical.data[(token * numKvHeads.toNat + head) * headDim.toNat + dim]? := by
  rw [Tensor.slot, if_pos h, element_three hshape]

theorem slot_of_le {token : Nat} (h : seqLen.toNat ≤ token) (head dim : Nat) :
    canonical.slot seqLen token head dim = some (F32Arith.lit 0) := by
  rw [Tensor.slot, if_neg (by omega)]

/-- A blocked key that was made from a canonical tensor leads back to it. -/
theorem vllmBlockToCanonicalKey_of_blocked (hshape : canonical.shape = [seqLen, numKvHeads, headDim])
    (hdata : canonical.data.length = seqLen.toNat * numKvHeads.toNat * headDim.toNat) (hblock : blockSize ≠ 0)
    (hblocked : blocked.shape = [divCeil seqLen blockSize, numKvHeads, headDim, blockSize])
    (h : canonicalToVllmBlockKey canonical blockSize = .ok blocked) :
    vllmBlockToCanonicalKey blocked seqLen blockSize = .ok canonical := by
  obtain ⟨hsize, _, hslots⟩ := canonicalToVllmBlockKey_ok hshape h
  have hword := lt_of_le_of_lt (canonicalSize_le hblock) hsize
  have hback : fillTokens seqLen.toNat numKvHeads.toNat headDim.toNat (fun t h d =>
      indexAt blocked.data ((t / blockSize.toNat * (numKvHeads.toNat * headDim.toNat * blockSize.toNat) +
        h * (headDim.toNat * blockSize.toNat) + d * blockSize.toNat + t % blockSize.toNat) % 2 ^ 64)) =
      .ok canonical.data := by
    apply fillTokens_of_elements hdata hword
    intro t ht i hi d hd
    obtain ⟨hquotient, hoffset⟩ := token_in_blocks hblock ht
    have hbound := digits_lt hquotient hi hd hoffset
    have hexpand : t / blockSize.toNat * (numKvHeads.toNat * headDim.toNat * blockSize.toNat) +
        i * (headDim.toNat * blockSize.toNat) + d * blockSize.toNat + t % blockSize.toNat =
        ((t / blockSize.toNat * numKvHeads.toNat + i) * headDim.toNat + d) * blockSize.toNat +
          t % blockSize.toNat := by ring
    have hslot := hslots _ hquotient i hi d hd _ hoffset
    rw [Nat.div_add_mod', slot_of_lt hshape ht] at hslot
    have hlt := mul_add_lt_mul (mul_add_lt_mul ht hi) hd
    refine ⟨canonical.data[(t * numKvHeads.toNat + i) * headDim.toNat + d], ?_, List.getElem?_eq_getElem _⟩
    rw [indexAt_ok_iff, hexpand, Nat.mod_eq_of_lt (by omega), hslot]
    exact List.getElem?_eq_getElem (by omega)
  have hpanic : panicIf (blockSize = 0) "attempt to divide by zero" = .ok () := if_neg hblock
  rw [vllmBlockToCanonicalKey, hblocked]
  dsimp only
  rw [except_bind_of_ok (bailIf_ok_iff.mpr (not_not.mpr rfl)), except_bind_of_ok hpanic,
    except_bind_of_ok (bailIf_ok_iff.mpr (UInt64.lt_irrefl _)), except_bind_of_ok hback, ← hshape]
  rfl

/-- A blocked value that was made from a canonical tensor leads back to it. -/
theorem vllmBlockToCanonicalValue_of_blocked (hshape : canonical.shape = [seqLen, numKvHeads, headDim])
    (hdata : canonical.data.length = seqLen.toNat * numKvHeads.toNat * headDim.toNat) (hblock : blockSize ≠ 0)
    (hblocked : blocked.shape = [divCeil seqLen blockSize, numKvHeads, blockSize, headDim])
    (h : canonicalToVllmBlockValue canonical blockSize = .ok blocked) :
    vllmBlockToCanonicalValue blocked seqLen blockSize = .ok canonical := by
  obtain ⟨hsize, _, hslots⟩ := canonicalToVllmBlockValue_ok hshape h
  have hword : seqLen.toNat * numKvHeads.toNat * headDim.toNat < 2 ^ 64 := by
    rw [Nat.mul_right_comm] at hsize
    exact lt_of_le_of_lt (canonicalSize_le hblock) hsize
  have hback : fillTokens seqLen.toNat numKvHeads.toNat headDim.toNat (fun t h d =>
      indexAt blocked.data ((t / blockSize.toNat * (numKvHeads.toNat * blockSize.toNat * headDim.toNat) +
        h * (blockSize.toNat * headDim.toNat) + t % blockSize.toNat * headDim.toNat + d) % 2 ^ 64)) =
      .ok canonical.data := by
    apply fillTokens_of_elements hdata hword
    intro t ht i hi d hd
    obtain ⟨hquotient, hoffset⟩ := token_in_blocks hblock ht
    have hbound := digits_lt hquotient hi hoffset hd
    have hexpand : t / blockSize.toNat * (numKvHeads.toNat * blockSize.toNat * headDim.toNat) +
        i * (blockSize.toNat * headDim.toNat) + t % blockSize.toNat * headDim.toNat + d =
        ((t / blockSize.toNat * numKvHeads.toNat + i) * blockSize.toNat + t % blockSize.toNat) *
          headDim.toNat + d := by ring
    have hslot := hslots _ hquotient i hi _ hoffset d hd
    rw [Nat.div_add_mod', slot_of_lt hshape ht] at hslot
    have hlt := mul_add_lt_mul (mul_add_lt_mul ht hi) hd
    refine ⟨canonical.data[(t * numKvHeads.toNat + i) * headDim.toNat + d], ?_, List.getElem?_eq_getElem _⟩
    rw [indexAt_ok_iff, hexpand, Nat.mod_eq_of_lt (by omega), hslot]
    exact List.getElem?_eq_getElem (by omega)
  have hpanic : panicIf (blockSize = 0) "attempt to divide by zero" = .ok () := if_neg hblock
  rw [vllmBlockToCanonicalValue, hblocked]
  dsimp only
  rw [except_bind_of_ok (bailIf_ok_iff.mpr (not_not.mpr rfl)), except_bind_of_ok hpanic,
    except_bind_of_ok (bailIf_ok_iff.mpr (UInt64.lt_irrefl _)), except_bind_of_ok hback, ← hshape]
  rfl

/-- Both layouts are inverted without a panic, and every slot after the last token is zero, for buffers that
`vec!` can be asked for. -/
theorem blockLayouts_roundTrip (hshape : canonical.shape = [seqLen, numKvHeads, headDim])
    (hdata : canonical.data.length = seqLen.toNat * numKvHeads.toNat * headDim.toNat) (hblock : blockSize ≠ 0)
    (hsize : (divCeil seqLen blockSize).toNat * numKvHeads.toNat * headDim.toNat * blockSize.toNat < 2 ^ 64) :
    (∃ blocked, canonicalToVllmBlockKey canonical blockSize = .ok blocked ∧
      vllmBlockToCanonicalKey blocked seqLen blockSize = .ok canonical ∧
      ∀ block < (divCeil seqLen blockSize).toNat, ∀ head < numKvHeads.toNat, ∀ dim < headDim.toNat,
        ∀ offset < blockSize.toNat, seqLen.toNat ≤ block * blockSize.toNat + offset →
          blocked.element [block, head, dim, offset] = some (F32Arith.lit 0)) ∧
    ∃ blocked, canonicalToVllmBlockValue canonical blockSize = .ok blocked ∧
      vllmBlockToCanonicalValue blocked seqLen blockSize = .ok canonical ∧
      ∀ block < (divCeil seqLen blockSize).toNat, ∀ head < numKvHeads.toNat, ∀ dim < headDim.toNat,
        ∀ offset < blockSize.toNat, seqLen.toNat ≤ block * blockSize.toNat + offset →
          blocked.element [block, head, offset, dim] = some (F32Arith.lit 0) := by
  refine ⟨?_, ?_⟩
  · obtain ⟨blocked, hblocked, hkey⟩ := exists_canonicalToVllmBlockKey hshape hdata.ge hblock hsize
    refine ⟨blocked, hblocked, vllmBlockToCanonicalKey_of_blocked hshape hdata hblock hkey hblocked, ?_⟩
    intro block hb head hh dim hd offset ho hpad
    have hslot := (canonicalToVllmBlockKey_ok hshape hblocked).2.2 block hb head hh dim hd offset ho
    rw [slot_of_le hpad] at hslot
    simpa [Tensor.element, rowMajor, hkey] using hslot
  · obtain ⟨blocked, hblocked, hvalue⟩ := exists_canonicalToVllmBlockValue hshape hdata.ge hblock hsize
    refine ⟨blocked, hblocked, vllmBlockToCanonicalValue_of_blocked hshape hdata hblock hvalue hblocked, ?_⟩
    intro block hb head hh dim hd offset ho hpad
    have hslot := (canonicalToVllmBlockValue_ok hshape hblocked).2.2 block hb head hh offset ho dim hd
    rw [slot_of_le hpad] at hslot
    simpa [Tensor.element, rowMajor, hvalue] using hslot

def threeTokens : Tensor ExactF32 := ⟨[.fin 1, .fin 2, .fin 3], [3, 1, 1]⟩

theorem threeTokens_roundTrip : ∃ blocked, canonicalToVllmBlockKey threeTokens 2 = .ok blocked ∧
    vllmBlockToCanonicalKey blocked 3 2 = .ok threeTokens := by
  have hshape : threeTokens.shape = [3, 1, 1] := rfl
  have hblock : (2 : Usize) ≠ 0 := by decide
  obtain ⟨⟨blocked, hblocked, hback, _⟩, _⟩ := blockLayouts_roundTrip hshape rfl hblock (by decide)
  exact ⟨blocked, hblocked, hback⟩

end RoundTrip

end PermeantOS
