import PermeantOS.SimMigrateRun

namespace PermeantOS

theorem usize_mul_mul_toNat {a b c : Usize} (h : a.toNat * b.toNat * c.toNat < 2 ^ 64) :
    (a * b * c).toNat = a.toNat * b.toNat * c.toNat := by
  rw [UInt64.toNat_mul, UInt64.toNat_mul, Nat.mod_mul_mod]
  exact Nat.mod_eq_of_lt h

/-- Below `2 ^ 64` the slices are the blocks of the tensor. -/
theorem blockSlice_getElem {F : Type} {data xs : List F} {blocks blockIdx blockLen : Nat}
    (hword : blocks * blockLen < 2 ^ 64) (hblock : blockIdx < blocks)
    (h : blockSlice data blockIdx blockLen = .ok xs) {j : Nat} (hj : j < blockLen) :
    xs[j]? = data[blockIdx * blockLen + j]? := by
  have hend : blockIdx * blockLen + blockLen ≤ blocks * blockLen := by
    calc blockIdx * blockLen + blockLen = (blockIdx + 1) * blockLen := (Nat.succ_mul _ _).symm
      _ ≤ blocks * blockLen := Nat.mul_le_mul_right blockLen hblock
  have hstop : blockIdx * blockLen + blockLen < 2 ^ 64 := lt_of_le_of_lt hend hword
  rw [blockSlice, Nat.mod_eq_of_lt (by omega : blockIdx * blockLen < 2 ^ 64),
    Nat.mod_eq_of_lt hstop, sliceRange_ok_iff] at h
  obtain ⟨_, _, rfl⟩ := h
  rw [Nat.add_sub_cancel_left, List.getElem?_take_of_lt hj, List.getElem?_drop]

variable {F : Type}

/-- A tensor of canonical shape with as many elements. -/
structure Tensor.Canonical (tensor : Tensor F) (seqLen numKvHeads headDim : Usize) : Prop where
  shape : tensor.shape = [seqLen, numKvHeads, headDim]
  length : tensor.data.length = seqLen.toNat * numKvHeads.toNat * headDim.toNat

theorem canonicalTensor_eq {extractedCache : TensorMap F} {name : String} {tensor : Tensor F}
    {seqLen numKvHeads headDim : Usize} (hlookup : extractedCache.lookup name = some tensor)
    (hcanonical : tensor.Canonical seqLen numKvHeads headDim) :
    canonicalTensor extractedCache name = .ok tensor := by
  obtain ⟨data, shape⟩ := tensor
  obtain rfl : shape = _ := hcanonical.shape
  rw [canonicalTensor, hlookup]
  rfl

theorem transpileLayer_ok [F32Arith F] {config : SourceConfig} {extractedCache : TensorMap F}
    {layerIdx : Nat} {key value vllmKey vllmValue : Tensor F}
    (hkey : canonicalTensor extractedCache (keyName layerIdx) = .ok key)
    (hvalue : canonicalTensor extractedCache (valueName layerIdx) = .ok value)
    (h : transpileLayer config extractedCache layerIdx = .ok (vllmKey, vllmValue)) :
    canonicalToVllmBlockKey key config.blockSize = .ok vllmKey ∧
      canonicalToVllmBlockValue value config.blockSize = .ok vllmValue := by
  rw [transpileLayer, except_bind_of_ok hkey, except_bind_of_ok hvalue] at h
  obtain ⟨blockedKey, hk, h⟩ := except_bind_ok_iff.mp h
  obtain ⟨blockedValue, hv, h⟩ := except_bind_ok_iff.mp h
  cases h
  exact ⟨hk, hv⟩

/-- Where a key block stores a head, a dimension and a token of the block. -/
def keyPlace (config : SourceConfig) (head dim offset : Nat) : Nat :=
  (head * config.headDim.toNat + dim) * config.blockSize.toNat + offset

def valuePlace (config : SourceConfig) (head dim offset : Nat) : Nat :=
  (head * config.blockSize.toNat + offset) * config.headDim.toNat + dim

variable [F32Bits F] [F32Arith F]

/-- The chunk carries one block of the tensor, element by element. -/
structure CarriesBlock (host : SourceHost F) (config : SourceConfig) (seqLen : Usize)
    (transferCodec : TransferCodec) (place : Nat → Nat → Nat → Nat) (tensor : Tensor F)
    (layerIdx blockIdx : Nat) (tensorName : String) (chunk : PayloadChunk) (data : List F) :
    Prop where
  chunk_eq : ∃ payload, encodePayload host.qatq data transferCodec = .ok payload ∧
    chunk = chunkOf host layerIdx blockIdx tensorName payload
  element : ∀ head < config.nKvHeads.toNat, ∀ dim < config.headDim.toNat,
    ∀ offset < config.blockSize.toNat,
      data[place head dim offset]? =
        tensor.slot seqLen (blockIdx * config.blockSize.toNat + offset) head dim

section Blocks

variable {host : SourceHost F} {config : SourceConfig} {seqLen : Usize}
  {transferCodec : TransferCodec} {extractedCache : TensorMap F} {layerIdx blockIdx : Nat}
  {pair : PayloadChunk × PayloadChunk} {key value : Tensor F}

theorem encodeBlock_ok {vllmKey vllmValue : Tensor F}
    (h : encodeBlock host config transferCodec layerIdx vllmKey vllmValue blockIdx = .ok pair) :
    ∃ kData vData kPayload vPayload,
      blockSlice vllmKey.data blockIdx
        (config.nKvHeads * config.headDim * config.blockSize).toNat = .ok kData ∧
      blockSlice vllmValue.data blockIdx
        (config.nKvHeads * config.blockSize * config.headDim).toNat = .ok vData ∧
      encodePayload host.qatq kData transferCodec = .ok kPayload ∧
      encodePayload host.qatq vData transferCodec = .ok vPayload ∧
      pair = (chunkOf host layerIdx blockIdx (keyName layerIdx) kPayload,
        chunkOf host layerIdx blockIdx (valueName layerIdx) vPayload) := by
  obtain ⟨kData, hk, h⟩ := except_bind_ok_iff.mp h
  obtain ⟨vData, hv, h⟩ := except_bind_ok_iff.mp h
  obtain ⟨_, h⟩ := except_bind_unit_ok_iff.mp h
  obtain ⟨_, h⟩ := except_bind_unit_ok_iff.mp h
  obtain ⟨kPayload, hkp, h⟩ := except_bind_ok_iff.mp h
  obtain ⟨vPayload, hvp, h⟩ := except_bind_ok_iff.mp h
  exact ⟨kData, vData, kPayload, vPayload, hk, hv, hkp, hvp, (Except.ok.inj h).symm⟩

/-- A slice of a blocked tensor whose slots are known is a block of the tensor they come from. -/
theorem carriesBlock_of_slots {place : Nat → Nat → Nat → Nat} {tensor : Tensor F} {tensorName : String}
    {blocked data : List F} {blocks : Nat} {a b c : Usize} {payload : EncodedPayload}
    (hword : blocks * (a.toNat * b.toNat * c.toNat) < 2 ^ 64) (hblock : blockIdx < blocks)
    (hslice : blockSlice blocked blockIdx (a * b * c).toNat = .ok data)
    (hslots : ∀ head < config.nKvHeads.toNat, ∀ dim < config.headDim.toNat,
      ∀ offset < config.blockSize.toNat, place head dim offset < a.toNat * b.toNat * c.toNat ∧
        blocked[blockIdx * (a.toNat * b.toNat * c.toNat) + place head dim offset]? =
          tensor.slot seqLen (blockIdx * config.blockSize.toNat + offset) head dim)
    (hpayload : encodePayload host.qatq data transferCodec = .ok payload) :
    CarriesBlock host config seqLen transferCodec place tensor layerIdx blockIdx tensorName
      (chunkOf host layerIdx blockIdx tensorName payload) data := by
  have hone : a.toNat * b.toNat * c.toNat < 2 ^ 64 :=
    lt_of_le_of_lt (Nat.le_mul_of_pos_left _ (by omega)) hword
  rw [usize_mul_mul_toNat hone] at hslice
  refine ⟨⟨payload, hpayload, rfl⟩, ?_⟩
  intro head hhead dim hdim offset hoffset
  obtain ⟨hplace, hslot⟩ := hslots head hhead dim hdim offset hoffset
  rw [blockSlice_getElem hword hblock hslice hplace, hslot]

theorem carriesBlock_key {vllmKey : Tensor F} {kData : List F} {kPayload : EncodedPayload}
    (hcanonical : key.Canonical seqLen config.nKvHeads config.headDim)
    (hblock : blockIdx < (divCeil seqLen config.blockSize).toNat)
    (hkey : canonicalToVllmBlockKey key config.blockSize = .ok vllmKey)
    (hslice : blockSlice vllmKey.data blockIdx
      (config.nKvHeads * config.headDim * config.blockSize).toNat = .ok kData)
    (hpayload : encodePayload host.qatq kData transferCodec = .ok kPayload) :
    CarriesBlock host config seqLen transferCodec (keyPlace config) key layerIdx blockIdx
      (keyName layerIdx) (chunkOf host layerIdx blockIdx (keyName layerIdx) kPayload) kData := by
  obtain ⟨hword, _, hslots⟩ := canonicalToVllmBlockKey_ok hcanonical.shape hkey
  rw [Nat.mul_assoc, Nat.mul_assoc, ← Nat.mul_assoc config.nKvHeads.toNat] at hword
  refine carriesBlock_of_slots hword hblock hslice ?_ hpayload
  intro head hhead dim hdim offset hoffset
  refine ⟨mul_add_lt_mul (mul_add_lt_mul hhead hdim) hoffset, ?_⟩
  rw [keyPlace, ← hslots _ hblock _ hhead _ hdim _ hoffset]
  congr 1
  ring

theorem carriesBlock_value {vllmValue : Tensor F} {vData : List F} {vPayload : EncodedPayload}
    (hcanonical : value.Canonical seqLen config.nKvHeads config.headDim)
    (hblock : blockIdx < (divCeil seqLen config.blockSize).toNat)
    (hvalue : canonicalToVllmBlockValue value config.blockSize = .ok vllmValue)
    (hslice : blockSlice vllmValue.data blockIdx
      (config.nKvHeads * config.blockSize * config.headDim).toNat = .ok vData)
    (hpayload : encodePayload host.qatq vData transferCodec = .ok vPayload) :
    CarriesBlock host config seqLen transferCodec (valuePlace config) value layerIdx blockIdx
      (valueName layerIdx) (chunkOf host layerIdx blockIdx (valueName layerIdx) vPayload) vData := by
  obtain ⟨hword, _, hslots⟩ := canonicalToVllmBlockValue_ok hcanonical.shape hvalue
  rw [Nat.mul_assoc, Nat.mul_assoc, ← Nat.mul_assoc config.nKvHeads.toNat] at hword
  refine carriesBlock_of_slots hword hblock hslice ?_ hpayload
  intro head hhead dim hdim offset hoffset
  refine ⟨mul_add_lt_mul (mul_add_lt_mul hhead hoffset) hdim, ?_⟩
  rw [valuePlace, ← hslots _ hblock _ hhead _ hoffset _ hdim]
  congr 1
  ring

theorem blockChunks_carry
    (hkey : extractedCache.lookup (keyName layerIdx) = some key)
    (hvalue : extractedCache.lookup (valueName layerIdx) = some value)
    (hkeyCanonical : key.Canonical seqLen config.nKvHeads config.headDim)
    (hvalueCanonical : value.Canonical seqLen config.nKvHeads config.headDim)
    (hblock : blockIdx < (divCeil seqLen config.blockSize).toNat)
    (h : blockChunks host config transferCodec extractedCache layerIdx blockIdx = .ok pair) :
    (∃ data, CarriesBlock host config seqLen transferCodec (keyPlace config) key layerIdx blockIdx
        (keyName layerIdx) pair.1 data) ∧
      ∃ data, CarriesBlock host config seqLen transferCodec (valuePlace config) value layerIdx blockIdx
        (valueName layerIdx) pair.2 data := by
  obtain ⟨⟨vllmKey, vllmValue⟩, htranspile, hencode⟩ := except_bind_ok_iff.mp h
  obtain ⟨hk, hv⟩ := transpileLayer_ok (canonicalTensor_eq hkey hkeyCanonical)
    (canonicalTensor_eq hvalue hvalueCanonical) htranspile
  obtain ⟨kData, vData, kPayload, vPayload, hks, hvs, hkp, hvp, rfl⟩ := encodeBlock_ok hencode
  exact ⟨⟨kData, carriesBlock_key hkeyCanonical hblock hk hks hkp⟩,
    ⟨vData, carriesBlock_value hvalueCanonical hblock hv hvs hvp⟩⟩

theorem blockChunks_pair
    (h : blockChunks host config transferCodec extractedCache layerIdx blockIdx = .ok pair) :
    ∃ kPayload vPayload, pair = (chunkOf host layerIdx blockIdx (keyName layerIdx) kPayload,
      chunkOf host layerIdx blockIdx (valueName layerIdx) vPayload) := by
  obtain ⟨_, _, hencode⟩ := except_bind_ok_iff.mp h
  obtain ⟨_, _, kPayload, vPayload, _, _, _, _, hpair⟩ := encodeBlock_ok hencode
  exact ⟨kPayload, vPayload, hpair⟩

end Blocks

section Order

variable {host : SourceHost F} {config : SourceConfig} {seqLen : Usize}
  {transferCodec : TransferCodec} {extractedCache : TensorMap F}

def ChunkAt (chunk : PayloadChunk) (layerIdx blockIdx : Nat) : Prop :=
  chunk.chunkIndex = UInt32.ofNat blockIdx ∧
    (chunk.tensorName = keyName layerIdx ∨ chunk.tensorName = valueName layerIdx)

theorem chunkAt_of_mem (encodes : EncodesAll host config seqLen transferCodec extractedCache)
    {layerIdx blockIdx : Nat} (hl : layerIdx < config.nLayers.toNat)
    (hb : blockIdx < (divCeil seqLen config.blockSize).toNat) {chunk : PayloadChunk}
    (h : chunk ∈ [(chunkPair host config transferCodec extractedCache layerIdx blockIdx).1,
      (chunkPair host config transferCodec extractedCache layerIdx blockIdx).2]) :
    ChunkAt chunk layerIdx blockIdx := by
  obtain ⟨kPayload, vPayload, hpair⟩ := blockChunks_pair (encodes layerIdx hl blockIdx hb)
  rw [hpair] at h
  simp only [List.mem_cons, List.not_mem_nil, or_false] at h
  rcases h with rfl | rfl
  · exact ⟨rfl, Or.inl rfl⟩
  · exact ⟨rfl, Or.inr rfl⟩

/-- After the two chunks of a block come those of later blocks and of later layers. -/
theorem sentChunks_split (encodes : EncodesAll host config seqLen transferCodec extractedCache)
    {layerIdx blockIdx : Nat} (hl : layerIdx < config.nLayers.toNat)
    (hb : blockIdx < (divCeil seqLen config.blockSize).toNat) :
    ∃ before after, sentChunks host config seqLen transferCodec extractedCache = before ++
        (chunkPair host config transferCodec extractedCache layerIdx blockIdx).1 ::
        (chunkPair host config transferCodec extractedCache layerIdx blockIdx).2 :: after ∧
      ∀ chunk ∈ after, ∃ layer block, ChunkAt chunk layer block ∧
        block < (divCeil seqLen config.blockSize).toNat ∧
        (layerIdx < layer ∨ layer = layerIdx ∧ blockIdx < block) := by
  obtain ⟨earlierLayers, laterLayers, hlayers, hlater⟩ := flatMap_range_split
    (layerChunks host config seqLen transferCodec extractedCache) hl
  obtain ⟨earlierBlocks, laterBlocks, hblocks, hlater'⟩ := flatMap_range_split
    (fun block => [(chunkPair host config transferCodec extractedCache layerIdx block).1,
      (chunkPair host config transferCodec extractedCache layerIdx block).2]) hb
  refine ⟨earlierLayers ++ earlierBlocks, laterBlocks ++ laterLayers, ?_, ?_⟩
  · rw [sentChunks, hlayers, layerChunks, hblocks]
    simp only [List.append_assoc, List.cons_append, List.nil_append]
  · intro chunk hmem
    rcases List.mem_append.mp hmem with hmem | hmem
    · obtain ⟨block, hlt, hlt', hchunk⟩ := hlater' chunk hmem
      exact ⟨layerIdx, block, chunkAt_of_mem encodes hl hlt' hchunk, hlt', Or.inr ⟨rfl, hlt⟩⟩
    · obtain ⟨layer, hlt, hlt', hchunk⟩ := hlater chunk hmem
      obtain ⟨block, hblock, hchunk⟩ := List.mem_flatMap.mp hchunk
      exact ⟨layer, block, chunkAt_of_mem encodes hlt' (List.mem_range.mp hblock) hchunk,
        List.mem_range.mp hblock, Or.inl hlt⟩

end Order

end PermeantOS
