import PermeantOS.SimMigrateCommit

namespace PermeantOS

variable {F : Type}

/-- The element that a cache holds for a block hash, a tensor name and an index. -/
def storedAt (blocks : BlockMap F) (hash name : String) (index : List Nat) : Option F :=
  (cell blocks hash name).bind (·.element index)

def sourceAt (extractedCache : TensorMap F) (name : String) (index : List Nat) : Option F :=
  (extractedCache.lookup name).bind (·.element index)

def CanonicalCache (config : SourceConfig) (seqLen : Usize) (extractedCache : TensorMap F) : Prop :=
  ∀ layerIdx < config.nLayers.toNat, ∀ name, name = keyName layerIdx ∨ name = valueName layerIdx →
    ∃ tensor, extractedCache.lookup name = some tensor ∧
      tensor.Canonical seqLen config.nKvHeads config.headDim

/-- Every key and every value of the source is found in the cache by its block's hash, its tensor's
name and its place in the block. -/
def StoresEvery (config : SourceConfig) (header : UsxfHeader) (extractedCache : TensorMap F)
    (blocks : BlockMap F) : Prop :=
  ∀ layerIdx < config.nLayers.toNat, ∀ token < header.seqLen.toNat,
    ∀ head < config.nKvHeads.toNat, ∀ dim < config.headDim.toNat,
      ∃ hash, header.blockHashes[token / config.blockSize.toNat]? = some hash ∧
        storedAt blocks hash (keyName layerIdx) [0, head, dim, token % config.blockSize.toNat] =
          sourceAt extractedCache (keyName layerIdx) [token, head, dim] ∧
        storedAt blocks hash (valueName layerIdx) [0, head, token % config.blockSize.toNat, dim] =
          sourceAt extractedCache (valueName layerIdx) [token, head, dim]

/-- All blocks that are full of tokens carry the same keys and the same values. -/
def FullBlocksRepeat (config : SourceConfig) (seqLen : Usize) (extractedCache : TensorMap F) : Prop :=
  ∀ layerIdx < config.nLayers.toNat, ∀ name, name = keyName layerIdx ∨ name = valueName layerIdx →
    ∀ head < config.nKvHeads.toNat, ∀ dim < config.headDim.toNat, ∀ token other,
      token / config.blockSize.toNat < seqLen.toNat / config.blockSize.toNat →
      other / config.blockSize.toNat < seqLen.toNat / config.blockSize.toNat →
      token % config.blockSize.toNat = other % config.blockSize.toNat →
      sourceAt extractedCache name [token, head, dim] =
        sourceAt extractedCache name [other, head, dim]

section Hashes

variable {config : SourceConfig} {seqLen : Usize} {transferCodec : TransferCodec}

def dummyBytes (count : Nat) : List UInt8 := (dummyTokens count).flatMap u32ToBeBytes

theorem simHeader_blockHash (sha256 : List UInt8 → List UInt8) (hb : config.blockSize ≠ 0)
    {block : Nat} (hblock : block < (divCeil seqLen config.blockSize).toNat) :
    (simHeader sha256 config seqLen transferCodec).blockHashes[block]? =
      some (computeSha256 sha256 (dummyBytes
        (min config.blockSize.toNat (seqLen.toNat - block * config.blockSize.toNat)))) := by
  rw [divCeil_toNat hb] at hblock
  simp [simHeader, computeTokenBlockHashes, chunks, dummyTokens, dummyBytes, hblock]

theorem full_block {n size block : Nat} (h : block < n / size) :
    min size (n - block * size) = size := by
  have hmul : (block + 1) * size ≤ n :=
    le_trans (Nat.mul_le_mul_right size h) (Nat.div_mul_le_self n size)
  rw [Nat.succ_mul] at hmul
  omega

theorem last_block {n size : Nat} (hs : 0 < size) :
    min size (n - n / size * size) = n % size := by
  have hdm := Nat.div_add_mod n size
  have hlt := Nat.mod_lt n hs
  rw [Nat.mul_comm] at hdm
  omega

theorem div_lt_divCeil (hb : config.blockSize ≠ 0) {token : Nat} (h : token < seqLen.toNat) :
    token / config.blockSize.toNat < (divCeil seqLen config.blockSize).toNat := by
  have hpos := usize_pos_of_ne_zero hb
  rw [divCeil_toNat hb, Nat.lt_iff_add_one_le, Nat.ceilDiv_eq_add_pred_div,
    Nat.le_div_iff_mul_le hpos, Nat.succ_mul]
  have := Nat.div_mul_le_self token config.blockSize.toNat
  omega

theorem lt_divCeil_of_lt_div (hb : config.blockSize ≠ 0) {block : Nat}
    (h : block < seqLen.toNat / config.blockSize.toNat) :
    block < (divCeil seqLen config.blockSize).toNat := by
  have hpos := usize_pos_of_ne_zero hb
  have hmul : block * config.blockSize.toNat < seqLen.toNat :=
    lt_of_lt_of_le (Nat.mul_lt_mul_of_pos_right h hpos) (Nat.div_mul_le_self _ _)
  simpa [Nat.mul_div_cancel _ hpos] using div_lt_divCeil hb hmul

theorem divCeil_le_seqLen (hb : config.blockSize ≠ 0) :
    (divCeil seqLen config.blockSize).toNat ≤ seqLen.toNat := by
  have hpos := usize_pos_of_ne_zero hb
  rw [divCeil_toNat hb, ceilDiv_le_iff_le_mul hpos]
  exact Nat.le_mul_of_pos_left _ hpos

theorem lt_div_or_eq_of_lt_divCeil (hb : config.blockSize ≠ 0) {block : Nat}
    (h : block < (divCeil seqLen config.blockSize).toNat) :
    block < seqLen.toNat / config.blockSize.toNat ∨ block = seqLen.toNat / config.blockSize.toNat := by
  have hpos := usize_pos_of_ne_zero hb
  rw [divCeil_toNat hb, Nat.ceilDiv_eq_add_pred_div] at h
  have hle : (seqLen.toNat + config.blockSize.toNat - 1) / config.blockSize.toNat ≤
      seqLen.toNat / config.blockSize.toNat + 1 := by
    rw [← Nat.add_div_right _ hpos]
    exact Nat.div_le_div_right (by omega)
  omega

end Hashes

section Stored

variable {source : SourceHost F32} {host : Host F32} {config : SourceConfig} {seqLen : Usize}
  {transferCodec : TransferCodec} {extractedCache : TensorMap F32} {staging : Staging F32}

/-- What is known of a committed migration: the source's chunks, as they were staged. -/
structure CommittedChunks (source : SourceHost F32) (host : Host F32) (config : SourceConfig)
    (seqLen : Usize) (transferCodec : TransferCodec) (extractedCache : TensorMap F32)
    (staging : Staging F32) : Prop where
  canonical : CanonicalCache config seqLen extractedCache
  lossless : transferCodec ≠ .fp8
  roundTrips : source.qatq.RoundTrips
  qatq : host.qatq = source.qatq
  blockSize : config.blockSize ≠ 0
  admitted : seqLen ≤ maxContext
  encodes : EncodesAll source config seqLen transferCodec extractedCache
  staged : Stages host (simHeader source.sha256 config seqLen transferCodec) Staging.empty
    (sentChunks source config seqLen transferCodec extractedCache) staging

theorem CommittedChunks.block_lt
    (c : CommittedChunks source host config seqLen transferCodec extractedCache staging) {block : Nat}
    (h : block < (divCeil seqLen config.blockSize).toNat) : block < 2 ^ 32 := by
  have hle : (divCeil seqLen config.blockSize).toNat ≤ seqLen.toNat := divCeil_le_seqLen c.blockSize
  have hmax : seqLen.toNat ≤ 131072 := by simpa [maxContext] using UInt64.le_iff_toNat_le.mp c.admitted
  omega

theorem CommittedChunks.chunkIndex_toNat
    (c : CommittedChunks source host config seqLen transferCodec extractedCache staging) {block : Nat}
    (h : block < (divCeil seqLen config.blockSize).toNat) : (UInt32.ofNat block).toNat = block := by
  simpa using Nat.mod_eq_of_lt (c.block_lt h)

/-- Later chunks of a committed migration do not touch a tensor that no later block of its hash
follows. -/
theorem CommittedChunks.untouched
    (c : CommittedChunks source host config seqLen transferCodec extractedCache staging)
    {after : List PayloadChunk} {layerIdx blockIdx : Nat} {hash name : String}
    (hname : name = keyName layerIdx ∨ name = valueName layerIdx)
    (hlast : ∀ block < (divCeil seqLen config.blockSize).toNat, blockIdx < block →
      (simHeader source.sha256 config seqLen transferCodec).blockHashes[block]? ≠ some hash)
    (hafter : ∀ chunk ∈ after, ∃ layer block, ChunkAt chunk layer block ∧
      block < (divCeil seqLen config.blockSize).toNat ∧
      (layerIdx < layer ∨ layer = layerIdx ∧ blockIdx < block)) :
    ∀ chunk ∈ after, (simHeader source.sha256 config seqLen transferCodec).blockHashes[
      chunk.chunkIndex.toNat]? = some hash → chunk.tensorName ≠ name := by
  intro chunk hmem hhash heq
  obtain ⟨layer, block, ⟨hindex, hnames⟩, hblock, hlayer | ⟨rfl, hlt⟩⟩ := hafter chunk hmem
  · have hsame : layer = layerIdx := layer_eq_of_name (heq ▸ hnames) hname
    omega
  · rw [hindex, c.chunkIndex_toNat hblock] at hhash
    exact hlast block hblock hlt hhash

/-- The staged data of a block that no later block of its hash follows is the block's own. -/
theorem CommittedChunks.cell_of_carries
    (c : CommittedChunks source host config seqLen transferCodec extractedCache staging)
    {before after : List PayloadChunk} {chunk : PayloadChunk} {data : List F32}
    {place : Nat → Nat → Nat → Nat} {tensor : Tensor F32} {layerIdx blockIdx : Nat} {hash name : String}
    (hsplit : sentChunks source config seqLen transferCodec extractedCache = before ++ chunk :: after)
    (hcarries : CarriesBlock source config seqLen transferCodec place tensor layerIdx blockIdx name
      chunk data)
    (hblock : blockIdx < (divCeil seqLen config.blockSize).toNat)
    (hhash : (simHeader source.sha256 config seqLen transferCodec).blockHashes[blockIdx]? = some hash)
    (huntouched : ∀ other ∈ after, (simHeader source.sha256 config seqLen transferCodec).blockHashes[
      other.chunkIndex.toNat]? = some hash → other.tensorName ≠ name) :
    cell staging.accumulatedBlocks hash name =
      some ⟨data, blockShape (simHeader source.sha256 config seqLen transferCodec) name⟩ := by
  obtain ⟨payload, hpayload, rfl⟩ := hcarries.chunk_eq
  have hstaged := c.staged
  rw [hsplit] at hstaged
  obtain ⟨decoded, hdecode, hcell⟩ := hstaged.cell_of_last
    (by rw [chunkOf, c.chunkIndex_toNat hblock, hhash]) huntouched
  rw [c.qatq] at hdecode
  have hscheme : (simHeader source.sha256 config seqLen transferCodec).transferQuantization.map
      (·.scheme) = transferCodec.headerScheme := by
    cases transferCodec <;> rfl
  rw [hscheme] at hdecode
  rw [← decodePayload_encodePayload c.roundTrips c.lossless hpayload hdecode]
  exact hcell

theorem element_keyBlock (config : SourceConfig) (sha256 : List UInt8 → List UInt8) (data : List F32)
    (layerIdx head dim offset : Nat) :
    (⟨data, blockShape (simHeader sha256 config seqLen transferCodec) (keyName layerIdx)⟩ :
      Tensor F32).element [0, head, dim, offset] = data[keyPlace config head dim offset]? := by
  simp [Tensor.element, rowMajor, blockShape, keyPlace, simHeader]

theorem element_valueBlock (config : SourceConfig) (sha256 : List UInt8 → List UInt8) (data : List F32)
    (layerIdx head dim offset : Nat) :
    (⟨data, blockShape (simHeader sha256 config seqLen transferCodec) (valueName layerIdx)⟩ :
      Tensor F32).element [0, head, offset, dim] = data[valuePlace config head dim offset]? := by
  simp [Tensor.element, rowMajor, blockShape, valuePlace, simHeader]

theorem slot_eq_sourceAt {name : String} {tensor : Tensor F32} {token head dim : Nat}
    (hlookup : extractedCache.lookup name = some tensor) (htoken : token < seqLen.toNat) :
    tensor.slot seqLen token head dim = sourceAt extractedCache name [token, head, dim] := by
  rw [Tensor.slot, if_pos htoken, sourceAt, hlookup, Option.bind_some]

/-- A block that no later block of its hash follows is stored as it was extracted. -/
theorem CommittedChunks.storedAt_of_last
    (c : CommittedChunks source host config seqLen transferCodec extractedCache staging)
    {layerIdx blockIdx head dim offset : Nat} {hash : String} (hl : layerIdx < config.nLayers.toNat)
    (hblock : blockIdx < (divCeil seqLen config.blockSize).toNat)
    (hhash : (simHeader source.sha256 config seqLen transferCodec).blockHashes[blockIdx]? = some hash)
    (hlast : ∀ block < (divCeil seqLen config.blockSize).toNat, blockIdx < block →
      (simHeader source.sha256 config seqLen transferCodec).blockHashes[block]? ≠ some hash)
    (hhead : head < config.nKvHeads.toNat) (hdim : dim < config.headDim.toNat)
    (hoffset : offset < config.blockSize.toNat)
    (htoken : blockIdx * config.blockSize.toNat + offset < seqLen.toNat) :
    storedAt staging.accumulatedBlocks hash (keyName layerIdx) [0, head, dim, offset] =
        sourceAt extractedCache (keyName layerIdx)
          [blockIdx * config.blockSize.toNat + offset, head, dim] ∧
      storedAt staging.accumulatedBlocks hash (valueName layerIdx) [0, head, offset, dim] =
        sourceAt extractedCache (valueName layerIdx)
          [blockIdx * config.blockSize.toNat + offset, head, dim] := by
  obtain ⟨key, hkey, hkeyCanonical⟩ := c.canonical layerIdx hl _ (Or.inl rfl)
  obtain ⟨value, hvalue, hvalueCanonical⟩ := c.canonical layerIdx hl _ (Or.inr rfl)
  obtain ⟨⟨kData, hk⟩, ⟨vData, hv⟩⟩ := blockChunks_carry hkey hvalue hkeyCanonical hvalueCanonical
    hblock (c.encodes layerIdx hl blockIdx hblock)
  obtain ⟨before, after, hsplit, hafter⟩ := sentChunks_split c.encodes hl hblock
  have hkeyCell := c.cell_of_carries hsplit hk hblock hhash ?_
  have hvalueCell := c.cell_of_carries (hsplit.trans (List.append_cons _ _ _)) hv hblock hhash
    (c.untouched (Or.inr rfl) hlast hafter)
  · rw [storedAt, hkeyCell, Option.bind_some, element_keyBlock,
      hk.element head hhead dim hdim offset hoffset, slot_eq_sourceAt hkey htoken, storedAt, hvalueCell,
      Option.bind_some, element_valueBlock, hv.element head hhead dim hdim offset hoffset,
      slot_eq_sourceAt hvalue htoken]
    exact ⟨rfl, rfl⟩
  · intro other hmem
    rcases List.mem_cons.mp hmem with rfl | hmem
    · obtain ⟨payload, _, heq⟩ := hv.chunk_eq
      rw [heq]
      exact fun _ h => keyName_ne_valueName _ _ h.symm
    · exact c.untouched (Or.inl rfl) hlast hafter other hmem

theorem CommittedChunks.fullHash
    (c : CommittedChunks source host config seqLen transferCodec extractedCache staging) {block : Nat}
    (h : block < seqLen.toNat / config.blockSize.toNat) :
    (simHeader source.sha256 config seqLen transferCodec).blockHashes[block]? =
      some (computeSha256 source.sha256 (dummyBytes config.blockSize.toNat)) := by
  rw [simHeader_blockHash _ c.blockSize (lt_divCeil_of_lt_div c.blockSize h), full_block h]

/-- Behind the last full block there is at most the short one, whose hash is another. -/
theorem CommittedChunks.hash_ne_after_full
    (c : CommittedChunks source host config seqLen transferCodec extractedCache staging)
    (hsha : source.sha256 (dummyBytes config.blockSize.toNat) ≠
      source.sha256 (dummyBytes (seqLen.toNat % config.blockSize.toNat)))
    {block : Nat} (hblock : block < (divCeil seqLen config.blockSize).toNat)
    (hlt : seqLen.toNat / config.blockSize.toNat - 1 < block) :
    (simHeader source.sha256 config seqLen transferCodec).blockHashes[block]? ≠
      some (computeSha256 source.sha256 (dummyBytes config.blockSize.toNat)) := by
  intro hhash
  rcases lt_div_or_eq_of_lt_divCeil c.blockSize hblock with hfull | rfl
  · omega
  · rw [simHeader_blockHash _ c.blockSize hblock, last_block (usize_pos_of_ne_zero c.blockSize)] at hhash
    exact hsha (computeSha256_injective (Option.some.inj hhash)).symm

/-- One token of one layer is found in the cache, as `StoresEvery` asks of all. -/
def StoresToken (config : SourceConfig) (header : UsxfHeader) (extractedCache : TensorMap F32)
    (blocks : BlockMap F32) (layerIdx token head dim : Nat) : Prop :=
  ∃ hash, header.blockHashes[token / config.blockSize.toNat]? = some hash ∧
    storedAt blocks hash (keyName layerIdx) [0, head, dim, token % config.blockSize.toNat] =
      sourceAt extractedCache (keyName layerIdx) [token, head, dim] ∧
    storedAt blocks hash (valueName layerIdx) [0, head, token % config.blockSize.toNat, dim] =
      sourceAt extractedCache (valueName layerIdx) [token, head, dim]

theorem CommittedChunks.fullBlocksRepeat
    (c : CommittedChunks source host config seqLen transferCodec extractedCache staging)
    (h : StoresEvery config (simHeader source.sha256 config seqLen transferCodec) extractedCache
      staging.accumulatedBlocks) : FullBlocksRepeat config seqLen extractedCache := by
  intro layerIdx hl name hname head hhead dim hdim token other htoken hother hmod
  have hlt : ∀ {t : Nat}, t / config.blockSize.toNat < seqLen.toNat / config.blockSize.toNat →
      t < seqLen.toNat := by
    intro t ht
    exact lt_of_not_ge fun hge => absurd (Nat.div_le_div_right hge) (Nat.not_le.mpr ht)
  obtain ⟨hash, hhash, hkey, hvalue⟩ := h layerIdx hl token (hlt htoken) head hhead dim hdim
  obtain ⟨hash', hhash', hkey', hvalue'⟩ := h layerIdx hl other (hlt hother) head hhead dim hdim
  obtain rfl := Option.some.inj (hhash.symm.trans (c.fullHash htoken))
  obtain rfl := Option.some.inj (hhash'.symm.trans (c.fullHash hother))
  rcases hname with rfl | rfl
  · rw [← hkey, ← hkey', hmod]
  · rw [← hvalue, ← hvalue', hmod]

section Tokens

variable {layerIdx token head dim : Nat} (hl : layerIdx < config.nLayers.toNat)
  (hhead : head < config.nKvHeads.toNat) (hdim : dim < config.headDim.toNat)

include hl hhead hdim

/-- Full blocks share one hash, and the cache holds the last of them for it. -/
theorem CommittedChunks.storesToken_of_full
    (c : CommittedChunks source host config seqLen transferCodec extractedCache staging)
    (hsha : source.sha256 (dummyBytes config.blockSize.toNat) ≠
      source.sha256 (dummyBytes (seqLen.toNat % config.blockSize.toNat)))
    (h : FullBlocksRepeat config seqLen extractedCache)
    (hfull : token / config.blockSize.toNat < seqLen.toNat / config.blockSize.toNat) :
    StoresToken config (simHeader source.sha256 config seqLen transferCodec) extractedCache
      staging.accumulatedBlocks layerIdx token head dim := by
  have hoffset := Nat.mod_lt token (usize_pos_of_ne_zero c.blockSize)
  have hw : seqLen.toNat / config.blockSize.toNat - 1 < seqLen.toNat / config.blockSize.toNat :=
    Nat.sub_lt (Nat.zero_lt_of_lt hfull) Nat.one_pos
  have hstored := mul_add_lt_mul hw hoffset
  obtain ⟨hkey, hvalue⟩ := c.storedAt_of_last hl (lt_divCeil_of_lt_div c.blockSize hw)
    (c.fullHash hw) (fun _ hb hlt => c.hash_ne_after_full hsha hb hlt) hhead hdim hoffset
    (lt_of_lt_of_le hstored (Nat.div_mul_le_self _ _))
  have hrepeat := fun name hname => h layerIdx hl name hname head hhead dim hdim
    ((seqLen.toNat / config.blockSize.toNat - 1) * config.blockSize.toNat +
      token % config.blockSize.toNat) token (by rwa [mul_add_div_of_lt hoffset]) hfull
    (mul_add_mod_of_lt hoffset)
  exact ⟨_, c.fullHash hfull, hkey.trans (hrepeat _ (Or.inl rfl)),
    hvalue.trans (hrepeat _ (Or.inr rfl))⟩

/-- No block follows the short one. -/
theorem CommittedChunks.storesToken_of_short
    (c : CommittedChunks source host config seqLen transferCodec extractedCache staging)
    (htoken : token < seqLen.toNat)
    (hshort : token / config.blockSize.toNat = seqLen.toNat / config.blockSize.toNat) :
    StoresToken config (simHeader source.sha256 config seqLen transferCodec) extractedCache
      staging.accumulatedBlocks layerIdx token head dim := by
  have hblock := div_lt_divCeil c.blockSize htoken
  have hoffset := Nat.mod_lt token (usize_pos_of_ne_zero c.blockSize)
  have hdm : token / config.blockSize.toNat * config.blockSize.toNat +
      token % config.blockSize.toNat = token := by
    rw [Nat.mul_comm]
    exact Nat.div_add_mod _ _
  have hlast : ∀ block < (divCeil seqLen config.blockSize).toNat,
      ¬token / config.blockSize.toNat < block := by
    intro block hlt hgt
    rcases lt_div_or_eq_of_lt_divCeil c.blockSize hlt with hle | rfl
    · omega
    · omega
  have hstored := c.storedAt_of_last hl hblock (simHeader_blockHash _ c.blockSize hblock)
    (fun block hlt hgt => absurd hgt (hlast block hlt)) hhead hdim hoffset (by rwa [hdm])
  rw [hdm] at hstored
  exact ⟨_, simHeader_blockHash _ c.blockSize hblock, hstored⟩

end Tokens

/-- A committed migration is stored as it was extracted exactly when its full blocks are alike. -/
theorem CommittedChunks.storesEvery_iff
    (c : CommittedChunks source host config seqLen transferCodec extractedCache staging)
    (hsha : source.sha256 (dummyBytes config.blockSize.toNat) ≠
      source.sha256 (dummyBytes (seqLen.toNat % config.blockSize.toNat))) :
    StoresEvery config (simHeader source.sha256 config seqLen transferCodec) extractedCache
      staging.accumulatedBlocks ↔ FullBlocksRepeat config seqLen extractedCache := by
  constructor
  · exact c.fullBlocksRepeat
  · intro h layerIdx hl token htoken head hhead dim hdim
    rcases lt_div_or_eq_of_lt_divCeil c.blockSize (div_lt_divCeil c.blockSize htoken) with hfull | hshort
    · exact c.storesToken_of_full hl hhead hdim hsha h hfull
    · exact c.storesToken_of_short hl hhead hdim htoken hshort

end Stored

end PermeantOS
