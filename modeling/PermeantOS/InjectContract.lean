import PermeantOS.AdapterReads
import PermeantOS.InjectorRequests
import PermeantOS.SessionComplete
import PermeantOS.StoredBlocks

namespace PermeantOS

section Cells

variable {F : Type}

/-- Every tensor of a block map belongs to a layer of the header and has its shape and size. -/
def CellsFit (header : UsxfHeader) (blocks : BlockMap F) : Prop :=
  ∀ hash name tensor, cell blocks hash name = some tensor →
    (∃ layer < header.modelCacheSpec.nLayers.toNat, name = keyName layer ∨ name = valueName layer) ∧
      tensor.shape = blockShape header name ∧
      tensor.data.length = (blockFloatCount header name).toNat

theorem cellsFit_empty (header : UsxfHeader) :
    CellsFit header (Staging.empty : Staging F).accumulatedBlocks := by
  intro hash name tensor h
  simp [cell, Staging.empty] at h

variable [F32Bits F] [F32Arith F] {host : Host F} {header : UsxfHeader}
  {staging last : Staging F} {chunks : List PayloadChunk}

theorem Stages.cellsFit (h : Stages host header staging chunks last)
    (hfit : CellsFit header staging.accumulatedBlocks) : CellsFit header last.accumulatedBlocks := by
  induction h with
  | nil => exact hfit
  | @cons staging next last chunk chunks _ hs _ ih =>
    obtain ⟨blockHash, data, hp, _, hlen, rfl⟩ := stageChunk_ok_iff.mp hs
    apply ih
    intro hash name tensor hcell
    by_cases hsame : hash = blockHash ∧ name = chunk.tensorName
    · obtain ⟨rfl, rfl⟩ := hsame
      rw [cell_stageTensor_self] at hcell
      cases hcell
      exact ⟨⟨_, hp.layer, hp.name⟩, rfl, hlen⟩
    · rw [cell_stageTensor_of_ne fun hh hn => hsame ⟨hh, hn⟩] at hcell
      exact hfit hash name tensor hcell

/-- A tensor that was staged once stays, though a later chunk may replace its data. -/
theorem Stages.cell_isSome (h : Stages host header staging chunks last) {hash name : String}
    (hcell : (cell staging.accumulatedBlocks hash name).isSome) :
    (cell last.accumulatedBlocks hash name).isSome := by
  induction h with
  | nil => exact hcell
  | @cons staging next last chunk chunks _ hs _ ih =>
    obtain ⟨blockHash, data, _, _, _, rfl⟩ := stageChunk_ok_iff.mp hs
    apply ih
    by_cases hsame : hash = blockHash ∧ name = chunk.tensorName
    · obtain ⟨rfl, rfl⟩ := hsame
      rw [cell_stageTensor_self]
      rfl
    · rwa [cell_stageTensor_of_ne fun hh hn => hsame ⟨hh, hn⟩]

theorem Stages.cell_of_mem (h : Stages host header staging chunks last) {chunk : PayloadChunk}
    (hmem : chunk ∈ chunks) {hash : String}
    (hhash : header.blockHashes[chunk.chunkIndex.toNat]? = some hash) :
    (cell last.accumulatedBlocks hash chunk.tensorName).isSome := by
  induction h with
  | nil => cases hmem
  | @cons staging next last other chunks _ hs hrest ih =>
    rcases List.mem_cons.mp hmem with rfl | hmem
    · obtain ⟨blockHash, data, hp, _, _, rfl⟩ := stageChunk_ok_iff.mp hs
      obtain rfl := Option.some.inj (hp.block.symm.trans hhash)
      apply hrest.cell_isSome
      rw [cell_stageTensor_self]
      rfl
    · exact ih hmem

theorem Stages.exists_chunk (h : Stages host header Staging.empty chunks last) {hash : String}
    (hmem : hash ∈ last.accumulatedBlocks) :
    ∃ chunk ∈ chunks, header.blockHashes[chunk.chunkIndex.toNat]? = some hash := by
  rcases h.mem_blocks_iff.mp hmem with hempty | h
  · exact absurd hempty (by simp [Staging.empty, Finmap.notMem_empty])
  · exact h

/-- A block of a complete set of chunks has both tensors of every layer. -/
theorem cell_of_perm_grid (hs : Stages host header Staging.empty chunks last)
    (hp : (chunks.map PayloadChunk.position).Perm (grid header)) {hash : String}
    (hmem : hash ∈ last.accumulatedBlocks) {layer : Nat}
    (hlayer : layer < header.modelCacheSpec.nLayers.toNat) {name : String}
    (hname : name = keyName layer ∨ name = valueName layer) :
    ∃ data, cell last.accumulatedBlocks hash name = some ⟨data, blockShape header name⟩ ∧
      data.length = (blockFloatCount header name).toNat := by
  obtain ⟨first, _, hhash⟩ := hs.exists_chunk hmem
  have hgrid : (first.chunkIndex.toNat, layer, name) ∈ grid header :=
    mem_grid_iff.mpr ⟨(List.getElem?_eq_some_iff.mp hhash).1, hlayer, hname⟩
  obtain ⟨chunk, hchunk, hposition⟩ := List.mem_map.mp (hp.mem_iff.mpr hgrid)
  have hindex : chunk.chunkIndex.toNat = first.chunkIndex.toNat := congrArg Prod.fst hposition
  have hsame : chunk.tensorName = name := congrArg (fun p => p.2.2) hposition
  rw [← hindex] at hhash
  have hsome := hs.cell_of_mem hchunk hhash
  obtain ⟨⟨data, shape⟩, hcell⟩ := Option.isSome_iff_exists.mp hsome
  rw [hsame] at hcell
  obtain ⟨_, hshape, hlength⟩ := hs.cellsFit (cellsFit_empty header) hash name _ hcell
  exact ⟨data, by rw [hcell, ← hshape], hlength⟩

end Cells

section Serialized

variable {F : Type}

/-- The tensors of a block as a request lists them. -/
def serializeTensors (order : HashOrder) (tensors : TensorMap F) : List (SerializedTensor F) :=
  (order.keys tensors).filterMap fun name =>
    (tensors.lookup name).map fun tensor => ⟨name, tensor.shape, tensor.data⟩

theorem mem_serializeTensors_iff {order : HashOrder} {tensors : TensorMap F}
    {serialized : SerializedTensor F} :
    serialized ∈ serializeTensors order tensors ↔
      tensors.lookup serialized.name = some ⟨serialized.data, serialized.shape⟩ := by
  rw [serializeTensors, List.mem_filterMap]
  constructor
  · intro hparts
    obtain ⟨name, _, h⟩ := hparts
    obtain ⟨tensor, htensor, rfl⟩ := Option.map_eq_some_iff.mp h
    exact htensor
  · intro h
    refine ⟨serialized.name, ?_, by rw [h]; rfl⟩
    exact (order.mem_keys_iff _ _).mpr (Finmap.mem_of_lookup_eq_some h)

theorem serializeTensors_names_nodup (order : HashOrder) (tensors : TensorMap F) :
    ((serializeTensors order tensors).map (·.name)).Nodup := by
  rw [serializeTensors, List.map_filterMap]
  apply List.Nodup.filterMap _ (order.nodup_keys tensors)
  intro name other found hname hother
  simp only [Option.map_map, Option.mem_def, Option.map_eq_some_iff, Function.comp_apply] at hname hother
  obtain ⟨_, _, rfl⟩ := hname
  obtain ⟨_, _, rfl⟩ := hother
  rfl

theorem find?_serializeTensors (order : HashOrder) (tensors : TensorMap F) (name : String) :
    (serializeTensors order tensors).find? (·.name = name) =
      (tensors.lookup name).map fun tensor => ⟨name, tensor.shape, tensor.data⟩ := by
  cases hlookup : tensors.lookup name with
  | none =>
    rw [Option.map_none, List.find?_eq_none]
    intro serialized hmem hname
    obtain rfl : serialized.name = name := by simpa using hname
    rw [mem_serializeTensors_iff, hlookup] at hmem
    cases hmem
  | some tensor =>
    have hmem : ⟨name, tensor.shape, tensor.data⟩ ∈ serializeTensors order tensors :=
      mem_serializeTensors_iff.mpr hlookup
    cases hfind : (serializeTensors order tensors).find? (·.name = name) with
    | none => exact absurd (List.find?_eq_none.mp hfind _ hmem) (by simp)
    | some found =>
      obtain rfl : found.name = name := by simpa using List.find?_some hfind
      have hfound := mem_serializeTensors_iff.mp (List.mem_of_find?_eq_some hfind)
      rw [hlookup] at hfound
      cases hfound
      rfl

variable {header : UsxfHeader} {blocks : BlockMap F} {hash : String} {layer : Nat} {data : List F}

theorem storedAt_key
    (h : cell blocks hash (keyName layer) = some ⟨data, blockShape header (keyName layer)⟩)
    (a b c : Nat) : storedAt blocks hash (keyName layer) [0, a, b, c] =
      data[(a * header.modelCacheSpec.headDim.toNat + b) * header.blockSize.toNat + c]? := by
  rw [storedAt, h, Option.bind_some]
  simp [Tensor.element, rowMajor, blockShape]

theorem storedAt_value
    (h : cell blocks hash (valueName layer) = some ⟨data, blockShape header (valueName layer)⟩)
    (a b c : Nat) : storedAt blocks hash (valueName layer) [0, a, b, c] =
      data[(a * header.blockSize.toNat + b) * header.modelCacheSpec.headDim.toNat + c]? := by
  rw [storedAt, h, Option.bind_some]
  simp [Tensor.element, rowMajor, blockShape]

/-- A block with both tensors of every layer, and nothing else. -/
structure FilledBlock (header : UsxfHeader) (blocks : BlockMap F) (hash : String) : Prop where
  blockSize : header.blockSize ≠ 0
  layers : 0 < header.modelCacheSpec.nLayers.toNat
  fit : CellsFit header blocks
  filled : ∀ layer < header.modelCacheSpec.nLayers.toNat, ∀ name,
    name = keyName layer ∨ name = valueName layer →
      ∃ data, cell blocks hash name = some ⟨data, blockShape header name⟩ ∧
        data.length = (blockFloatCount header name).toNat

theorem FilledBlock.tensors_ne_nil (h : FilledBlock header blocks hash) (order : HashOrder) :
    serializeTensors order ((blocks.lookup hash).getD ∅) ≠ [] := by
  obtain ⟨data, hcell, _⟩ := h.filled 0 h.layers (keyName 0) (Or.inl rfl)
  apply List.ne_nil_of_mem (a := ⟨keyName 0, blockShape header (keyName 0), data⟩)
  rw [mem_serializeTensors_iff, ← cell_eq_lookup, hcell]

end Serialized

section Contract

variable {F P T : Type} [F32Arith F] {adapter : AdapterHost P}

/-- What a runtime has read for a layer is the layer's tokens, in the order
`[seq, kv_heads, head_dim]`. -/
structure LayerTokens (wire : WireFloats F P adapter) (header : UsxfHeader) (blocks : BlockMap F)
    (hash : String) (layer : Nat) (shape : List Int) (keys values : List P) : Prop where
  shape_eq : shape = [(header.blockSize.toNat : Int), header.modelCacheSpec.nKvHeads.toNat,
    header.modelCacheSpec.headDim.toNat]
  key : ∀ token < header.blockSize.toNat, ∀ head < header.modelCacheSpec.nKvHeads.toNat,
    ∀ dim < header.modelCacheSpec.headDim.toNat,
      keys[(token * header.modelCacheSpec.nKvHeads.toNat + head) *
        header.modelCacheSpec.headDim.toNat + dim]? =
          (storedAt blocks hash (keyName layer) [0, head, dim, token]).map wire.decimal
  value : ∀ token < header.blockSize.toNat, ∀ head < header.modelCacheSpec.nKvHeads.toNat,
    ∀ dim < header.modelCacheSpec.headDim.toNat,
      values[(token * header.modelCacheSpec.nKvHeads.toNat + head) *
        header.modelCacheSpec.headDim.toNat + dim]? =
          (storedAt blocks hash (valueName layer) [0, head, token, dim]).map wire.decimal

/-- The PyTorch runtime accepts the request, and every layer it then has in its cache was read as the
layer's tokens. -/
def PytorchTakesBlock (materialize : Json P → T) (wire : WireFloats F P adapter) (header : UsxfHeader)
    (blocks : BlockMap F) (hash : String) (payload : Json P) (runtime : PytorchRuntime T) : Prop :=
  ∃ summary after, (PytorchRuntime.registerPermeantBlock adapter materialize payload).run runtime =
      .ok summary after ∧
    ∀ layer < header.modelCacheSpec.nLayers.toNat, ∃ shape key value,
      readLayer (Json.canonicalTensorData adapter) payload layer = .ok (shape, key, value) ∧
        after.kvCache.lookup (layer : Int) = some (materialize key.2, materialize value.2) ∧
        LayerTokens wire header blocks hash layer (dimValues shape) key.1 value.1

/-- The llama.cpp runtime accepts the request, and every layer it then has a summary of was read as
the layer's tokens. -/
def LlamaCppTakesBlock (liveHook : Option (LiveHook P)) (wire : WireFloats F P adapter)
    (header : UsxfHeader) (blocks : BlockMap F) (hash : String) (payload : Json P)
    (runtime : LlamaCppRuntime P) : Prop :=
  ∃ accepted after,
    (LlamaCppRuntime.registerPermeantBlock adapter liveHook payload payload).run runtime =
      .ok accepted after ∧
    ∀ layer < header.modelCacheSpec.nLayers.toNat, ∃ shape key value,
      readLayer (Json.canonicalTensor adapter) payload layer = .ok (shape, key, value) ∧
        (∃ summary ∈ accepted.layers, layerSummary adapter layer shape key value = .ok summary) ∧
        LayerTokens wire header blocks hash layer (dimValues shape) key value

/-- Where the daemon's layout and the canonical one are the same: one size for heads, dimensions and
tokens, and data that do not change when their axes trade places. -/
structure LayoutsCoincide (header : UsxfHeader) (blocks : BlockMap F) (hash : String) : Prop where
  hash_ne : hash ≠ ""
  kvHeads : header.modelCacheSpec.nKvHeads = header.blockSize
  headDim : header.modelCacheSpec.headDim = header.blockSize
  room : floatCount header < 2 ^ 64
  finite : ∀ layer < header.modelCacheSpec.nLayers.toNat, ∀ name,
    name = keyName layer ∨ name = valueName layer →
      ∀ tensor, cell blocks hash name = some tensor → ∀ x ∈ tensor.data, isFinite x = true
  key : ∀ layer < header.modelCacheSpec.nLayers.toNat, ∀ a < header.blockSize.toNat,
    ∀ b < header.blockSize.toNat, ∀ c < header.blockSize.toNat,
      storedAt blocks hash (keyName layer) [0, a, b, c] =
        storedAt blocks hash (keyName layer) [0, b, c, a]
  value : ∀ layer < header.modelCacheSpec.nLayers.toNat, ∀ a < header.blockSize.toNat,
    ∀ b < header.blockSize.toNat, ∀ c < header.blockSize.toNat,
      storedAt blocks hash (valueName layer) [0, a, b, c] =
        storedAt blocks hash (valueName layer) [0, b, a, c]

variable {wire : WireFloats F P adapter} {host : Host F} {header : UsxfHeader} {blocks : BlockMap F}
  {hash : String} {blockSize : Usize}

/-- How the tensors of a filled block arrive in the adapters' layers. -/
structure BlockLayers (wire : WireFloats F P adapter) (header : UsxfHeader) (blocks : BlockMap F)
    (hash : String) (grouped : GroupedLayers P) : Prop where
  mem_iff : ∀ i : Int, i ∈ grouped ↔ ∃ layer < header.modelCacheSpec.nLayers.toNat, i = layer
  key : ∀ layer data, cell blocks hash (keyName layer) =
      some ⟨data, blockShape header (keyName layer)⟩ →
    (layerOf grouped layer).key =
      some (tensorJson wire ⟨keyName layer, blockShape header (keyName layer), data⟩)
  value : ∀ layer data, cell blocks hash (valueName layer) =
      some ⟨data, blockShape header (valueName layer)⟩ →
    (layerOf grouped layer).value =
      some (tensorJson wire ⟨valueName layer, blockShape header (valueName layer), data⟩)

theorem FilledBlock.blockLayers (h : FilledBlock header blocks hash) (wire : WireFloats F P adapter)
    (order : HashOrder) :
    ∃ grouped, groupLayerTensors ((serializeTensors order ((blocks.lookup hash).getD ∅)).map
        (tensorJson wire)) = .ok grouped ∧ BlockLayers wire header blocks hash grouped := by
  obtain ⟨grouped, hgrouped, hgroups⟩ := groupLayerTensors_wire wire
    (serializeTensors_names_nodup order ((blocks.lookup hash).getD ∅)) fun tensor hmem => by
      rw [mem_serializeTensors_iff, ← cell_eq_lookup] at hmem
      obtain ⟨⟨layer, hlayer, hname⟩, _⟩ := h.fit _ _ _ hmem
      exact ⟨layer, hlayer.trans header.modelCacheSpec.nLayers.toNat_lt, hname⟩
  refine ⟨grouped, hgrouped, ?_, ?_, ?_⟩
  · intro i
    rw [hgroups.mem_iff]
    constructor
    · intro hparts
      obtain ⟨n, rfl, tensor, hmem, hname⟩ := hparts
      rw [mem_serializeTensors_iff, ← cell_eq_lookup] at hmem
      obtain ⟨⟨layer, hlayer, hlayerName⟩, _⟩ := h.fit _ _ _ hmem
      obtain rfl := layer_eq_of_name hname hlayerName
      exact ⟨n, hlayer, rfl⟩
    · intro hparts
      obtain ⟨layer, hlayer, rfl⟩ := hparts
      obtain ⟨data, hcell, _⟩ := h.filled layer hlayer (keyName layer) (Or.inl rfl)
      refine ⟨layer, rfl, ⟨keyName layer, blockShape header (keyName layer), data⟩, ?_, Or.inl rfl⟩
      rw [mem_serializeTensors_iff, ← cell_eq_lookup, hcell]
  · intro layer data hcell
    rw [hgroups.key, find?_serializeTensors, ← cell_eq_lookup, hcell]
    rfl
  · intro layer data hcell
    rw [hgroups.value, find?_serializeTensors, ← cell_eq_lookup, hcell]
    rfl

section Layers

variable {grouped : GroupedLayers P} {layer : Nat} {kData vData : List F}

theorem keyName_ne_empty (layer : Nat) : keyName layer ≠ "" := by
  intro h
  have hl := congrArg String.toList h
  rw [keyName_toList] at hl
  simp at hl

theorem valueName_ne_empty (layer : Nat) : valueName layer ≠ "" := by
  intro h
  have hl := congrArg String.toList h
  rw [valueName_toList] at hl
  simp at hl

/-- A layer of the daemon's blocks can be read exactly where `head_dim` is `block_size`. -/
theorem BlockLayers.layerPair_iff (hg : BlockLayers wire header blocks hash grouped)
    (hk : cell blocks hash (keyName layer) = some ⟨kData, blockShape header (keyName layer)⟩)
    (hv : cell blocks hash (valueName layer) = some ⟨vData, blockShape header (valueName layer)⟩)
    {shape : List (Json P)} {keys values : List P} :
    layerPair (Json.canonicalTensor adapter) grouped layer = .ok (shape, keys, values) ↔
      ((∀ x ∈ kData, isFinite x = true) ∧ ∀ x ∈ vData, isFinite x = true) ∧
        (kData.length = floatCount header ∧ vData.length = floatCount header) ∧
        header.modelCacheSpec.headDim = header.blockSize ∧
        shape = [.int header.modelCacheSpec.nKvHeads.toNat, .int header.modelCacheSpec.headDim.toNat,
          .int header.blockSize.toNat] ∧
        keys = kData.map wire.decimal ∧ values = vData.map wire.decimal := by
  have hkShape : blockShape header (keyName layer) =
      [1, header.modelCacheSpec.nKvHeads, header.modelCacheSpec.headDim, header.blockSize] := by
    simp [blockShape]
  have hvShape : blockShape header (valueName layer) =
      [1, header.modelCacheSpec.nKvHeads, header.blockSize, header.modelCacheSpec.headDim] := by
    simp [blockShape]
  have hcount : header.modelCacheSpec.nKvHeads.toNat * header.blockSize.toNat *
      header.modelCacheSpec.headDim.toNat = floatCount header := by
    rw [floatCount, Nat.mul_right_comm]
  rw [layerPair_ok_iff (hg.key layer kData hk) (hg.value layer vData hv), hkShape, hvShape]
  simp only [canonicalTensor_wire wire (keyName_ne_empty layer),
    canonicalTensor_wire wire (valueName_ne_empty layer), Prod.mk.injEq, hcount]
  constructor
  · intro hparts
    obtain ⟨⟨hkf, hkl, rfl, rfl⟩, valueShape, ⟨hvf, hvl, rfl, rfl⟩, hsame⟩ := hparts
    have hdims : header.modelCacheSpec.headDim.toNat = header.blockSize.toNat ∧
        header.blockSize.toNat = header.modelCacheSpec.headDim.toNat := by
      simpa [dimValues, Json.asInt] using hsame
    exact ⟨⟨hkf, hvf⟩, ⟨hkl, hvl⟩, UInt64.toNat_inj.mp hdims.1, rfl, rfl, rfl⟩
  · intro hparts
    obtain ⟨⟨hkf, hvf⟩, ⟨hkl, hvl⟩, hdims, rfl, rfl, rfl⟩ := hparts
    refine ⟨⟨hkf, hkl, rfl, rfl⟩, _, ⟨hvf, hvl, rfl, rfl⟩, ?_⟩
    rw [hdims]

theorem map_decimal_inj (wire : WireFloats F P adapter) {data : List F}
    (h : ∀ x ∈ data, isFinite x = true) {i j : Nat} :
    (data[i]?).map wire.decimal = (data[j]?).map wire.decimal ↔ data[i]? = data[j]? := by
  refine ⟨?_, congrArg _⟩
  intro hmap
  cases hi : data[i]? with
  | none =>
    rw [hi, Option.map_none, eq_comm, Option.map_eq_none_iff] at hmap
    exact hmap.symm
  | some x =>
    rw [hi, Option.map_some, eq_comm, Option.map_eq_some_iff] at hmap
    obtain ⟨y, hj, hxy⟩ := hmap
    rw [hj, wire.decimal_injective y x (h y (List.mem_of_getElem? hj))
      (h x (List.mem_of_getElem? hi)) hxy]

/-- With one size for all axes, a layer is read as its tokens exactly where trading the axes changes
nothing. -/
theorem layerTokens_iff
    (hk : cell blocks hash (keyName layer) = some ⟨kData, blockShape header (keyName layer)⟩)
    (hv : cell blocks hash (valueName layer) = some ⟨vData, blockShape header (valueName layer)⟩)
    (hkf : ∀ x ∈ kData, isFinite x = true) (hvf : ∀ x ∈ vData, isFinite x = true)
    (hheads : header.modelCacheSpec.nKvHeads = header.blockSize)
    (hdims : header.modelCacheSpec.headDim = header.blockSize) :
    LayerTokens wire header blocks hash layer (dimValues [(.int header.modelCacheSpec.nKvHeads.toNat :
        Json P), .int header.modelCacheSpec.headDim.toNat, .int header.blockSize.toNat])
        (kData.map wire.decimal) (vData.map wire.decimal) ↔
      (∀ a < header.blockSize.toNat, ∀ b < header.blockSize.toNat, ∀ c < header.blockSize.toNat,
        storedAt blocks hash (keyName layer) [0, a, b, c] =
          storedAt blocks hash (keyName layer) [0, b, c, a]) ∧
      ∀ a < header.blockSize.toNat, ∀ b < header.blockSize.toNat, ∀ c < header.blockSize.toNat,
        storedAt blocks hash (valueName layer) [0, a, b, c] =
          storedAt blocks hash (valueName layer) [0, b, a, c] := by
  simp only [storedAt_key hk, storedAt_value hv, ← map_decimal_inj wire hkf,
    ← map_decimal_inj wire hvf]
  constructor
  · intro hparts
    obtain ⟨_, hkey, hvalue⟩ := hparts
    simp only [hheads, hdims, List.getElem?_map, storedAt_key hk, storedAt_value hv] at hkey hvalue ⊢
    exact ⟨hkey, hvalue⟩
  · intro hparts
    obtain ⟨hkey, hvalue⟩ := hparts
    refine ⟨by simp [dimValues, Json.asInt, hheads, hdims], ?_, ?_⟩
    · simp only [hheads, hdims, List.getElem?_map, storedAt_key hk] at hkey ⊢
      exact hkey
    · simp only [hheads, hdims, List.getElem?_map, storedAt_value hv] at hvalue ⊢
      exact hvalue

def LayerCoincides (header : UsxfHeader) (blocks : BlockMap F) (hash : String) (layer : Nat)
    (kData vData : List F) : Prop :=
  header.modelCacheSpec.nKvHeads = header.blockSize ∧
    header.modelCacheSpec.headDim = header.blockSize ∧ floatCount header < 2 ^ 64 ∧
    ((∀ x ∈ kData, isFinite x = true) ∧ ∀ x ∈ vData, isFinite x = true) ∧
    (∀ a < header.blockSize.toNat, ∀ b < header.blockSize.toNat, ∀ c < header.blockSize.toNat,
      storedAt blocks hash (keyName layer) [0, a, b, c] =
        storedAt blocks hash (keyName layer) [0, b, c, a]) ∧
    ∀ a < header.blockSize.toNat, ∀ b < header.blockSize.toNat, ∀ c < header.blockSize.toNat,
      storedAt blocks hash (valueName layer) [0, a, b, c] =
        storedAt blocks hash (valueName layer) [0, b, a, c]

theorem BlockLayers.tokens_iff (hg : BlockLayers wire header blocks hash grouped)
    (hk : cell blocks hash (keyName layer) = some ⟨kData, blockShape header (keyName layer)⟩)
    (hv : cell blocks hash (valueName layer) = some ⟨vData, blockShape header (valueName layer)⟩)
    (hkl : kData.length = (blockFloatCount header (keyName layer)).toNat)
    (hvl : vData.length = (blockFloatCount header (valueName layer)).toNat) :
    (∃ shape keys values,
      layerPair (Json.canonicalTensor adapter) grouped layer = .ok (shape, keys, values) ∧
        LayerTokens wire header blocks hash layer (dimValues shape) keys values) ↔
      LayerCoincides header blocks hash layer kData vData := by
  constructor
  · intro hparts
    obtain ⟨shape, keys, values, hpair, htokens⟩ := hparts
    obtain ⟨hfinite, ⟨hlength, _⟩, hdims, rfl, rfl, rfl⟩ := (hg.layerPair_iff hk hv).mp hpair
    have hheads : header.modelCacheSpec.nKvHeads.toNat = header.blockSize.toNat := by
      have hfirst := congrArg List.head? htokens.shape_eq
      simpa [dimValues, Json.asInt] using hfirst
    have hroom : floatCount header < 2 ^ 64 := by
      rw [← hlength, hkl]
      exact UInt64.toNat_lt _
    have hheads := UInt64.toNat_inj.mp hheads
    exact ⟨hheads, hdims, hroom, hfinite,
      (layerTokens_iff hk hv hfinite.1 hfinite.2 hheads hdims).mp htokens⟩
  · intro hparts
    obtain ⟨hheads, hdims, hroom, hfinite, hsame⟩ := hparts
    rw [blockFloatCount_toNat hroom] at hkl hvl
    exact ⟨_, _, _, (hg.layerPair_iff hk hv).mpr ⟨hfinite, ⟨hkl, hvl⟩, hdims, rfl, rfl, rfl⟩,
      (layerTokens_iff hk hv hfinite.1 hfinite.2 hheads hdims).mpr hsame⟩

end Layers

/-- The request for a block, as the adapters read it. -/
def blockPayload (wire : WireFloats F P adapter) (host : Host F) (blockSize : Usize)
    (blocks : BlockMap F) (hash : String) : Json P :=
  requestJson wire (injectRequest host blockSize blocks hash)

theorem requestHash_blockPayload {result : String} :
    requestHash adapter (blockPayload wire host blockSize blocks hash) = .ok result ↔
      hash ≠ "" ∧ result = hash := by
  have heq : requestHash adapter (blockPayload wire host blockSize blocks hash) =
      if hash = "" then
        .error (.adapterError "inject_block request must include a non-empty hash")
      else .ok hash := rfl
  rw [heq]
  split
  next hempty => simp [hempty]
  next hne => simp [hne, eq_comm]

theorem blockPayload_tensors : (blockPayload wire host blockSize blocks hash).get "tensors" =
    .ok (.list ((serializeTensors host.hashOrder ((blocks.lookup hash).getD ∅)).map
      (tensorJson wire))) := rfl

theorem readLayer_blockPayload {X : Type} {read : Json P → Except PyException (List (Json P) × X)}
    {grouped : GroupedLayers P}
    (h : groupLayerTensors ((serializeTensors host.hashOrder ((blocks.lookup hash).getD ∅)).map
      (tensorJson wire)) = .ok grouped) (blockSize : Usize) (layerIndex : Int) :
    readLayer read (blockPayload wire host blockSize blocks hash) layerIndex =
      layerPair read grouped layerIndex := by
  rw [readLayer, except_bind_of_ok blockPayload_tensors]
  exact except_bind_of_ok h

/-- Every layer is read as its tokens exactly where the layouts coincide. -/
theorem FilledBlock.layoutsCoincide_iff (h : FilledBlock header blocks hash) {grouped : GroupedLayers P}
    (hg : BlockLayers wire header blocks hash grouped) :
    LayoutsCoincide header blocks hash ↔ hash ≠ "" ∧
      ∀ layer < header.modelCacheSpec.nLayers.toNat, ∃ shape keys values,
        layerPair (Json.canonicalTensor adapter) grouped layer = .ok (shape, keys, values) ∧
          LayerTokens wire header blocks hash layer (dimValues shape) keys values := by
  constructor
  · intro hc
    refine ⟨hc.hash_ne, ?_⟩
    intro layer hlayer
    obtain ⟨kData, hk, hkl⟩ := h.filled layer hlayer _ (Or.inl rfl)
    obtain ⟨vData, hv, hvl⟩ := h.filled layer hlayer _ (Or.inr rfl)
    refine (hg.tokens_iff hk hv hkl hvl).mpr ⟨hc.kvHeads, hc.headDim, hc.room, ?_, ?_⟩
    · exact ⟨hc.finite layer hlayer _ (Or.inl rfl) _ hk, hc.finite layer hlayer _ (Or.inr rfl) _ hv⟩
    · exact ⟨hc.key layer hlayer, hc.value layer hlayer⟩
  · intro hparts
    obtain ⟨hhash, hread⟩ := hparts
    have hlayers : ∀ layer < header.modelCacheSpec.nLayers.toNat, ∃ kData vData,
        cell blocks hash (keyName layer) = some ⟨kData, blockShape header (keyName layer)⟩ ∧
        cell blocks hash (valueName layer) = some ⟨vData, blockShape header (valueName layer)⟩ ∧
        LayerCoincides header blocks hash layer kData vData := by
      intro layer hlayer
      obtain ⟨kData, hk, hkl⟩ := h.filled layer hlayer _ (Or.inl rfl)
      obtain ⟨vData, hv, hvl⟩ := h.filled layer hlayer _ (Or.inr rfl)
      exact ⟨kData, vData, hk, hv, (hg.tokens_iff hk hv hkl hvl).mp (hread layer hlayer)⟩
    obtain ⟨_, _, _, _, hheads, hdims, hroom, _⟩ := hlayers 0 h.layers
    refine ⟨hhash, hheads, hdims, hroom, ?_, ?_, ?_⟩
    · intro layer hlayer name hname tensor hcell
      obtain ⟨kData, vData, hk, hv, _, _, _, ⟨hkf, hvf⟩, _⟩ := hlayers layer hlayer
      rcases hname with rfl | rfl
      · cases hk.symm.trans hcell
        exact hkf
      · cases hv.symm.trans hcell
        exact hvf
    · intro layer hlayer
      obtain ⟨_, _, _, _, _, _, _, _, hkey, _⟩ := hlayers layer hlayer
      exact hkey
    · intro layer hlayer
      obtain ⟨_, _, _, _, _, _, _, _, _, hvalue⟩ := hlayers layer hlayer
      exact hvalue

theorem FilledBlock.layer_positive (h : FilledBlock header blocks hash)
    (hc : LayoutsCoincide header blocks hash) {shape : List (Json P)} {keys values : List P} {layer : Nat}
    (htokens : LayerTokens wire header blocks hash layer (dimValues shape) keys values) :
    ∀ dim ∈ dimValues shape, 0 < dim := by
  have hpos := usize_pos_of_ne_zero h.blockSize
  rw [htokens.shape_eq, hc.kvHeads, hc.headDim]
  simpa using hpos

theorem FilledBlock.layerSummary_ok (h : FilledBlock header blocks hash) {grouped : GroupedLayers P}
    (hg : BlockLayers wire header blocks hash grouped) {layer : Nat}
    (hlayer : layer < header.modelCacheSpec.nLayers.toNat) {shape : List (Json P)} {keys values : List P}
    (hpair : layerPair (Json.canonicalTensor adapter) grouped layer = .ok (shape, keys, values)) :
    ∃ summary, layerSummary adapter layer shape keys values = .ok summary := by
  obtain ⟨kData, hk, _⟩ := h.filled layer hlayer _ (Or.inl rfl)
  obtain ⟨vData, hv, _⟩ := h.filled layer hlayer _ (Or.inr rfl)
  obtain ⟨⟨hkf, hvf⟩, _, _, rfl, rfl, rfl⟩ := (hg.layerPair_iff hk hv).mp hpair
  obtain ⟨keySha256, hkey⟩ := f32Sha256_wire wire hkf
  obtain ⟨valueSha256, hvalue⟩ := f32Sha256_wire wire hvf
  rw [layerSummary, except_bind_of_ok hkey, except_bind_of_ok hvalue]
  exact ⟨_, rfl⟩

theorem FilledBlock.pytorchTakesBlock (h : FilledBlock header blocks hash) (materialize : Json P → T)
    (hc : LayoutsCoincide header blocks hash) (runtime : PytorchRuntime T) :
    PytorchTakesBlock materialize wire header blocks hash (blockPayload wire host blockSize blocks hash)
      runtime := by
  obtain ⟨grouped, hgrouped, hg⟩ := h.blockLayers wire host.hashOrder
  obtain ⟨hhash, hread⟩ := (h.layoutsCoincide_iff hg).mp hc
  have hdata : ∀ layer < header.modelCacheSpec.nLayers.toNat, ∃ shape key value,
      layerPair (Json.canonicalTensorData adapter) grouped layer = .ok (shape, key, value) ∧
        LayerTokens wire header blocks hash layer (dimValues shape) key.1 value.1 ∧
        ∃ summary, layerSummary adapter layer shape key.1 value.1 = .ok summary := by
    intro layer hlayer
    obtain ⟨shape, keys, values, hpair, htokens⟩ := hread layer hlayer
    obtain ⟨kData, hk, _⟩ := h.filled layer hlayer _ (Or.inl rfl)
    obtain ⟨vData, hv, _⟩ := h.filled layer hlayer _ (Or.inr rfl)
    obtain ⟨keyNested, valueNested, hnested⟩ := layerPair_canonicalTensorData (hg.key layer _ hk)
      (hg.value layer _ hv) hpair (h.layer_positive hc htokens)
    exact ⟨shape, _, _, hnested, htokens, h.layerSummary_ok hg hlayer hpair⟩
  have hregisters : ∀ layerIndex ∈ grouped, LayerRegisters adapter grouped layerIndex := by
    intro layerIndex hmem
    obtain ⟨layer, hlayer, rfl⟩ := (hg.mem_iff layerIndex).mp hmem
    obtain ⟨shape, key, value, hpair, _, summary, hsummary⟩ := hdata layer hlayer
    exact ⟨shape, key, value, summary, hpair, hsummary⟩
  obtain ⟨summary, after, hrun, hheld⟩ := registerPermeantBlock_ok
    (requestHash_blockPayload.mpr ⟨hhash, rfl⟩)
    (List.map_eq_nil_iff.not.mpr (h.tensors_ne_nil host.hashOrder)) blockPayload_tensors hgrouped
    hregisters runtime
  refine ⟨summary, after, hrun, ?_⟩
  intro layer hlayer
  obtain ⟨shape, key, value, hpair, htokens, _⟩ := hdata layer hlayer
  have hlayerRead := (readLayer_blockPayload hgrouped blockSize layer).trans hpair
  exact ⟨shape, key, value, hlayerRead,
    hheld layer ((hg.mem_iff layer).mpr ⟨layer, hlayer, rfl⟩) shape key value hlayerRead, htokens⟩

theorem FilledBlock.llamaCppTakesBlock (h : FilledBlock header blocks hash)
    {liveHook : Option (LiveHook P)}
    (hhook : BindsBlock adapter liveHook (blockPayload wire host blockSize blocks hash) hash)
    (hc : LayoutsCoincide header blocks hash) (runtime : LlamaCppRuntime P) :
    LlamaCppTakesBlock liveHook wire header blocks hash (blockPayload wire host blockSize blocks hash)
      runtime := by
  obtain ⟨grouped, hgrouped, hg⟩ := h.blockLayers wire host.hashOrder
  obtain ⟨hhash, hread⟩ := (h.layoutsCoincide_iff hg).mp hc
  have hsummaries : ∀ layerIndex ∈ grouped, ∃ shape key value summary,
      layerPair (Json.canonicalTensor adapter) grouped layerIndex = .ok (shape, key, value) ∧
        layerSummary adapter layerIndex shape key value = .ok summary := by
    intro layerIndex hmem
    obtain ⟨layer, hlayer, rfl⟩ := (hg.mem_iff layerIndex).mp hmem
    obtain ⟨shape, keys, values, hpair, _⟩ := hread layer hlayer
    obtain ⟨summary, hsummary⟩ := h.layerSummary_ok hg hlayer hpair
    exact ⟨shape, keys, values, summary, hpair, hsummary⟩
  obtain ⟨accepted, after, hrun, hheld⟩ := registerPermeantBlock_llamaCpp_ok
    (requestHash_blockPayload.mpr ⟨hhash, rfl⟩)
    (List.map_eq_nil_iff.not.mpr (h.tensors_ne_nil host.hashOrder)) blockPayload_tensors rfl hgrouped
    hsummaries hhook runtime
  refine ⟨accepted, after, hrun, ?_⟩
  intro layer hlayer
  obtain ⟨shape, keys, values, hpair, htokens⟩ := hread layer hlayer
  have hlayerRead := (readLayer_blockPayload hgrouped blockSize layer).trans hpair
  exact ⟨shape, keys, values, hlayerRead,
    hheld layer ((hg.mem_iff layer).mpr ⟨layer, hlayer, rfl⟩) shape keys values hlayerRead, htokens⟩

/-- A block that the llama.cpp runtime accepts has `head_dim` equal to `block_size`. -/
theorem FilledBlock.headDim_of_accepted (h : FilledBlock header blocks hash)
    {liveHook : Option (LiveHook P)} {runtime after : LlamaCppRuntime P} {accepted : AcceptedState P}
    {request : Json P}
    (hrun : (LlamaCppRuntime.registerPermeantBlock adapter liveHook
      (blockPayload wire host blockSize blocks hash) request).run runtime = .ok accepted after) :
    header.modelCacheSpec.headDim = header.blockSize := by
  obtain ⟨state, haccept, _⟩ := run_liftExcept_bind_ok_iff.mp hrun
  obtain ⟨blockHash, _, haccept⟩ := except_bind_ok_iff.mp haccept
  rw [except_bind_of_ok blockPayload_tensors] at haccept
  obtain ⟨runtimeState, _, haccept⟩ := except_bind_ok_iff.mp haccept
  split at haccept
  next => cases haccept
  next =>
    obtain ⟨summaries, hsummaries, _⟩ := except_bind_ok_iff.mp haccept
    obtain ⟨grouped, hgrouped, hg⟩ := h.blockLayers wire host.hashOrder
    rw [summarizeLayers, Json.asList,
      if_neg (List.map_eq_nil_iff.not.mpr (h.tensors_ne_nil host.hashOrder)),
      except_bind_of_ok hgrouped] at hsummaries
    have hfirst : ((0 : Nat) : Int) ∈ sortedLayers grouped :=
      mem_sortedLayers_iff.mpr ((hg.mem_iff 0).mpr ⟨0, h.layers, rfl⟩)
    obtain ⟨summary, hsummary⟩ := mapM_ok_forall hsummaries _ hfirst
    obtain ⟨⟨shape, keys, values⟩, hpair, _⟩ := except_bind_ok_iff.mp hsummary
    obtain ⟨kData, hk, _⟩ := h.filled 0 h.layers _ (Or.inl rfl)
    obtain ⟨vData, hv, _⟩ := h.filled 0 h.layers _ (Or.inr rfl)
    exact ((hg.layerPair_iff hk hv).mp hpair).2.2.1

end Contract

section Staged

variable {F P T : Type} [F32Bits F] [F32Arith F] {adapter : AdapterHost P}
  {wire : WireFloats F P adapter} {host : Host F} {header : UsxfHeader} {hash : String}
  {blockSize : Usize} {chunks : List PayloadChunk} {staging : Staging F}
  {liveHook : Option (LiveHook P)}

theorem filledBlock_of_stages (hv : header.Valid) (hs : Stages host header Staging.empty chunks staging)
    (hp : (chunks.map PayloadChunk.position).Perm (grid header))
    (hmem : hash ∈ staging.accumulatedBlocks) :
    FilledBlock header staging.accumulatedBlocks hash where
  blockSize := (validateHeader_ok_iff.mp hv).2.2.2.1
  layers := by
    obtain ⟨chunk, hchunk, _⟩ := hs.exists_chunk hmem
    obtain ⟨_, hlayer, _⟩ := mem_grid_iff.mp (hs.forall_accepted chunk hchunk).position
    exact Nat.zero_lt_of_lt hlayer
  fit := hs.cellsFit (cellsFit_empty header)
  filled := fun layer hlayer name hname => cell_of_perm_grid hs hp hmem hlayer hname

/-- Both reference runtimes take a request of the daemon in as the block's tokens exactly where the
daemon's layout of the block happens to be the canonical one. -/
theorem takesBlock_iff (materialize : Json P → T) (hv : header.Valid)
    (hs : Stages host header Staging.empty chunks staging)
    (hp : (chunks.map PayloadChunk.position).Perm (grid header))
    (hmem : hash ∈ staging.accumulatedBlocks)
    (hhook : BindsBlock adapter liveHook
      (blockPayload wire host blockSize staging.accumulatedBlocks hash) hash) :
    ((∀ runtime, PytorchTakesBlock materialize wire header staging.accumulatedBlocks hash
        (blockPayload wire host blockSize staging.accumulatedBlocks hash) runtime) ∧
      ∀ runtime, LlamaCppTakesBlock liveHook wire header staging.accumulatedBlocks hash
        (blockPayload wire host blockSize staging.accumulatedBlocks hash) runtime) ↔
      LayoutsCoincide header staging.accumulatedBlocks hash := by
  have hfilled := filledBlock_of_stages hv hs hp hmem
  constructor
  · intro hparts
    obtain ⟨_, hllama⟩ := hparts
    obtain ⟨accepted, after, hrun, hlayers⟩ := hllama ⟨∅, ∅, none⟩
    obtain ⟨accepted', haccept, _⟩ := run_liftExcept_bind_ok_iff.mp hrun
    obtain ⟨blockHash, hhash, _⟩ := except_bind_ok_iff.mp haccept
    obtain ⟨grouped, hgrouped, hg⟩ := hfilled.blockLayers wire host.hashOrder
    refine (hfilled.layoutsCoincide_iff hg).mpr ⟨(requestHash_blockPayload.mp hhash).1, ?_⟩
    intro layer hlayer
    obtain ⟨shape, keys, values, hread, _, htokens⟩ := hlayers layer hlayer
    exact ⟨shape, keys, values, (readLayer_blockPayload hgrouped blockSize layer).symm.trans hread, htokens⟩
  · intro hc
    exact ⟨fun runtime => hfilled.pytorchTakesBlock materialize hc runtime,
      fun runtime => hfilled.llamaCppTakesBlock hhook hc runtime⟩

end Staged

section OneBlock

section Pair

variable {header : UsxfHeader} {blockHash : String} {key value : List F32}

theorem PairHeader.perm (h : PairHeader header blockHash) :
    ((pairChunks key value).map PayloadChunk.position).Perm (grid header) := by
  have hgrid : grid header = (pairChunks key value).map PayloadChunk.position := by
    rw [grid, h.blockHashes, h.nLayers]
    rfl
  rw [hgrid]

theorem cell_pairStaging_key : cell (pairStaging header blockHash key value).accumulatedBlocks blockHash
    (keyName 0) = some ⟨key, blockShape header (keyName 0)⟩ := by
  rw [pairStaging, cell_stageTensor_of_ne fun _ => keyName_ne_valueName 0 0, cell_stageTensor_self]

theorem cell_pairStaging_value : cell (pairStaging header blockHash key value).accumulatedBlocks blockHash
    (valueName 0) = some ⟨value, blockShape header (valueName 0)⟩ :=
  cell_stageTensor_self _ _ _ _

end Pair

def oneF32 : F32 := ⟨0x3f800000⟩

def twoF32 : F32 := ⟨0x40000000⟩

def pythonWire : WireFloats F32 F32 pythonAdapter where
  decimal x := x
  pack_decimal _ _ := rfl
  decimal_injective _ _ _ _ h := h

theorem isFinite_oneF32 : isFinite oneF32 = true := by decide

theorem isFinite_twoF32 : isFinite twoF32 = true := by decide

/-- One block of two tokens, with two heads of two dimensions. -/
def cubeHeader : UsxfHeader :=
  { testHeader [repeatedDigest '9'] 2 with
    modelCacheSpec := { (testHeader [repeatedDigest '9'] 2).modelCacheSpec with nKvHeads := 2, headDim := 2 } }

theorem cubeHeader_pair : PairHeader cubeHeader (repeatedDigest '9') := ⟨rfl, rfl, rfl⟩

theorem cubeHeader_valid : cubeHeader.Valid :=
  testHeader_valid [repeatedDigest '9'] 2 2 (by decide) (by decide) (by decide)

/-- The same after a turn of its axes. -/
def cubeKey : List F32 := [oneF32, oneF32, oneF32, twoF32, oneF32, twoF32, twoF32, twoF32]

/-- The same with its first two axes exchanged. -/
def cubeValue : List F32 := [oneF32, twoF32, twoF32, oneF32, twoF32, oneF32, oneF32, twoF32]

theorem isFinite_cube : ∀ x ∈ cubeKey ++ cubeValue, isFinite x = true := by
  simp [cubeKey, cubeValue, isFinite_oneF32, isFinite_twoF32]

theorem cubeKey_turns : ∀ a < 2, ∀ b < 2, ∀ c < 2,
    (⟨cubeKey, blockShape cubeHeader (keyName 0)⟩ : Tensor F32).element [0, a, b, c] =
      (⟨cubeKey, blockShape cubeHeader (keyName 0)⟩ : Tensor F32).element [0, b, c, a] := by
  decide

theorem cubeValue_exchanges : ∀ a < 2, ∀ b < 2, ∀ c < 2,
    (⟨cubeValue, blockShape cubeHeader (valueName 0)⟩ : Tensor F32).element [0, a, b, c] =
      (⟨cubeValue, blockShape cubeHeader (valueName 0)⟩ : Tensor F32).element [0, b, a, c] := by
  decide

def cubeStaging : Staging F32 := pairStaging cubeHeader (repeatedDigest '9') cubeKey cubeValue

theorem cubeStaging_layoutsCoincide :
    LayoutsCoincide cubeHeader cubeStaging.accumulatedBlocks (repeatedDigest '9') where
  hash_ne := by decide
  kvHeads := rfl
  headDim := rfl
  room := by decide
  finite := by
    intro layer hlayer name hname tensor hcell x hx
    obtain rfl : layer = 0 := Nat.lt_one_iff.mp hlayer
    obtain rfl | rfl := hname
    · cases cell_pairStaging_key.symm.trans hcell
      exact isFinite_cube x (List.mem_append_left _ hx)
    · cases cell_pairStaging_value.symm.trans hcell
      exact isFinite_cube x (List.mem_append_right _ hx)
  key := by
    intro layer hlayer a ha b hb c hc
    obtain rfl : layer = 0 := Nat.lt_one_iff.mp hlayer
    rw [storedAt, cubeStaging, cell_pairStaging_key]
    exact cubeKey_turns a ha b hb c hc
  value := by
    intro layer hlayer a ha b hb c hc
    obtain rfl : layer = 0 := Nat.lt_one_iff.mp hlayer
    rw [storedAt, cubeStaging, cell_pairStaging_value]
    exact cubeValue_exchanges a ha b hb c hc

theorem takesBlock_cube :
    (∀ runtime, PytorchTakesBlock id pythonWire cubeHeader cubeStaging.accumulatedBlocks (repeatedDigest '9')
        (blockPayload pythonWire testRecording.host 256 cubeStaging.accumulatedBlocks (repeatedDigest '9'))
        runtime) ∧
      ∀ runtime, LlamaCppTakesBlock none pythonWire cubeHeader cubeStaging.accumulatedBlocks (repeatedDigest '9')
        (blockPayload pythonWire testRecording.host 256 cubeStaging.accumulatedBlocks (repeatedDigest '9'))
        runtime :=
  (takesBlock_iff id cubeHeader_valid (cubeHeader_pair.stages testRecording rfl rfl) cubeHeader_pair.perm
    (mem_pairStaging cubeHeader (repeatedDigest '9') cubeKey cubeValue) (by intro hook h; cases h)).mpr
    cubeStaging_layoutsCoincide

/-- One token of one head with four dimensions. -/
def rowStaging : Staging F32 :=
  pairStaging (oneTokenHeader "test") (repeatedDigest '9') (List.replicate 4 oneF32) (List.replicate 4 oneF32)

theorem widthFour_refused :
    (oneTokenHeader "test").Valid ∧
      Stages testRecording.host (oneTokenHeader "test") Staging.empty
        (pairChunks (List.replicate 4 oneF32) (List.replicate 4 oneF32)) rowStaging ∧
      ((pairChunks (List.replicate 4 oneF32) (List.replicate 4 oneF32)).map PayloadChunk.position).Perm
        (grid (oneTokenHeader "test")) ∧
      repeatedDigest '9' ∈ rowStaging.accumulatedBlocks ∧
      ∀ runtime, ¬∃ accepted after, (LlamaCppRuntime.registerPermeantBlock pythonAdapter none
        (blockPayload pythonWire testRecording.host 256 rowStaging.accumulatedBlocks (repeatedDigest '9'))
        (blockPayload pythonWire testRecording.host 256 rowStaging.accumulatedBlocks (repeatedDigest '9'))).run
        runtime = .ok accepted after := by
  have hvalid := oneTokenHeader_valid "test"
  have hstages : Stages testRecording.host (oneTokenHeader "test") Staging.empty
      (pairChunks (List.replicate 4 oneF32) (List.replicate 4 oneF32)) rowStaging :=
    (oneTokenHeader_pair "test").stages testRecording rfl rfl
  have hperm : ((pairChunks (List.replicate 4 oneF32) (List.replicate 4 oneF32)).map PayloadChunk.position).Perm
      (grid (oneTokenHeader "test")) := (oneTokenHeader_pair "test").perm
  have hmem : repeatedDigest '9' ∈ rowStaging.accumulatedBlocks := mem_pairStaging _ _ _ _
  refine ⟨hvalid, hstages, hperm, hmem, ?_⟩
  rintro runtime ⟨accepted, after, hrun⟩
  have hdim := (filledBlock_of_stages hvalid hstages hperm hmem).headDim_of_accepted hrun
  exact absurd hdim (by decide)

end OneBlock

end PermeantOS
