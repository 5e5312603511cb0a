import PermeantOS.Payload
import PermeantOS.StridedMemory

namespace PermeantOS

section Tensors

inductive GgmlType
  | f32
  | f16
  | other (size : Nat)
  deriving DecidableEq, Repr

/-- `ggml_type_size` -/
def GgmlType.size : GgmlType → Nat
  | .f32 => 4
  | .f16 => 2
  | .other size => size

/-- A backend tensor: its type, the length of a row and its stride in bytes, and its bytes. -/
structure GgmlTensor where
  type : GgmlType
  ne0 : Nat
  nb1 : Nat
  data : Memory UInt8

/-- `ggml_fp16_to_fp32_row` and `ggml_fp32_to_fp16_row`, on one element. -/
structure HalfFloats where
  toF32 : List UInt8 → F32
  ofF32 : F32 → List UInt8

inductive BridgeError
  | runtimeError (message : String)
  | nullPointer
  deriving DecidableEq, Repr

def checkType : GgmlType → Except BridgeError Unit
  | .other _ => .error (.runtimeError "raw KV proof supports only f16/f32 KV cache tensors")
  | _ => .ok ()

variable (half : HalfFloats)

def decodeElement (type : GgmlType) (bytes : List UInt8) : F32 :=
  if type = .f32 then f32FromLeBytes bytes else half.toF32 bytes

/-- The `count` floats in a row of bytes. -/
def decodeRow (type : GgmlType) (count : Nat) (bytes : List UInt8) : List F32 :=
  (List.range count).map fun i => decodeElement half type ((bytes.drop (i * type.size)).take type.size)

def readRowsAsF32 (tensor : GgmlTensor) (width rowCount : Nat) : Except BridgeError (List F32) := do
  checkType tensor.type
  let rowBytes := width * tensor.type.size
  pure ((List.range rowCount).flatMap fun rowIndex =>
    decodeRow half tensor.type width (tensor.data.read (rowIndex * tensor.nb1) rowBytes))

/-- The value at `row * width + dim` is the one in row `row` of column `dim`. -/
def readTransposedVAsF32 (tensor : GgmlTensor) (width rowCount kvSize : Nat) : Except BridgeError (List F32) := do
  checkType tensor.type
  let column (dim : Nat) : List F32 := decodeRow half tensor.type rowCount
    (tensor.data.read (dim * (kvSize * tensor.type.size)) (rowCount * tensor.type.size))
  pure ((List.range rowCount).flatMap fun row => (List.range width).map fun dim => (column dim).getD row ⟨0⟩)

def encodeElement (type : GgmlType) (value : F32) : List UInt8 :=
  if type = .f32 then f32ToLeBytes value else half.ofF32 value

def encodeRowsFromF32 (type : GgmlType) (values : List F32) : Except BridgeError (List UInt8) := do
  checkType type
  pure (values.flatMap (encodeElement half type))

def writeLayerRows (tensor : GgmlTensor) (width rowCount : Nat) (values : List F32) :
    Except BridgeError GgmlTensor := do
  let rowBytes := width * tensor.type.size
  let encoded ← encodeRowsFromF32 half tensor.type values
  if encoded.length ≠ rowBytes * rowCount then .error (.runtimeError "encoded KV tensor size mismatch")
  else pure { tensor with
    data := tensor.data.writeBlocks tensor.nb1 (fun row => (encoded.drop (row * rowBytes)).take rowBytes) rowCount }

def writeTransposedVRows (tensor : GgmlTensor) (width rowCount kvSize : Nat) (values : List F32) :
    Except BridgeError GgmlTensor := do
  checkType tensor.type
  let column (dim : Nat) : List F32 := (List.range rowCount).map fun row => values.getD (row * width + dim) ⟨0⟩
  pure { tensor with
    data := tensor.data.writeBlocks (kvSize * tensor.type.size)
      (fun dim => (column dim).flatMap (encodeElement half tensor.type)) width }

end Tensors

section Caches

structure CanonicalLayer where
  il : UInt32
  seqLen : Nat
  kWidth : Nat
  vWidth : Nat
  key : List F32
  value : List F32
  deriving DecidableEq, Repr

structure KvLayer where
  il : UInt32
  k : Option GgmlTensor
  v : Option GgmlTensor

/-- What the bridge uses of a `llama_kv_cache`; `vCells` has the size of each stream. -/
structure LlamaKvCache where
  nStream : Nat
  vCells : List Nat
  vTrans : Bool
  nEmbdVGqa : UInt32 → Nat
  layers : List KvLayer

variable (half : HalfFloats)

/-- The size of the only stream. -/
def LlamaKvCache.kvSize (cache : LlamaKvCache) : Except BridgeError Nat :=
  match cache.vCells with
  | size :: _ =>
    if cache.nStream = 1 then .ok size
    else .error (.runtimeError "raw KV proof currently requires a single-stream llama.cpp KV cache")
  | [] => .error (.runtimeError "raw KV proof currently requires a single-stream llama.cpp KV cache")

def LlamaKvCache.vWidth (cache : LlamaKvCache) (il : UInt32) (v : GgmlTensor) : Nat :=
  if cache.vTrans = true then cache.nEmbdVGqa il else v.ne0

def exportLayer (cache : LlamaKvCache) (kvSize seqLen : Nat) (il : UInt32) (k v : GgmlTensor) :
    Except BridgeError CanonicalLayer := do
  let key ← readRowsAsF32 half k k.ne0 seqLen
  let value ← if cache.vTrans = true then readTransposedVAsF32 half v (cache.vWidth il v) seqLen kvSize
    else readRowsAsF32 half v (cache.vWidth il v) seqLen
  pure ⟨il, seqLen, k.ne0, cache.vWidth il v, key, value⟩

def exportLayers (cache : LlamaKvCache) (kvSize seqLen : Nat) : List KvLayer → Except BridgeError (List CanonicalLayer)
  | [] => .ok []
  | layer :: layers =>
    match layer.k, layer.v with
    | some k, some v => do
      let out ← exportLayer half cache kvSize seqLen layer.il k v
      let outs ← exportLayers cache kvSize seqLen layers
      pure (out :: outs)
    | _, _ => exportLayers cache kvSize seqLen layers

def exportCanonical (cache : LlamaKvCache) (seqLen : Nat) : Except BridgeError (List CanonicalLayer) := do
  let kvSize ← cache.kvSize
  exportLayers half cache kvSize seqLen cache.layers

/-- One round of the loop of `import_canonical`. The width of the value tensor is looked up before the tensor
is known to be there. -/
def importLayer (cache : LlamaKvCache) (kvSize : Nat) (dst : KvLayer) (src : CanonicalLayer) :
    Except BridgeError KvLayer :=
  match dst.k, dst.v with
  | some k, some v =>
    if dst.il ≠ src.il ∨ k.ne0 ≠ src.kWidth ∨ cache.vWidth dst.il v ≠ src.vWidth then
      .error (.runtimeError "canonical KV layer geometry does not match llama.cpp target")
    else do
      let k ← writeLayerRows half k src.kWidth src.seqLen src.key
      let v ← if cache.vTrans = true then writeTransposedVRows half v src.vWidth src.seqLen kvSize src.value
        else writeLayerRows half v src.vWidth src.seqLen src.value
      pure { dst with k := some k, v := some v }
  | _, none =>
    if cache.vTrans = true then
      .error (.runtimeError "canonical KV layer geometry does not match llama.cpp target")
    else .error .nullPointer
  | none, some _ => .error (.runtimeError "canonical KV layer geometry does not match llama.cpp target")

def importLayers (cache : LlamaKvCache) (kvSize : Nat) :
    List KvLayer → List CanonicalLayer → Except BridgeError (List KvLayer)
  | dsts, [] => .ok dsts
  | [], _ :: _ => .error (.runtimeError "canonical layer count exceeds target KV layer count")
  | dst :: dsts, src :: srcs => do
    let dst ← importLayer half cache kvSize dst src
    let dsts ← importLayers cache kvSize dsts srcs
    pure (dst :: dsts)

def importCanonical (cache : LlamaKvCache) (layers : List CanonicalLayer) : Except BridgeError LlamaKvCache := do
  let kvSize ← cache.kvSize
  if cache.layers.length < layers.length then
    .error (.runtimeError "canonical layer count exceeds target KV layer count")
  else do
    let layers ← importLayers half cache kvSize cache.layers layers
    pure { cache with layers := layers }

end Caches

section Rows

variable {half : HalfFloats} {tensor : GgmlTensor} {width rowCount : Nat} {values : List F32}

theorem length_f32ToLeBytes (x : F32) : (f32ToLeBytes x).length = 4 := by
  rw [f32ToLeBytes, List.length_reverse, u32ToBeBytes_length]

/-- An F32 row is read back from its bytes. -/
theorem decodeRow_encoded {count : Nat} (hlength : values.length = count) :
    decodeRow half .f32 count (values.flatMap f32ToLeBytes) = values := by
  subst hlength
  apply List.ext_getElem
  · rw [decodeRow, List.length_map, List.length_range]
  · intro i hi hi'
    simp only [decodeRow, List.getElem_map, List.getElem_range, GgmlType.size]
    rw [element_flatMap length_f32ToLeBytes hi', decodeElement, if_pos rfl, f32FromLeBytes_toLeBytes]

theorem readRowsAsF32_f32 (ne0 nb1 : Nat) (data : Memory UInt8) :
    readRowsAsF32 half ⟨.f32, ne0, nb1, data⟩ width rowCount = .ok ((List.range rowCount).flatMap fun row =>
      decodeRow half .f32 width (data.read (row * nb1) (width * 4))) := rfl

theorem length_decodeRow {type : GgmlType} {count : Nat} {bytes : List UInt8} :
    (decodeRow half type count bytes).length = count := by
  rw [decodeRow, List.length_map, List.length_range]

theorem length_rows {f : Nat → List F32} (hf : ∀ row, (f row).length = width) :
    ((List.range rowCount).flatMap f).length = rowCount * width := by
  rw [length_flatMap_of_length hf, List.length_range]

theorem readRowsAsF32_length (half : HalfFloats) (width rowCount : Nat) (htype : tensor.type = .f32) :
    ∃ values, readRowsAsF32 half tensor width rowCount = .ok values ∧ values.length = rowCount * width := by
  obtain ⟨_, ne0, nb1, memory⟩ := tensor
  obtain rfl := htype
  exact ⟨_, rfl, length_rows fun row => length_decodeRow⟩

theorem readTransposedVAsF32_length (half : HalfFloats) (width rowCount kvSize : Nat) (htype : tensor.type = .f32) :
    ∃ values, readTransposedVAsF32 half tensor width rowCount kvSize = .ok values ∧
      values.length = rowCount * width := by
  obtain ⟨_, ne0, nb1, memory⟩ := tensor
  obtain rfl := htype
  refine ⟨_, rfl, length_rows fun row => ?_⟩
  rw [List.length_map, List.length_range]

/-- The rows that are written are read back, and what lies behind them is unchanged. -/
theorem writeLayerRows_f32 (half : HalfFloats) (htype : tensor.type = .f32) (hstride : width * 4 ≤ tensor.nb1)
    (hlength : values.length = rowCount * width) :
    ∃ data, writeLayerRows half tensor width rowCount values = .ok { tensor with data := data } ∧
      readRowsAsF32 half { tensor with data := data } width rowCount = .ok values ∧
      ∀ p, rowCount ≤ p → data.read (p * tensor.nb1) (width * 4) = tensor.data.read (p * tensor.nb1) (width * 4) := by
  obtain ⟨_, ne0, nb1, memory⟩ := tensor
  obtain rfl := htype
  dsimp only at hstride ⊢
  have hbytes : (values.flatMap f32ToLeBytes).length = width * 4 * rowCount := by
    rw [length_flatMap_of_length length_f32ToLeBytes, hlength, Nat.mul_comm rowCount, Nat.mul_right_comm]
  have hslice (row : Nat) : ((values.flatMap f32ToLeBytes).drop (row * (width * 4))).take (width * 4) =
      ((values.drop (row * width)).take width).flatMap f32ToLeBytes := by
    rw [← Nat.mul_assoc, drop_flatMap length_f32ToLeBytes, take_flatMap length_f32ToLeBytes]
  have hrow : ∀ row < rowCount, ((values.drop (row * width)).take width).length = width := by
    intro row hrow
    have hroom : row * width + width ≤ rowCount * width := by
      rw [← Nat.succ_mul]
      exact Nat.mul_le_mul_right _ hrow
    rw [List.length_take, List.length_drop, hlength]
    omega
  have hblock : ∀ row < rowCount,
      (((values.flatMap f32ToLeBytes).drop (row * (width * 4))).take (width * 4)).length = width * 4 := by
    intro row hlt
    rw [hslice, length_flatMap_of_length length_f32ToLeBytes, hrow row hlt]
  refine ⟨memory.writeBlocks nb1
    (fun row => ((values.flatMap f32ToLeBytes).drop (row * (width * 4))).take (width * 4)) rowCount, ?_, ?_, ?_⟩
  · have hencode : encodeRowsFromF32 half .f32 values = .ok (values.flatMap f32ToLeBytes) := rfl
    rw [writeLayerRows, except_bind_of_ok hencode]
    exact if_neg (not_not.mpr hbytes)
  · rw [readRowsAsF32_f32]
    have hread : ∀ row ∈ List.range rowCount, decodeRow half .f32 width ((memory.writeBlocks nb1
        (fun row => ((values.flatMap f32ToLeBytes).drop (row * (width * 4))).take (width * 4)) rowCount).read
          (row * nb1) (width * 4)) = (values.drop (row * width)).take width := by
      intro row hmem
      have hlt := List.mem_range.mp hmem
      rw [Memory.read_writeBlocks hblock hstride hlt, hslice, decodeRow_encoded (hrow row hlt)]
    rw [List.flatMap_congr hread, flatMap_rows, ← hlength, List.take_length]
  · intro p hp
    apply Memory.read_writeBlocks_outside hblock
    intro row hlt
    right
    calc row * nb1 + width * 4 ≤ row * nb1 + nb1 := by omega
      _ = (row + 1) * nb1 := (Nat.succ_mul row nb1).symm
      _ ≤ p * nb1 := Nat.mul_le_mul_right _ (by omega)

/-- The columns that are written are read back as rows, and the later cells of every column are unchanged. -/
theorem writeTransposedVRows_f32 (half : HalfFloats) {kvSize : Nat} (htype : tensor.type = .f32)
    (hsize : rowCount ≤ kvSize) (hlength : values.length = rowCount * width) :
    ∃ data, writeTransposedVRows half tensor width rowCount kvSize values = .ok { tensor with data := data } ∧
      readTransposedVAsF32 half { tensor with data := data } width rowCount kvSize = .ok values ∧
      ∀ dim p, rowCount ≤ p → p < kvSize →
        data.read ((dim * kvSize + p) * 4) 4 = tensor.data.read ((dim * kvSize + p) * 4) 4 := by
  obtain ⟨_, ne0, nb1, memory⟩ := tensor
  obtain rfl := htype
  dsimp only
  let column (dim : Nat) : List F32 := (List.range rowCount).map fun row => values.getD (row * width + dim) ⟨0⟩
  have hcolumn (dim : Nat) : (column dim).length = rowCount := by rw [List.length_map, List.length_range]
  have hblock : ∀ dim < width, ((column dim).flatMap f32ToLeBytes).length = rowCount * 4 := by
    intro dim _
    rw [length_flatMap_of_length length_f32ToLeBytes, hcolumn]
  refine ⟨memory.writeBlocks (kvSize * 4) (fun dim => (column dim).flatMap f32ToLeBytes) width, rfl, ?_, ?_⟩
  · have hread : ∀ row ∈ List.range rowCount, ((List.range width).map fun dim =>
        (decodeRow half .f32 rowCount ((memory.writeBlocks (kvSize * 4) (fun dim => (column dim).flatMap f32ToLeBytes)
          width).read (dim * (kvSize * 4)) (rowCount * 4))).getD row ⟨0⟩) =
        (List.range width).map fun dim => values.getD (row * width + dim) ⟨0⟩ := by
      intro row hmem
      have hlt := List.mem_range.mp hmem
      apply List.map_congr_left
      intro dim hdim
      rw [Memory.read_writeBlocks hblock (by omega) (List.mem_range.mp hdim), decodeRow_encoded (hcolumn dim)]
      simp [column, hlt]
    rw [readTransposedVAsF32]
    dsimp only [checkType, GgmlType.size]
    show Except.ok _ = _
    rw [List.flatMap_congr hread, flatMap_elements hlength]
  · intro dim p hp hlt
    apply Memory.read_writeBlocks_outside hblock
    intro dim' _
    rw [← Nat.mul_assoc]
    rcases Nat.lt_or_ge dim dim' with hless | hge
    · left
      have hcell : dim * kvSize + p < dim' * kvSize := mul_add_lt_mul hless hlt
      omega
    · right
      have hcell : dim' * kvSize ≤ dim * kvSize := Nat.mul_le_mul_right _ hge
      omega

end Rows

section RoundTrip

variable {half : HalfFloats} {source target : LlamaKvCache} {seqLen : Nat}

/-- The bytes of a cell in a tensor with a row for each position. -/
def GgmlTensor.rowCell (tensor : GgmlTensor) (p : Nat) : List UInt8 :=
  tensor.data.read (p * tensor.nb1) (tensor.ne0 * tensor.type.size)

/-- The bytes of one dimension of a cell in a tensor with a column for each dimension. -/
def GgmlTensor.columnCell (tensor : GgmlTensor) (kvSize dim p : Nat) : List UInt8 :=
  tensor.data.read ((dim * kvSize + p) * tensor.type.size) tensor.type.size

/-- A layer with F32 keys and values, whose rows are no longer than their stride. -/
def F32Layer (layer : KvLayer) : Prop :=
  ∃ k v, layer.k = some k ∧ layer.v = some v ∧ k.type = .f32 ∧ v.type = .f32 ∧ k.ne0 * 4 ≤ k.nb1 ∧ v.ne0 * 4 ≤ v.nb1

/-- A single-stream cache of such layers. -/
structure LlamaKvCache.IsF32 (cache : LlamaKvCache) : Prop where
  stream : cache.nStream = 1
  cells : cache.vCells ≠ []
  layers : ∀ layer ∈ cache.layers, F32Layer layer

/-- Two layers have one index and the same widths. -/
def SameWidths (source target : LlamaKvCache) (layer layer' : KvLayer) : Prop :=
  layer.il = layer'.il ∧ layer.k.map (·.ne0) = layer'.k.map (·.ne0) ∧
    layer.v.map (source.vWidth layer.il) = layer'.v.map (target.vWidth layer'.il)

def SameGeometry (source target : LlamaKvCache) : Prop :=
  List.Forall₂ (SameWidths source target) source.layers target.layers

/-- A layer keeps its cells from a position on. -/
structure CellsKept (cache : LlamaKvCache) (kvSize seqLen : Nat) (layer layer' : KvLayer) : Prop where
  key : ∃ k k', layer.k = some k ∧ layer'.k = some k' ∧ ∀ p, seqLen ≤ p → k'.rowCell p = k.rowCell p
  value : ∃ v v', layer.v = some v ∧ layer'.v = some v' ∧
    if cache.vTrans = true then
      ∀ dim p, seqLen ≤ p → p < kvSize → v'.columnCell kvSize dim p = v.columnCell kvSize dim p
    else ∀ p, seqLen ≤ p → v'.rowCell p = v.rowCell p

theorem LlamaKvCache.IsF32.kvSize_ok (h : source.IsF32) : ∃ kvSize, source.kvSize = .ok kvSize := by
  cases hcells : source.vCells with
  | nil => exact absurd hcells h.cells
  | cons size rest =>
    refine ⟨size, ?_⟩
    rw [LlamaKvCache.kvSize, hcells]
    exact if_pos h.stream

theorem exportLayer_f32 (half : HalfFloats) (source : LlamaKvCache) (kvSize seqLen : Nat) (il : UInt32)
    {k v : GgmlTensor} (hk : k.type = .f32) (hv : v.type = .f32) :
    ∃ key value, exportLayer half source kvSize seqLen il k v =
        .ok ⟨il, seqLen, k.ne0, source.vWidth il v, key, value⟩ ∧
      key.length = seqLen * k.ne0 ∧ value.length = seqLen * source.vWidth il v := by
  obtain ⟨key, hkey, hkeyLength⟩ := readRowsAsF32_length half k.ne0 seqLen hk
  obtain ⟨rows, hrows, hrowsLength⟩ := readRowsAsF32_length half (source.vWidth il v) seqLen hv
  obtain ⟨columns, hcolumns, hcolumnsLength⟩ :=
    readTransposedVAsF32_length half (source.vWidth il v) seqLen kvSize hv
  rw [exportLayer, except_bind_of_ok hkey]
  cases source.vTrans with
  | true =>
    rw [if_pos rfl, except_bind_of_ok hcolumns]
    exact ⟨key, columns, rfl, hkeyLength, hcolumnsLength⟩
  | false =>
    rw [if_neg (by simp), except_bind_of_ok hrows]
    exact ⟨key, rows, rfl, hkeyLength, hrowsLength⟩

/-- One layer: what was exported is written, and exported again from where it was written. -/
theorem importLayer_f32 (half : HalfFloats) (target : LlamaKvCache) {kvSize : Nat} {il : UInt32} {k v : GgmlTensor}
    (src : CanonicalLayer)
    (hk : k.type = .f32) (hv : v.type = .f32) (hkstride : k.ne0 * 4 ≤ k.nb1) (hvstride : v.ne0 * 4 ≤ v.nb1)
    (hseq : src.seqLen ≤ kvSize) (hil : src.il = il) (hkwidth : src.kWidth = k.ne0)
    (hvwidth : src.vWidth = target.vWidth il v) (hkey : src.key.length = src.seqLen * src.kWidth)
    (hvalue : src.value.length = src.seqLen * src.vWidth) :
    ∃ k' v', importLayer half target kvSize ⟨il, some k, some v⟩ src = .ok ⟨il, some k', some v'⟩ ∧
      exportLayer half target kvSize src.seqLen il k' v' = .ok src ∧
      CellsKept target kvSize src.seqLen ⟨il, some k, some v⟩ ⟨il, some k', some v'⟩ := by
  obtain ⟨il', seqLen, kWidth, vWidth, key, value⟩ := src
  dsimp only at hseq hil hkwidth hvwidth hkey hvalue ⊢
  obtain rfl := hil
  obtain rfl := hkwidth
  obtain ⟨kdata, hkwrite, hkread, hkkept⟩ := writeLayerRows_f32 half hk hkstride hkey
  have hkcell : ∀ p, seqLen ≤ p → ({ k with data := kdata } : GgmlTensor).rowCell p = k.rowCell p := by
    intro p hp
    simp only [GgmlTensor.rowCell, hk, GgmlType.size]
    exact hkkept p hp
  have hgeometry : ¬(il' ≠ il' ∨ k.ne0 ≠ k.ne0 ∨ target.vWidth il' v ≠ vWidth) := by simp [hvwidth]
  cases htrans : target.vTrans with
  | true =>
    obtain ⟨vdata, hvwrite, hvread, hvkept⟩ := writeTransposedVRows_f32 half hv hseq hvalue
    have hwidth : target.vWidth il' { v with data := vdata } = vWidth := by
      rw [hvwidth, LlamaKvCache.vWidth, LlamaKvCache.vWidth, htrans]
    refine ⟨{ k with data := kdata }, { v with data := vdata }, ?_, ?_, ⟨⟨_, _, rfl, rfl, hkcell⟩, _, _, rfl, rfl, ?_⟩⟩
    · rw [importLayer]
      dsimp only
      rw [if_neg hgeometry, except_bind_of_ok hkwrite, htrans, if_pos rfl, except_bind_of_ok hvwrite]
      rfl
    · rw [exportLayer, except_bind_of_ok hkread, htrans, if_pos rfl, hwidth, except_bind_of_ok hvread]
      rfl
    · rw [htrans, if_pos rfl]
      intro dim p hp hlt
      simp only [GgmlTensor.columnCell, hv, GgmlType.size]
      exact hvkept dim p hp hlt
  | false =>
    have hne0 : vWidth = v.ne0 := by
      rw [hvwidth, LlamaKvCache.vWidth, htrans]
      rfl
    obtain rfl := hne0
    obtain ⟨vdata, hvwrite, hvread, hvkept⟩ := writeLayerRows_f32 half hv hvstride hvalue
    have hwidth : target.vWidth il' { v with data := vdata } = v.ne0 := by
      rw [LlamaKvCache.vWidth, htrans]
      rfl
    refine ⟨{ k with data := kdata }, { v with data := vdata }, ?_, ?_, ⟨⟨_, _, rfl, rfl, hkcell⟩, _, _, rfl, rfl, ?_⟩⟩
    · rw [importLayer]
      dsimp only
      rw [if_neg hgeometry, except_bind_of_ok hkwrite, htrans, if_neg (by simp), except_bind_of_ok hvwrite]
      rfl
    · rw [exportLayer, except_bind_of_ok hkread, htrans, if_neg (by simp), hwidth, except_bind_of_ok hvread]
      rfl
    · rw [htrans, if_neg (by simp)]
      intro p hp
      simp only [GgmlTensor.rowCell, hv, GgmlType.size]
      exact hvkept p hp

theorem exportLayers_layers (kvSize seqLen : Nat) (layers layers' : List KvLayer) :
    exportLayers half { target with layers := layers' } kvSize seqLen layers =
      exportLayers half target kvSize seqLen layers := by
  induction layers with
  | nil => rfl
  | cons layer layers ih =>
    rw [exportLayers, exportLayers, ih]
    rfl

/-- All layers, one after the other. -/
theorem importLayers_f32 (half : HalfFloats) (kvSize : Nat) {kvSize' : Nat} (hseq : seqLen ≤ kvSize')
    {layers layers' : List KvLayer}
    (hsource : ∀ layer ∈ layers, F32Layer layer) (htarget : ∀ layer ∈ layers', F32Layer layer)
    (hsame : List.Forall₂ (SameWidths source target) layers layers') :
    ∃ outs written, exportLayers half source kvSize seqLen layers = .ok outs ∧
      outs.length = layers'.length ∧
      importLayers half target kvSize' layers' outs = .ok written ∧
      exportLayers half target kvSize' seqLen written = .ok outs ∧
      List.Forall₂ (CellsKept target kvSize' seqLen) layers' written := by
  induction hsame with
  | nil => exact ⟨[], [], rfl, rfl, rfl, rfl, .nil⟩
  | @cons layer layer' layers layers' hfirst _ ih =>
    obtain ⟨⟨k, v, hk, hv, hktype, hvtype, _⟩, hsource⟩ := List.forall_mem_cons.mp hsource
    obtain ⟨⟨k', v', hk', hv', hktype', hvtype', hkstride, hvstride⟩, htarget⟩ := List.forall_mem_cons.mp htarget
    obtain ⟨outs, written, hexport, hlength, himport, hagain, hkept⟩ := ih hsource htarget
    obtain ⟨il, _, _⟩ := layer
    obtain ⟨il', _, _⟩ := layer'
    obtain ⟨hil, hkwidth, hvwidth⟩ := hfirst
    dsimp only at hk hv hk' hv' hil hkwidth hvwidth
    subst hk hv hk' hv' hil
    rw [Option.map_some, Option.map_some, Option.some.injEq] at hkwidth hvwidth
    obtain ⟨key, value, hout, hkeyLength, hvalueLength⟩ :=
      exportLayer_f32 half source kvSize seqLen il hktype hvtype
    obtain ⟨knew, vnew, hwrite, hread, hcells⟩ := importLayer_f32 half target
      ⟨il, seqLen, k.ne0, source.vWidth il v, key, value⟩ hktype' hvtype' hkstride hvstride hseq rfl hkwidth hvwidth
      hkeyLength hvalueLength
    refine ⟨⟨il, seqLen, k.ne0, source.vWidth il v, key, value⟩ :: outs,
      ⟨il, some knew, some vnew⟩ :: written, ?_, ?_, ?_, ?_, .cons hcells hkept⟩
    · rw [exportLayers]
      dsimp only
      rw [except_bind_of_ok hout, except_bind_of_ok hexport]
      rfl
    · rw [List.length_cons, List.length_cons, hlength]
    · rw [importLayers, except_bind_of_ok hwrite, except_bind_of_ok himport]
      rfl
    · rw [exportLayers]
      dsimp only
      rw [except_bind_of_ok hread, except_bind_of_ok hagain]
      rfl

/-- An import of what another cache exported makes the export of the target the same, and leaves the cells
behind it alone. -/
theorem importCanonical_undoes_export (half : HalfFloats) (hsource : source.IsF32) (htarget : target.IsF32)
    (hsame : SameGeometry source target) {kvSize : Nat} (hsize : target.kvSize = .ok kvSize)
    (hseq : seqLen ≤ kvSize) :
    ∃ layers target', exportCanonical half source seqLen = .ok layers ∧
      importCanonical half target layers = .ok target' ∧
      exportCanonical half target' seqLen = .ok layers ∧
      List.Forall₂ (CellsKept target kvSize seqLen) target.layers target'.layers := by
  obtain ⟨sourceSize, hsourceSize⟩ := hsource.kvSize_ok
  obtain ⟨outs, written, hexport, hlength, himport, hagain, hkept⟩ :=
    importLayers_f32 half sourceSize hseq hsource.layers htarget.layers hsame
  refine ⟨outs, { target with layers := written }, ?_, ?_, ?_, hkept⟩
  · rw [exportCanonical, except_bind_of_ok hsourceSize, hexport]
  · rw [importCanonical, except_bind_of_ok hsize, if_neg (by omega), except_bind_of_ok himport]
    rfl
  · have hsize' : LlamaKvCache.kvSize { target with layers := written } = .ok kvSize := hsize
    rw [exportCanonical, except_bind_of_ok hsize', exportLayers_layers, hagain]

/-- No half floats, which the caches below do not hold. -/
def noHalf : HalfFloats := ⟨fun _ => ⟨0⟩, fun _ => []⟩

/-- One layer of width two, with room for `kvSize` cells. -/
def smallCache (vTrans : Bool) (kvSize : Nat) (data : Memory UInt8) : LlamaKvCache :=
  ⟨1, [kvSize], vTrans, fun _ => 2, [⟨0, some ⟨.f32, 2, 8, data⟩, some ⟨.f32, 2, 8, data⟩⟩]⟩

theorem smallCache_isF32 (vTrans : Bool) (kvSize : Nat) (data : Memory UInt8) :
    (smallCache vTrans kvSize data).IsF32 where
  stream := rfl
  cells := by simp [smallCache]
  layers := by
    intro layer hlayer
    obtain rfl := List.mem_singleton.mp hlayer
    exact ⟨_, _, rfl, rfl, rfl, rfl, Nat.le_refl 8, Nat.le_refl 8⟩

/-- From rows of one token into columns of room for three. -/
theorem smallCache_restored : ∃ layers target',
    exportCanonical noHalf (smallCache false 1 fun address => UInt8.ofNat address) 1 = .ok layers ∧
      importCanonical noHalf (smallCache true 3 fun _ => 0) layers = .ok target' ∧
      exportCanonical noHalf target' 1 = .ok layers := by
  have hsame : SameGeometry (smallCache false 1 fun address => UInt8.ofNat address) (smallCache true 3 fun _ => 0) :=
    .cons ⟨rfl, rfl, rfl⟩ .nil
  obtain ⟨layers, target', hexport, himport, hagain, _⟩ := importCanonical_undoes_export noHalf
    (smallCache_isF32 false 1 _) (smallCache_isF32 true 3 _) hsame (rfl : (smallCache true 3 _).kvSize = .ok 3)
    (by decide : 1 ≤ 3)
  exact ⟨layers, target', hexport, himport, hagain⟩

end RoundTrip

end PermeantOS
