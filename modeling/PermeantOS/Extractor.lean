import PermeantOS.CanonicalAxes
import PermeantOS.EndToEnd
import PermeantOS.LayoutRoundTrip
import PermeantOS.Panics

namespace PermeantOS

structure ExtractorRequest where
  seqLen : Usize
  nLayers : Usize
  nKvHeads : Usize
  headDim : Usize
  deriving DecidableEq, Repr

structure ExtractorTensor (F : Type) where
  name : String
  shape : List Usize
  data : List F

/-- The two forms of a response. -/
inductive ExtractorResponseEnvelope (F : Type)
  | response (tensors : List (ExtractorTensor F))
  | tensors (tensors : List (ExtractorTensor F))

/-- What the process around an extractor command does: `command` is `PERMEANT_EXTRACTOR_CMD`, and `run` starts
it, writes the request and waits for its exit status, standard output and standard error. -/
structure ExtractorHost (F : Type) where
  command : Option String
  run : String → ExtractorRequest → Fallible (Bool × List UInt8 × String)
  responseFromSlice : List UInt8 → Option (ExtractorResponseEnvelope F)

section Extract

variable {F : Type}

def ExtractorResponseEnvelope.allTensors : ExtractorResponseEnvelope F → List (ExtractorTensor F)
  | .response found => found
  | .tensors found => found

def insertExtracted (extracted : TensorMap F) (tensor : ExtractorTensor F) : TensorMap F :=
  extracted.insert tensor.name ⟨tensor.data, tensor.shape⟩

def requireTensor (extracted : TensorMap F) (name : String) : Fallible Unit :=
  bailIf (name ∉ extracted) s!"Extractor command output is missing required tensor '{name}'"

def requireTensors (extracted : TensorMap F) (nLayers : Nat) : Fallible Unit :=
  forRange (fun layerIdx _ => do
    requireTensor extracted (keyName layerIdx)
    requireTensor extracted (valueName layerIdx)) nLayers ()

def extractViaCommand (host : ExtractorHost F) (seqLen nLayers nKvHeads headDim : Usize) :
    Fallible (TensorMap F) := do
  let command ← contextOption
    "PERMEANT_EXTRACTOR_CMD must be set when PERMEANT_EXTRACTOR_MODE=json_command" host.command
  let (status, stdout, stderr) ← host.run command ⟨seqLen, nLayers, nKvHeads, headDim⟩
  bailIf (status = false) s!"Extractor command failed: {trimText stderr}"
  let response ← contextOption "Failed to parse extractor command JSON output" (host.responseFromSlice stdout)
  let extracted := response.allTensors.foldl insertExtracted ∅
  requireTensors extracted nLayers.toNat
  pure extracted

theorem requireTensors_ok {extracted : TensorMap F} {nLayers : Nat} (h : requireTensors extracted nLayers = .ok ())
    {layer : Nat} (hlayer : layer < nLayers) : keyName layer ∈ extracted ∧ valueName layer ∈ extracted := by
  obtain ⟨hkey, hvalue⟩ := except_bind_unit_ok_iff.mp (forRange_unit_ok_iff.mp h layer hlayer)
  rw [requireTensor, bailIf_ok_iff, not_not] at hkey hvalue
  exact ⟨hkey, hvalue⟩

/-- An accepted response holds both tensors of every layer. -/
theorem extractViaCommand_ok {host : ExtractorHost F} {seqLen nLayers nKvHeads headDim : Usize}
    {extracted : TensorMap F} (h : extractViaCommand host seqLen nLayers nKvHeads headDim = .ok extracted)
    {layer : Nat} (hlayer : layer < nLayers.toNat) :
    ∃ key value, extracted.lookup (keyName layer) = some key ∧ extracted.lookup (valueName layer) = some value := by
  obtain ⟨command, _, h⟩ := except_bind_ok_iff.mp h
  obtain ⟨output, _, h⟩ := except_bind_ok_iff.mp h
  obtain ⟨_, h⟩ := except_bind_unit_ok_iff.mp h
  obtain ⟨response, _, h⟩ := except_bind_ok_iff.mp h
  obtain ⟨hrequired, h⟩ := except_bind_unit_ok_iff.mp h
  cases h
  obtain ⟨hkey, hvalue⟩ := requireTensors_ok hrequired hlayer
  obtain ⟨key, hkey⟩ := Finmap.mem_iff.mp hkey
  obtain ⟨value, hvalue⟩ := Finmap.mem_iff.mp hvalue
  exact ⟨key, value, hkey, hvalue⟩

end Extract

section Slices

variable {F : Type} {data : List F} {blockLen : Nat}

theorem noError_blockSlice (data : List F) (blockIdx blockLen : Nat) : NoError (blockSlice data blockIdx blockLen) :=
  noError_sliceRange _ _ _

theorem exists_blockSlice_iff {blockIdx : Nat} : (∃ found, blockSlice data blockIdx blockLen = .ok found) ↔
    blockIdx * blockLen % 2 ^ 64 ≤ (blockIdx * blockLen + blockLen) % 2 ^ 64 ∧
      (blockIdx * blockLen + blockLen) % 2 ^ 64 ≤ data.length := by
  unfold blockSlice
  simp only [sliceRange_ok_iff]
  constructor
  · rintro ⟨_, hle, hstop, _⟩
    exact ⟨hle, hstop⟩
  · rintro ⟨hle, hstop⟩
    exact ⟨_, hle, hstop, rfl⟩

/-- A run of slices is in range exactly if their total length is: a bound that wraps lies below its slice's start. -/
theorem forall_blockSlice_iff (hdata : data.length < 2 ^ 64) (hlen : blockLen < 2 ^ 64) (blocks : Nat) :
    (∀ blockIdx < blocks, ∃ found, blockSlice data blockIdx blockLen = .ok found) ↔
      blocks * blockLen ≤ data.length := by
  simp only [exists_blockSlice_iff]
  constructor
  · intro h
    induction blocks with
    | zero => omega
    | succ blocks ih =>
      have hbefore := ih fun blockIdx hlt => h blockIdx (by omega)
      obtain ⟨hle, hstop⟩ := h blocks (by omega)
      rw [Nat.succ_mul]
      generalize blocks * blockLen = start at *
      omega
  · intro h blockIdx hlt
    have hend : blockIdx * blockLen + blockLen ≤ blocks * blockLen := by
      rw [← Nat.succ_mul]
      exact Nat.mul_le_mul_right _ hlt
    generalize blockIdx * blockLen = start at *
    omega

theorem slices_ok_iff {keyData valueData : List F} {keyLen valueLen blocks : Nat} :
    (forRange (fun blockIdx _ => do
      let _kData ← blockSlice keyData blockIdx keyLen
      let _vData ← blockSlice valueData blockIdx valueLen
      pure ()) blocks () : Fallible Unit) = .ok () ↔
    (∀ blockIdx < blocks, ∃ found, blockSlice keyData blockIdx keyLen = .ok found) ∧
      ∀ blockIdx < blocks, ∃ found, blockSlice valueData blockIdx valueLen = .ok found := by
  rw [forRange_unit_ok_iff]
  simp only [except_bind_ok_iff]
  constructor
  · intro h
    refine ⟨fun blockIdx hlt => ?_, fun blockIdx hlt => ?_⟩
    · obtain ⟨found, hfound, _⟩ := h blockIdx hlt
      exact ⟨found, hfound⟩
    · obtain ⟨_, _, found, hfound, _⟩ := h blockIdx hlt
      exact ⟨found, hfound⟩
  · rintro ⟨hkeys, hvalues⟩ blockIdx hlt
    obtain ⟨keySlice, hkeySlice⟩ := hkeys blockIdx hlt
    obtain ⟨valueSlice, hvalueSlice⟩ := hvalues blockIdx hlt
    exact ⟨keySlice, hkeySlice, valueSlice, hvalueSlice, rfl⟩

/-- A tensor of known size is made and sliced exactly if it is made and its blocks fit. -/
theorem transpiled_slices_iff {transpiled : Fallible (Tensor F)} {size blocks : Nat}
    (hsize : ∀ blocked, transpiled = .ok blocked → size < 2 ^ 64 ∧ blocked.data.length = size)
    (hlen : blockLen < 2 ^ 64) :
    (∃ blocked, transpiled = .ok blocked ∧
      ∀ blockIdx < blocks, ∃ found, blockSlice blocked.data blockIdx blockLen = .ok found) ↔
    (∃ blocked, transpiled = .ok blocked) ∧ blocks * blockLen ≤ size := by
  constructor
  · rintro ⟨blocked, hblocked, hslices⟩
    obtain ⟨hlt, hlength⟩ := hsize blocked hblocked
    rw [forall_blockSlice_iff (hlength ▸ hlt) hlen, hlength] at hslices
    exact ⟨⟨blocked, hblocked⟩, hslices⟩
  · rintro ⟨⟨blocked, hblocked⟩, hfits⟩
    obtain ⟨hlt, hlength⟩ := hsize blocked hblocked
    refine ⟨blocked, hblocked, ?_⟩
    rwa [forall_blockSlice_iff (hlength ▸ hlt) hlen, hlength]

end Slices

section Geometry

variable {F : Type} {tokens heads dims : Usize}

/-- The tensor has a shape that is supported: its own tokens, heads and dimensions. -/
def HasGeometry (tensor : Tensor F) (tokens heads dims : Usize) : Prop :=
  tensor.shape = [tokens, heads, dims] ∨ tensor.shape = [1, heads, tokens, dims]

theorem normalizeCanonicalKvTensor_of_geometry (tensorName : String) {tensor : Tensor F}
    (h : HasGeometry tensor tokens heads dims) :
    normalizeCanonicalKvTensor tensorName tensor = .ok ⟨tensor.data, [tokens, heads, dims]⟩ := by
  obtain h | h := h
  · rw [normalizeCanonicalKvTensor, h]
  · exact normalizeCanonicalKvTensor_four tensorName h

/-- Every shape is supported or an error. -/
theorem normalizeCanonicalKvTensor_cases (tensorName : String) (tensor : Tensor F) :
    (∃ tokens heads dims, HasGeometry tensor tokens heads dims) ∨
      ∃ text, normalizeCanonicalKvTensor tensorName tensor = .error (.error text) := by
  unfold normalizeCanonicalKvTensor
  split
  next tokens heads dims hshape => exact Or.inl ⟨tokens, heads, dims, Or.inl hshape⟩
  next heads tokens dims hshape => exact Or.inl ⟨tokens, heads, dims, Or.inr hshape⟩
  next => exact Or.inr ⟨_, rfl⟩

theorem canonicalTensor_of_lookup {extractedCache : TensorMap F} {tensorName : String} {tensor : Tensor F}
    (h : extractedCache.lookup tensorName = some tensor) :
    canonicalTensor extractedCache tensorName = normalizeCanonicalKvTensor tensorName tensor := by
  rw [canonicalTensor, h]

end Geometry

section Pipeline

variable {F : Type} [F32Arith F]

/-- What `run_sim_migrate` does with the tensors of one layer before it encodes and sends them. -/
def layerPipeline (config : SourceConfig) (seqLen : Usize) (extractedCache : TensorMap F) (layerIdx : Nat) :
    Fallible Unit := do
  let (vllmKey, vllmValue) ← transpileLayer config extractedCache layerIdx
  forRange (fun blockIdx _ => do
    let _kData ← blockSlice vllmKey.data blockIdx (config.nKvHeads * config.headDim * config.blockSize).toNat
    let _vData ← blockSlice vllmValue.data blockIdx (config.nKvHeads * config.blockSize * config.headDim).toNat
    pure ()) (divCeil seqLen config.blockSize).toNat ()

/-- The data covers the tensor's own shape, and the blocks made of it cover the blocks that are sliced. -/
structure BlocksFit (config : SourceConfig) (seqLen : Usize) (length tokens heads dims : Nat) : Prop where
  covers : tokens * heads * dims ≤ length
  noOverflow : tokens ⌈/⌉ config.blockSize.toNat * heads * dims * config.blockSize.toNat < 2 ^ 64
  sliced : seqLen.toNat ⌈/⌉ config.blockSize.toNat *
      (config.nKvHeads.toNat * config.headDim.toNat * config.blockSize.toNat % 2 ^ 64) ≤
    tokens ⌈/⌉ config.blockSize.toNat * heads * dims * config.blockSize.toNat

theorem noError_canonicalElement (canonical : Tensor F) (seqLen numKvHeads headDim token head dim : Nat) :
    NoError (canonicalElement canonical seqLen numKvHeads headDim token head dim) := by
  unfold canonicalElement
  split
  next => exact noError_indexAt _ _
  next => exact noError_ok _

theorem noError_fillBlocks {element : Nat → Nat → Nat → Nat → Fallible F}
    (h : ∀ i₀ i₁ i₂ i₃, NoError (element i₀ i₁ i₂ i₃)) (n₀ n₁ n₂ n₃ : Nat) :
    NoError (fillBlocks n₀ n₁ n₂ n₃ element) := by
  rw [fillBlocks_eq]
  apply noError_forRange
  intro k data
  exact (h _ _ _ _).bind fun x => noError_setAt _ _ x

variable {canonical : Tensor F} {tokens heads dims blockSize : Usize}

theorem noError_canonicalToVllmBlockKey (hshape : canonical.shape = [tokens, heads, dims]) :
    NoError (canonicalToVllmBlockKey canonical blockSize) := by
  rw [canonicalToVllmBlockKey, hshape]
  apply NoError.bind (noError_panicIf _)
  intro _
  apply NoError.bind (noError_fillBlocks (fun _ _ _ _ => noError_canonicalElement _ _ _ _ _ _ _) _ _ _ _)
  intro data
  exact noError_ok _

theorem noError_canonicalToVllmBlockValue (hshape : canonical.shape = [tokens, heads, dims]) :
    NoError (canonicalToVllmBlockValue canonical blockSize) := by
  rw [canonicalToVllmBlockValue, hshape]
  apply NoError.bind (noError_panicIf _)
  intro _
  apply NoError.bind (noError_fillBlocks (fun _ _ _ _ => noError_canonicalElement _ _ _ _ _ _ _) _ _ _ _)
  intro data
  exact noError_ok _

/-- A length that every position of a shape is below is at least the size of the shape. -/
theorem size_le_of_positions {length n₀ n₁ n₂ : Nat}
    (h : ∀ i < n₀, ∀ j < n₁, ∀ k < n₂, (i * n₁ + j) * n₂ + k < length) : n₀ * n₁ * n₂ ≤ length := by
  by_contra hshort
  have hlt : length < n₀ * n₁ * n₂ := Nat.lt_of_not_le hshort
  have hpos : 0 < n₀ * n₁ * n₂ := by omega
  have h₂ := Nat.pos_of_mul_pos_left hpos
  have h₁ := Nat.pos_of_mul_pos_left (Nat.pos_of_mul_pos_right hpos)
  have hfirst : length / n₂ / n₁ < n₀ := by
    rw [Nat.div_lt_iff_lt_mul h₁, Nat.div_lt_iff_lt_mul h₂]
    exact hlt
  -- otherwise the length itself is one of the positions
  have hself := h (length / n₂ / n₁) hfirst (length / n₂ % n₁) (Nat.mod_lt _ h₁) (length % n₂) (Nat.mod_lt _ h₂)
  rw [Nat.div_add_mod', Nat.div_add_mod'] at hself
  omega

theorem lt_of_slot_isSome (hshape : canonical.shape = [tokens, heads, dims]) {token head dim : Nat}
    (htoken : token < tokens.toNat) (h : (canonical.slot tokens token head dim).isSome) :
    (token * heads.toNat + head) * dims.toNat + dim < canonical.data.length := by
  rw [slot_of_lt hshape htoken] at h
  obtain ⟨x, hx⟩ := Option.isSome_iff_exists.mp h
  exact (List.getElem?_eq_some_iff.mp hx).1

theorem canonicalToVllmBlockKey_returns_iff (hshape : canonical.shape = [tokens, heads, dims])
    (hblock : blockSize ≠ 0) :
    (∃ blocked, canonicalToVllmBlockKey canonical blockSize = .ok blocked) ↔
      tokens.toNat * heads.toNat * dims.toNat ≤ canonical.data.length ∧
        (divCeil tokens blockSize).toNat * heads.toNat * dims.toNat * blockSize.toNat < 2 ^ 64 := by
  constructor
  · rintro ⟨blocked, hblocked⟩
    obtain ⟨hsize, hlength, hslots⟩ := canonicalToVllmBlockKey_ok hshape hblocked
    refine ⟨size_le_of_positions ?_, hsize⟩
    intro token htoken head hhead dim hdim
    obtain ⟨hin, hoffset⟩ := token_in_blocks hblock htoken
    have hslot := hslots _ hin head hhead dim hdim _ hoffset
    rw [Nat.div_add_mod', List.getElem?_eq_getElem (hlength ▸ digits_lt hin hhead hdim hoffset)] at hslot
    exact lt_of_slot_isSome hshape htoken (by rw [← hslot]; rfl)
  · rintro ⟨hdata, hsize⟩
    obtain ⟨blocked, hblocked, _⟩ := exists_canonicalToVllmBlockKey hshape hdata hblock hsize
    exact ⟨blocked, hblocked⟩

theorem canonicalToVllmBlockValue_returns_iff (hshape : canonical.shape = [tokens, heads, dims])
    (hblock : blockSize ≠ 0) :
    (∃ blocked, canonicalToVllmBlockValue canonical blockSize = .ok blocked) ↔
      tokens.toNat * heads.toNat * dims.toNat ≤ canonical.data.length ∧
        (divCeil tokens blockSize).toNat * heads.toNat * dims.toNat * blockSize.toNat < 2 ^ 64 := by
  constructor
  · rintro ⟨blocked, hblocked⟩
    obtain ⟨hsize, hlength, hslots⟩ := canonicalToVllmBlockValue_ok hshape hblocked
    refine ⟨size_le_of_positions ?_, by rwa [Nat.mul_right_comm]⟩
    intro token htoken head hhead dim hdim
    obtain ⟨hin, hoffset⟩ := token_in_blocks hblock htoken
    have hslot := hslots _ hin head hhead _ hoffset dim hdim
    rw [Nat.div_add_mod', List.getElem?_eq_getElem (hlength ▸ digits_lt hin hhead hoffset hdim)] at hslot
    exact lt_of_slot_isSome hshape htoken (by rw [← hslot]; rfl)
  · rintro ⟨hdata, hsize⟩
    obtain ⟨blocked, hblocked, _⟩ := exists_canonicalToVllmBlockValue hshape hdata hblock hsize
    exact ⟨blocked, hblocked⟩

theorem blockLen_toNat (config : SourceConfig) :
    (config.nKvHeads * config.headDim * config.blockSize).toNat =
        config.nKvHeads.toNat * config.headDim.toNat * config.blockSize.toNat % 2 ^ 64 ∧
      (config.nKvHeads * config.blockSize * config.headDim).toNat =
        config.nKvHeads.toNat * config.headDim.toNat * config.blockSize.toNat % 2 ^ 64 := by
  constructor
  · rw [UInt64.toNat_mul, UInt64.toNat_mul, Nat.mod_mul_mod]
  · rw [UInt64.toNat_mul, UInt64.toNat_mul, Nat.mod_mul_mod, Nat.mul_right_comm]

section Layer

variable {config : SourceConfig} {seqLen : Usize} {extractedCache : TensorMap F} {layer : Nat} {key value : Tensor F}
  {keyTokens keyHeads keyDims valueTokens valueHeads valueDims : Usize}

theorem keyBlocks_iff {data : List F} (hblock : config.blockSize ≠ 0) :
    (∃ blocked, canonicalToVllmBlockKey ⟨data, [tokens, heads, dims]⟩ config.blockSize = .ok blocked ∧
      ∀ blockIdx < (divCeil seqLen config.blockSize).toNat, ∃ found, blockSlice blocked.data blockIdx
        (config.nKvHeads * config.headDim * config.blockSize).toNat = .ok found) ↔
    BlocksFit config seqLen data.length tokens.toNat heads.toNat dims.toNat := by
  have hshape : (⟨data, [tokens, heads, dims]⟩ : Tensor F).shape = [tokens, heads, dims] := rfl
  rw [transpiled_slices_iff (fun blocked hblocked => (canonicalToVllmBlockKey_ok hshape hblocked).imp_right And.left)
    (UInt64.toNat_lt _), canonicalToVllmBlockKey_returns_iff hshape hblock, (blockLen_toNat config).1,
    divCeil_toNat hblock, divCeil_toNat hblock]
  exact ⟨fun h => ⟨h.1.1, h.1.2, h.2⟩, fun h => ⟨⟨h.covers, h.noOverflow⟩, h.sliced⟩⟩

theorem valueBlocks_iff {data : List F} (hblock : config.blockSize ≠ 0) :
    (∃ blocked, canonicalToVllmBlockValue ⟨data, [tokens, heads, dims]⟩ config.blockSize = .ok blocked ∧
      ∀ blockIdx < (divCeil seqLen config.blockSize).toNat, ∃ found, blockSlice blocked.data blockIdx
        (config.nKvHeads * config.blockSize * config.headDim).toNat = .ok found) ↔
    BlocksFit config seqLen data.length tokens.toNat heads.toNat dims.toNat := by
  have hshape : (⟨data, [tokens, heads, dims]⟩ : Tensor F).shape = [tokens, heads, dims] := rfl
  have hsize : ∀ blocked, canonicalToVllmBlockValue ⟨data, [tokens, heads, dims]⟩ config.blockSize = .ok blocked →
      (divCeil tokens config.blockSize).toNat * heads.toNat * dims.toNat * config.blockSize.toNat < 2 ^ 64 ∧
        blocked.data.length =
          (divCeil tokens config.blockSize).toNat * heads.toNat * dims.toNat * config.blockSize.toNat := by
    intro blocked hblocked
    obtain ⟨hlt, hlength, _⟩ := canonicalToVllmBlockValue_ok hshape hblocked
    rw [Nat.mul_right_comm] at hlt hlength
    exact ⟨hlt, hlength⟩
  rw [transpiled_slices_iff hsize (UInt64.toNat_lt _), canonicalToVllmBlockValue_returns_iff hshape hblock,
    (blockLen_toNat config).2, divCeil_toNat hblock, divCeil_toNat hblock]
  exact ⟨fun h => ⟨h.1.1, h.1.2, h.2⟩, fun h => ⟨⟨h.covers, h.noOverflow⟩, h.sliced⟩⟩

/-- With supported shapes the pipeline only transpiles and slices. -/
theorem layerPipeline_eq (hkey : extractedCache.lookup (keyName layer) = some key)
    (hvalue : extractedCache.lookup (valueName layer) = some value)
    (hk : HasGeometry key keyTokens keyHeads keyDims) (hv : HasGeometry value valueTokens valueHeads valueDims) :
    layerPipeline config seqLen extractedCache layer = (do
      let vllmKey ← canonicalToVllmBlockKey ⟨key.data, [keyTokens, keyHeads, keyDims]⟩ config.blockSize
      let vllmValue ← canonicalToVllmBlockValue ⟨value.data, [valueTokens, valueHeads, valueDims]⟩ config.blockSize
      forRange (fun blockIdx _ => do
        let _kData ← blockSlice vllmKey.data blockIdx (config.nKvHeads * config.headDim * config.blockSize).toNat
        let _vData ← blockSlice vllmValue.data blockIdx (config.nKvHeads * config.blockSize * config.headDim).toNat
        pure ()) (divCeil seqLen config.blockSize).toNat ()) := by
  rw [layerPipeline, transpileLayer, canonicalTensor_of_lookup hkey, canonicalTensor_of_lookup hvalue,
    normalizeCanonicalKvTensor_of_geometry _ hk, normalizeCanonicalKvTensor_of_geometry _ hv]
  simp only [bind_assoc, pure_bind]
  rfl

theorem layerPipeline_returns_iff (hblock : config.blockSize ≠ 0)
    (hkey : extractedCache.lookup (keyName layer) = some key)
    (hvalue : extractedCache.lookup (valueName layer) = some value)
    (hk : HasGeometry key keyTokens keyHeads keyDims) (hv : HasGeometry value valueTokens valueHeads valueDims) :
    (∃ done, layerPipeline config seqLen extractedCache layer = .ok done) ↔
      BlocksFit config seqLen key.data.length keyTokens.toNat keyHeads.toNat keyDims.toNat ∧
        BlocksFit config seqLen value.data.length valueTokens.toNat valueHeads.toNat valueDims.toNat := by
  rw [layerPipeline_eq hkey hvalue hk hv, ← keyBlocks_iff hblock, ← valueBlocks_iff hblock]
  constructor
  · rintro ⟨⟨⟩, h⟩
    obtain ⟨vllmKey, hvllmKey, h⟩ := except_bind_ok_iff.mp h
    obtain ⟨vllmValue, hvllmValue, h⟩ := except_bind_ok_iff.mp h
    obtain ⟨hkeySlices, hvalueSlices⟩ := slices_ok_iff.mp h
    exact ⟨⟨vllmKey, hvllmKey, hkeySlices⟩, vllmValue, hvllmValue, hvalueSlices⟩
  · rintro ⟨⟨vllmKey, hvllmKey, hkeySlices⟩, vllmValue, hvllmValue, hvalueSlices⟩
    exact ⟨(), except_bind_ok_iff.mpr ⟨vllmKey, hvllmKey, except_bind_ok_iff.mpr ⟨vllmValue, hvllmValue,
      slices_ok_iff.mpr ⟨hkeySlices, hvalueSlices⟩⟩⟩⟩

theorem noError_layerPipeline (hkey : extractedCache.lookup (keyName layer) = some key)
    (hvalue : extractedCache.lookup (valueName layer) = some value)
    (hk : HasGeometry key keyTokens keyHeads keyDims) (hv : HasGeometry value valueTokens valueHeads valueDims) :
    NoError (layerPipeline config seqLen extractedCache layer) := by
  rw [layerPipeline_eq hkey hvalue hk hv]
  apply NoError.bind (noError_canonicalToVllmBlockKey rfl)
  intro vllmKey
  apply NoError.bind (noError_canonicalToVllmBlockValue rfl)
  intro vllmValue
  apply noError_forRange
  intro blockIdx _
  apply NoError.bind (noError_blockSlice _ _ _)
  intro _
  apply NoError.bind (noError_blockSlice _ _ _)
  intro _
  exact noError_ok ()

/-- A shape that is not supported ends the pipeline with an error. -/
theorem noPanic_layerPipeline_of_unsupported (hkey : extractedCache.lookup (keyName layer) = some key)
    (hvalue : extractedCache.lookup (valueName layer) = some value)
    (h : ¬((∃ tokens heads dims, HasGeometry key tokens heads dims) ∧
      ∃ tokens heads dims, HasGeometry value tokens heads dims)) :
    NoPanic (layerPipeline config seqLen extractedCache layer) := by
  rw [layerPipeline, transpileLayer, canonicalTensor_of_lookup hkey, canonicalTensor_of_lookup hvalue]
  obtain ⟨tokens, heads, dims, hk⟩ | ⟨text, htext⟩ := normalizeCanonicalKvTensor_cases (keyName layer) key
  · obtain hv | ⟨text, htext⟩ := normalizeCanonicalKvTensor_cases (valueName layer) value
    · exact absurd ⟨⟨tokens, heads, dims, hk⟩, hv⟩ h
    · rw [normalizeCanonicalKvTensor_of_geometry _ hk, htext]
      exact noPanic_bail text
  · rw [htext]
    exact noPanic_bail text

end Layer

/-- On an accepted response a layer is safe exactly if one of its tensors is refused for its shape, or both hold
what their own shapes and the requested geometry ask for. The buffers are those of `fillBlocks`. -/
theorem layerPipeline_safe_iff (host : ExtractorHost F) (config : SourceConfig) (seqLen : Usize)
    (extractedCache : TensorMap F)
    (haccepted : extractViaCommand host seqLen config.nLayers config.nKvHeads config.headDim = .ok extractedCache)
    (hblock : 1 ≤ config.blockSize.toNat) (layer : Nat) (hlayer : layer < config.nLayers.toNat) :
    (∀ message, layerPipeline config seqLen extractedCache layer ≠ .error (.panic message)) ↔
    ∀ key value, extractedCache.lookup (keyName layer) = some key →
      extractedCache.lookup (valueName layer) = some value →
      ∀ keyTokens keyHeads keyDims valueTokens valueHeads valueDims,
        HasGeometry key keyTokens keyHeads keyDims → HasGeometry value valueTokens valueHeads valueDims →
        BlocksFit config seqLen key.data.length keyTokens.toNat keyHeads.toNat keyDims.toNat ∧
          BlocksFit config seqLen value.data.length valueTokens.toNat valueHeads.toNat valueDims.toNat := by
  change NoPanic _ ↔ _
  have hblockNe : config.blockSize ≠ 0 := by
    rintro h
    rw [h] at hblock
    exact absurd hblock (by decide)
  obtain ⟨key, value, hkey, hvalue⟩ := extractViaCommand_ok haccepted hlayer
  constructor
  · intro hsafe key' value' hkey' hvalue' keyTokens keyHeads keyDims valueTokens valueHeads valueDims hk hv
    rw [← layerPipeline_returns_iff hblockNe hkey' hvalue' hk hv]
    exact (noError_layerPipeline hkey' hvalue' hk hv).noPanic_iff.mp hsafe
  · intro hfits
    by_cases hsupported : (∃ tokens heads dims, HasGeometry key tokens heads dims) ∧
        ∃ tokens heads dims, HasGeometry value tokens heads dims
    · obtain ⟨⟨keyTokens, keyHeads, keyDims, hk⟩, valueTokens, valueHeads, valueDims, hv⟩ := hsupported
      rw [(noError_layerPipeline hkey hvalue hk hv).noPanic_iff, layerPipeline_returns_iff hblockNe hkey hvalue hk hv]
      exact hfits key value hkey hvalue _ _ _ _ _ _ hk hv
    · exact noPanic_layerPipeline_of_unsupported hkey hvalue hsupported

end Pipeline

section Printed

/-- A command that prints the key and the value of one layer; each text has the shape and the data. -/
def printingExtractor (keyText valueText : String) (key value : Tensor F32) : ExtractorHost F32 :=
  let text := "[\x7b\"name\":\"layer.0.key\"," ++ keyText ++ "\x7d,\x7b\"name\":\"layer.0.value\"," ++ valueText ++
    "\x7d]"
  { command := some "cat response.json"
    run := fun _ _ => .ok (true, asBytes text, "")
    responseFromSlice := fun bytes =>
      if bytes = asBytes text then
        some (.tensors [⟨keyName 0, key.shape, key.data⟩, ⟨valueName 0, value.shape, value.data⟩])
      else none }

def printedCache (key value : Tensor F32) : TensorMap F32 :=
  ((∅ : TensorMap F32).insert (keyName 0) key).insert (valueName 0) value

variable {key value : Tensor F32}

theorem printedCache_key : (printedCache key value).lookup (keyName 0) = some key := by
  rw [printedCache, Finmap.lookup_insert_of_ne _ (keyName_ne_valueName 0 0), Finmap.lookup_insert]

theorem printedCache_value : (printedCache key value).lookup (valueName 0) = some value := by
  rw [printedCache, Finmap.lookup_insert]

theorem printingExtractor_accepted (keyText valueText : String) (key value : Tensor F32)
    (seqLen nKvHeads headDim : Usize) :
    extractViaCommand (printingExtractor keyText valueText key value) seqLen 1 nKvHeads headDim =
      .ok (printedCache key value) := by
  have hkey : keyName 0 ∈ printedCache key value := Finmap.mem_of_lookup_eq_some printedCache_key
  have hvalue : valueName 0 ∈ printedCache key value := Finmap.mem_of_lookup_eq_some printedCache_value
  have hrequired : requireTensors (printedCache key value) 1 = .ok () := by
    refine forRange_unit_ok_iff.mpr fun layer hlayer => ?_
    obtain rfl : layer = 0 := by omega
    exact except_bind_unit_ok_iff.mpr ⟨bailIf_ok_iff.mpr (not_not.mpr hkey), bailIf_ok_iff.mpr (not_not.mpr hvalue)⟩
  refine except_bind_ok_iff.mpr ⟨_, rfl, except_bind_ok_iff.mpr ⟨_, rfl, except_bind_unit_ok_iff.mpr ⟨rfl, ?_⟩⟩⟩
  refine except_bind_ok_iff.mpr ⟨_, contextOption_ok_iff.mpr (if_pos rfl), ?_⟩
  exact except_bind_unit_ok_iff.mpr ⟨hrequired, rfl⟩

/-- Blocks of two tokens, each with two heads. -/
def twoHeadConfig : SourceConfig := { oneDimConfig with nKvHeads := 2, blockSize := 2 }

def sixFloats : List F32 :=
  [⟨0x3f800000⟩, ⟨0x40000000⟩, ⟨0x40400000⟩, ⟨0x40800000⟩, ⟨0x40a00000⟩, ⟨0x40c00000⟩]

theorem sixFloats_fit : BlocksFit twoHeadConfig 3 sixFloats.length 3 2 1 := ⟨by decide, by decide, by decide⟩

/-- Three tokens of two heads, the key by tokens and the value by heads; the second block is half full. -/
theorem threeTokens_safe : 0 < twoHeadConfig.nLayers.toNat ∧
    ∀ message, layerPipeline twoHeadConfig 3 (printedCache ⟨sixFloats, [3, 2, 1]⟩ ⟨sixFloats, [1, 2, 3, 1]⟩) 0 ≠
      .error (.panic message) := by
  refine ⟨by decide, (layerPipeline_safe_iff _ twoHeadConfig 3 _
    (printingExtractor_accepted "\"shape\":[3,2,1],\"data\":[1.0,2.0,3.0,4.0,5.0,6.0]"
      "\"shape\":[1,2,3,1],\"data\":[1.0,2.0,3.0,4.0,5.0,6.0]" ⟨sixFloats, [3, 2, 1]⟩ ⟨sixFloats, [1, 2, 3, 1]⟩
      3 2 1) (by decide) 0 (by decide)).mpr ?_⟩
  intro key value hkey hvalue keyTokens keyHeads keyDims valueTokens valueHeads valueDims hk hv
  cases printedCache_key.symm.trans hkey
  cases printedCache_value.symm.trans hvalue
  constructor
  · rcases hk with h | h
    · cases h
      exact sixFloats_fit
    · cases h
  · rcases hv with h | h
    · cases h
    · cases h
      exact sixFloats_fit

/-- Without a float the loop over the one token reads behind the end of the data. -/
theorem noFloats_panics : ∃ extracted message,
    extractViaCommand (printingExtractor "\"shape\":[1,1,1],\"data\":[]" "\"shape\":[1,1,1],\"data\":[]"
      ⟨[], [1, 1, 1]⟩ ⟨[], [1, 1, 1]⟩) 1 oneDimConfig.nLayers oneDimConfig.nKvHeads oneDimConfig.headDim =
      .ok extracted ∧
    layerPipeline oneDimConfig 1 extracted 0 = .error (.panic message) := by
  have hgeometry : HasGeometry (⟨[], [1, 1, 1]⟩ : Tensor F32) 1 1 1 := Or.inl rfl
  have hpanics : ¬NoPanic (layerPipeline oneDimConfig 1 (printedCache ⟨[], [1, 1, 1]⟩ ⟨[], [1, 1, 1]⟩) 0) := by
    rw [(noError_layerPipeline printedCache_key printedCache_value hgeometry hgeometry).noPanic_iff,
      layerPipeline_returns_iff (by decide) printedCache_key printedCache_value hgeometry hgeometry]
    intro hfits
    exact absurd hfits.1.covers (by decide)
  unfold NoPanic at hpanics
  push Not at hpanics
  obtain ⟨message, hmessage⟩ := hpanics
  exact ⟨_, message, printingExtractor_accepted _ _ _ _ 1 _ _, hmessage⟩

end Printed

end PermeantOS
