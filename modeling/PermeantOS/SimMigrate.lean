import PermeantOS.BindingManifest
import PermeantOS.Layout
import PermeantOS.Session

namespace PermeantOS

/-- What the source process is linked with. `recordF32Chunk` compresses a chunk for the statistics. -/
structure SourceHost (F : Type) where
  crc32 : List UInt8 → UInt32
  crypto : Crypto
  sha256 : List UInt8 → List UInt8
  headerToVec : UsxfHeader → Fallible (List UInt8)
  qatq : Qatq F
  recordF32Chunk : List F → Fallible Unit

/-- What the source process reads from its environment, its clock and its random generators. -/
structure SourceConfig where
  modelArchitecture : String
  modelIdentity : String
  modelConfigHash : String
  nLayers : Usize
  nQHeads : Usize
  nKvHeads : Usize
  headDim : Usize
  hiddenSize : Usize
  blockSize : Usize
  createdAt : String
  extractorId : String
  nonce : List UInt8
  signingKey : List UInt8

/-- The source's end of the connection, as `Session` is the daemon's. -/
structure Socket where
  inbox : List (Fallible MigrationMessage)
  delivers : Nat → Bool
  outbox : List MigrationMessage

abbrev Source := EStateM Fault Socket

/-- Every `send_message` of the source is followed by a `recv_message`. -/
def exchange (msg : MigrationMessage) : Source MigrationMessage := do
  let socket ← get
  if socket.delivers socket.outbox.length then
    match socket.inbox with
    | [] =>
      set { socket with outbox := socket.outbox ++ [msg] }
      throw (.error "Failed to read frame length")
    | .error fault :: _ =>
      set { socket with outbox := socket.outbox ++ [msg] }
      throw fault
    | .ok reply :: rest =>
      set { socket with inbox := rest, outbox := socket.outbox ++ [msg] }
      pure reply
  else throw (.error "Failed to write frame content")

def requestCapability (config : SourceConfig) (seqLen : Usize) : Source Unit := do
  match ← exchange (.capabilityRequest config.modelArchitecture "gqa" seqLen) with
  | .capabilityResponse true _ _ => pure ()
  | .capabilityResponse false errorMessage _ =>
    throw (.error s!"Target daemon rejected migration capacity: {debugOption errorMessage}")
  | _ => throw (.error "Unexpected handshake response")

def dummyTokens (count : Nat) : List UInt32 := List.replicate count 42

def dummyChecksum : String :=
  "sha256:0000000000000000000000000000000000000000000000000000000000000000"

/-- The header of one migration; `500000.0` is its `rope_theta`. -/
def simHeader (sha256 : List UInt8 → List UInt8) (config : SourceConfig) (seqLen : Usize)
    (transferCodec : TransferCodec) : UsxfHeader where
  usxfVersion := "1.1"
  modelArchitecture := config.modelArchitecture
  modelIdentity := ⟨config.modelConfigHash, config.modelIdentity⟩
  attentionType := .gqa
  modelCacheSpec := ⟨config.nLayers, config.nQHeads, config.nKvHeads, config.headDim,
    config.hiddenSize, some 131072, some 0x411e848000000000, none⟩
  mlaSpec := none
  chatState := none
  tokenIds := dummyTokens seqLen.toNat
  seqLen := seqLen
  batchSize := 1
  dtype := .float32
  sourceQuantization := none
  transferQuantization := transferCodec.headerScheme.map fun scheme => ⟨scheme, none⟩
  blockSize := config.blockSize
  blockHashes := computeTokenBlockHashes sha256 (dummyTokens seqLen.toNat) config.blockSize.toNat
  positionIds := none
  createdAt := config.createdAt
  extractorId := config.extractorId
  checksum := dummyChecksum
  signature := ""

def sourceKey : List UInt8 := List.replicate 32 7

def sendHeader {F : Type} (host : SourceHost F) (config : SourceConfig) (header : UsxfHeader) :
    Source Unit := do
  let serializedHeader ← liftExcept (host.headerToVec header)
  let envelope ← liftExcept
    (sealPacket host.crypto config.nonce serializedHeader sourceKey config.signingKey)
  match ← exchange (.headerEnvelope envelope) with
  | .headerAck true => pure ()
  | .headerAck false => throw (.error "Target daemon rejected USXF header.")
  | _ => throw (.error "Unexpected header response")

section Chunks

variable {F : Type}

/-- A shape `[1, num_kv_heads, seq_len, head_dim]` is only renamed: the data stays in its order. -/
def normalizeCanonicalKvTensor (tensorName : String) (tensor : Tensor F) : Fallible (Tensor F) :=
  match tensor.shape with
  | [seqLen, numKvHeads, headDim] => .ok ⟨tensor.data, [seqLen, numKvHeads, headDim]⟩
  | [1, numKvHeads, seqLen, headDim] => .ok ⟨tensor.data, [seqLen, numKvHeads, headDim]⟩
  | shape => bail ("Unsupported canonical KV tensor shape for " ++ tensorName ++ ": " ++
      debugList (shape.map toString))

/-- `normalize_canonical_kv_tensor(name, extracted_cache.get(name).unwrap())` -/
def canonicalTensor (extractedCache : TensorMap F) (tensorName : String) : Fallible (Tensor F) :=
  match extractedCache.lookup tensorName with
  | some tensor => normalizeCanonicalKvTensor tensorName tensor
  | none => .error (.panic "called `Option::unwrap()` on a `None` value")

variable [F32Bits F] [F32Arith F]

def transpileLayer (config : SourceConfig) (extractedCache : TensorMap F) (layerIdx : Nat) :
    Fallible (Tensor F × Tensor F) := do
  let keyTensor ← canonicalTensor extractedCache (keyName layerIdx)
  let valueTensor ← canonicalTensor extractedCache (valueName layerIdx)
  let vllmKey ← canonicalToVllmBlockKey keyTensor config.blockSize
  let vllmValue ← canonicalToVllmBlockValue valueTensor config.blockSize
  pure (vllmKey, vllmValue)

/-- The slice of one block, with `usize` bounds that wrap. -/
def blockSlice (data : List F) (blockIdx blockLen : Nat) : Fallible (List F) :=
  sliceRange data (blockIdx * blockLen % 2 ^ 64) ((blockIdx * blockLen + blockLen) % 2 ^ 64)

def chunkOf (host : SourceHost F) (layerIdx blockIdx : Nat) (tensorName : String)
    (payload : EncodedPayload) : PayloadChunk :=
  ⟨UInt32.ofNat blockIdx, UInt32.ofNat layerIdx, tensorName, payload.codec, payload.data,
    host.crc32 payload.data⟩

def encodeBlock (host : SourceHost F) (config : SourceConfig) (transferCodec : TransferCodec)
    (layerIdx : Nat) (vllmKey vllmValue : Tensor F) (blockIdx : Nat) :
    Fallible (PayloadChunk × PayloadChunk) := do
  let kData ← blockSlice vllmKey.data blockIdx
    (config.nKvHeads * config.headDim * config.blockSize).toNat
  let vData ← blockSlice vllmValue.data blockIdx
    (config.nKvHeads * config.blockSize * config.headDim).toNat
  host.recordF32Chunk kData
  host.recordF32Chunk vData
  let kPayload ← encodePayload host.qatq kData transferCodec
  let vPayload ← encodePayload host.qatq vData transferCodec
  pure (chunkOf host layerIdx blockIdx (keyName layerIdx) kPayload,
    chunkOf host layerIdx blockIdx (valueName layerIdx) vPayload)

/-- The acknowledgements are not looked at. -/
def sendBlock (host : SourceHost F) (config : SourceConfig) (transferCodec : TransferCodec)
    (layerIdx : Nat) (vllmKey vllmValue : Tensor F) (blockIdx : Nat) : Source Unit := do
  let (keyChunk, valueChunk) ← liftExcept
    (encodeBlock host config transferCodec layerIdx vllmKey vllmValue blockIdx)
  let _ackK ← exchange (.payloadChunk keyChunk)
  let _ackV ← exchange (.payloadChunk valueChunk)

def sendLayer (host : SourceHost F) (config : SourceConfig) (seqLen : Usize)
    (transferCodec : TransferCodec) (extractedCache : TensorMap F) (layerIdx : Nat) :
    Source Unit := do
  let (vllmKey, vllmValue) ← liftExcept (transpileLayer config extractedCache layerIdx)
  forRange (fun blockIdx _ => sendBlock host config transferCodec layerIdx vllmKey vllmValue blockIdx)
    (divCeil seqLen config.blockSize).toNat ()

def sendGraphBinding (header : UsxfHeader) : Option AgentGraphManifest → Source Unit
  | none => pure ()
  | some agentGraph => do
    match ← exchange (.agentGraphBinding (agentGraph.toBinding header)) with
    | .agentGraphBindingAck true _ => pure ()
    | .agentGraphBindingAck false errorMessage =>
      throw (.error s!"Target daemon rejected Agent Memory Graph binding: {debugOption errorMessage}")
    | _ => throw (.error "Unexpected Agent Memory Graph binding response")

/-- Everything before the commit. -/
def stageMigration (host : SourceHost F) (config : SourceConfig) (seqLen : Usize)
    (transferCodec : TransferCodec) (agentGraphManifest : Option AgentGraphManifest)
    (extractedCache : TensorMap F) : Source Unit := do
  requestCapability config seqLen
  liftExcept (panicIf (config.blockSize = 0) "chunk size must be non-zero")
  let header := simHeader host.sha256 config seqLen transferCodec
  sendHeader host config header
  forRange (fun layerIdx _ => sendLayer host config seqLen transferCodec extractedCache layerIdx)
    config.nLayers.toNat ()
  sendGraphBinding header agentGraphManifest

def requestCommit : Source Unit := do
  match ← exchange .commitRequest with
  | .commitResponse true _ => pure ()
  | .commitResponse false errorMessage =>
    throw (.error s!"Target daemon failed to commit: {debugOption errorMessage}")
  | _ => throw (.error "Unexpected commit response")

/-- The source side of a migration, from the extracted cache on. -/
def runSimMigrate (host : SourceHost F) (config : SourceConfig) (seqLen : Usize)
    (transferCodec : TransferCodec) (agentGraphManifest : Option AgentGraphManifest)
    (extractedCache : TensorMap F) : Source Unit := do
  stageMigration host config seqLen transferCodec agentGraphManifest extractedCache
  requestCommit

end Chunks

end PermeantOS
