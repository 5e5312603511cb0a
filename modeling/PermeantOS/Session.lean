import PermeantOS.BindingCheck
import PermeantOS.Injector
import PermeantOS.Orchestrator
import PermeantOS.Payload

namespace PermeantOS

/-- What the daemon process is linked with and configured by. -/
structure Host (F : Type) where
  crc32 : List UInt8 → UInt32
  crypto : Crypto
  aesKey : List UInt8
  headerFromSlice : List UInt8 → Option UsxfHeader
  qatq : Qatq F
  targetDevice : String
  injectorHost : InjectorHost F
  hashOrder : HashOrder

/-- One connection as the daemon sees it, with the daemon's own state. `inbox` holds what each
`recv_message` will return, and `delivers n` tells whether the answer after `n` sent ones goes out. -/
structure Session (F : Type) where
  inbox : List (Fallible MigrationMessage)
  delivers : Nat → Bool
  outbox : List MigrationMessage
  orchestrator : MigrationOrchestrator
  injector : KVConnectorBaseV1 F

abbrev Daemon (F : Type) := EStateM Fault (Session F)

variable {F : Type}

/-- A closed stream is a frame length that cannot be read. -/
def receive : Daemon F MigrationMessage := do
  let session ← get
  match session.inbox with
  | [] => throw (.error "Failed to read frame length")
  | .error fault :: _ => throw fault
  | .ok msg :: rest =>
    set { session with inbox := rest }
    pure msg

def send (msg : MigrationMessage) : Daemon F Unit := do
  let session ← get
  if session.delivers session.outbox.length then
    set { session with outbox := session.outbox ++ [msg] }
  else throw (.error "Failed to write frame content")

def keyName (layerIndex : Nat) : String := s!"layer.{layerIndex}.key"

def valueName (layerIndex : Nat) : String := s!"layer.{layerIndex}.value"

def endsWithKey (tensorName : String) : Bool := ".key".toList.isSuffixOf tensorName.toList

theorem keyName_toList (layerIndex : Nat) : (keyName layerIndex).toList =
    "layer.".toList ++ (Nat.toDigits 10 layerIndex ++ ".key".toList) := by
  simp [keyName, toString]

theorem valueName_toList (layerIndex : Nat) : (valueName layerIndex).toList =
    "layer.".toList ++ (Nat.toDigits 10 layerIndex ++ ".value".toList) := by
  simp [valueName, toString]

@[simp] theorem endsWithKey_keyName (layerIndex : Nat) : endsWithKey (keyName layerIndex) = true := by
  rw [endsWithKey, keyName_toList, List.isSuffixOf_iff_suffix, ← List.append_assoc]
  exact List.suffix_append _ _

@[simp] theorem endsWithKey_valueName (layerIndex : Nat) :
    endsWithKey (valueName layerIndex) = false := by
  rw [← Bool.not_eq_true, endsWithKey, valueName_toList, List.isSuffixOf_iff_suffix,
    ← List.append_assoc]
  intro h
  have hlast := h.getLast (by decide)
  simp at hlast

theorem keyName_ne_valueName (a b : Nat) : keyName a ≠ valueName b := by
  intro h
  have hkey := endsWithKey_keyName a
  rw [h, endsWithKey_valueName] at hkey
  cases hkey

theorem toDigits_injective {a b : Nat} (h : Nat.toDigits 10 a = Nat.toDigits 10 b) : a = b := by
  have hv := congrArg (fun digits => Nat.ofDigitChars 10 digits 0) h
  simpa only [Nat.ofDigitChars_ten_toDigits] using hv

theorem keyName_injective {a b : Nat} (h : keyName a = keyName b) : a = b := by
  have hl := congrArg String.toList h
  rw [keyName_toList, keyName_toList, List.append_cancel_left_eq, List.append_cancel_right_eq] at hl
  exact toDigits_injective hl

theorem valueName_injective {a b : Nat} (h : valueName a = valueName b) : a = b := by
  have hl := congrArg String.toList h
  rw [valueName_toList, valueName_toList, List.append_cancel_left_eq,
    List.append_cancel_right_eq] at hl
  exact toDigits_injective hl

/-- A tensor name belongs to one layer. -/
theorem layer_eq_of_name {a b : Nat} {name : String} (ha : name = keyName a ∨ name = valueName a)
    (hb : name = keyName b ∨ name = valueName b) : a = b := by
  rcases ha with rfl | rfl <;> rcases hb with hb | hb
  · exact keyName_injective hb
  · exact absurd hb (keyName_ne_valueName a b)
  · exact absurd hb.symm (keyName_ne_valueName b a)
  · exact valueName_injective hb

def blockFloatCount (header : UsxfHeader) (tensorName : String) : Usize :=
  if endsWithKey tensorName then
    header.modelCacheSpec.nKvHeads * header.modelCacheSpec.headDim * header.blockSize
  else header.modelCacheSpec.nKvHeads * header.blockSize * header.modelCacheSpec.headDim

def blockShape (header : UsxfHeader) (tensorName : String) : List Usize :=
  if endsWithKey tensorName then
    [1, header.modelCacheSpec.nKvHeads, header.modelCacheSpec.headDim, header.blockSize]
  else [1, header.modelCacheSpec.nKvHeads, header.blockSize, header.modelCacheSpec.headDim]

abbrev ChunkKey := UInt32 × UInt32 × String

def PayloadChunk.key (chunk : PayloadChunk) : ChunkKey :=
  (chunk.chunkIndex, chunk.layerIndex, chunk.tensorName)

def validatePayloadChunkMetadata (header : UsxfHeader) (chunkIndex layerIndex : UInt32)
    (tensorName : String) (receivedChunks : Finset ChunkKey) :
    Fallible (String × Finset ChunkKey) := do
  let blockHash ← contextOption
    s!"Payload chunk index {chunkIndex} exceeds advertised block count {header.blockHashes.length}"
    header.blockHashes[chunkIndex.toNat]?
  bailIf (header.modelCacheSpec.nLayers.toNat ≤ layerIndex.toNat)
    s!"Payload chunk layer index {layerIndex} exceeds advertised layer count {header.modelCacheSpec.nLayers}"
  bailIf (tensorName ≠ keyName layerIndex.toNat ∧ tensorName ≠ valueName layerIndex.toNat)
    s!"Payload chunk tensor name {tensorName} does not match layer {layerIndex}"
  bailIf ((chunkIndex, layerIndex, tensorName) ∈ receivedChunks)
    s!"Duplicate payload chunk for block {chunkIndex}, layer {layerIndex}, tensor {tensorName}"
  pure (blockHash, insert (chunkIndex, layerIndex, tensorName) receivedChunks)

def verifyChunkCrc32 (crc32 : List UInt8 → UInt32) : MigrationMessage → Fallible Bool
  | .payloadChunk chunk => .ok (decide (crc32 chunk.data = chunk.crc32))
  | _ => bail "Message is not a payload chunk"

/-- What the streaming loop accumulates. -/
structure Staging (F : Type) where
  accumulatedBlocks : BlockMap F
  receivedChunks : Finset ChunkKey

def Staging.empty : Staging F := ⟨∅, ∅⟩

/-- `accumulated_blocks.entry(hash).or_default().insert(name, tensor)` -/
def stageTensor (blocks : BlockMap F) (blockHash tensorName : String) (tensor : Tensor F) :
    BlockMap F :=
  blocks.insert blockHash (((blocks.lookup blockHash).getD ∅).insert tensorName tensor)

def chunkCount (header : UsxfHeader) : Usize :=
  header.modelCacheSpec.nLayers * 2 * divCeil header.seqLen header.blockSize

def maxContext : Usize := 131072

def capabilityResponse (host : Host F) (seqLen : Usize) : MigrationMessage :=
  if maxContext < seqLen then .capabilityResponse false
    (some "Context size exceeds hypervisor hardware memory limits") host.targetDevice
  else .capabilityResponse true none host.targetDevice

/-- The result is whether the connection goes on. -/
def exchangeCapability (host : Host F) : Daemon F Bool := do
  match ← receive with
  | .capabilityRequest _ _ seqLen =>
    send (capabilityResponse host seqLen)
    pure (decide (seqLen ≤ maxContext))
  | _ => throw (.error "Protocol violation: Expected CapabilityRequest")

def openHeader (host : Host F) (envelope : EncryptedEnvelope) : Fallible UsxfHeader := do
  let plaintext ← context "Header decryption or signature failed"
    (openPacket host.crypto envelope host.aesKey)
  let header ← contextOption "Failed to deserialize USXF header" (host.headerFromSlice plaintext)
  context "USXF metadata validation failed" (validateHeader header)
  pure header

def receiveHeader (host : Host F) : Daemon F UsxfHeader := do
  match ← receive with
  | .headerEnvelope envelope =>
    let header ← liftExcept (openHeader host envelope)
    send (.headerAck true)
    pure header
  | _ => throw (.error "Protocol violation: Expected HeaderEnvelope")

/-- `error.to_string()`; a panic would not be caught here, and validation has none. -/
def Fault.text : Fault → String
  | .error message => message
  | .panic message => message

/-- The result is the message that ends the session. -/
def receiveBinding (header : UsxfHeader) : Daemon F MigrationMessage := do
  match ← receive with
  | .agentGraphBinding binding =>
    match validateAgentGraphBinding binding header with
    | .error fault =>
      send (.agentGraphBindingAck false (some fault.text))
      modify fun session => { session with orchestrator := session.orchestrator.recordFailure }
      throw (.error s!"Agent Memory Graph binding rejected: {fault.text}")
    | .ok () =>
      send (.agentGraphBindingAck true none)
      receive
  | msg => pure msg

def injectBlock (host : Host F) (hash : String) (tensors : TensorMap F) : Daemon F Unit := do
  let session ← get
  let injector ← liftExcept
    (session.injector.injectBlockTensors host.injectorHost host.hashOrder hash tensors)
  set { session with injector }

/-- The injection loop over the staged blocks, in the order their map yields them. -/
def injectStaged (host : Host F) (blocks : BlockMap F) : List String → Daemon F Unit
  | [] => pure ()
  | hash :: rest => do
    injectBlock host hash ((blocks.lookup hash).getD ∅)
    injectStaged host blocks rest

def commit (host : Host F) (header : UsxfHeader) : MigrationMessage → Daemon F Unit
  | .commitRequest => do
    let session ← get
    liftExcept (session.injector.verifyContinuation host.injectorHost header.blockHashes)
    send (.commitResponse true none)
    modify fun session => { session with orchestrator := session.orchestrator.recordSuccess }
  | _ => throw (.error "Protocol violation: Expected CommitRequest")

section Streaming

variable [F32Bits F] [F32Arith F]

/-- The body of the streaming loop after the checksum. -/
def stageChunk (host : Host F) (header : UsxfHeader) (staging : Staging F) (chunk : PayloadChunk) :
    Fallible (Staging F) := do
  let (blockHash, receivedChunks) ← validatePayloadChunkMetadata header chunk.chunkIndex
    chunk.layerIndex chunk.tensorName staging.receivedChunks
  let expectedFloatCount := blockFloatCount header chunk.tensorName
  let data ← decodePayload host.qatq (header.transferQuantization.map (·.scheme)) chunk.codec
    chunk.data expectedFloatCount
  bailIf (data.length ≠ expectedFloatCount.toNat)
    s!"Decoded payload length mismatch for {chunk.tensorName} block {chunk.chunkIndex}: expected {expectedFloatCount}, got {data.length}"
  pure ⟨stageTensor staging.accumulatedBlocks blockHash chunk.tensorName
    ⟨data, blockShape header chunk.tensorName⟩, receivedChunks⟩

/-- One round of the streaming loop up to its acknowledgement. -/
def stageMessage (host : Host F) (header : UsxfHeader) (staging : Staging F)
    (msg : MigrationMessage) : Fallible (UInt32 × Staging F) := do
  let matching ← verifyChunkCrc32 host.crc32 msg
  bailIf (matching = false) "Payload chunk CRC32 checksum mismatch!"
  match msg with
  | .payloadChunk chunk => do
    let staging ← stageChunk host header staging chunk
    pure (chunk.chunkIndex, staging)
  | _ => bail "Protocol violation: Expected PayloadChunk"

def streamChunks (host : Host F) (header : UsxfHeader) : Nat → Staging F → Daemon F (Staging F)
  | 0, staging => pure staging
  | n + 1, staging => do
    let msg ← receive
    let (chunkIndex, staging) ← liftExcept (stageMessage host header staging msg)
    send (.chunkAck chunkIndex)
    streamChunks host header n staging

/-- The connection from the acknowledged header on. -/
def migrateBlocks (host : Host F) (header : UsxfHeader) : Daemon F Unit := do
  let staging ← streamChunks host header (chunkCount header).toNat Staging.empty
  let msg ← receiveBinding header
  injectStaged host staging.accumulatedBlocks (host.hashOrder.keys staging.accumulatedBlocks)
  commit host header msg

def handleMigrationConnection (host : Host F) : Daemon F Unit := do
  if ← exchangeCapability host then
    let header ← receiveHeader host
    migrateBlocks host header

/-- What a peer does on one connection. -/
structure Connection where
  inbox : List (Fallible MigrationMessage)
  delivers : Nat → Bool

/-- What the daemon keeps from one connection to the next. -/
structure DaemonState (F : Type) where
  orchestrator : MigrationOrchestrator
  injector : KVConnectorBaseV1 F

def Connection.start (connection : Connection) (daemon : DaemonState F) : Session F :=
  ⟨connection.inbox, connection.delivers, [], daemon.orchestrator, daemon.injector⟩

/-- A connection handled to its end, which the daemon survives whether or not it failed. -/
def serve (host : Host F) (daemon : DaemonState F) (connection : Connection) : Session F :=
  leftState ((handleMigrationConnection host).run (connection.start daemon))

def runDaemon (host : Host F) (daemon : DaemonState F) : List Connection → DaemonState F
  | [] => daemon
  | connection :: rest =>
    let session := serve host daemon connection
    runDaemon host ⟨session.orchestrator, session.injector⟩ rest

end Streaming

def DaemonState.initial : DaemonState F :=
  ⟨.new .default, ⟨256, .mock ∅⟩⟩

end PermeantOS
