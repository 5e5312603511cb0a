import PermeantOS.Envelope

namespace PermeantOS

structure AgentGraphBindingKvSpan where
  nodeId : String
  tokenStart : Usize
  tokenEnd : Usize
  cacheRef : String
  tokenizerHash : Option String
  blockHashes : List String
  deriving DecidableEq, Repr

structure AgentGraphBindingArtifact where
  path : String
  sha256 : String
  sizeBytes : Option UInt64
  deriving DecidableEq, Repr

structure AgentGraphBinding where
  manifestPath : String
  graphPath : String
  graphHash : String
  promptByteHash : Option String
  promptTokenHash : Option String
  tokenizerHash : Option String
  kvHash : Option String
  kvSpans : List AgentGraphBindingKvSpan
  artifacts : List AgentGraphBindingArtifact
  deriving DecidableEq, Repr

structure PayloadCodecMetadata where
  transferCodec : String
  storage : String
  strategy : Option String
  rawF32leLen : Usize
  deriving DecidableEq, Repr

structure PayloadChunk where
  chunkIndex : UInt32
  layerIndex : UInt32
  tensorName : String
  codec : Option PayloadCodecMetadata
  data : List UInt8
  crc32 : UInt32
  deriving DecidableEq, Inhabited, Repr

inductive MigrationMessage
  | capabilityRequest (modelArchitecture attentionType : String) (seqLen : Usize)
  | capabilityResponse (accepted : Bool) (errorMessage : Option String) (targetDevice : String)
  | headerEnvelope (envelope : EncryptedEnvelope)
  | headerAck (accepted : Bool)
  | payloadChunk (chunk : PayloadChunk)
  | chunkAck (chunkIndex : UInt32)
  | agentGraphBinding (binding : AgentGraphBinding)
  | agentGraphBindingAck (accepted : Bool) (errorMessage : Option String)
  | commitRequest
  | commitResponse (success : Bool) (errorMessage : Option String)
  deriving DecidableEq, Repr

def frameKindJson : UInt8 := 0

def frameKindPayloadChunk : UInt8 := 1

/-- The `serde_json` conversions of the message and codec types. -/
structure MessageJson where
  messageToVec : MigrationMessage → Fallible (List UInt8)
  messageFromSlice : List UInt8 → Fallible MigrationMessage
  codecToVec : PayloadCodecMetadata → Fallible (List UInt8)
  codecFromSlice : List UInt8 → Fallible PayloadCodecMetadata

structure MessageJson.RoundTrips (json : MessageJson) : Prop where
  message : ∀ msg bytes, json.messageToVec msg = .ok bytes → json.messageFromSlice bytes = .ok msg
  codec : ∀ c bytes, json.codecToVec c = .ok bytes → json.codecFromSlice bytes = .ok c

def asBytes (s : String) : List UInt8 := s.toByteArray.data.toList

def fromUtf8 (bytes : List UInt8) : Option String := String.fromUTF8? ⟨bytes.toArray⟩

theorem fromUtf8_asBytes (s : String) : fromUtf8 (asBytes s) = some s := by
  have hb : (⟨(asBytes s).toArray⟩ : ByteArray) = s.toByteArray := by simp [asBytes]
  simp only [fromUtf8, hb, String.fromUTF8?]
  rw [dif_pos s.isValidUTF8]
  rfl

theorem asBytes_injective {a b : String} (h : asBytes a = asBytes b) : a = b := by
  have hs := fromUtf8_asBytes a
  rw [h, fromUtf8_asBytes] at hs
  exact (Option.some.inj hs).symm

theorem asBytes_eq_flatMap (s : String) : asBytes s = s.toList.flatMap String.utf8EncodeChar := by
  rw [asBytes, ← String.utf8Encode_toList, List.utf8Encode, List.toList_data_toByteArray]

/-- A character whose encoding starts with a byte below 128 is the character of that number. -/
theorem toNat_of_utf8EncodeChar {c : Char} {byte : UInt8} (hsmall : byte.toNat < 0x80)
    (h : (String.utf8EncodeChar c).head? = some byte) : c.toNat = byte.toNat := by
  unfold String.utf8EncodeChar at h
  dsimp only at h
  split at h
  next hv =>
    obtain rfl := Option.some.inj h
    have hmod : c.val.toNat % 2 ^ 8 = c.val.toNat := Nat.mod_eq_of_lt (by omega)
    rw [UInt8.toNat_ofNat', hmod]
    rfl
  next =>
    -- the leading bytes of longer encodings are all above 128
    split at h
    next =>
      obtain rfl := Option.some.inj h
      rw [UInt8.toNat_ofNat'] at hsmall
      omega
    next =>
      split at h
      next =>
        obtain rfl := Option.some.inj h
        rw [UInt8.toNat_ofNat'] at hsmall
        omega
      next =>
        obtain rfl := Option.some.inj h
        rw [UInt8.toNat_ofNat'] at hsmall
        omega

/-- The codec metadata is written only when there is some. -/
def codecSection : Option (List UInt8) → List UInt8
  | none => []
  | some bytes => u32ToBeBytes (UInt32.ofNat bytes.length) ++ bytes

/-- The frame body of a chunk whose codec metadata is already serialized. -/
def chunkBody (chunk : PayloadChunk) (codecJson : Option (List UInt8)) : List UInt8 :=
  u32ToBeBytes chunk.chunkIndex ++ u32ToBeBytes chunk.layerIndex ++
    u32ToBeBytes (UInt32.ofNat (asBytes chunk.tensorName).length) ++ asBytes chunk.tensorName ++
    u32ToBeBytes chunk.crc32 ++ u32ToBeBytes (UInt32.ofNat chunk.data.length) ++ chunk.data ++
    codecSection codecJson

def codecJsonOf (json : MessageJson) : Option PayloadCodecMetadata →
    Fallible (Option (List UInt8))
  | none => .ok none
  | some codec => do
    let bytes ← json.codecToVec codec
    pure (some bytes)

def encodeMessage (json : MessageJson) (msg : MigrationMessage) : Fallible (List UInt8) :=
  match msg with
  | .payloadChunk chunk => do
    let codecJson ← codecJsonOf json chunk.codec
    pure (frameKindPayloadChunk :: chunkBody chunk codecJson)
  | msg => do
    let bytes ← json.messageToVec msg
    pure (frameKindJson :: bytes)

/-- The sums the source forms with `checked_add` cannot reach `2 ^ 64`: a cursor is at most the
length of a buffer, and what is added to it was read from a `u32`. -/
def readU32 (buffer : List UInt8) (cursor : Nat) : Fallible (UInt32 × Nat) := do
  bailIf (buffer.length < cursor + 4) "Frame truncated while reading u32"
  let bytes ← sliceRange buffer cursor (cursor + 4)
  pure (u32FromBeBytes bytes, cursor + 4)

def decodeChunkCodec (json : MessageJson) (buffer : List UInt8) (cursor : Nat) :
    Fallible (Option PayloadCodecMetadata) :=
  if cursor = buffer.length then .ok none
  else do
    let (codecLen, cursor) ← readU32 buffer cursor
    let codecEnd := cursor + codecLen.toNat
    bailIf (codecEnd ≠ buffer.length)
      "Payload chunk codec metadata length does not match frame size"
    let bytes ← sliceRange buffer cursor codecEnd
    let codec ← context "Payload chunk codec metadata is invalid" (json.codecFromSlice bytes)
    pure (some codec)

def decodePayloadChunk (json : MessageJson) (buffer : List UInt8) : Fallible MigrationMessage := do
  let (chunkIndex, cursor) ← readU32 buffer 0
  let (layerIndex, cursor) ← readU32 buffer cursor
  let (nameLen, cursor) ← readU32 buffer cursor
  let nameEnd := cursor + nameLen.toNat
  bailIf (buffer.length < nameEnd) "Payload chunk tensor name exceeds frame length"
  let nameBytes ← sliceRange buffer cursor nameEnd
  let tensorName ← contextOption "Payload chunk tensor name is not valid UTF-8" (fromUtf8 nameBytes)
  let (crc32, cursor) ← readU32 buffer nameEnd
  let (dataLen, dataStart) ← readU32 buffer cursor
  let dataEnd := dataStart + dataLen.toNat
  bailIf (buffer.length < dataEnd) "Payload chunk data length does not match frame size"
  let codec ← decodeChunkCodec json buffer dataEnd
  let data ← sliceRange buffer dataStart dataEnd
  pure (.payloadChunk ⟨chunkIndex, layerIndex, tensorName, codec, data, crc32⟩)

def decodeMessage (json : MessageJson) (buffer : List UInt8) : Fallible MigrationMessage :=
  match buffer with
  | [] => bail "Empty frame"
  | kind :: body =>
    if kind = frameKindJson then json.messageFromSlice body
    else if kind = frameKindPayloadChunk then decodePayloadChunk json body
    else bail s!"Unknown frame kind: {kind}"

end PermeantOS
