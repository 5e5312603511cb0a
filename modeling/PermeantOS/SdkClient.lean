import PermeantOS.MessageStream
import PermeantOS.PyJson

namespace PermeantOS

variable {F : Type}

/-- `struct.pack(">I", length)` -/
def structPackU32 (length : Nat) : Except PyException (List UInt8) :=
  if length < 2 ^ 32 then .ok (bigEndian 4 length)
  else .error (.structError "'I' format requires 0 <= number <= 4294967295")

def sendFrame (floatRepr : F → String) (msg : Json F) : Except PyException (List UInt8) := do
  let serialized := asBytes (jsonDumps floatRepr msg)
  let lengthBytes ← structPackU32 serialized.length
  pure (lengthBytes ++ serialized)

/-- One `sock.recv(n)`: what the next segment holds, at most `n` bytes, and nothing only at the end
of the stream. -/
def sockRecv (n : Nat) : List (List UInt8) → List UInt8 × List (List UInt8)
  | [] => ([], [])
  | [] :: segs => sockRecv n segs
  | seg :: segs => (seg.take n, seg.drop n :: segs)

/-- One `recv_frame`, with the stream it leaves. The length prefix is taken from a single read; the
loop that follows reads until the content is complete. -/
def recvFrame (parseFloat : List Char → F) (stream : List (List UInt8)) :
    Except PyException (Json F × List (List UInt8)) :=
  let (lenBytes, stream) := sockRecv 4 stream
  if lenBytes.length < 4 then
    .error (.connectionError "Socket closed while reading length prefix")
  else
    match readExact (ofBigEndian lenBytes) stream with
    | none => .error (.connectionError "Socket closed while reading content payload")
    | some (data, stream) =>
      match fromUtf8 data with
      | none => .error .unicodeDecodeError
      | some text => do
        let value ← jsonLoads parseFloat text
        pure (value, stream)

def byteList (bytes : List UInt8) : Json F := .list (bytes.map fun b => .int b.toNat)

/-- The messages of `migrate_agent`. The header is any text, the payload any bytes. -/
inductive ClientMessage
  | capabilityRequest (modelArch : String) (tokenCount : Nat)
  | headerEnvelope (header : String)
  | keyChunk (layer block : Nat) (bytePayload : List UInt8) (crc : UInt32)
  | valueChunk (layer block : Nat) (bytePayload : List UInt8) (crc : UInt32)
  | commitRequest
  deriving DecidableEq, Repr

def payloadChunkDict (layer block : Nat) (tensorName : String) (bytePayload : List UInt8)
    (crc : UInt32) : Json F :=
  .dict [("PayloadChunk", .dict
    [("chunk_index", .int block), ("layer_index", .int layer), ("tensor_name", .str tensorName),
      ("data", byteList bytePayload), ("crc32", .int crc.toNat)])]

def ClientMessage.dict : ClientMessage → Json F
  | .capabilityRequest modelArch tokenCount => .dict [("CapabilityRequest", .dict
      [("model_architecture", .str modelArch), ("attention_type", .str "gqa"),
        ("seq_len", .int tokenCount)])]
  | .headerEnvelope header => .dict [("HeaderEnvelope", .dict
      [("ciphertext", byteList (asBytes header)), ("nonce", byteList (List.replicate 12 0x00)),
        ("signature", byteList (List.replicate 64 0xff)),
        ("public_key", byteList (List.replicate 32 0xaa))])]
  | .keyChunk layer block bytePayload crc =>
    payloadChunkDict layer block s!"layer.{layer}.key" bytePayload crc
  | .valueChunk layer block bytePayload crc =>
    payloadChunkDict layer block s!"layer.{layer}.value" bytePayload crc
  | .commitRequest => .dict [("CommitRequest", .null)]

theorem asBytes_of_fromUtf8 {bytes : List UInt8} {s : String} (h : fromUtf8 bytes = some s) :
    asBytes s = bytes := by
  unfold fromUtf8 String.fromUTF8? at h
  split at h
  next =>
    cases Option.some.inj h
    rfl
  next => cases h

/-- A dictionary is serialized to a text that starts with a brace. -/
theorem asBytes_jsonDumps_dict (floatRepr : F → String) (fields : List (String × Json F)) :
    ∃ rest, asBytes (jsonDumps floatRepr (.dict fields)) = 0x7b :: rest := by
  rw [asBytes_eq_flatMap, jsonDumps, String.toList_ofList, dumpsChars_dict, List.flatMap_cons]
  exact ⟨_, rfl⟩

/-- The receiver takes the brace for a frame kind, and knows no such kind. -/
theorem recvMessage_dict {json : MessageJson} {floatRepr : F → String}
    {fields : List (String × Json F)} {frame after : List UInt8} {stream : List (List UInt8)}
    (h : sendFrame floatRepr (.dict fields) = .ok frame) (hs : stream.flatten = frame ++ after) :
    ∃ text, recvMessage json stream = .error (.error text) := by
  obtain ⟨rest, hbytes⟩ := asBytes_jsonDumps_dict floatRepr fields
  obtain ⟨lengthBytes, hpack, h⟩ := except_bind_ok_iff.mp h
  cases h
  unfold structPackU32 at hpack
  split at hpack
  next hfit =>
    cases hpack
    rw [hbytes] at hs hfit
    rw [List.append_assoc] at hs
    obtain ⟨mid, hread, hmid⟩ := readExact_append hs
    obtain ⟨left, hread', _⟩ := readExact_append hmid
    rw [bigEndian_length] at hread
    have hlen : (u32FromBeBytes (bigEndian 4 (0x7b :: rest).length)).toNat = (0x7b :: rest).length := by
      rw [u32FromBeBytes, ofBigEndian_bigEndian (by simpa using hfit), u32_ofNat_toNat hfit]
    rw [recvMessage, except_bind_of_ok (contextOption_ok_iff.mpr hread)]
    simp only [hlen]
    by_cases hlimit : maxFrameLen < (0x7b :: rest).length
    · rw [bailIf, if_pos hlimit]
      exact ⟨_, rfl⟩
    · refine ⟨"Deserialization failed", ?_⟩
      rw [except_bind_of_ok (bailIf_ok_iff.mpr hlimit),
        except_bind_of_ok (contextOption_ok_iff.mpr hread')]
      rfl
  next => cases hpack

theorem head_of_asBytes {s : String} {byte : UInt8} {rest : List UInt8}
    (h : asBytes s = byte :: rest) (hsmall : byte.toNat < 0x80) :
    ∃ c cs, s.toList = c :: cs ∧ c.toNat = byte.toNat := by
  rw [asBytes_eq_flatMap] at h
  cases hs : s.toList with
  | nil =>
    rw [hs] at h
    cases h
  | cons c cs =>
    rw [hs, List.flatMap_cons] at h
    refine ⟨c, cs, rfl, toNat_of_utf8EncodeChar hsmall ?_⟩
    cases hc : String.utf8EncodeChar c with
    | nil =>
      have hpos := c.utf8Size_pos
      rw [← String.length_utf8EncodeChar, hc] at hpos
      cases hpos
    | cons first more =>
      rw [hc] at h
      exact congrArg some (List.cons.inj h).1

/-- No value starts with the control characters that the frame kinds spell. -/
theorem jsonLoads_control {parseFloat : List Char → F} {text : String} {c : Char} {cs : List Char}
    (ht : text.toList = c :: cs) (hc : c.toNat = 0 ∨ c.toNat = 1) :
    jsonLoads parseFloat text = .error .jsonDecodeError := by
  have hchar : c = '\x00' ∨ c = '\x01' := by
    rcases hc with hc | hc
    · exact Or.inl (Char.toNat_inj.mp hc)
    · exact Or.inr (Char.toNat_inj.mp hc)
  rw [jsonLoads, ht]
  rcases hchar with rfl | rfl
  · rfl
  · rfl

theorem jsonLoads_empty {parseFloat : List Char → F} :
    jsonLoads parseFloat "" = .error .jsonDecodeError := rfl

theorem sockRecv_flatten (n : Nat) (stream : List (List UInt8)) :
    (sockRecv n stream).1 ++ (sockRecv n stream).2.flatten = stream.flatten := by
  induction stream with
  | nil => rfl
  | cons seg segs ih =>
    cases seg with
    | nil => simpa [sockRecv] using ih
    | cons b bs =>
      rw [sockRecv, List.flatten_cons, List.flatten_cons, ← List.append_assoc, List.take_append_drop]
      intro h
      cases h

theorem sockRecv_length (n : Nat) (stream : List (List UInt8)) :
    (sockRecv n stream).1.length ≤ n := by
  induction stream with
  | nil => exact Nat.zero_le n
  | cons seg segs ih =>
    cases seg with
    | nil => simpa [sockRecv] using ih
    | cons b bs =>
      rw [sockRecv, List.length_take]
      · exact Nat.min_le_left _ _
      · intro h
        cases h

/-- Any cut of a frame body that starts with a frame kind is no JSON text. -/
theorem jsonLoads_frameKind {parseFloat : List Char → F} {kind : UInt8} {body data : List UInt8}
    {text : String} (hkind : kind = frameKindJson ∨ kind = frameKindPayloadChunk)
    (hdata : data <+: kind :: body) (ht : fromUtf8 data = some text) :
    jsonLoads parseFloat text = .error .jsonDecodeError := by
  have hbytes := asBytes_of_fromUtf8 ht
  cases data with
  | nil =>
    have hnil : text = "" := by
      rw [← Option.some.injEq, ← ht, ← fromUtf8_asBytes ""]
      rfl
    rw [hnil]
    exact jsonLoads_empty
  | cons b bs =>
    obtain rfl := (List.cons_prefix_cons.mp hdata).1
    rcases hkind with rfl | rfl
    · obtain ⟨c, cs, hchars, hc⟩ := head_of_asBytes hbytes (by decide)
      exact jsonLoads_control hchars (Or.inl hc)
    · obtain ⟨c, cs, hchars, hc⟩ := head_of_asBytes hbytes (by decide)
      exact jsonLoads_control hchars (Or.inr hc)

/-- What the daemon encodes starts with one of the two frame kinds. -/
theorem encodeMessage_kind {json : MessageJson} {msg : MigrationMessage} {bytes : List UInt8}
    (h : encodeMessage json msg = .ok bytes) :
    ∃ kind body, bytes = kind :: body ∧ (kind = frameKindJson ∨ kind = frameKindPayloadChunk) := by
  cases msg with
  | payloadChunk chunk =>
    obtain ⟨codecJson, _, he⟩ := except_bind_ok_iff.mp h
    cases he
    exact ⟨_, _, rfl, Or.inr rfl⟩
  | _ =>
    obtain ⟨body, _, he⟩ := except_bind_ok_iff.mp h
    cases he
    exact ⟨_, _, rfl, Or.inl rfl⟩

/-- Whatever the daemon sends, `recv_frame` raises. -/
theorem recvFrame_sendMessage {parseFloat : List Char → F} {json : MessageJson}
    {msg : MigrationMessage} {frame after : List UInt8} {stream : List (List UInt8)}
    (h : sendMessage json msg = .ok frame) (hs : stream.flatten = frame ++ after) :
    ∃ exception, recvFrame parseFloat stream = .error exception := by
  obtain ⟨bytes, hbytes, rfl⟩ := sendMessage_ok_iff.mp h
  obtain ⟨kind, body, rfl, hkind⟩ := encodeMessage_kind hbytes
  have hflat := sockRecv_flatten 4 stream
  have hle := sockRecv_length 4 stream
  cases hrecv : sockRecv 4 stream with
  | mk lenBytes rest =>
    rw [hrecv] at hflat hle
    rw [recvFrame, hrecv]
    dsimp only
    by_cases hshort : lenBytes.length < 4
    · rw [if_pos hshort]
      exact ⟨_, rfl⟩
    · have hrest : rest.flatten = kind :: (body ++ after) := by
        rw [hs, List.append_assoc] at hflat
        have hfour : lenBytes.length = 4 := Nat.le_antisymm hle (Nat.le_of_not_lt hshort)
        exact (List.append_inj hflat (by rw [hfour, u32ToBeBytes_length])).2
      rw [if_neg hshort]
      by_cases hmore : ofBigEndian lenBytes ≤ rest.flatten.length
      · obtain ⟨left, hread, _⟩ := readExact_some hmore
        rw [hread, hrest]
        dsimp only
        cases ht : fromUtf8 ((kind :: (body ++ after)).take (ofBigEndian lenBytes)) with
        | none => exact ⟨_, rfl⟩
        | some text =>
          dsimp only
          rw [jsonLoads_frameKind hkind (List.take_prefix _ _) ht]
          exact ⟨_, rfl⟩
      · rw [readExact_none (Nat.lt_of_not_le hmore)]
        exact ⟨_, rfl⟩

/-- The two sides do not speak one format: the daemon refuses every message of the client, and the
client raises on every message of the daemon, however the bytes are cut into segments. -/
theorem wire_formats_disagree (floatRepr : F → String) (parseFloat : List Char → F)
    (json : MessageJson) :
    (∀ (message : ClientMessage) frame, sendFrame floatRepr message.dict = .ok frame →
      ∀ stream after, stream.flatten = frame ++ after →
        ∃ text, recvMessage json stream = .error (.error text)) ∧
    ∀ msg frame, sendMessage json msg = .ok frame →
      ∀ stream after, stream.flatten = frame ++ after →
        ∃ exception, recvFrame parseFloat stream = .error exception := by
  refine ⟨?_, fun _ _ h _ _ hs => recvFrame_sendMessage h hs⟩
  intro message frame h stream after hs
  cases message with
  | capabilityRequest modelArch tokenCount => exact recvMessage_dict h hs
  | headerEnvelope header => exact recvMessage_dict h hs
  | keyChunk layer block bytePayload crc => exact recvMessage_dict h hs
  | valueChunk layer block bytePayload crc => exact recvMessage_dict h hs
  | commitRequest => exact recvMessage_dict h hs

/-- The commit request of either side, on the other. -/
theorem commitRequest_misread :
    (∃ frame, sendFrame (F := Empty) nofun ClientMessage.commitRequest.dict = .ok frame ∧
      recvMessage commitJson [frame] = .error (.error "Deserialization failed")) ∧
    ∃ frame, sendMessage commitJson .commitRequest = .ok frame ∧
      ∃ exception, recvFrame (F := Unit) (fun _ => ()) [frame] = .error exception := by
  obtain ⟨frame, hsend⟩ : ∃ frame, sendMessage commitJson .commitRequest = .ok frame := ⟨_, rfl⟩
  have hflat : [frame].flatten = frame ++ [] := by simp
  have hraises : ∃ exception, recvFrame (F := Unit) (fun _ => ()) [frame] = .error exception :=
    recvFrame_sendMessage hsend hflat
  exact ⟨⟨_, rfl, by decide⟩, frame, hsend, hraises⟩

end PermeantOS
