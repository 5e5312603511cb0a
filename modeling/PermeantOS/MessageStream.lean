import PermeantOS.FrameStream
import PermeantOS.Message

namespace PermeantOS

theorem u32_ofNat_toNat {n : Nat} (h : n < 2 ^ 32) : (UInt32.ofNat n).toNat = n := by
  simpa using Nat.mod_eq_of_lt h

theorem readU32_unread {buffer rest : List UInt8} {x : UInt32} {cursor : Nat}
    (h : Unread buffer cursor (u32ToBeBytes x ++ rest)) :
    readU32 buffer cursor = .ok (x, cursor + 4) ∧ Unread buffer (cursor + 4) rest := by
  have hl := h.length_eq
  rw [List.length_append, u32ToBeBytes_length] at hl
  obtain ⟨hs, hr⟩ := h.slice
  rw [u32ToBeBytes_length] at hs hr
  refine ⟨?_, hr⟩
  rw [readU32, except_bind_unit_ok_iff, bailIf_ok_iff, hs]
  exact ⟨by omega, by simp [bind, Except.bind, pure, Except.pure, u32FromBeBytes_toBeBytes]⟩

/-- The optional trailing section is read back, whether or not it was written. -/
theorem decodeChunkCodec_section {json : MessageJson} (rt : json.RoundTrips) {buffer : List UInt8}
    {cursor : Nat} {codec : Option PayloadCodecMetadata} {codecJson : Option (List UInt8)}
    (hc : codecJsonOf json codec = .ok codecJson)
    (h : Unread buffer cursor (codecSection codecJson)) (hlen : buffer.length < 2 ^ 32) :
    decodeChunkCodec json buffer cursor = .ok codec := by
  have hl := h.length_eq
  cases codec with
  | none =>
    cases hc
    rw [decodeChunkCodec, if_pos (by simpa [codecSection] using hl.symm)]
  | some c =>
    obtain ⟨bytes, hb, he⟩ := except_bind_ok_iff.mp hc
    cases he
    simp only [codecSection, List.length_append, u32ToBeBytes_length] at hl
    obtain ⟨hread, hrest⟩ := readU32_unread h
    rw [← List.append_nil bytes] at hrest
    obtain ⟨hslice, _⟩ := hrest.slice
    have hfit := u32_ofNat_toNat (n := bytes.length) (by omega)
    rw [decodeChunkCodec, if_neg (by omega), except_bind_ok_iff]
    refine ⟨_, hread, ?_⟩
    simp only [except_bind_unit_ok_iff, bailIf_ok_iff, ne_eq, not_not, hfit]
    refine ⟨by omega, except_bind_ok_iff.mpr ⟨bytes, hslice, ?_⟩⟩
    exact except_bind_ok_iff.mpr ⟨c, by simpa using rt.codec _ _ hb, rfl⟩

theorem decodePayloadChunk_chunkBody {json : MessageJson} (rt : json.RoundTrips)
    {chunk : PayloadChunk} {codecJson : Option (List UInt8)}
    (hc : codecJsonOf json chunk.codec = .ok codecJson)
    (hlen : (chunkBody chunk codecJson).length < 2 ^ 32) :
    decodePayloadChunk json (chunkBody chunk codecJson) = .ok (.payloadChunk chunk) := by
  obtain ⟨buffer, hbuf⟩ : ∃ buffer, buffer = chunkBody chunk codecJson := ⟨_, rfl⟩
  have h0 : Unread buffer 0 (chunkBody chunk codecJson) := hbuf ▸ Unread.start _
  rw [← hbuf] at hlen ⊢
  simp only [chunkBody, List.append_assoc] at h0
  obtain ⟨r1, h1⟩ := readU32_unread h0
  obtain ⟨r2, h2⟩ := readU32_unread h1
  obtain ⟨r3, h3⟩ := readU32_unread h2
  obtain ⟨s4, h4⟩ := h3.slice
  obtain ⟨r5, h5⟩ := readU32_unread h4
  obtain ⟨r6, h6⟩ := readU32_unread h5
  obtain ⟨s7, h7⟩ := h6.slice
  have hname := u32_ofNat_toNat (n := (asBytes chunk.tensorName).length) (by have := h4.1; omega)
  have hdata := u32_ofNat_toNat (n := chunk.data.length) (by have := h7.1; omega)
  have hcodec := decodeChunkCodec_section rt hc h7 hlen
  simp only [decodePayloadChunk, except_bind_ok_iff]
  refine ⟨_, r1, _, r2, _, r3, (), bailIf_ok_iff.mpr ?_, _, by rw [hname]; exact s4, _, ?_,
    _, by rw [hname]; exact r5, _, r6, (), bailIf_ok_iff.mpr ?_, _, by rw [hdata]; exact hcodec,
    _, by rw [hdata]; exact s7, rfl⟩
  · rw [hname]
    exact Nat.not_lt.mpr h4.1
  · rw [contextOption_ok_iff]
    exact fromUtf8_asBytes _
  · rw [hdata]
    exact Nat.not_lt.mpr h7.1

theorem decodeMessage_encodeMessage {json : MessageJson} (rt : json.RoundTrips)
    {msg : MigrationMessage} {bytes : List UInt8} (h : encodeMessage json msg = .ok bytes)
    (hlen : bytes.length < 2 ^ 32) : decodeMessage json bytes = .ok msg := by
  cases msg with
  | payloadChunk chunk =>
    obtain ⟨codecJson, hc, he⟩ := except_bind_ok_iff.mp h
    cases he
    have hbody := decodePayloadChunk_chunkBody rt hc (by simp at hlen; omega)
    simpa [decodeMessage, frameKindPayloadChunk, frameKindJson] using hbody
  | _ =>
    obtain ⟨body, hb, he⟩ := except_bind_ok_iff.mp h
    cases he
    simpa [decodeMessage] using rt.message _ _ hb

def sendMessage (json : MessageJson) (msg : MigrationMessage) : Fallible (List UInt8) := do
  let serialized ← context "Serialization failed" (encodeMessage json msg)
  pure (u32ToBeBytes (UInt32.ofNat serialized.length) ++ serialized)

def maxFrameLen : Nat := 500 * 1024 * 1024

/-- One `recv_message` on a stream that arrives in segments, with the stream it leaves. -/
def recvMessage (json : MessageJson) (stream : List (List UInt8)) :
    Fallible (MigrationMessage × List (List UInt8)) := do
  let (lenBytes, stream) ← contextOption "Failed to read frame length" (readExact 4 stream)
  let len := (u32FromBeBytes lenBytes).toNat
  bailIf (maxFrameLen < len) s!"Frame size too large: {len} bytes"
  let (buffer, stream) ← contextOption "Failed to read frame content" (readExact len stream)
  let msg ← context "Deserialization failed" (decodeMessage json buffer)
  pure (msg, stream)

/-- What up to `n` calls of `recv_message` on one stream return; a caller stops at an error. -/
def recvMany (json : MessageJson) : Nat → List (List UInt8) → List (Fallible MigrationMessage)
  | 0, _ => []
  | n + 1, stream =>
    match recvMessage json stream with
    | .ok (msg, rest) => .ok msg :: recvMany json n rest
    | .error fault => [.error fault]

theorem sendMessage_ok_iff {json : MessageJson} {msg : MigrationMessage} {frame : List UInt8} :
    sendMessage json msg = .ok frame ↔ ∃ bytes, encodeMessage json msg = .ok bytes ∧
      frame = u32ToBeBytes (UInt32.ofNat bytes.length) ++ bytes := by
  simp only [sendMessage, except_bind_ok_iff, context_ok_iff]
  constructor
  · intro hparts
    obtain ⟨bytes, hb, he⟩ := hparts
    cases he
    exact ⟨bytes, hb, rfl⟩
  · intro hparts
    obtain ⟨bytes, hb, rfl⟩ := hparts
    exact ⟨bytes, hb, rfl⟩

theorem recvMessage_frame {json : MessageJson} (rt : json.RoundTrips) {msg : MigrationMessage}
    {bytes after : List UInt8} {stream : List (List UInt8)}
    (he : encodeMessage json msg = .ok bytes) (hlen : bytes.length ≤ maxFrameLen)
    (hs : stream.flatten = u32ToBeBytes (UInt32.ofNat bytes.length) ++ bytes ++ after) :
    ∃ rest, recvMessage json stream = .ok (msg, rest) ∧ rest.flatten = after := by
  have hmax : maxFrameLen < 2 ^ 32 := by decide
  have hsmall : bytes.length < 2 ^ 32 := by omega
  have hfit := u32_ofNat_toNat hsmall
  rw [List.append_assoc] at hs
  obtain ⟨mid, hr, hmid⟩ := readExact_append hs
  obtain ⟨rest, hr', hrest⟩ := readExact_append hmid
  refine ⟨rest, ?_, hrest⟩
  simp only [recvMessage, except_bind_ok_iff]
  refine ⟨_, contextOption_ok_iff.mpr hr, (), bailIf_ok_iff.mpr ?_,
    (bytes, rest), contextOption_ok_iff.mpr ?_, msg, ?_, rfl⟩
  · rw [u32FromBeBytes_toBeBytes, hfit]
    omega
  · rw [u32FromBeBytes_toBeBytes, hfit]
    exact hr'
  · exact context_ok_iff.mpr (decodeMessage_encodeMessage rt he hsmall)

/-- A frame cut short anywhere is an error, never a message. -/
theorem recvMessage_truncated {json : MessageJson} {bytes : List UInt8}
    {stream : List (List UInt8)} (hlen : bytes.length ≤ maxFrameLen)
    (hp : stream.flatten <+: u32ToBeBytes (UInt32.ofNat bytes.length) ++ bytes)
    (hne : stream.flatten.length < 4 + bytes.length) :
    ∃ text, recvMessage json stream = .error (.error text) := by
  have hmax : maxFrameLen < 2 ^ 32 := by decide
  have hfit := u32_ofNat_toNat (n := bytes.length) (by omega)
  by_cases hshort : stream.flatten.length < 4
  · refine ⟨"Failed to read frame length", ?_⟩
    rw [recvMessage, readExact_none hshort]
    rfl
  · obtain ⟨rest, hr, hrest⟩ := readExact_some (Nat.le_of_not_lt hshort)
    have htake : stream.flatten.take 4 = u32ToBeBytes (UInt32.ofNat bytes.length) := by
      obtain ⟨t, ht⟩ := hp
      have h4 := congrArg (List.take 4) ht
      rw [List.take_append_of_le_length (by omega), List.take_left' (u32ToBeBytes_length _)] at h4
      exact h4
    have hcut : rest.flatten.length < bytes.length := by
      rw [hrest, List.length_drop]
      omega
    refine ⟨"Failed to read frame content", ?_⟩
    rw [recvMessage, except_bind_of_ok (contextOption_ok_iff.mpr hr)]
    simp only [htake, u32FromBeBytes_toBeBytes, hfit]
    rw [except_bind_of_ok (bailIf_ok_iff.mpr (by omega)), readExact_none hcut]
    rfl

theorem recvMany_eq {json : MessageJson} {n : Nat} {stream : List (List UInt8)} :
    recvMany json n stream = receiveMany (recvMessage json) n stream := by
  induction n generalizing stream with
  | zero => rfl
  | succ n ih =>
    cases hrecv : recvMessage json stream with
    | ok received =>
      obtain ⟨msg, rest⟩ := received
      rw [receiveMany_ok hrecv, ← ih, recvMany, hrecv]
    | error fault => rw [recvMany, hrecv, receiveMany_error hrecv]

/-- The frames `send_message` writes for a list of messages, each small enough to be received. -/
inductive Framed (json : MessageJson) : List MigrationMessage → List (List UInt8) → Prop
  | nil : Framed json [] []
  | cons {msg bytes msgs frames} : encodeMessage json msg = .ok bytes →
      bytes.length ≤ maxFrameLen → Framed json msgs frames →
      Framed json (msg :: msgs) ((u32ToBeBytes (UInt32.ofNat bytes.length) ++ bytes) :: frames)

theorem framed_of_mapM {json : MessageJson} {msgs : List MigrationMessage}
    {frames : List (List UInt8)} (h : msgs.mapM (sendMessage json) = .ok frames)
    (hlen : ∀ msg ∈ msgs, ∀ bytes, encodeMessage json msg = .ok bytes → bytes.length ≤ maxFrameLen) :
    Framed json msgs frames := by
  induction msgs generalizing frames with
  | nil =>
    cases h
    exact Framed.nil
  | cons msg msgs ih =>
    rw [List.mapM_cons] at h
    obtain ⟨frame, hf, h⟩ := except_bind_ok_iff.mp h
    obtain ⟨tail, ht, h⟩ := except_bind_ok_iff.mp h
    cases h
    obtain ⟨bytes, hb, he⟩ := sendMessage_ok_iff.mp hf
    subst he
    exact Framed.cons hb (hlen msg (by simp) bytes hb)
      (ih ht (fun m hm => hlen m (List.mem_cons_of_mem msg hm)))

theorem Framed.length_eq {json : MessageJson} {msgs : List MigrationMessage}
    {frames : List (List UInt8)} (h : Framed json msgs frames) : frames.length = msgs.length := by
  induction h with
  | nil => rfl
  | cons _ _ _ ih => simpa using ih

theorem Framed.receivedAs {json : MessageJson} (rt : json.RoundTrips) {msgs : List MigrationMessage}
    {frames : List (List UInt8)} (h : Framed json msgs frames) :
    List.Forall₂ (ReceivedAs (recvMessage json)) frames msgs := by
  induction h with
  | nil => exact List.Forall₂.nil
  | @cons msg bytes msgs frames he hlen _ ih =>
    have hframe : (u32ToBeBytes (UInt32.ofNat bytes.length) ++ bytes).length = 4 + bytes.length := by
      simp
    refine List.Forall₂.cons ⟨?_, ?_⟩ ih
    · intro stream after hstream
      exact recvMessage_frame rt he hlen hstream
    · intro stream hbegins hshort
      rw [hframe] at hshort
      exact recvMessage_truncated hlen hbegins hshort

/-- Receiving is the inverse of sending, under every segmentation and every truncation: the whole
stream gives the messages back, and a proper prefix gives the `k` messages whose frames it contains
and then an error. -/
theorem recvMany_inverts_sendMessage {json : MessageJson} (rt : json.RoundTrips)
    {msgs : List MigrationMessage} {frames : List (List UInt8)}
    (hsend : msgs.mapM (sendMessage json) = .ok frames)
    (hlen : ∀ msg ∈ msgs, ∀ bytes, encodeMessage json msg = .ok bytes → bytes.length ≤ maxFrameLen) :
    (∀ stream, stream.flatten = frames.flatten →
      recvMany json msgs.length stream = msgs.map .ok) ∧
    (∀ stream n, stream.flatten <+: frames.flatten → stream.flatten ≠ frames.flatten →
      msgs.length ≤ n →
      ∃ k text, k < msgs.length ∧ (frames.take k).flatten <+: stream.flatten ∧
        ¬(frames.take (k + 1)).flatten <+: stream.flatten ∧
        recvMany json n stream = (msgs.take k).map .ok ++ [.error (.error text)]) := by
  have hf := framed_of_mapM hsend hlen
  refine ⟨?_, ?_⟩
  · intro stream hs
    rw [recvMany_eq]
    exact receiveMany_whole (hf.receivedAs rt) hs
  · intro stream n hp hne hn
    obtain ⟨text, ht⟩ := receiveMany_cut (hf.receivedAs rt) hp hne hn
    obtain ⟨hk, hwhole, hnext⟩ := wholeFrames_of_prefix hp hne
    rw [hf.length_eq] at hk
    refine ⟨wholeFrames stream.flatten.length frames, text, hk, hwhole, hnext, ?_⟩
    rw [recvMany_eq, ht]

/-- `serde_json` on the one JSON message of the witness below and on the codec metadata of its
chunk. -/
def commitJson : MessageJson where
  messageToVec msg :=
    if msg = .commitRequest then .ok (asBytes "\"CommitRequest\"") else bail "not serialized here"
  messageFromSlice bytes :=
    if bytes = asBytes "\"CommitRequest\"" then .ok .commitRequest else bail "expected value"
  codecToVec codec :=
    if codec = ⟨"qatq", "raw-f32le-pass-through", none, 4⟩ then
      .ok (asBytes "\x7b\"transfer_codec\":\"qatq\",\"storage\":\"raw-f32le-pass-through\",\"raw_f32le_len\":4\x7d")
    else bail "not serialized here"
  codecFromSlice bytes :=
    if bytes = asBytes "\x7b\"transfer_codec\":\"qatq\",\"storage\":\"raw-f32le-pass-through\",\"raw_f32le_len\":4\x7d" then
      .ok ⟨"qatq", "raw-f32le-pass-through", none, 4⟩
    else bail "expected value"

theorem commitJson_roundTrips : commitJson.RoundTrips := by
  constructor
  · intro msg bytes h
    simp only [commitJson] at h ⊢
    split at h
    next hm => cases h; rw [if_pos rfl, hm]
    next => cases h
  · intro codec bytes h
    simp only [commitJson] at h ⊢
    split at h
    next hc => cases h; rw [if_pos rfl, hc]
    next => cases h

def commitTail : List MigrationMessage :=
  [.payloadChunk ⟨0, 0, "layer.0.key", some ⟨"qatq", "raw-f32le-pass-through", none, 4⟩,
    [0, 0, 128, 63], 0xaca16a6a⟩, .commitRequest]

theorem commitTail_small : ∀ msg ∈ commitTail, ∀ bytes,
    encodeMessage commitJson msg = .ok bytes → bytes.length ≤ maxFrameLen := by
  intro msg hm bytes hb
  rcases List.mem_cons.mp hm with rfl | hm
  · cases hb
    decide
  · rcases List.mem_singleton.mp hm with rfl
    cases hb
    decide

theorem recvMany_inverts_sendMessage_commitTail :
    ∃ frames, commitTail.mapM (sendMessage commitJson) = .ok frames ∧
      recvMany commitJson 2 [frames.flatten.take 3, frames.flatten.drop 3] = commitTail.map .ok :=
  ⟨_, rfl, (recvMany_inverts_sendMessage commitJson_roundTrips rfl commitTail_small).1 _ (by simp)⟩

end PermeantOS
