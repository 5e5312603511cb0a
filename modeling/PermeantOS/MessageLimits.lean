import PermeantOS.MessageStream

namespace PermeantOS

/-- The number that the four bytes at an offset spell. -/
def lengthFieldAt (bytes : List UInt8) (offset : Nat) : Nat :=
  ofBigEndian ((bytes.drop offset).take 4)

/-- Every length inside the body is the true length of what follows it. -/
def InnerLengthsTrue (json : MessageJson) : MigrationMessage → List UInt8 → Prop
  | .payloadChunk chunk, body =>
    let nameLen := (asBytes chunk.tensorName).length
    lengthFieldAt body 9 = nameLen ∧
      lengthFieldAt body (9 + 4 + nameLen + 4) = chunk.data.length ∧
      ∀ codec codecJson, chunk.codec = some codec → json.codecToVec codec = .ok codecJson →
        lengthFieldAt body (9 + 4 + nameLen + 4 + 4 + chunk.data.length) = codecJson.length
  | _, _ => True

/-- A frame whose lengths are all true and which the receiver does not refuse for its size. -/
structure Receivable (json : MessageJson) (msg : MigrationMessage) (frame : List UInt8) : Prop where
  body : encodeMessage json msg = .ok (frame.drop 4)
  length_field : lengthFieldAt frame 0 = (frame.drop 4).length
  inner : InnerLengthsTrue json msg (frame.drop 4)
  limit : (frame.drop 4).length ≤ maxFrameLen

/-- How long the body of a message is, from the lengths of its parts. -/
def encodedLength (json : MessageJson) : MigrationMessage → Fallible Nat
  | .payloadChunk chunk => do
    let codecJson ← codecJsonOf json chunk.codec
    let codecLen := match codecJson with
      | none => 0
      | some bytes => 4 + bytes.length
    pure (1 + 4 + 4 + 4 + (asBytes chunk.tensorName).length + 4 + 4 + chunk.data.length + codecLen)
  | msg => do
    let bytes ← json.messageToVec msg
    pure (1 + bytes.length)

theorem lengthFieldAt_skip {front : List UInt8} {k : Nat} (hk : front.length = k)
    (rest : List UInt8) (offset : Nat) :
    lengthFieldAt (front ++ rest) (k + offset) = lengthFieldAt rest offset := by
  subst hk
  rw [lengthFieldAt, List.drop_append, Nat.add_sub_cancel_left,
    List.drop_of_length_le (Nat.le_add_right _ _), List.nil_append]
  rfl

theorem lengthFieldAt_written {n : Nat} (hn : n < 2 ^ 32) (rest : List UInt8) :
    lengthFieldAt (u32ToBeBytes (UInt32.ofNat n) ++ rest) 0 = n := by
  rw [lengthFieldAt, List.drop_zero, List.take_left' (u32ToBeBytes_length _), u32ToBeBytes,
    ofBigEndian_bigEndian_mod, u32_ofNat_toNat hn]
  exact Nat.mod_eq_of_lt hn

theorem encodedLength_eq (json : MessageJson) (msg : MigrationMessage) :
    encodedLength json msg = (encodeMessage json msg).map List.length := by
  cases msg with
  | payloadChunk chunk =>
    rw [encodedLength, encodeMessage]
    cases hc : codecJsonOf json chunk.codec with
    | error fault => rfl
    | ok codecJson =>
      cases codecJson with
      | none =>
        simp [bind, Except.bind, pure, Except.pure, Except.map, chunkBody, codecSection]
        omega
      | some bytes =>
        simp [bind, Except.bind, pure, Except.pure, Except.map, chunkBody, codecSection]
        omega
  | _ =>
    simp only [encodedLength, encodeMessage]
    cases json.messageToVec _ with
    | error fault => rfl
    | ok bytes =>
      simp [bind, Except.bind, pure, Except.pure, Except.map]
      omega

/-- A body shorter than 2^32 bytes has no length that was cut to 32 bits. -/
theorem innerLengthsTrue_of_lt {json : MessageJson} {msg : MigrationMessage} {body : List UInt8}
    (h : encodeMessage json msg = .ok body) (hlen : body.length < 2 ^ 32) :
    InnerLengthsTrue json msg body := by
  cases msg with
  | payloadChunk chunk =>
    obtain ⟨codecJson, hc, he⟩ := except_bind_ok_iff.mp h
    cases he
    obtain ⟨fixed, hfixed, hbody⟩ : ∃ fixed : List UInt8, fixed.length = 9 ∧
        frameKindPayloadChunk :: chunkBody chunk codecJson =
          fixed ++ (u32ToBeBytes (UInt32.ofNat (asBytes chunk.tensorName).length) ++
            (asBytes chunk.tensorName ++ (u32ToBeBytes chunk.crc32 ++
              (u32ToBeBytes (UInt32.ofNat chunk.data.length) ++
                (chunk.data ++ codecSection codecJson))))) :=
      ⟨frameKindPayloadChunk :: (u32ToBeBytes chunk.chunkIndex ++ u32ToBeBytes chunk.layerIndex),
        by simp, by simp [chunkBody]⟩
    rw [hbody] at hlen ⊢
    simp only [List.length_append, u32ToBeBytes_length] at hlen
    obtain ⟨name, hname⟩ : ∃ name, (asBytes chunk.tensorName).length = name := ⟨_, rfl⟩
    rw [hname] at hlen ⊢
    simp only [InnerLengthsTrue, hname]
    refine ⟨?_, ?_, ?_⟩
    · rw [show 9 = 9 + 0 from rfl, lengthFieldAt_skip hfixed, lengthFieldAt_written (by omega)]
    · rw [show 9 + 4 + name + 4 = 9 + (4 + (name + (4 + 0))) by omega, lengthFieldAt_skip hfixed,
        lengthFieldAt_skip (u32ToBeBytes_length _), lengthFieldAt_skip hname,
        lengthFieldAt_skip (u32ToBeBytes_length _), lengthFieldAt_written (by omega)]
    · intro codec bytes hcodec hbytes
      rw [hcodec, codecJsonOf, except_bind_of_ok hbytes] at hc
      cases hc
      simp only [codecSection, List.length_append, u32ToBeBytes_length] at hlen
      rw [show 9 + 4 + name + 4 + 4 + chunk.data.length =
          9 + (4 + (name + (4 + (4 + (chunk.data.length + 0))))) by omega, lengthFieldAt_skip hfixed,
        lengthFieldAt_skip (u32ToBeBytes_length _), lengthFieldAt_skip hname,
        lengthFieldAt_skip (u32ToBeBytes_length _), lengthFieldAt_skip (u32ToBeBytes_length _),
        lengthFieldAt_skip rfl, codecSection, lengthFieldAt_written (by omega)]
  | _ => trivial

/-- What is sent is receivable, with all its lengths true, exactly where the message has no encoding
or its encoding is within the limit of the receiver. -/
theorem sendMessage_receivable_iff (json : MessageJson) (msg : MigrationMessage) :
    (∀ frame, sendMessage json msg = .ok frame → Receivable json msg frame) ↔
      ∀ length, encodedLength json msg = .ok length → length ≤ maxFrameLen := by
  have hmax : maxFrameLen < 2 ^ 32 := by decide
  rw [encodedLength_eq]
  constructor
  · intro h length hlength
    cases hbody : encodeMessage json msg with
    | error fault =>
      rw [hbody] at hlength
      cases hlength
    | ok body =>
      rw [hbody] at hlength
      cases hlength
      have hlimit := (h _ (sendMessage_ok_iff.mpr ⟨body, hbody, rfl⟩)).limit
      rwa [List.drop_left' (u32ToBeBytes_length _)] at hlimit
  · intro h frame hframe
    obtain ⟨body, hbody, rfl⟩ := sendMessage_ok_iff.mp hframe
    have hlimit : body.length ≤ maxFrameLen := h _ (by rw [hbody]; rfl)
    have hdrop : (u32ToBeBytes (UInt32.ofNat body.length) ++ body).drop 4 = body :=
      List.drop_left' (u32ToBeBytes_length _)
    have hfield : lengthFieldAt (u32ToBeBytes (UInt32.ofNat body.length) ++ body) 0 = body.length :=
      lengthFieldAt_written (by omega) body
    refine ⟨?_, ?_, ?_, ?_⟩
    · rw [hdrop]
      exact hbody
    · rw [hdrop]
      exact hfield
    · rw [hdrop]
      exact innerLengthsTrue_of_lt hbody (by omega)
    · rw [hdrop]
      exact hlimit

/-- A frame between the limit and 2^32 bytes is sent all the same, and refused. -/
theorem recvMessage_oversized {json : MessageJson} {body : List UInt8}
    (hlimit : maxFrameLen < body.length) (hfit : body.length < 2 ^ 32) :
    recvMessage json [u32ToBeBytes (UInt32.ofNat body.length) ++ body] =
      .error (.error s!"Frame size too large: {body.length} bytes") := by
  have hflat : [u32ToBeBytes (UInt32.ofNat body.length) ++ body].flatten =
      u32ToBeBytes (UInt32.ofNat body.length) ++ body := by simp
  obtain ⟨rest, hread, _⟩ := readExact_append hflat
  rw [u32ToBeBytes_length] at hread
  rw [recvMessage, except_bind_of_ok (contextOption_ok_iff.mpr hread)]
  simp only [u32FromBeBytes_toBeBytes, u32_ofNat_toNat hfit, bailIf, if_pos hlimit]
  rfl

/-- 500 MiB of data already leave no room for the bytes that go around them. -/
theorem sendMessage_oversized (data : List UInt8) (hdata : data.length = maxFrameLen) :
    ∃ body, sendMessage commitJson (.payloadChunk ⟨0, 0, "layer.0.key", none, data, 0⟩) =
        .ok (u32ToBeBytes (UInt32.ofNat body.length) ++ body) ∧
      maxFrameLen < body.length ∧ body.length < 2 ^ 32 := by
  have hname : (asBytes "layer.0.key").length = 11 := by decide
  have hlength : (frameKindPayloadChunk ::
      chunkBody ⟨0, 0, "layer.0.key", none, data, 0⟩ none).length = maxFrameLen + 32 := by
    simp only [chunkBody, codecSection, List.length_cons, List.length_append, u32ToBeBytes_length,
      hname, hdata, List.length_nil]
    omega
  refine ⟨_, sendMessage_ok_iff.mpr ⟨_, rfl, rfl⟩, ?_, ?_⟩
  · omega
  · rw [hlength]
    decide

/-- Such a chunk is sent as if all was well; its frame is not receivable, and the receiver refuses
it. -/
theorem sendMessage_not_receivable :
    ∃ frame, sendMessage commitJson
        (.payloadChunk ⟨0, 0, "layer.0.key", none, List.replicate maxFrameLen 0, 0⟩) = .ok frame ∧
      ¬Receivable commitJson
        (.payloadChunk ⟨0, 0, "layer.0.key", none, List.replicate maxFrameLen 0, 0⟩) frame ∧
      ∃ text, recvMessage commitJson [frame] = .error (.error text) := by
  obtain ⟨body, hsend, hlimit, hfit⟩ := sendMessage_oversized (List.replicate maxFrameLen 0)
    List.length_replicate
  refine ⟨_, hsend, ?_, _, recvMessage_oversized hlimit hfit⟩
  intro h
  have hle := h.limit
  rw [List.drop_left' (u32ToBeBytes_length _)] at hle
  omega

end PermeantOS
