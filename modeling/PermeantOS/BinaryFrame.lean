import PermeantOS.Reading
import Mathlib.Data.Finset.Insert

namespace PermeantOS

structure BinaryFrame where
  kind : UInt8
  flags : UInt8
  streamId : UInt32
  frameIndex : UInt64
  payload : List UInt8
  deriving DecidableEq, Repr

def binaryFrameMagic : List UInt8 := asBytes "PMT1"

def productionTransportVersion : UInt16 := 1

def binaryFrameHeaderLen : Nat := 28

section Codec

-- `compute_crc32`, of which nothing is used but that it is a function
variable (crc32 : List UInt8 → UInt32)

def encodeBinaryFrame (frame : BinaryFrame) (maxFrameBytes : UInt32) : Fallible (List UInt8) := do
  bailIf (maxFrameBytes.toNat < frame.payload.length)
    s!"binary frame payload exceeds configured maximum: {frame.payload.length} > {maxFrameBytes}"
  let payloadLen := UInt32.ofNat frame.payload.length
  let payloadCrc32 := crc32 frame.payload
  pure (binaryFrameMagic ++ u16ToBeBytes productionTransportVersion ++ [frame.kind] ++ [frame.flags] ++
    u32ToBeBytes frame.streamId ++ u64ToBeBytes frame.frameIndex ++ u32ToBeBytes payloadLen ++
    u32ToBeBytes payloadCrc32 ++ frame.payload)

def decodeBinaryFrame (buffer : List UInt8) (maxFrameBytes : UInt32) : Fallible BinaryFrame := do
  bailIf (buffer.length < binaryFrameHeaderLen) s!"binary frame is too short: {buffer.length} bytes"
  let magic ← sliceRange buffer 0 4
  bailIf (magic ≠ binaryFrameMagic) "invalid binary frame magic"
  let (version, cursor) ← readU16 buffer 4
  bailIf (version ≠ productionTransportVersion) s!"unsupported binary frame version: {version}"
  let kind ← indexAt buffer cursor
  let flags ← indexAt buffer (cursor + 1)
  let (streamId, cursor) ← readU32 buffer (cursor + 1 + 1)
  let (frameIndex, cursor) ← readU64 buffer cursor
  let (payloadLen, cursor) ← readU32 buffer cursor
  bailIf (maxFrameBytes.toNat < payloadLen.toNat)
    s!"binary frame payload exceeds configured maximum: {payloadLen} > {maxFrameBytes}"
  let (payloadCrc32, cursor) ← readU32 buffer cursor
  let payloadEnd := cursor + payloadLen.toNat
  bailIf (payloadEnd ≠ buffer.length) "binary frame payload length does not match frame size"
  let payload ← sliceRange buffer cursor payloadEnd
  let computedCrc32 := crc32 payload
  bailIf (computedCrc32 ≠ payloadCrc32)
    s!"binary frame CRC32 mismatch: expected {payloadCrc32}, computed {computedCrc32}"
  pure ⟨kind, flags, streamId, frameIndex, payload⟩

/-- The bytes before the payload. -/
def headerBytes (kind flags : UInt8) (streamId : UInt32) (frameIndex : UInt64) (payloadLen payloadCrc32 : UInt32) :
    List UInt8 :=
  binaryFrameMagic ++ (u16ToBeBytes productionTransportVersion ++ (kind :: flags :: (u32ToBeBytes streamId ++
    (u64ToBeBytes frameIndex ++ (u32ToBeBytes payloadLen ++ u32ToBeBytes payloadCrc32)))))

/-- The bytes of a frame. -/
def frameBytes (frame : BinaryFrame) : List UInt8 :=
  headerBytes frame.kind frame.flags frame.streamId frame.frameIndex (UInt32.ofNat frame.payload.length)
    (crc32 frame.payload) ++ frame.payload

@[simp] theorem headerBytes_length (kind flags : UInt8) (streamId : UInt32) (frameIndex : UInt64)
    (payloadLen payloadCrc32 : UInt32) :
    (headerBytes kind flags streamId frameIndex payloadLen payloadCrc32).length = binaryFrameHeaderLen := by
  have hmagic : binaryFrameMagic.length = 4 := by decide
  simp [headerBytes, hmagic, binaryFrameHeaderLen]

variable {crc32} {maxFrameBytes : UInt32} {frame : BinaryFrame} {buffer : List UInt8}

theorem encodeBinaryFrame_ok_iff : encodeBinaryFrame crc32 frame maxFrameBytes = .ok buffer ↔
    frame.payload.length ≤ maxFrameBytes.toNat ∧ buffer = frameBytes crc32 frame := by
  rw [encodeBinaryFrame, except_bind_unit_ok_iff, bailIf_ok_iff, Nat.not_lt]
  apply and_congr_right
  intro _
  have hbytes : binaryFrameMagic ++ u16ToBeBytes productionTransportVersion ++ [frame.kind] ++ [frame.flags] ++
      u32ToBeBytes frame.streamId ++ u64ToBeBytes frame.frameIndex ++ u32ToBeBytes (UInt32.ofNat frame.payload.length) ++
      u32ToBeBytes (crc32 frame.payload) ++ frame.payload = frameBytes crc32 frame := by
    simp [frameBytes, headerBytes]
  rw [← hbytes]
  constructor
  · intro h
    exact (Except.ok.inj h).symm
  · intro h
    rw [h]
    rfl

theorem u32_ofNat_of_le {n : Nat} (h : n ≤ maxFrameBytes.toNat) : (UInt32.ofNat n).toNat = n :=
  u32_ofNat_toNat (lt_of_le_of_lt h maxFrameBytes.toNat_lt)

/-- What stands where in a buffer that starts with a header. -/
structure HeaderReads (buffer : List UInt8) (kind flags : UInt8) (streamId : UInt32) (frameIndex : UInt64)
    (payloadLen payloadCrc32 : UInt32) (rest : List UInt8) : Prop where
  magic : sliceRange buffer 0 4 = .ok binaryFrameMagic
  version : readU16 buffer 4 = .ok (productionTransportVersion, 6)
  kind : indexAt buffer 6 = .ok kind
  flags : indexAt buffer (6 + 1) = .ok flags
  streamId : readU32 buffer (6 + 1 + 1) = .ok (streamId, 12)
  frameIndex : readU64 buffer 12 = .ok (frameIndex, 20)
  payloadLen : readU32 buffer 20 = .ok (payloadLen, 24)
  payloadCrc32 : readU32 buffer 24 = .ok (payloadCrc32, 28)
  unread : Unread buffer 28 rest

theorem headerReads {buffer : List UInt8} {kind flags : UInt8} {streamId : UInt32} {frameIndex : UInt64}
    {payloadLen payloadCrc32 : UInt32} {rest : List UInt8}
    (h : buffer = headerBytes kind flags streamId frameIndex payloadLen payloadCrc32 ++ rest) :
    HeaderReads buffer kind flags streamId frameIndex payloadLen payloadCrc32 rest := by
  have h0 := Unread.start buffer
  nth_rewrite 2 [h] at h0
  simp only [headerBytes, List.append_assoc, List.cons_append] at h0
  obtain ⟨hmagic, h1⟩ := h0.slice
  have h2 : Unread buffer 6 _ := h1.slice.2
  have h3 : Unread buffer (6 + 1) _ := h2.tail
  have h4 : Unread buffer (6 + 1 + 1) _ := h3.tail
  have h5 : Unread buffer 12 _ := h4.slice.2
  have h6 : Unread buffer 20 _ := h5.slice.2
  have h7 : Unread buffer 24 _ := h6.slice.2
  have h8 : Unread buffer 28 _ := h7.slice.2
  exact ⟨hmagic, h1.readU16_iff.mpr ⟨rfl, _, rfl, h2⟩, h2.indexAt_iff.mpr ⟨_, rfl, h3⟩,
    h3.indexAt_iff.mpr ⟨_, rfl, h4⟩, h4.readU32_iff.mpr ⟨rfl, _, rfl, h5⟩, h5.readU64_iff.mpr ⟨rfl, _, rfl, h6⟩,
    h6.readU32_iff.mpr ⟨rfl, _, rfl, h7⟩, h7.readU32_iff.mpr ⟨rfl, _, rfl, h8⟩, h8⟩

/-- The buffers that are accepted are the bytes of frames whose payload is small enough. -/
theorem decodeBinaryFrame_ok_iff : decodeBinaryFrame crc32 buffer maxFrameBytes = .ok frame ↔
    frame.payload.length ≤ maxFrameBytes.toNat ∧ buffer = frameBytes crc32 frame := by
  have hstart := Unread.start buffer
  constructor
  · intro h
    obtain ⟨_, h⟩ := except_bind_unit_ok_iff.mp h
    obtain ⟨magic, hmagic, h⟩ := except_bind_ok_iff.mp h
    obtain ⟨hsame, h⟩ := except_bind_unit_ok_iff.mp h
    rw [bailIf_ok_iff, not_not] at hsame
    obtain ⟨hlength, after, hbuffer, hunread⟩ := (hstart.slice_iff (n := 4)).mp hmagic
    obtain ⟨⟨version, cursor⟩, hversion, h⟩ := except_bind_ok_iff.mp h
    obtain ⟨hknown, h⟩ := except_bind_unit_ok_iff.mp h
    rw [bailIf_ok_iff, not_not] at hknown
    obtain ⟨rfl, after1, rfl, h1⟩ := hunread.readU16_iff.mp hversion
    obtain ⟨kind, hkind, h⟩ := except_bind_ok_iff.mp h
    obtain ⟨after2, rfl, h2⟩ := h1.indexAt_iff.mp hkind
    obtain ⟨flags, hflags, h⟩ := except_bind_ok_iff.mp h
    obtain ⟨after3, rfl, h3⟩ := h2.indexAt_iff.mp hflags
    obtain ⟨⟨streamId, cursor⟩, hstream, h⟩ := except_bind_ok_iff.mp h
    obtain ⟨rfl, after4, rfl, h4⟩ := h3.readU32_iff.mp hstream
    obtain ⟨⟨frameIndex, cursor⟩, hindex, h⟩ := except_bind_ok_iff.mp h
    obtain ⟨rfl, after5, rfl, h5⟩ := h4.readU64_iff.mp hindex
    obtain ⟨⟨payloadLen, cursor⟩, hlen, h⟩ := except_bind_ok_iff.mp h
    obtain ⟨rfl, after6, rfl, h6⟩ := h5.readU32_iff.mp hlen
    obtain ⟨hmax, h⟩ := except_bind_unit_ok_iff.mp h
    rw [bailIf_ok_iff, Nat.not_lt] at hmax
    obtain ⟨⟨payloadCrc32, cursor⟩, hcrc, h⟩ := except_bind_ok_iff.mp h
    obtain ⟨rfl, after7, rfl, h7⟩ := h6.readU32_iff.mp hcrc
    obtain ⟨hend, h⟩ := except_bind_unit_ok_iff.mp h
    rw [bailIf_ok_iff, not_not] at hend
    obtain ⟨payload, hpayload, h⟩ := except_bind_ok_iff.mp h
    obtain ⟨hcount, after8, rfl, h8⟩ := h7.slice_iff.mp hpayload
    obtain ⟨hmatch, h⟩ := except_bind_unit_ok_iff.mp h
    rw [bailIf_ok_iff, not_not] at hmatch
    cases h
    -- nothing is left behind the payload
    have hdone := h8.length_eq
    have hnil : after8 = [] := List.length_eq_zero_iff.mp (by omega)
    have hsize : UInt32.ofNat payload.length = payloadLen := by rw [hcount, UInt32.ofNat_toNat]
    refine ⟨by rw [hcount]; exact hmax, ?_⟩
    rw [hbuffer, hsame, hknown, frameBytes, headerBytes, hsize, hmatch, hnil]
    simp
  · intro h
    obtain ⟨hfits, hbuffer⟩ := h
    have hreads := headerReads hbuffer
    have hlen := u32_ofNat_of_le hfits
    have hlength := hreads.unread.length_eq
    have hunread : Unread buffer 28 (frame.payload ++ []) := by
      rw [List.append_nil]
      exact hreads.unread
    obtain ⟨hpayload, _⟩ := hunread.slice
    simp only [decodeBinaryFrame, except_bind_ok_iff]
    refine ⟨(), bailIf_ok_iff.mpr ?_, _, hreads.magic, (), bailIf_ok_iff.mpr (not_not.mpr rfl), _, hreads.version,
      (), bailIf_ok_iff.mpr (not_not.mpr rfl), _, hreads.kind, _, hreads.flags, _, hreads.streamId, _,
      hreads.frameIndex, _, hreads.payloadLen, (), bailIf_ok_iff.mpr ?_, _, hreads.payloadCrc32, (),
      bailIf_ok_iff.mpr ?_, frame.payload, ?_, (), bailIf_ok_iff.mpr (not_not.mpr ?_), rfl⟩
    · rw [hlength, binaryFrameHeaderLen]
      omega
    · rw [hlen]
      omega
    · rw [hlen, hlength]
      simp
    · rw [hlen]
      exact hpayload
    · rfl

theorem noPanic_decodeBinaryFrame (crc32 : List UInt8 → UInt32) (buffer : List UInt8) (maxFrameBytes : UInt32) :
    NoPanic (decodeBinaryFrame crc32 buffer maxFrameBytes) := by
  apply NoPanic.bind (noPanic_bailIf _)
  intro _ hlength
  rw [bailIf_ok_iff, Nat.not_lt, binaryFrameHeaderLen] at hlength
  apply NoPanic.bind (noPanic_sliceRange (by omega) (by omega))
  intro magic _
  apply NoPanic.bind (noPanic_bailIf _)
  intro _ _
  apply NoPanic.bind (noPanic_readU16 _ _)
  intro version hversion
  -- the cursor is known from here on: it stands in the header, which is there
  obtain ⟨hcursor, _⟩ := (Unread.at buffer (by omega)).readU16_iff.mp hversion
  apply NoPanic.bind (noPanic_bailIf _)
  intro _ _
  apply NoPanic.bind (noPanic_indexAt (by omega))
  intro kind _
  apply NoPanic.bind (noPanic_indexAt (by omega))
  intro flags _
  apply NoPanic.bind (noPanic_readU32 _ _)
  intro streamId _
  apply NoPanic.bind (noPanic_readU64 _ _)
  intro frameIndex _
  apply NoPanic.bind (noPanic_readU32 _ _)
  intro payloadLen _
  apply NoPanic.bind (noPanic_bailIf _)
  intro _ _
  apply NoPanic.bind (noPanic_readU32 _ _)
  intro payloadCrc32 _
  apply NoPanic.bind (noPanic_bailIf _)
  intro _ hend
  rw [bailIf_ok_iff, not_not] at hend
  apply NoPanic.bind (noPanic_sliceRange (by omega) (by omega))
  intro payload _
  apply NoPanic.bind (noPanic_bailIf _)
  intro _ _
  exact noPanic_ok _

/-- Encoding and decoding are inverse to each other, and every buffer is decided without a panic. -/
theorem binaryFrame_exact (crc32 : List UInt8 → UInt32) (maxFrameBytes : UInt32) :
    (∀ frame : BinaryFrame, frame.payload.length ≤ maxFrameBytes.toNat →
      ∃ buffer, encodeBinaryFrame crc32 frame maxFrameBytes = .ok buffer ∧
        decodeBinaryFrame crc32 buffer maxFrameBytes = .ok frame) ∧
    (∀ buffer frame, decodeBinaryFrame crc32 buffer maxFrameBytes = .ok frame →
      encodeBinaryFrame crc32 frame maxFrameBytes = .ok buffer) ∧
    ∀ buffer message, decodeBinaryFrame crc32 buffer maxFrameBytes ≠ .error (.panic message) := by
  refine ⟨?_, ?_, ?_⟩
  · intro frame hfits
    exact ⟨frameBytes crc32 frame, encodeBinaryFrame_ok_iff.mpr ⟨hfits, rfl⟩,
      decodeBinaryFrame_ok_iff.mpr ⟨hfits, rfl⟩⟩
  · intro buffer frame h
    exact encodeBinaryFrame_ok_iff.mpr (decodeBinaryFrame_ok_iff.mp h)
  · intro buffer
    exact noPanic_decodeBinaryFrame crc32 buffer maxFrameBytes

end Codec

section Stream

variable (crc32 : List UInt8 → UInt32) (maxFrameBytes : UInt32)

/-- What `send_binary_frame` writes. -/
def sendBinaryFrame (frame : BinaryFrame) : Fallible (List UInt8) := encodeBinaryFrame crc32 frame maxFrameBytes

/-- One `recv_binary_frame` on a stream that arrives in segments, with the stream it leaves. -/
def recvBinaryFrame (stream : List (List UInt8)) : Fallible (BinaryFrame × List (List UInt8)) := do
  let (header, stream) ← contextOption "failed to read binary frame header" (readExact binaryFrameHeaderLen stream)
  let magic ← sliceRange header 0 4
  bailIf (magic ≠ binaryFrameMagic) "invalid binary frame magic"
  let (version, cursor) ← readU16 header 4
  bailIf (version ≠ productionTransportVersion) s!"unsupported binary frame version: {version}"
  -- kind and flags are skipped here
  let (_, cursor) ← readU32 header (cursor + 1 + 1)
  let (_, cursor) ← readU64 header cursor
  let (payloadLen, _) ← readU32 header cursor
  bailIf (maxFrameBytes.toNat < payloadLen.toNat)
    s!"binary frame payload exceeds configured maximum: {payloadLen} > {maxFrameBytes}"
  let (payload, stream) ← contextOption "failed to read binary frame payload" (readExact payloadLen.toNat stream)
  let frame ← decodeBinaryFrame crc32 (header ++ payload) maxFrameBytes
  pure (frame, stream)

variable {crc32 maxFrameBytes} {frame : BinaryFrame}

variable (crc32) in
/-- A header at the start of the stream is read, and then its payload. -/
theorem recvBinaryFrame_header {kind flags : UInt8} {streamId : UInt32} {frameIndex : UInt64}
    {payloadLen payloadCrc32 : UInt32} {stream : List (List UInt8)} {after : List UInt8}
    (hstream : stream.flatten = headerBytes kind flags streamId frameIndex payloadLen payloadCrc32 ++ after)
    (hfits : payloadLen.toNat ≤ maxFrameBytes.toNat) :
    ∃ middle, middle.flatten = after ∧ recvBinaryFrame crc32 maxFrameBytes stream = (do
      let (payload, stream) ← contextOption "failed to read binary frame payload" (readExact payloadLen.toNat middle)
      let frame ← decodeBinaryFrame crc32
        (headerBytes kind flags streamId frameIndex payloadLen payloadCrc32 ++ payload) maxFrameBytes
      pure (frame, stream)) := by
  obtain ⟨middle, hread, hmiddle⟩ := readExact_append hstream
  rw [headerBytes_length] at hread
  have hreads := headerReads (List.append_nil (headerBytes kind flags streamId frameIndex payloadLen
    payloadCrc32)).symm
  refine ⟨middle, hmiddle, ?_⟩
  rw [recvBinaryFrame, except_bind_of_ok (contextOption_ok_iff.mpr hread)]
  dsimp only
  rw [except_bind_of_ok hreads.magic, except_bind_of_ok (bailIf_ok_iff.mpr (not_not.mpr rfl)),
    except_bind_of_ok hreads.version]
  dsimp only
  rw [except_bind_of_ok (bailIf_ok_iff.mpr (not_not.mpr rfl)), except_bind_of_ok hreads.streamId]
  dsimp only
  rw [except_bind_of_ok hreads.frameIndex]
  dsimp only
  rw [except_bind_of_ok hreads.payloadLen]
  dsimp only
  rw [except_bind_of_ok (bailIf_ok_iff.mpr (Nat.not_lt.mpr hfits))]

/-- A frame at the start of the stream is received, and nothing behind it is read. -/
theorem recvBinaryFrame_frame {stream : List (List UInt8)} {after : List UInt8}
    (hfits : frame.payload.length ≤ maxFrameBytes.toNat)
    (hstream : stream.flatten = frameBytes crc32 frame ++ after) :
    ∃ rest, recvBinaryFrame crc32 maxFrameBytes stream = .ok (frame, rest) ∧ rest.flatten = after := by
  have hlen := u32_ofNat_of_le hfits
  rw [frameBytes, List.append_assoc] at hstream
  obtain ⟨middle, hmiddle, hrecv⟩ := recvBinaryFrame_header crc32 hstream (hlen.trans_le hfits)
  obtain ⟨rest, hread, hrest⟩ := readExact_append hmiddle
  have hdecode : decodeBinaryFrame crc32 (frameBytes crc32 frame) maxFrameBytes = .ok frame :=
    decodeBinaryFrame_ok_iff.mpr ⟨hfits, rfl⟩
  rw [frameBytes] at hdecode
  refine ⟨rest, ?_, hrest⟩
  rw [hrecv, hlen, except_bind_of_ok (contextOption_ok_iff.mpr hread)]
  dsimp only
  rw [except_bind_of_ok hdecode]
  rfl

/-- A frame cut short anywhere is an error. -/
theorem recvBinaryFrame_truncated {stream : List (List UInt8)} (hfits : frame.payload.length ≤ maxFrameBytes.toNat)
    (hbegins : stream.flatten <+: frameBytes crc32 frame)
    (hshort : stream.flatten.length < (frameBytes crc32 frame).length) :
    ∃ text, recvBinaryFrame crc32 maxFrameBytes stream = .error (.error text) := by
  have hlen := u32_ofNat_of_le hfits
  by_cases hheader : stream.flatten.length < binaryFrameHeaderLen
  · refine ⟨"failed to read binary frame header", ?_⟩
    rw [recvBinaryFrame, readExact_none hheader]
    rfl
  · rw [frameBytes] at hbegins hshort
    obtain ⟨after, hafter⟩ := List.prefix_of_prefix_length_le (List.prefix_append _ _) hbegins
      (by rw [headerBytes_length]; omega)
    obtain ⟨middle, hmiddle, hrecv⟩ := recvBinaryFrame_header crc32 hafter.symm (hlen.trans_le hfits)
    have hcut : middle.flatten.length < frame.payload.length := by
      rw [← hafter, List.length_append, List.length_append] at hshort
      rw [hmiddle]
      omega
    refine ⟨"failed to read binary frame payload", ?_⟩
    rw [hrecv, hlen, readExact_none hcut]
    rfl

/-- What is received was on the stream as a frame, and the rest is left on it. -/
theorem recvBinaryFrame_ok {stream rest : List (List UInt8)}
    (h : recvBinaryFrame crc32 maxFrameBytes stream = .ok (frame, rest)) :
    frame.payload.length ≤ maxFrameBytes.toNat ∧ stream.flatten = frameBytes crc32 frame ++ rest.flatten := by
  obtain ⟨⟨header, middle⟩, hheader, h⟩ := except_bind_ok_iff.mp h
  obtain ⟨magic, _, h⟩ := except_bind_ok_iff.mp h
  obtain ⟨_, h⟩ := except_bind_unit_ok_iff.mp h
  obtain ⟨version, _, h⟩ := except_bind_ok_iff.mp h
  obtain ⟨_, h⟩ := except_bind_unit_ok_iff.mp h
  obtain ⟨streamId, _, h⟩ := except_bind_ok_iff.mp h
  obtain ⟨frameIndex, _, h⟩ := except_bind_ok_iff.mp h
  obtain ⟨payloadLen, _, h⟩ := except_bind_ok_iff.mp h
  obtain ⟨_, h⟩ := except_bind_unit_ok_iff.mp h
  obtain ⟨⟨payload, after⟩, hpayload, h⟩ := except_bind_ok_iff.mp h
  obtain ⟨found, hdecode, h⟩ := except_bind_ok_iff.mp h
  cases h
  obtain ⟨_, hstream⟩ := readExact_flatten (contextOption_ok_iff.mp hheader)
  obtain ⟨_, hmiddle⟩ := readExact_flatten (contextOption_ok_iff.mp hpayload)
  obtain ⟨hfits, hbytes⟩ := decodeBinaryFrame_ok_iff.mp hdecode
  exact ⟨hfits, by rw [hstream, hmiddle, ← hbytes, List.append_assoc]⟩

theorem receivedAs_sent {output : List UInt8} (h : sendBinaryFrame crc32 maxFrameBytes frame = .ok output) :
    ReceivedAs (recvBinaryFrame crc32 maxFrameBytes) output frame := by
  obtain ⟨hfits, rfl⟩ := encodeBinaryFrame_ok_iff.mp h
  exact ⟨fun _ _ => recvBinaryFrame_frame hfits, fun _ => recvBinaryFrame_truncated hfits⟩

theorem receivedAs_of_mapM {frames : List BinaryFrame} {outputs : List (List UInt8)}
    (h : frames.mapM (sendBinaryFrame crc32 maxFrameBytes) = .ok outputs) :
    List.Forall₂ (ReceivedAs (recvBinaryFrame crc32 maxFrameBytes)) outputs frames := by
  induction frames generalizing outputs with
  | nil =>
    cases h
    exact List.Forall₂.nil
  | cons frame frames ih =>
    rw [List.mapM_cons] at h
    obtain ⟨output, houtput, h⟩ := except_bind_ok_iff.mp h
    obtain ⟨rest, hrest, h⟩ := except_bind_ok_iff.mp h
    cases h
    exact List.Forall₂.cons (receivedAs_sent houtput) (ih hrest)

theorem recvBinaryFrame_end {stream : List (List UInt8)} (h : stream.flatten = []) :
    ∃ text, recvBinaryFrame crc32 maxFrameBytes stream = .error (.error text) := by
  refine ⟨"failed to read binary frame header", ?_⟩
  rw [recvBinaryFrame, readExact_none (by rw [h]; decide)]
  rfl

/-- Receiving from a stream is decoding a prefix of it, so what was sent is received frame by frame, up to
where the stream ends. -/
theorem recvBinaryFrame_agrees (crc32 : List UInt8 → UInt32) (maxFrameBytes : UInt32) :
    (∀ stream frame, (∃ rest, recvBinaryFrame crc32 maxFrameBytes stream = .ok (frame, rest)) ↔
      ∃ front, front <+: stream.flatten ∧ decodeBinaryFrame crc32 front maxFrameBytes = .ok frame) ∧
    (∀ stream frame rest front, recvBinaryFrame crc32 maxFrameBytes stream = .ok (frame, rest) →
      front <+: stream.flatten → decodeBinaryFrame crc32 front maxFrameBytes = .ok frame →
        stream.flatten = front ++ rest.flatten) ∧
    ∀ (frames : List BinaryFrame) outputs, frames.mapM (sendBinaryFrame crc32 maxFrameBytes) = .ok outputs →
      (∀ stream n, stream.flatten = outputs.flatten → frames.length < n → ∃ text,
        receiveMany (recvBinaryFrame crc32 maxFrameBytes) n stream = frames.map .ok ++ [.error (.error text)]) ∧
      ∀ stream n, stream.flatten <+: outputs.flatten → stream.flatten ≠ outputs.flatten → frames.length ≤ n →
        ∃ k text, k < frames.length ∧ (outputs.take k).flatten <+: stream.flatten ∧
          ¬(outputs.take (k + 1)).flatten <+: stream.flatten ∧
          receiveMany (recvBinaryFrame crc32 maxFrameBytes) n stream =
            (frames.take k).map .ok ++ [.error (.error text)] := by
  refine ⟨?_, ?_, ?_⟩
  · intro stream frame
    constructor
    · intro h
      obtain ⟨rest, hrecv⟩ := h
      obtain ⟨hfits, hstream⟩ := recvBinaryFrame_ok hrecv
      exact ⟨frameBytes crc32 frame, ⟨rest.flatten, hstream.symm⟩, decodeBinaryFrame_ok_iff.mpr ⟨hfits, rfl⟩⟩
    · intro h
      obtain ⟨front, ⟨after, hafter⟩, hdecode⟩ := h
      obtain ⟨hfits, rfl⟩ := decodeBinaryFrame_ok_iff.mp hdecode
      obtain ⟨rest, hrecv, _⟩ := recvBinaryFrame_frame hfits hafter.symm
      exact ⟨rest, hrecv⟩
  · intro stream frame rest front hrecv _ hdecode
    obtain ⟨_, hstream⟩ := recvBinaryFrame_ok hrecv
    rw [hstream, (decodeBinaryFrame_ok_iff.mp hdecode).2]
  · intro frames outputs hsent
    have hreceived := receivedAs_of_mapM hsent
    refine ⟨?_, ?_⟩
    · intro stream n hstream hn
      exact receiveMany_end hreceived hstream (fun _ => recvBinaryFrame_end) hn
    · intro stream n hbegins hne hn
      obtain ⟨text, htext⟩ := receiveMany_cut hreceived hbegins hne hn
      obtain ⟨hcount, hwhole, hpart⟩ := wholeFrames_of_prefix hbegins hne
      exact ⟨_, text, hreceived.length_eq ▸ hcount, hwhole, hpart, htext⟩

end Stream

section Validator

/-- The frames of one session that were taken already, by stream and index. -/
structure BinaryFrameValidator where
  maxFrameBytes : UInt32
  seenFrames : Finset (UInt32 × UInt64)
  deriving DecidableEq

def BinaryFrameValidator.new (maxFrameBytes : UInt32) : BinaryFrameValidator := ⟨maxFrameBytes, ∅⟩

def BinaryFrame.key (frame : BinaryFrame) : UInt32 × UInt64 := (frame.streamId, frame.frameIndex)

def BinaryFrameValidator.accept (validator : BinaryFrameValidator) (frame : BinaryFrame) :
    Fallible Unit × BinaryFrameValidator :=
  if validator.maxFrameBytes.toNat < frame.payload.length then
    (bail s!"binary frame payload exceeds configured maximum: {frame.payload.length} > {validator.maxFrameBytes}",
      validator)
  else
    -- `HashSet::insert` reports whether the key is new, and inserts it before that is asked
    let isNew := frame.key ∉ validator.seenFrames
    let validator := { validator with seenFrames := insert frame.key validator.seenFrames }
    if isNew then (pure (), validator)
    else (bail s!"duplicate binary frame rejected: stream_id={frame.streamId}, frame_index={frame.frameIndex}",
      validator)

/-- A whole session: what each frame is answered, and the validator behind the last one. -/
def BinaryFrameValidator.acceptAll (validator : BinaryFrameValidator) :
    List BinaryFrame → List (Fallible Unit) × BinaryFrameValidator
  | [] => ([], validator)
  | frame :: frames =>
    let (outcome, validator) := validator.accept frame
    let (outcomes, validator) := validator.acceptAll frames
    (outcome :: outcomes, validator)

variable {validator : BinaryFrameValidator} {frame : BinaryFrame}

/-- The three answers of the validator. -/
theorem accept_cases (validator : BinaryFrameValidator) (frame : BinaryFrame) :
    (validator.maxFrameBytes.toNat < frame.payload.length ∧
      ∃ text, validator.accept frame = (.error (.error text), validator)) ∨
    (frame.payload.length ≤ validator.maxFrameBytes.toNat ∧ frame.key ∈ validator.seenFrames ∧
      ∃ text, validator.accept frame = (.error (.error text), validator)) ∨
    (frame.payload.length ≤ validator.maxFrameBytes.toNat ∧ frame.key ∉ validator.seenFrames ∧
      validator.accept frame =
        (.ok (), { validator with seenFrames := insert frame.key validator.seenFrames })) := by
  unfold BinaryFrameValidator.accept
  by_cases hfits : validator.maxFrameBytes.toNat < frame.payload.length
  · rw [if_pos hfits]
    exact Or.inl ⟨hfits, _, rfl⟩
  · rw [if_neg hfits]
    by_cases hseen : frame.key ∈ validator.seenFrames
    · refine Or.inr (Or.inl ⟨Nat.le_of_not_lt hfits, hseen, ?_⟩)
      simp only [if_neg (not_not.mpr hseen), Finset.insert_eq_of_mem hseen]
      exact ⟨_, rfl⟩
    · refine Or.inr (Or.inr ⟨Nat.le_of_not_lt hfits, hseen, ?_⟩)
      simp only [if_pos hseen]
      rfl

theorem accept_fst_ok_iff : (validator.accept frame).1 = .ok () ↔
    frame.payload.length ≤ validator.maxFrameBytes.toNat ∧ frame.key ∉ validator.seenFrames := by
  obtain ⟨hlarge, text, h⟩ | ⟨_, hseen, text, h⟩ | ⟨hfits, hnew, h⟩ := accept_cases validator frame
  · rw [h]
    exact iff_of_false (fun h => by cases h) fun h => absurd h.1 (Nat.not_le.mpr hlarge)
  · rw [h]
    exact iff_of_false (fun h => by cases h) fun h => h.2 hseen
  · rw [h]
    exact iff_of_true rfl ⟨hfits, hnew⟩

theorem accept_snd_of_rejected (h : (validator.accept frame).1 ≠ .ok ()) :
    (validator.accept frame).2 = validator := by
  obtain ⟨_, text, haccept⟩ | ⟨_, _, text, haccept⟩ | ⟨_, _, haccept⟩ := accept_cases validator frame
  · rw [haccept]
  · rw [haccept]
  · rw [haccept] at h
    exact absurd rfl h

theorem accept_snd_maxFrameBytes : (validator.accept frame).2.maxFrameBytes = validator.maxFrameBytes := by
  obtain ⟨_, text, h⟩ | ⟨_, _, text, h⟩ | ⟨_, _, h⟩ := accept_cases validator frame <;> rw [h]

/-- Only a frame within the limit leaves its key behind. -/
theorem mem_accept_snd_iff {key : UInt32 × UInt64} : key ∈ (validator.accept frame).2.seenFrames ↔
    key ∈ validator.seenFrames ∨ frame.payload.length ≤ validator.maxFrameBytes.toNat ∧ frame.key = key := by
  obtain ⟨hlarge, text, h⟩ | ⟨_, hseen, text, h⟩ | ⟨hfits, _, h⟩ := accept_cases validator frame
  · rw [h]
    exact ⟨Or.inl, fun h => h.resolve_right fun h => absurd h.1 (Nat.not_le.mpr hlarge)⟩
  · rw [h]
    refine ⟨Or.inl, ?_⟩
    rintro (hkey | ⟨_, rfl⟩)
    · exact hkey
    · exact hseen
  · rw [h, Finset.mem_insert, and_iff_right hfits, or_comm, eq_comm]

theorem acceptAll_cons (validator : BinaryFrameValidator) (frame : BinaryFrame) (frames : List BinaryFrame) :
    validator.acceptAll (frame :: frames) =
      ((validator.accept frame).1 :: ((validator.accept frame).2.acceptAll frames).1,
        ((validator.accept frame).2.acceptAll frames).2) := rfl

theorem acceptAll_append (validator : BinaryFrameValidator) (front frames : List BinaryFrame) :
    validator.acceptAll (front ++ frames) =
      ((validator.acceptAll front).1 ++ ((validator.acceptAll front).2.acceptAll frames).1,
        ((validator.acceptAll front).2.acceptAll frames).2) := by
  induction front generalizing validator with
  | nil => rfl
  | cons frame front ih => rw [List.cons_append, acceptAll_cons, acceptAll_cons, ih, List.cons_append]

theorem acceptAll_fst_length (validator : BinaryFrameValidator) (frames : List BinaryFrame) :
    (validator.acceptAll frames).1.length = frames.length := by
  induction frames generalizing validator with
  | nil => rfl
  | cons frame frames ih => rw [acceptAll_cons, List.length_cons, List.length_cons, ih]

theorem acceptAll_snd_maxFrameBytes (validator : BinaryFrameValidator) (frames : List BinaryFrame) :
    (validator.acceptAll frames).2.maxFrameBytes = validator.maxFrameBytes := by
  induction frames generalizing validator with
  | nil => rfl
  | cons frame frames ih => rw [acceptAll_cons, ih, accept_snd_maxFrameBytes]

/-- The keys seen behind a session are those of its frames within the limit. -/
theorem mem_acceptAll_snd_iff {validator : BinaryFrameValidator} {frames : List BinaryFrame}
    {key : UInt32 × UInt64} : key ∈ (validator.acceptAll frames).2.seenFrames ↔
      key ∈ validator.seenFrames ∨
        ∃ frame ∈ frames, frame.payload.length ≤ validator.maxFrameBytes.toNat ∧ frame.key = key := by
  induction frames generalizing validator with
  | nil => simp [BinaryFrameValidator.acceptAll]
  | cons frame frames ih =>
    rw [acceptAll_cons, ih, mem_accept_snd_iff, accept_snd_maxFrameBytes, or_assoc]
    simp only [List.mem_cons, exists_eq_or_imp]

/-- In every session, a frame is accepted exactly if it is within the limit and the first such frame of its
stream and index; a rejected one changes nothing. -/
theorem acceptAll_accepts_first (maxFrameBytes : UInt32) (front : List BinaryFrame) (frame : BinaryFrame) :
    (∀ back, ((BinaryFrameValidator.new maxFrameBytes).acceptAll (front ++ frame :: back)).1[front.length]? =
        some (.ok ()) ↔
      frame.payload.length ≤ maxFrameBytes.toNat ∧
        ∀ earlier ∈ front, earlier.payload.length ≤ maxFrameBytes.toNat →
          (earlier.streamId, earlier.frameIndex) ≠ (frame.streamId, frame.frameIndex)) ∧
    (((BinaryFrameValidator.new maxFrameBytes).acceptAll (front ++ [frame])).1[front.length]? ≠ some (.ok ()) →
      ((BinaryFrameValidator.new maxFrameBytes).acceptAll (front ++ [frame])).2 =
        ((BinaryFrameValidator.new maxFrameBytes).acceptAll front).2) := by
  have houtcome : ∀ back, ((BinaryFrameValidator.new maxFrameBytes).acceptAll
      (front ++ frame :: back)).1[front.length]? =
        some ((((BinaryFrameValidator.new maxFrameBytes).acceptAll front).2.accept frame).1) := by
    intro back
    rw [acceptAll_append, List.getElem?_append_right (acceptAll_fst_length _ _).le, acceptAll_fst_length,
      Nat.sub_self]
    rfl
  constructor
  · intro back
    rw [houtcome, Option.some_inj, accept_fst_ok_iff, acceptAll_snd_maxFrameBytes, mem_acceptAll_snd_iff]
    refine and_congr_right fun _ => ?_
    constructor
    · intro h earlier hearlier hfits hkey
      exact h (Or.inr ⟨earlier, hearlier, hfits, hkey⟩)
    · intro h hseen
      obtain hseen | ⟨earlier, hearlier, hfits, hkey⟩ := hseen
      · exact absurd hseen (Finset.notMem_empty _)
      · exact h earlier hearlier hfits hkey
  · intro hrejected
    rw [houtcome, Ne, Option.some_inj] at hrejected
    rw [acceptAll_append]
    exact accept_snd_of_rejected hrejected

end Validator

end PermeantOS
