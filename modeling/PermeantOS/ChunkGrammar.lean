import PermeantOS.Reading

namespace PermeantOS

theorem fromUtf8_eq_some_iff {bytes : List UInt8} {s : String} : fromUtf8 bytes = some s ↔ asBytes s = bytes := by
  constructor
  · intro h
    rw [fromUtf8, String.fromUTF8?] at h
    split at h
    next =>
      obtain rfl := Option.some.inj h
      rfl
    next => cases h
  · intro h
    rw [← h, fromUtf8_asBytes]

section Grammar

variable (json : MessageJson)

/-- The end of a chunk: nothing, or a length and exactly as many bytes of codec metadata. -/
def SpellsCodec (tail : List UInt8) : Option PayloadCodecMetadata → Prop
  | none => tail = []
  | some codec => ∃ (codecLen : UInt32) (codecBytes : List UInt8), tail = u32ToBeBytes codecLen ++ codecBytes ∧
      codecBytes.length = codecLen.toNat ∧ json.codecFromSlice codecBytes = .ok codec

/-- The frame bodies that spell a chunk. -/
def SpellsChunk (body : List UInt8) (chunk : PayloadChunk) : Prop :=
  ∃ (nameLen dataLen : UInt32) (name tail : List UInt8),
    body = u32ToBeBytes chunk.chunkIndex ++ (u32ToBeBytes chunk.layerIndex ++ (u32ToBeBytes nameLen ++ (name ++
      (u32ToBeBytes chunk.crc32 ++ (u32ToBeBytes dataLen ++ (chunk.data ++ tail)))))) ∧
    name.length = nameLen.toNat ∧ fromUtf8 name = some chunk.tensorName ∧
    chunk.data.length = dataLen.toNat ∧ SpellsCodec json tail chunk.codec

variable {json} {buffer rest : List UInt8} {cursor : Nat}

theorem Unread.done_iff {α : Type} {xs rest : List α} {cursor : Nat} (h : Unread xs cursor rest) :
    cursor = xs.length ↔ rest = [] := by
  have hlength := h.length_eq
  rw [← List.length_eq_zero_iff]
  omega

theorem Unread.decodeChunkCodec_iff {codec : Option PayloadCodecMetadata} (h : Unread buffer cursor rest) :
    decodeChunkCodec json buffer cursor = .ok codec ↔ SpellsCodec json rest codec := by
  unfold decodeChunkCodec
  by_cases hdone : cursor = buffer.length
  · have hrest := h.done_iff.mp hdone
    rw [if_pos hdone]
    cases codec with
    | none => exact iff_of_true rfl hrest
    | some codec =>
      refine iff_of_false (fun h => by cases h) ?_
      rintro ⟨codecLen, codecBytes, htail, -⟩
      have hlength := congrArg List.length (hrest.symm.trans htail)
      rw [List.length_nil, List.length_append, u32ToBeBytes_length] at hlength
      omega
  · rw [if_neg hdone, except_bind_ok_iff]
    constructor
    · rintro ⟨⟨codecLen, next⟩, hread, hcodec⟩
      obtain ⟨rfl, after, hrest, hafter⟩ := h.readU32_iff.mp hread
      obtain ⟨hend, hcodec⟩ := except_bind_unit_ok_iff.mp hcodec
      obtain ⟨codecBytes, hslice, hcodec⟩ := except_bind_ok_iff.mp hcodec
      obtain ⟨found, hfound, hcodec⟩ := except_bind_ok_iff.mp hcodec
      cases hcodec
      obtain ⟨hlength, last, hlast, hunread⟩ := hafter.slice_iff.mp hslice
      rw [bailIf_ok_iff, not_not] at hend
      obtain rfl := hunread.done_iff.mp hend
      rw [List.append_nil] at hlast
      exact ⟨codecLen, codecBytes, by rw [hrest, hlast], hlength, context_ok_iff.mp hfound⟩
    · intro htail
      cases codec with
      | none => exact absurd (h.done_iff.mpr htail) hdone
      | some codec =>
        obtain ⟨codecLen, codecBytes, rfl, hlength, hfound⟩ := htail
        obtain ⟨hread, hafter⟩ := readU32_unread h
        have hall : Unread buffer (cursor + 4) (codecBytes ++ []) := by rwa [List.append_nil]
        obtain ⟨hslice, hdone⟩ := hall.slice
        rw [hlength] at hslice hdone
        refine ⟨_, hread, except_bind_unit_ok_iff.mpr ⟨bailIf_ok_iff.mpr ?_, ?_⟩⟩
        · exact not_not.mpr (hdone.done_iff.mpr rfl)
        · exact except_bind_ok_iff.mpr ⟨_, hslice, except_bind_ok_iff.mpr ⟨_, context_ok_iff.mpr hfound, rfl⟩⟩

theorem noPanic_decodeChunkCodec (hjson : ∀ bytes, NoPanic (json.codecFromSlice bytes)) :
    NoPanic (decodeChunkCodec json buffer cursor) := by
  unfold decodeChunkCodec
  split
  next => exact noPanic_ok _
  next =>
    apply NoPanic.bind (noPanic_readU32 _ _)
    intro codecLen hread
    apply NoPanic.bind (noPanic_bailIf _)
    intro _ hend
    rw [bailIf_ok_iff, not_not] at hend
    apply NoPanic.bind (noPanic_sliceRange (by omega) (by omega))
    intro codecBytes _
    apply NoPanic.bind ((hjson _).context _)
    intro codec _
    exact noPanic_ok _

/-- A body is taken as a chunk exactly if it spells one. -/
theorem decodePayloadChunk_ok_iff {body : List UInt8} {msg : MigrationMessage} :
    decodePayloadChunk json body = .ok msg ↔ ∃ chunk, msg = .payloadChunk chunk ∧ SpellsChunk json body chunk := by
  have h0 := Unread.start body
  constructor
  · intro h
    obtain ⟨⟨chunkIndex, next⟩, hread, h⟩ := except_bind_ok_iff.mp h
    obtain ⟨-, after1, hbody, h1⟩ := h0.readU32_iff.mp hread
    obtain ⟨⟨layerIndex, next⟩, hread, h⟩ := except_bind_ok_iff.mp h
    obtain ⟨-, after2, rfl, h2⟩ := h1.readU32_iff.mp hread
    obtain ⟨⟨nameLen, next⟩, hread, h⟩ := except_bind_ok_iff.mp h
    obtain ⟨-, after3, rfl, h3⟩ := h2.readU32_iff.mp hread
    obtain ⟨-, h⟩ := except_bind_unit_ok_iff.mp h
    obtain ⟨name, hslice, h⟩ := except_bind_ok_iff.mp h
    obtain ⟨hname, after4, rfl, h4⟩ := h3.slice_iff.mp hslice
    obtain ⟨tensorName, htext, h⟩ := except_bind_ok_iff.mp h
    obtain ⟨⟨crc32, next⟩, hread, h⟩ := except_bind_ok_iff.mp h
    obtain ⟨-, after5, rfl, h5⟩ := h4.readU32_iff.mp hread
    obtain ⟨⟨dataLen, next⟩, hread, h⟩ := except_bind_ok_iff.mp h
    obtain ⟨-, after6, rfl, h6⟩ := h5.readU32_iff.mp hread
    obtain ⟨-, h⟩ := except_bind_unit_ok_iff.mp h
    obtain ⟨codec, hcodec, h⟩ := except_bind_ok_iff.mp h
    obtain ⟨data, hslice, h⟩ := except_bind_ok_iff.mp h
    obtain ⟨hdata, tail, rfl, h7⟩ := h6.slice_iff.mp hslice
    cases h
    exact ⟨_, rfl, nameLen, dataLen, name, tail, hbody, hname, contextOption_ok_iff.mp htext, hdata,
      h7.decodeChunkCodec_iff.mp hcodec⟩
  · intro h
    obtain ⟨chunk, rfl, nameLen, dataLen, name, tail, hbody, hname, htext, hdata, hcodec⟩ := h
    nth_rewrite 2 [hbody] at h0
    obtain ⟨r1, h1⟩ := readU32_unread h0
    obtain ⟨r2, h2⟩ := readU32_unread h1
    obtain ⟨r3, h3⟩ := readU32_unread h2
    obtain ⟨s4, h4⟩ := h3.slice
    obtain ⟨r5, h5⟩ := readU32_unread h4
    obtain ⟨r6, h6⟩ := readU32_unread h5
    obtain ⟨s7, h7⟩ := h6.slice
    rw [hname] at s4 h4 r5 h5 r6 h6 s7 h7
    rw [hdata] at s7 h7
    simp only [decodePayloadChunk, except_bind_ok_iff]
    exact ⟨_, r1, _, r2, _, r3, (), bailIf_ok_iff.mpr (Nat.not_lt.mpr h4.1), _, s4, _,
      contextOption_ok_iff.mpr htext, _, r5, _, r6, (), bailIf_ok_iff.mpr (Nat.not_lt.mpr h7.1), _,
      h7.decodeChunkCodec_iff.mpr hcodec, _, s7, rfl⟩

/-- No body makes the parser read past its end. -/
theorem noPanic_decodePayloadChunk (hjson : ∀ bytes, NoPanic (json.codecFromSlice bytes)) (body : List UInt8) :
    NoPanic (decodePayloadChunk json body) := by
  apply NoPanic.bind (noPanic_readU32 _ _)
  intro chunkIndex _
  apply NoPanic.bind (noPanic_readU32 _ _)
  intro layerIndex _
  apply NoPanic.bind (noPanic_readU32 _ _)
  intro nameLen _
  apply NoPanic.bind (noPanic_bailIf _)
  intro _ hname
  rw [bailIf_ok_iff] at hname
  apply NoPanic.bind (noPanic_sliceRange (by omega) (by omega))
  intro name _
  apply NoPanic.bind (noPanic_contextOption _ _)
  intro tensorName _
  apply NoPanic.bind (noPanic_readU32 _ _)
  intro crc32 _
  apply NoPanic.bind (noPanic_readU32 _ _)
  intro dataLen _
  apply NoPanic.bind (noPanic_bailIf _)
  intro _ hdata
  rw [bailIf_ok_iff] at hdata
  apply NoPanic.bind (noPanic_decodeChunkCodec hjson)
  intro codec _
  apply NoPanic.bind (noPanic_sliceRange (by omega) (by omega))
  intro data _
  exact noPanic_ok _

theorem decodeMessage_payloadChunk (json : MessageJson) (body : List UInt8) :
    decodeMessage json (frameKindPayloadChunk :: body) = decodePayloadChunk json body := rfl

/-- Without codec metadata a chunk has one encoding. -/
theorem SpellsChunk.eq_chunkBody {body : List UInt8} {chunk : PayloadChunk} (h : SpellsChunk json body chunk)
    (hcodec : chunk.codec = none) : chunkBody chunk none = body := by
  obtain ⟨nameLen, dataLen, name, tail, rfl, hname, htext, hdata, htail⟩ := h
  rw [hcodec] at htail
  obtain rfl : tail = [] := htail
  obtain rfl := fromUtf8_eq_some_iff.mp htext
  rw [chunkBody, codecSection, hname, hdata, UInt32.ofNat_toNat, UInt32.ofNat_toNat]
  simp only [List.append_assoc]

/-- Every buffer of the payload kind is decided by the grammar of chunks, without a read out of range. -/
theorem decodeMessage_chunk_exact (json : MessageJson) (hjson : ∀ bytes, NoPanic (json.codecFromSlice bytes))
    (body : List UInt8) :
    (∀ message, decodeMessage json (frameKindPayloadChunk :: body) ≠ .error (.panic message)) ∧
    (∀ msg, decodeMessage json (frameKindPayloadChunk :: body) = .ok msg ↔
      ∃ chunk, msg = .payloadChunk chunk ∧ SpellsChunk json body chunk) ∧
    ∀ chunk, decodeMessage json (frameKindPayloadChunk :: body) = .ok (.payloadChunk chunk) → chunk.codec = none →
      encodeMessage json (.payloadChunk chunk) = .ok (frameKindPayloadChunk :: body) := by
  rw [decodeMessage_payloadChunk]
  refine ⟨noPanic_decodePayloadChunk hjson body, fun _ => decodePayloadChunk_ok_iff, ?_⟩
  intro chunk hdecode hcodec
  obtain ⟨found, heq, hspells⟩ := decodePayloadChunk_ok_iff.mp hdecode
  cases heq
  rw [encodeMessage, hcodec, ← hspells.eq_chunkBody hcodec]
  rfl

/-- One float of the key of layer 2, with its codec metadata. -/
def qatqChunk : PayloadChunk :=
  ⟨1, 2, "layer.2.key", some ⟨"qatq", "raw-f32le-pass-through", none, 4⟩, [0, 0, 128, 63], 0xaca16a6a⟩

def qatqCodecBytes : List UInt8 :=
  asBytes "\x7b\"transfer_codec\":\"qatq\",\"storage\":\"raw-f32le-pass-through\",\"raw_f32le_len\":4\x7d"

theorem qatqChunk_spelled : SpellsChunk commitJson (chunkBody qatqChunk (some qatqCodecBytes)) qatqChunk := by
  refine ⟨UInt32.ofNat (asBytes "layer.2.key").length, 4, asBytes "layer.2.key", codecSection (some qatqCodecBytes),
    ?_, rfl, fromUtf8_asBytes _, rfl, UInt32.ofNat qatqCodecBytes.length, qatqCodecBytes, rfl, rfl, ?_⟩
  · simp only [chunkBody, List.append_assoc]
    rfl
  · exact commitJson_roundTrips.codec _ _ rfl

theorem qatqChunk_decodes : (∀ bytes, NoPanic (commitJson.codecFromSlice bytes)) ∧
    decodeMessage commitJson (frameKindPayloadChunk :: chunkBody qatqChunk (some qatqCodecBytes)) =
      .ok (.payloadChunk qatqChunk) := by
  have hjson : ∀ bytes, NoPanic (commitJson.codecFromSlice bytes) := by
    intro bytes
    unfold commitJson
    dsimp only
    split
    next => exact noPanic_ok _
    next => exact noPanic_bail _
  exact ⟨hjson, ((decodeMessage_chunk_exact commitJson hjson _).2.1 _).mpr ⟨_, rfl, qatqChunk_spelled⟩⟩

end Grammar

end PermeantOS
