import PermeantOS.Reading
import PermeantOS.SessionAtomicity
import PermeantOS.StagingCells

namespace PermeantOS

section Words

theorem lt_four_of_short {bytes : List UInt8} (h : ∀ a b c d rest, bytes = a :: b :: c :: d :: rest → False) :
    bytes.length < 4 := by
  rcases bytes with _ | ⟨a, _ | ⟨b, _ | ⟨c, _ | ⟨d, rest⟩⟩⟩⟩
  all_goals try simp
  exact (h a b c d rest rfl).elim

theorem chunksExactFour_length (bytes : List UInt8) : (chunksExactFour bytes).length = bytes.length / 4 := by
  induction bytes using chunksExactFour.induct with
  | case1 a b c d rest ih =>
    rw [chunksExactFour, List.length_cons, ih]
    simp only [List.length_cons]
    omega
  | case2 bytes hshort =>
    rw [chunksExactFour.eq_2 bytes hshort, Nat.div_eq_of_lt (lt_four_of_short hshort)]
    rfl

/-- Words read from whole groups of four bytes are written back as these bytes. -/
theorem flatMap_chunksExactFour {encode : F32 → List UInt8} {decode : List UInt8 → F32}
    (hinv : ∀ word : List UInt8, word.length = 4 → encode (decode word) = word) {bytes : List UInt8}
    (h : 4 ∣ bytes.length) : ((chunksExactFour bytes).map decode).flatMap encode = bytes := by
  induction bytes using chunksExactFour.induct with
  | case1 a b c d rest ih =>
    have hrest : 4 ∣ rest.length := by
      simp only [List.length_cons] at h
      omega
    rw [chunksExactFour, List.map_cons, List.flatMap_cons, hinv _ rfl, ih hrest]
    rfl
  | case2 bytes hshort =>
    have hlt := lt_four_of_short hshort
    obtain rfl := List.length_eq_zero_iff.mp (Nat.eq_zero_of_dvd_of_lt h hlt)
    rfl

theorem f32ToBeBytes_fromBeBytes (word : List UInt8) (h : word.length = 4) :
    f32ToBeBytes (f32FromBeBytes word : F32) = word := u32ToBeBytes_fromBeBytes h

theorem f32ToLeBytes_fromLeBytes (word : List UInt8) (h : word.length = 4) :
    f32ToLeBytes (f32FromLeBytes word : F32) = word := by
  have hreverse : word.reverse.length = 4 := by rw [List.length_reverse, h]
  have hback := u32ToBeBytes_fromBeBytes hreverse
  show (u32ToBeBytes (u32FromBeBytes word.reverse)).reverse = word
  rw [hback, List.reverse_reverse]

end Words

section Qatq

variable {qatq : Qatq F32} {codec : PayloadCodecMetadata} {data : List UInt8} {values : List F32} {count : Usize}

/-- The payload spells the values in the storage that its codec metadata names. -/
def QatqSpells (qatq : Qatq F32) (codec : PayloadCodecMetadata) (data : List UInt8) (values : List F32) : Prop :=
  codec.storage = qatqExactF32leStorage ∧ qatq.decodeExactTensorLe data = .ok ⟨true, values.flatMap f32ToLeBytes⟩ ∨
  codec.storage = qatqPhase2Storage ∧ qatq.decode data = .ok values ∨
  codec.storage = rawF32lePassThroughStorage ∧ data = values.flatMap f32ToLeBytes

theorem four_dvd_mul_four (count : Usize) : 4 ∣ (count * 4).toNat := by
  rw [UInt64.toNat_mul]
  exact (Nat.dvd_mod_iff (by norm_num)).mpr ⟨count.toNat, by simp [Nat.mul_comm]⟩

theorem qatqSpells_of_decode (h : decodeQatqPhase2Transfer qatq codec.storage data count = .ok values) :
    QatqSpells qatq codec data values := by
  unfold decodeQatqPhase2Transfer at h
  split at h
  next hstorage =>
    obtain ⟨decoded, hdecode, h⟩ := except_bind_ok_iff.mp h
    obtain ⟨hdtype, h⟩ := except_bind_unit_ok_iff.mp h
    obtain ⟨hlength, h⟩ := except_bind_unit_ok_iff.mp h
    cases h
    rw [bailIf_ok_iff, Bool.not_eq_false] at hdtype
    rw [bailIf_ok_iff, not_not] at hlength
    have hdvd : 4 ∣ decoded.bytesLe.length := hlength ▸ four_dvd_mul_four count
    refine Or.inl ⟨hstorage, ?_⟩
    rw [mapErr_ok_iff.mp hdecode, flatMap_chunksExactFour f32ToLeBytes_fromLeBytes hdvd, ← hdtype]
  next =>
    split at h
    next hstorage =>
      obtain ⟨decoded, hdecode, h⟩ := except_bind_ok_iff.mp h
      obtain ⟨_, h⟩ := except_bind_unit_ok_iff.mp h
      cases h
      exact Or.inr (Or.inl ⟨hstorage, mapErr_ok_iff.mp hdecode⟩)
    next =>
      split at h
      next hstorage =>
        obtain ⟨hlength, h⟩ := except_bind_unit_ok_iff.mp h
        cases h
        rw [bailIf_ok_iff, not_not] at hlength
        have hdvd : 4 ∣ data.length := hlength ▸ four_dvd_mul_four count
        exact Or.inr (Or.inr ⟨hstorage, (flatMap_chunksExactFour f32ToLeBytes_fromLeBytes hdvd).symm⟩)
      next => cases h

theorem qatqSpells_of_decodePayload {codec : Option PayloadCodecMetadata}
    (h : decodePayload qatq (some "qatq") codec data count = .ok values) :
    ∃ metadata, codec = some metadata ∧ metadata.transferCodec = "qatq" ∧ QatqSpells qatq metadata data values := by
  rw [decodePayload, if_neg (by decide), if_pos rfl] at h
  obtain ⟨metadata, hcodec, h⟩ := except_bind_ok_iff.mp h
  obtain ⟨htransfer, h⟩ := except_bind_unit_ok_iff.mp h
  rw [bailIf_ok_iff, not_not] at htransfer
  refine ⟨metadata, contextOption_ok_iff.mp hcodec, htransfer, ?_⟩
  split at h
  next => exact qatqSpells_of_decode h
  next => cases h

end Qatq

section Acknowledged

/-- What every acknowledged chunk leaves behind: a whole block, which its payload spells. -/
theorem acknowledged_payload (host : Host F32) (header : UsxfHeader) (staging next : Staging F32)
    (msg : MigrationMessage) (chunkIndex : UInt32)
    (h : stageMessage host header staging msg = .ok (chunkIndex, next)) :
    ∃ chunk hash tensor, msg = .payloadChunk chunk ∧ chunkIndex = chunk.chunkIndex ∧
      header.blockHashes[chunk.chunkIndex.toNat]? = some hash ∧
      cell next.accumulatedBlocks hash chunk.tensorName = some tensor ∧
      tensor.data.length = (blockFloatCount header chunk.tensorName).toNat ∧
      (header.transferQuantization = none → 4 ∣ chunk.data.length →
        chunk.data.length = 4 * (blockFloatCount header chunk.tensorName).toNat ∧
          tensor.data.flatMap f32ToBeBytes = chunk.data) ∧
      (header.transferQuantization.map (·.scheme) = some "qatq" →
        ∃ codec, chunk.codec = some codec ∧ codec.transferCodec = "qatq" ∧
          QatqSpells host.qatq codec chunk.data tensor.data) := by
  obtain ⟨chunk, rfl, _, hstage, rfl⟩ := stageMessage_ok_iff.mp h
  obtain ⟨hash, data, hposition, hdecode, hlength, rfl⟩ := stageChunk_ok_iff.mp hstage
  refine ⟨chunk, hash, ⟨data, blockShape header chunk.tensorName⟩, rfl, rfl, hposition.block,
    cell_stageTensor_self _ _ _ _, hlength, ?_, ?_⟩
  · intro hplain hdvd
    rw [hplain] at hdecode
    cases hdecode
    rw [List.length_map, chunksExactFour_length] at hlength
    exact ⟨by omega, flatMap_chunksExactFour f32ToBeBytes_fromBeBytes hdvd⟩
  · intro hscheme
    rw [hscheme] at hdecode
    exact qatqSpells_of_decodePayload hdecode

/-- The first chunk of the one-token header, with any payload. -/
def firstChunk (codec : Option PayloadCodecMetadata) (data : List UInt8) : PayloadChunk :=
  ⟨0, 0, keyName 0, codec, data, crc32Ieee data⟩

def qatqTokenHeader : UsxfHeader := { oneTokenHeader "test" with transferQuantization := some ⟨"qatq", none⟩ }

theorem firstChunk_acknowledged {header : UsxfHeader} {codec : Option PayloadCodecMetadata} {data : List UInt8}
    {values : List F32} (hblocks : header.blockHashes = [repeatedDigest '9'])
    (hlayers : header.modelCacheSpec.nLayers = 1)
    (hdecode : decodePayload Qatq.stored (header.transferQuantization.map (·.scheme)) codec data
      (blockFloatCount header (keyName 0)) = .ok values)
    (hlength : values.length = (blockFloatCount header (keyName 0)).toNat) :
    ∃ next : Staging F32, stageMessage testRecording.host header Staging.empty (.payloadChunk (firstChunk codec data)) =
      .ok (0, next) := by
  refine ⟨_, stageMessage_ok_iff.mpr ⟨firstChunk codec data, rfl, rfl,
    stageChunk_ok_iff.mpr ⟨repeatedDigest '9', values, ⟨?_, ?_, Or.inl rfl, ?_⟩, hdecode, hlength, rfl⟩, rfl⟩⟩
  · rw [hblocks]
    rfl
  · rw [hlayers]
    exact Nat.zero_lt_one
  · simp [Staging.empty]

theorem wholeBlock_acknowledged : ∃ next : Staging F32,
    stageMessage testRecording.host (oneTokenHeader "test") Staging.empty
      (.payloadChunk (firstChunk none (List.replicate 16 0))) = .ok (0, next) ∧
    ∃ tensor, cell next.accumulatedBlocks (repeatedDigest '9') (keyName 0) = some tensor ∧
      tensor.data.flatMap f32ToBeBytes = List.replicate 16 0 := by
  obtain ⟨next, hnext⟩ : ∃ next : Staging F32, stageMessage testRecording.host (oneTokenHeader "test") Staging.empty
      (.payloadChunk (firstChunk none (List.replicate 16 0))) = .ok (0, next) :=
    firstChunk_acknowledged rfl rfl rfl rfl
  refine ⟨next, hnext, ?_⟩
  obtain ⟨chunk, hash, tensor, hchunk, _, hhash, hcell, _, hplain, _⟩ := acknowledged_payload _ _ _ _ _ _ hnext
  cases hchunk
  cases hhash
  exact ⟨tensor, hcell, (hplain rfl (by decide)).2⟩

/-- One byte behind the block is dropped, and codec metadata of the wrong length is not looked at. -/
theorem acknowledged_not_exact :
    (∃ next : Staging F32, stageMessage testRecording.host (oneTokenHeader "test") Staging.empty
      (.payloadChunk (firstChunk none (List.replicate 17 0))) = .ok (0, next)) ∧
    (firstChunk none (List.replicate 17 0)).data.length ≠
      4 * (blockFloatCount (oneTokenHeader "test") (keyName 0)).toNat ∧
    (∃ next : Staging F32, stageMessage testRecording.host qatqTokenHeader Staging.empty (.payloadChunk
      (firstChunk (some ⟨"qatq", rawF32lePassThroughStorage, none, 0⟩) (List.replicate 16 0))) = .ok (0, next)) ∧
    (0 : Usize) ≠ 4 * blockFloatCount qatqTokenHeader (keyName 0) := by
  have hpass : decodePayload (F := F32) Qatq.stored (some "qatq")
      (some ⟨"qatq", rawF32lePassThroughStorage, none, 0⟩) (List.replicate 16 0) 4 = .ok (List.replicate 4 ⟨0⟩) := by
    decide
  exact ⟨firstChunk_acknowledged rfl rfl rfl rfl, by decide, firstChunk_acknowledged rfl rfl hpass rfl, by decide⟩

end Acknowledged

end PermeantOS
