import PermeantOS.SessionAtomicity
import PermeantOS.SessionGrid

namespace PermeantOS

def floatCount (header : UsxfHeader) : Nat :=
  header.modelCacheSpec.nKvHeads.toNat * header.modelCacheSpec.headDim.toNat *
    header.blockSize.toNat

theorem blockFloatCount_eq (header : UsxfHeader) (tensorName : String) :
    blockFloatCount header tensorName = UInt64.ofNat (floatCount header) := by
  have hcomm : header.modelCacheSpec.nKvHeads * header.blockSize * header.modelCacheSpec.headDim =
      header.modelCacheSpec.nKvHeads * header.modelCacheSpec.headDim * header.blockSize := by
    rw [UInt64.mul_assoc, UInt64.mul_comm header.blockSize, ← UInt64.mul_assoc]
  have hkey : header.modelCacheSpec.nKvHeads * header.modelCacheSpec.headDim * header.blockSize =
      UInt64.ofNat (floatCount header) := by
    simp [floatCount, UInt64.ofNat_mul]
  unfold blockFloatCount
  split
  next => exact hkey
  next => exact hcomm.trans hkey

theorem blockFloatCount_toNat {header : UsxfHeader} (h : floatCount header < 2 ^ 64)
    (tensorName : String) : (blockFloatCount header tensorName).toNat = floatCount header := by
  rw [blockFloatCount_eq]
  simpa using Nat.mod_eq_of_lt h

/-- The number of chunks of a header, as a product of integers. -/
def chunkProduct (header : UsxfHeader) : Nat :=
  header.modelCacheSpec.nLayers.toNat * 2 * (header.seqLen.toNat ⌈/⌉ header.blockSize.toNat)

theorem chunkCount_toNat {header : UsxfHeader} (hv : header.Valid) :
    (chunkCount header).toNat = chunkProduct header % 2 ^ 64 := by
  obtain ⟨_, _, _, hb, _⟩ := validateHeader_ok_iff.mp hv
  rw [chunkCount, UInt64.toNat_mul, UInt64.toNat_mul, divCeil_toNat hb, chunkProduct]
  simp [Nat.mul_mod]

theorem grid_length_eq {header : UsxfHeader} (hv : header.Valid) :
    (grid header).length = chunkProduct header := by
  obtain ⟨_, _, _, hb, hlen, _⟩ := validateHeader_ok_iff.mp hv
  rw [grid_length, hlen, divCeil_toNat hb, chunkProduct]

section Complete

variable {F : Type}

/-- The envelope carries the header: it decrypts, and its plaintext parses. -/
def OpensTo (host : Host F) (envelope : EncryptedEnvelope) (header : UsxfHeader) : Prop :=
  ∃ plaintext, openPacket host.crypto envelope host.aesKey = .ok plaintext ∧
    host.headerFromSlice plaintext = some header

theorem openHeader_ok_iff {host : Host F} {envelope : EncryptedEnvelope} {header : UsxfHeader} :
    openHeader host envelope = .ok header ↔ OpensTo host envelope header ∧ header.Valid := by
  rw [openHeader, except_bind_ok_iff]
  constructor
  · intro hparts
    obtain ⟨plaintext, hp, h⟩ := hparts
    obtain ⟨header', hh, h⟩ := except_bind_ok_iff.mp h
    obtain ⟨hv, h⟩ := except_bind_unit_ok_iff.mp h
    cases h
    exact ⟨⟨plaintext, context_ok_iff.mp hp, contextOption_ok_iff.mp hh⟩, context_ok_iff.mp hv⟩
  · intro hparts
    obtain ⟨⟨plaintext, hp, hh⟩, hv⟩ := hparts
    refine ⟨plaintext, context_ok_iff.mpr hp, ?_⟩
    refine except_bind_ok_iff.mpr ⟨header, contextOption_ok_iff.mpr hh, ?_⟩
    exact except_bind_unit_ok_iff.mpr ⟨context_ok_iff.mpr hv, rfl⟩

def CarriesHeader (host : Host F) (inbox : List (Fallible MigrationMessage)) (header : UsxfHeader) :
    Prop :=
  ∃ first envelope rest, inbox = first :: .ok (.headerEnvelope envelope) :: rest ∧
    OpensTo host envelope header

theorem CarriesHeader.unique {host : Host F} {inbox : List (Fallible MigrationMessage)} {header header' : UsxfHeader}
    (h : CarriesHeader host inbox header) (h' : CarriesHeader host inbox header') : header = header' := by
  obtain ⟨first, envelope, rest, hin, plaintext, hp, hh⟩ := h
  obtain ⟨first', envelope', rest', hin', plaintext', hp', hh'⟩ := h'
  have heq := hin'.symm.trans hin
  simp only [List.cons.injEq, Except.ok.injEq, MigrationMessage.headerEnvelope.injEq] at heq
  rw [heq.2.1] at hp'
  cases hp.symm.trans hp'
  exact Option.some.inj (hh.symm.trans hh')

variable [F32Bits F] [F32Arith F]

/-- The chunk has its checksum, and the header's scheme decodes it to a whole block. -/
structure ChunkIntact (host : Host F) (header : UsxfHeader) (chunk : PayloadChunk) : Prop where
  checksum : host.crc32 chunk.data = chunk.crc32
  payload : ∃ values, decodePayload host.qatq (header.transferQuantization.map (·.scheme))
      chunk.codec chunk.data (UInt64.ofNat (floatCount header)) = .ok values ∧
    values.length = floatCount header

theorem chunkAccepted_iff {host : Host F} {header : UsxfHeader} {chunk : PayloadChunk}
    (h : floatCount header < 2 ^ 64) : ChunkAccepted host header chunk ↔
      chunk.position ∈ grid header ∧ ChunkIntact host header chunk := by
  constructor
  · intro hparts
    obtain ⟨hc, hp, values, hd, hlen⟩ := hparts
    rw [blockFloatCount_toNat h] at hlen
    rw [blockFloatCount_eq] at hd
    exact ⟨hp, hc, values, hd, hlen⟩
  · intro hparts
    obtain ⟨hp, hc, values, hd, hlen⟩ := hparts
    rw [← blockFloatCount_eq header chunk.tensorName] at hd
    exact ⟨hc, hp, values, hd, by rw [blockFloatCount_toNat h, hlen]⟩

/-- A whole migration of the header: an admitted request, the header, every place of the grid once
with an intact chunk, at most one binding that is accepted, and the request to commit. -/
def CompleteSession (host : Host F) (header : UsxfHeader)
    (inbox : List (Fallible MigrationMessage)) : Prop :=
  ∃ modelArchitecture attentionType seqLen envelope, ∃ chunks : List PayloadChunk,
    ∃ binding : Option AgentGraphBinding, ∃ rest,
    inbox = .ok (.capabilityRequest modelArchitecture attentionType seqLen) ::
      .ok (.headerEnvelope envelope) :: (chunks.map (fun chunk => .ok (.payloadChunk chunk)) ++
        (binding.toList.map (fun b => .ok (.agentGraphBinding b)) ++ .ok .commitRequest :: rest)) ∧
    seqLen ≤ maxContext ∧ OpensTo host envelope header ∧
    (chunks.map PayloadChunk.position).Perm (grid header) ∧
    (∀ chunk ∈ chunks, ChunkIntact host header chunk) ∧
    ∀ b, binding = some b → validateAgentGraphBinding b header = .ok ()

variable {host : Host F} {orchestrator : MigrationOrchestrator} {blockSize : Usize}
  {before : BlockMap F} {header : UsxfHeader}

/-- Once every place is filled, the continuation check finds every block. -/
theorem present_of_perm_grid {staging : Staging F} {chunks : List PayloadChunk}
    (hs : Stages host header Staging.empty chunks staging)
    (hp : (chunks.map PayloadChunk.position).Perm (grid header))
    (hl : 0 < header.modelCacheSpec.nLayers.toNat) :
    ∀ hash ∈ header.blockHashes, hash ∈ staging.accumulatedBlocks := by
  intro hash hmem
  obtain ⟨block, hblock⟩ := List.mem_iff_getElem?.mp hmem
  have hgrid : (block, 0, keyName 0) ∈ grid header :=
    mem_grid_iff.mpr ⟨(List.getElem?_eq_some_iff.mp hblock).1, hl, Or.inl rfl⟩
  obtain ⟨chunk, hc, hpos⟩ := List.mem_map.mp (hp.mem_iff.mpr hgrid)
  have hindex : chunk.chunkIndex.toNat = block := congrArg Prod.fst hpos
  exact hs.mem_blocks_iff.mpr (Or.inr ⟨chunk, hc, by rw [hindex, hblock]⟩)

/-- Without a wrapped loop bound, a session that was staged has filled every place once. -/
theorem StagedSession.perm_grid {s : Session F} (st : StagedSession host s)
    (hc : chunkProduct st.header < 2 ^ 64) :
    (st.chunks.map PayloadChunk.position).Perm (grid st.header) := by
  have hv := (openHeader_ok_iff.mp st.opens).2
  apply st.staged.perm_grid
  rw [grid_length_eq hv, st.counted, chunkCount_toNat hv, Nat.mod_eq_of_lt hc]

theorem StagedSession.complete {s : Session F} (st : StagedSession host s)
    (hc : chunkProduct st.header < 2 ^ 64) (hf : floatCount st.header < 2 ^ 64)
    (hcommit : st.final = .commitRequest) : CompleteSession host st.header s.inbox := by
  have hopen := (openHeader_ok_iff.mp st.opens).1
  refine ⟨st.modelArchitecture, st.attentionType, st.seqLen, st.envelope, st.chunks, st.binding,
    st.rest, hcommit ▸ st.inbox_eq, st.admitted, hopen, st.perm_grid hc, ?_, st.bound⟩
  intro chunk hmem
  exact ((chunkAccepted_iff hf).mp (st.staged.forall_accepted chunk hmem)).2

theorem staged_of_complete (hv : header.Valid) (hc : chunkProduct header < 2 ^ 64)
    (hf : floatCount header < 2 ^ 64) {s : Session F} (hd : ∀ n, s.delivers n = true)
    (h : CompleteSession host header s.inbox) : ∃ st : StagedSession host s,
      st.header = header ∧ st.final = .commitRequest ∧
      (st.chunks.map PayloadChunk.position).Perm (grid header) := by
  obtain ⟨arch, attention, seqLen, envelope, chunks, binding, rest, hin, hadm, hopen, hperm, hintact,
    hbind⟩ := h
  have hacc : ∀ chunk ∈ chunks, ChunkAccepted host header chunk := fun chunk hmem =>
    (chunkAccepted_iff hf).mpr ⟨hperm.mem_iff.mp (List.mem_map_of_mem hmem), hintact chunk hmem⟩
  have hnodup : (chunks.map PayloadChunk.key).Nodup :=
    nodup_positions_iff.mp (hperm.nodup_iff.mpr (grid_nodup header))
  have hfresh : ∀ chunk ∈ chunks, chunk.key ∉ (Staging.empty : Staging F).receivedChunks := by
    simp [Staging.empty]
  obtain ⟨staging, hst⟩ := stages_of_forall_accepted hacc hnodup hfresh
  have hcount : chunks.length = (chunkCount header).toNat := by
    rw [chunkCount_toNat hv, Nat.mod_eq_of_lt hc, ← grid_length_eq hv, ← hperm.length_eq,
      List.length_map]
  exact ⟨⟨arch, attention, seqLen, envelope, header, chunks, binding, .commitRequest, rest, staging,
    hin, hadm, openHeader_ok_iff.mpr ⟨hopen, hv⟩, hcount, hst, hbind, by simp, fun k _ => hd _⟩,
    rfl, rfl, hperm⟩

theorem StagedSession.header_eq {s : Session F} (st : StagedSession host s)
    (h : CarriesHeader host s.inbox header) : st.header = header :=
  CarriesHeader.unique ⟨_, st.envelope, _, st.inbox_eq, (openHeader_ok_iff.mp st.opens).1⟩ h

/-- The daemon commits exactly the complete sessions. -/
theorem commitSent_iff_complete (hv : header.Valid) (hl : 1 ≤ header.modelCacheSpec.nLayers.toNat)
    (hc : chunkProduct header < 2 ^ 64) (hf : floatCount header < 2 ^ 62)
    (inbox : List (Fallible MigrationMessage)) :
    (CarriesHeader host inbox header ∧
      CommitSent (serve host (.mock orchestrator blockSize before) ⟨inbox, fun _ => true⟩).outbox) ↔
    CompleteSession host header inbox := by
  have hf' : floatCount header < 2 ^ 64 := lt_trans hf (by norm_num)
  constructor
  · intro hparts
    obtain ⟨hcarries, hsent⟩ := hparts
    obtain ⟨st, hcommit⟩ := staged_of_commitSent hsent
    obtain rfl := st.header_eq hcarries
    exact st.complete hc hf' hcommit.requested
  · intro h
    obtain ⟨st, rfl, hfinal, hperm⟩ := staged_of_complete (s := Connection.start ⟨inbox, fun _ => true⟩
      (.mock orchestrator blockSize before)) hv hc hf' (fun _ => rfl) h
    refine ⟨⟨_, st.envelope, _, st.inbox_eq, (openHeader_ok_iff.mp st.opens).1⟩, ?_⟩
    refine (serve_staged st).2.mpr ⟨hfinal, ?_, rfl⟩
    intro hash hmem
    exact Finmap.mem_union.mpr (Or.inl (present_of_perm_grid st.staged hperm hl hash hmem))

end Complete

theorem chunkProduct_oneToken (weightsRevision : String) :
    chunkProduct (oneTokenHeader weightsRevision) = 2 := by
  simp [chunkProduct, oneTokenHeader, testHeader]

theorem floatCount_oneToken (weightsRevision : String) :
    floatCount (oneTokenHeader weightsRevision) = 4 := by
  simp [floatCount, oneTokenHeader, testHeader]

theorem oneTokenInbox_complete {recording : Recording} {entry : SealedHeader}
    (h : entry ∈ recording.entries) {weightsRevision : String}
    (hh : entry.header = oneTokenHeader weightsRevision) {values : List F32}
    (hlen : values.length = 4) :
    CompleteSession (F := F32) recording.host (oneTokenHeader weightsRevision)
      (oneTokenInbox entry values .commitRequest) :=
  (oneTokenSession h hh hlen .commitRequest (by simp) .initial).complete
    (by rw [oneTokenSession, pairSession, chunkProduct_oneToken]; norm_num)
    (by rw [oneTokenSession, pairSession, floatCount_oneToken]; norm_num) rfl

theorem commitSent_oneToken :
    CommitSent (serve (F := F32) testRecording.host (.mock (.new .default) 256 ∅)
      ⟨oneTokenInbox testEntry (List.replicate 4 ⟨0⟩) .commitRequest, fun _ => true⟩).outbox :=
  ((commitSent_iff_complete (oneTokenHeader_valid "test") (by simp [oneTokenHeader, testHeader])
    (by rw [chunkProduct_oneToken]; norm_num) (by rw [floatCount_oneToken]; norm_num) _).mpr
      (oneTokenInbox_complete (List.mem_singleton_self _) rfl rfl)).2

end PermeantOS
