import PermeantOS.Session

namespace PermeantOS

variable {F : Type}

/-- The session after some of its inbox was read and answered. -/
def Session.advance (session : Session F) (rest : List (Fallible MigrationMessage))
    (answers : List MigrationMessage) : Session F :=
  { session with inbox := rest, outbox := session.outbox ++ answers }

section Advance

variable (session : Session F) (rest : List (Fallible MigrationMessage))
  (answers : List MigrationMessage)

@[simp] theorem advance_inbox : (session.advance rest answers).inbox = rest := rfl

@[simp] theorem advance_outbox :
    (session.advance rest answers).outbox = session.outbox ++ answers := rfl

@[simp] theorem advance_delivers : (session.advance rest answers).delivers = session.delivers := rfl

@[simp] theorem advance_injector : (session.advance rest answers).injector = session.injector := rfl

@[simp] theorem advance_advance (rest' : List (Fallible MigrationMessage))
    (answers' : List MigrationMessage) :
    (session.advance rest answers).advance rest' answers' = session.advance rest' (answers ++ answers') := by
  simp [Session.advance]

end Advance

@[simp] theorem advance_nil (session : Session F) : session.advance session.inbox [] = session := by
  simp [Session.advance]

theorem receive_ok_iff {s t : Session F} {msg : MigrationMessage} :
    receive.run s = .ok msg t ↔ ∃ rest, s.inbox = .ok msg :: rest ∧ t = s.advance rest [] := by
  obtain ⟨inbox, delivers, outbox, orchestrator, injector⟩ := s
  cases inbox with
  | nil =>
    constructor
    · intro h
      cases h
    · intro hparts
      obtain ⟨rest, h, _⟩ := hparts
      cases h
  | cons first rest =>
    cases first with
    | error fault =>
      constructor
      · intro h
        cases h
      · intro hparts
        obtain ⟨rest, h, _⟩ := hparts
        cases h
    | ok first =>
      have hrun : receive.run (⟨.ok first :: rest, delivers, outbox, orchestrator, injector⟩ : Session F) =
        .ok first ⟨rest, delivers, outbox, orchestrator, injector⟩ := rfl
      rw [hrun]
      simp [Session.advance, eq_comm]

theorem send_ok_iff {s t : Session F} {msg : MigrationMessage} :
    (send msg).run s = .ok () t ↔
      s.delivers s.outbox.length = true ∧ t = s.advance s.inbox [msg] := by
  have hrun : (send msg).run s = if s.delivers s.outbox.length then
      .ok () (s.advance s.inbox [msg]) else .error (.error "Failed to write frame content") s := by
    by_cases h : s.delivers s.outbox.length = true
    · rw [if_pos h]
      rw [send, run_get_bind, if_pos h]
      rfl
    · rw [if_neg h]
      rw [send, run_get_bind, if_neg h]
      rfl
  rw [hrun]
  by_cases h : s.delivers s.outbox.length = true
  · simp [h, eq_comm]
  · simp [h]

theorem receive_error {s t : Session F} {fault : Fault} (h : receive.run s = .error fault t) :
    t = s := by
  obtain ⟨inbox, delivers, outbox, orchestrator, injector⟩ := s
  cases inbox with
  | nil => exact (EStateM.Result.error.inj h).2.symm
  | cons first rest =>
    cases first with
    | error fault => exact (EStateM.Result.error.inj h).2.symm
    | ok msg => cases h

theorem send_error {s t : Session F} {msg : MigrationMessage} {fault : Fault}
    (h : (send msg).run s = .error fault t) : t = s := by
  rw [send, run_get_bind] at h
  split at h
  next => cases h
  next => exact (EStateM.Result.error.inj h).2.symm

theorem exchangeCapability_ok_iff {host : Host F} {s t : Session F} {goesOn : Bool} :
    (exchangeCapability host).run s = .ok goesOn t ↔
      ∃ modelArchitecture attentionType seqLen rest,
        s.inbox = .ok (.capabilityRequest modelArchitecture attentionType seqLen) :: rest ∧
        s.delivers s.outbox.length = true ∧ goesOn = decide (seqLen ≤ maxContext) ∧
        t = s.advance rest [capabilityResponse host seqLen] := by
  rw [exchangeCapability, run_bind_ok_iff]
  constructor
  · intro hparts
    obtain ⟨msg, u, hr, h⟩ := hparts
    obtain ⟨rest, hin, rfl⟩ := receive_ok_iff.mp hr
    cases msg with
    | capabilityRequest arch attention seqLen =>
      obtain ⟨⟨⟩, v, hs, h⟩ := run_bind_ok_iff.mp h
      obtain ⟨hd, rfl⟩ := send_ok_iff.mp hs
      cases h
      exact ⟨arch, attention, seqLen, rest, hin, by simpa using hd, rfl, by simp⟩
    | _ => cases h
  · intro hparts
    obtain ⟨arch, attention, seqLen, rest, hin, hd, rfl, rfl⟩ := hparts
    refine ⟨_, _, receive_ok_iff.mpr ⟨rest, hin, rfl⟩, ?_⟩
    refine run_bind_ok_iff.mpr ⟨(), _, send_ok_iff.mpr ⟨by simpa using hd, rfl⟩, ?_⟩
    simp only [advance_inbox, advance_advance, List.nil_append]
    rfl

theorem receiveHeader_ok_iff {host : Host F} {s t : Session F} {header : UsxfHeader} :
    (receiveHeader host).run s = .ok header t ↔
      ∃ envelope rest, s.inbox = .ok (.headerEnvelope envelope) :: rest ∧
        openHeader host envelope = .ok header ∧ s.delivers s.outbox.length = true ∧
        t = s.advance rest [.headerAck true] := by
  rw [receiveHeader, run_bind_ok_iff]
  constructor
  · intro hparts
    obtain ⟨msg, u, hr, h⟩ := hparts
    obtain ⟨rest, hin, rfl⟩ := receive_ok_iff.mp hr
    cases msg with
    | headerEnvelope envelope =>
      obtain ⟨header', v, hl, h⟩ := run_bind_ok_iff.mp h
      obtain ⟨ho, rfl⟩ := run_liftExcept_ok_iff.mp hl
      obtain ⟨⟨⟩, w, hs, h⟩ := run_bind_ok_iff.mp h
      obtain ⟨hd, rfl⟩ := send_ok_iff.mp hs
      cases h
      exact ⟨envelope, rest, hin, ho, by simpa using hd, by simp⟩
    | _ => cases h
  · intro hparts
    obtain ⟨envelope, rest, hin, ho, hd, rfl⟩ := hparts
    refine ⟨_, _, receive_ok_iff.mpr ⟨rest, hin, rfl⟩, ?_⟩
    refine run_bind_ok_iff.mpr ⟨header, _, run_liftExcept_ok_iff.mpr ⟨ho, rfl⟩, ?_⟩
    refine run_bind_ok_iff.mpr ⟨(), _, send_ok_iff.mpr ⟨by simpa using hd, rfl⟩, ?_⟩
    simp only [advance_inbox, advance_advance, List.nil_append]
    rfl

theorem receiveBinding_ok_iff {header : UsxfHeader} {s t : Session F} {final : MigrationMessage} :
    (receiveBinding header).run s = .ok final t ↔
      (∃ rest, s.inbox = .ok final :: rest ∧ (∀ binding, final ≠ .agentGraphBinding binding) ∧
        t = s.advance rest []) ∨
      ∃ binding rest, s.inbox = .ok (.agentGraphBinding binding) :: .ok final :: rest ∧
        validateAgentGraphBinding binding header = .ok () ∧ s.delivers s.outbox.length = true ∧
        t = s.advance rest [.agentGraphBindingAck true none] := by
  rw [receiveBinding, run_bind_ok_iff]
  constructor
  · intro hparts
    obtain ⟨msg, u, hr, h⟩ := hparts
    obtain ⟨rest, hin, rfl⟩ := receive_ok_iff.mp hr
    cases msg with
    | agentGraphBinding binding =>
      right
      cases hb : validateAgentGraphBinding binding header with
      | error fault =>
        simp only [hb] at h
        obtain ⟨_, _, _, h⟩ := run_bind_ok_iff.mp h
        obtain ⟨_, _, _, h⟩ := run_bind_ok_iff.mp h
        cases h
      | ok =>
        simp only [hb] at h
        obtain ⟨⟨⟩, v, hs, h⟩ := run_bind_ok_iff.mp h
        obtain ⟨hd, rfl⟩ := send_ok_iff.mp hs
        obtain ⟨rest', hin', rfl⟩ := receive_ok_iff.mp h
        simp only [advance_inbox] at hin'
        exact ⟨binding, rest', by rw [hin, hin'], hb, by simpa using hd, by simp⟩
    | _ =>
      left
      cases h
      exact ⟨rest, hin, by simp, rfl⟩
  · rintro (⟨rest, hin, hn, rfl⟩ | ⟨binding, rest, hin, hb, hd, rfl⟩)
    · refine ⟨_, _, receive_ok_iff.mpr ⟨rest, hin, rfl⟩, ?_⟩
      cases final with
      | agentGraphBinding binding => exact absurd rfl (hn binding)
      | _ => rfl
    · refine ⟨_, _, receive_ok_iff.mpr ⟨_, hin, rfl⟩, ?_⟩
      simp only [hb]
      refine run_bind_ok_iff.mpr ⟨(), _, send_ok_iff.mpr ⟨by simpa using hd, rfl⟩, ?_⟩
      exact receive_ok_iff.mpr ⟨rest, rfl, by simp⟩

structure PositionAccepted (header : UsxfHeader) (received : Finset ChunkKey) (chunk : PayloadChunk)
    (blockHash : String) : Prop where
  block : header.blockHashes[chunk.chunkIndex.toNat]? = some blockHash
  layer : chunk.layerIndex.toNat < header.modelCacheSpec.nLayers.toNat
  name : chunk.tensorName = keyName chunk.layerIndex.toNat ∨
    chunk.tensorName = valueName chunk.layerIndex.toNat
  fresh : chunk.key ∉ received

theorem validatePayloadChunkMetadata_ok_iff {header : UsxfHeader} {chunk : PayloadChunk}
    {received received' : Finset ChunkKey} {blockHash : String} :
    validatePayloadChunkMetadata header chunk.chunkIndex chunk.layerIndex chunk.tensorName received =
        .ok (blockHash, received') ↔
      PositionAccepted header received chunk blockHash ∧ received' = insert chunk.key received := by
  rw [validatePayloadChunkMetadata, except_bind_ok_iff]
  constructor
  · intro hparts
    obtain ⟨hash, hb, h⟩ := hparts
    obtain ⟨hl, h⟩ := except_bind_unit_ok_iff.mp h
    obtain ⟨hn, h⟩ := except_bind_unit_ok_iff.mp h
    obtain ⟨hf, h⟩ := except_bind_unit_ok_iff.mp h
    cases h
    rw [contextOption_ok_iff] at hb
    rw [bailIf_ok_iff] at hl hn hf
    exact ⟨⟨hb, Nat.lt_of_not_le hl, by tauto, hf⟩, rfl⟩
  · intro hparts
    obtain ⟨⟨hb, hl, hn, hf⟩, rfl⟩ := hparts
    refine ⟨blockHash, contextOption_ok_iff.mpr hb, ?_⟩
    refine except_bind_unit_ok_iff.mpr ⟨bailIf_ok_iff.mpr (Nat.not_le.mpr hl), ?_⟩
    refine except_bind_unit_ok_iff.mpr ⟨bailIf_ok_iff.mpr (by tauto), ?_⟩
    exact except_bind_unit_ok_iff.mpr ⟨bailIf_ok_iff.mpr hf, rfl⟩

section Streaming

variable [F32Bits F] [F32Arith F]

/-- A chunk is staged exactly when its position is accepted and its payload decodes to a whole
block, which is then stored under the block's hash and the tensor's name. -/
theorem stageChunk_ok_iff {host : Host F} {header : UsxfHeader} {staging staging' : Staging F}
    {chunk : PayloadChunk} :
    stageChunk host header staging chunk = .ok staging' ↔
      ∃ blockHash data, PositionAccepted header staging.receivedChunks chunk blockHash ∧
        decodePayload host.qatq (header.transferQuantization.map (·.scheme)) chunk.codec chunk.data
          (blockFloatCount header chunk.tensorName) = .ok data ∧
        data.length = (blockFloatCount header chunk.tensorName).toNat ∧
        staging' = ⟨stageTensor staging.accumulatedBlocks blockHash chunk.tensorName
          ⟨data, blockShape header chunk.tensorName⟩, insert chunk.key staging.receivedChunks⟩ := by
  rw [stageChunk, except_bind_ok_iff]
  constructor
  · intro hparts
    obtain ⟨⟨blockHash, received⟩, hv, h⟩ := hparts
    obtain ⟨hp, rfl⟩ := validatePayloadChunkMetadata_ok_iff.mp hv
    obtain ⟨data, hd, h⟩ := except_bind_ok_iff.mp h
    obtain ⟨hlen, h⟩ := except_bind_unit_ok_iff.mp h
    cases h
    rw [bailIf_ok_iff, ne_eq, not_not] at hlen
    exact ⟨blockHash, data, hp, hd, hlen, rfl⟩
  · intro hparts
    obtain ⟨blockHash, data, hp, hd, hlen, rfl⟩ := hparts
    refine ⟨_, validatePayloadChunkMetadata_ok_iff.mpr ⟨hp, rfl⟩, ?_⟩
    refine except_bind_ok_iff.mpr ⟨data, hd, ?_⟩
    exact except_bind_unit_ok_iff.mpr ⟨bailIf_ok_iff.mpr (by simpa using hlen), rfl⟩

theorem stageMessage_ok_iff {host : Host F} {header : UsxfHeader} {staging staging' : Staging F}
    {msg : MigrationMessage} {chunkIndex : UInt32} :
    stageMessage host header staging msg = .ok (chunkIndex, staging') ↔
      ∃ chunk, msg = .payloadChunk chunk ∧ host.crc32 chunk.data = chunk.crc32 ∧
        stageChunk host header staging chunk = .ok staging' ∧ chunkIndex = chunk.chunkIndex := by
  cases msg with
  | payloadChunk chunk =>
    rw [stageMessage, except_bind_ok_iff]
    constructor
    · intro hparts
      obtain ⟨matching, hm, h⟩ := hparts
      cases hm
      obtain ⟨hb, h⟩ := except_bind_unit_ok_iff.mp h
      obtain ⟨next, hs, h⟩ := except_bind_ok_iff.mp h
      cases h
      exact ⟨chunk, rfl, by simpa using hb, hs, rfl⟩
    · intro hparts
      obtain ⟨chunk', hc, hcrc, hs, rfl⟩ := hparts
      cases hc
      refine ⟨true, by simp [verifyChunkCrc32, hcrc], ?_⟩
      refine except_bind_unit_ok_iff.mpr ⟨bailIf_ok_iff.mpr (by simp), ?_⟩
      exact except_bind_ok_iff.mpr ⟨staging', hs, rfl⟩
  | _ => simp [stageMessage, verifyChunkCrc32, bail, bind, Except.bind]

/-- Chunks accepted one after the other. -/
inductive Stages (host : Host F) (header : UsxfHeader) :
    Staging F → List PayloadChunk → Staging F → Prop
  | nil {staging} : Stages host header staging [] staging
  | cons {staging next last chunk chunks} : host.crc32 chunk.data = chunk.crc32 →
      stageChunk host header staging chunk = .ok next → Stages host header next chunks last →
      Stages host header staging (chunk :: chunks) last

theorem streamChunks_ok_iff {host : Host F} {header : UsxfHeader} {n : Nat}
    {staging last : Staging F} {s t : Session F} :
    (streamChunks host header n staging).run s = .ok last t ↔
      ∃ chunks rest, chunks.length = n ∧
        s.inbox = chunks.map (fun chunk => .ok (.payloadChunk chunk)) ++ rest ∧
        Stages host header staging chunks last ∧
        (∀ k < n, s.delivers (s.outbox.length + k) = true) ∧
        t = s.advance rest (chunks.map fun chunk => .chunkAck chunk.chunkIndex) := by
  induction n generalizing staging s with
  | zero =>
    constructor
    · intro h
      obtain ⟨rfl, rfl⟩ := EStateM.Result.ok.inj h
      exact ⟨[], s.inbox, rfl, rfl, .nil, by simp, by simp⟩
    · intro hparts
      obtain ⟨chunks, rest, hlen, hin, hst, _, rfl⟩ := hparts
      obtain rfl := List.length_eq_zero_iff.mp hlen
      cases hst
      have hrest : rest = s.inbox := hin.symm
      rw [hrest, List.map_nil, advance_nil]
      rfl
  | succ n ih =>
    rw [streamChunks, run_bind_ok_iff]
    constructor
    · intro hparts
      obtain ⟨msg, u, hr, h⟩ := hparts
      obtain ⟨rest, hin, rfl⟩ := receive_ok_iff.mp hr
      obtain ⟨⟨chunkIndex, next⟩, v, hl, h⟩ := run_bind_ok_iff.mp h
      obtain ⟨hstage, rfl⟩ := run_liftExcept_ok_iff.mp hl
      obtain ⟨chunk, rfl, hcrc, hnext, rfl⟩ := stageMessage_ok_iff.mp hstage
      obtain ⟨⟨⟩, w, hs, h⟩ := run_bind_ok_iff.mp h
      obtain ⟨hd, rfl⟩ := send_ok_iff.mp hs
      obtain ⟨chunks, rest', hlen, hin', hst, hdel, rfl⟩ := ih.mp h
      simp only [advance_inbox] at hin'
      refine ⟨chunk :: chunks, rest', by simp [hlen], by simp [hin, hin'],
        .cons hcrc hnext hst, ?_, by simp⟩
      intro k hk
      cases k with
      | zero => simpa using hd
      | succ k =>
        have hk' := hdel k (by omega)
        simp only [advance_delivers, advance_outbox, List.append_nil, List.length_append,
          List.length_singleton] at hk'
        rwa [Nat.add_assoc, Nat.add_comm 1 k] at hk'
    · intro hparts
      obtain ⟨chunks, rest, hlen, hin, hst, hdel, rfl⟩ := hparts
      cases hst with
      | nil => simp at hlen
      | @cons _ next _ chunk chunks hcrc hnext hst =>
        refine ⟨_, _, receive_ok_iff.mpr ⟨_, hin, rfl⟩, ?_⟩
        refine run_bind_ok_iff.mpr ⟨(chunk.chunkIndex, next), _,
          run_liftExcept_ok_iff.mpr ⟨stageMessage_ok_iff.mpr ⟨chunk, rfl, hcrc, hnext, rfl⟩, rfl⟩, ?_⟩
        refine run_bind_ok_iff.mpr ⟨(), _, send_ok_iff.mpr ⟨by simpa using hdel 0 (by omega), rfl⟩, ?_⟩
        refine ih.mpr ⟨chunks, rest, by simpa using hlen, rfl, hst, ?_, by simp⟩
        intro k hk
        have hk' := hdel (k + 1) (by omega)
        simp only [advance_delivers, advance_outbox, List.append_nil, List.length_append,
          List.length_singleton]
        rwa [Nat.add_assoc, Nat.add_comm 1 k]

end Streaming

end PermeantOS
