import PermeantOS.SessionComplete
import PermeantOS.SimMigrateBlocks
import PermeantOS.StagingCells

namespace PermeantOS

/-- Chunks in front of something else are told apart from it. -/
theorem payloads_eq_of_append_eq {xs ys : List PayloadChunk}
    {rest rest' : List (Fallible MigrationMessage)}
    (hrest : ∀ chunk, rest.head? ≠ some (.ok (.payloadChunk chunk)))
    (hrest' : ∀ chunk, rest'.head? ≠ some (.ok (.payloadChunk chunk)))
    (h : xs.map (fun chunk => .ok (.payloadChunk chunk)) ++ rest =
      ys.map (fun chunk => .ok (.payloadChunk chunk)) ++ rest') : xs = ys := by
  induction xs generalizing ys with
  | nil =>
    cases ys with
    | nil => rfl
    | cons y ys =>
      obtain rfl : rest = _ := h
      exact absurd rfl (hrest y)
  | cons x xs ih =>
    cases ys with
    | nil =>
      obtain rfl : _ = rest' := h
      exact absurd rfl (hrest' x)
    | cons y ys =>
      simp only [List.map_cons, List.cons_append, List.cons.injEq, Except.ok.injEq,
        MigrationMessage.payloadChunk.injEq] at h
      rw [h.1, ih h.2]

section Link

variable {F : Type}

/-- The two processes are linked with the same crates and hold the same key, and the header's JSON
text parses back. -/
structure Linked (source : SourceHost F) (host : Host F) (header : UsxfHeader) : Prop where
  crypto : host.crypto = source.crypto
  lawful : source.crypto.Lawful
  aesKey : host.aesKey = sourceKey
  qatq : host.qatq = source.qatq
  json : ∀ bytes, source.headerToVec header = .ok bytes → host.headerFromSlice bytes = some header

theorem openPacket_nonce_length {crypto : Crypto} {envelope : EncryptedEnvelope}
    {aesKey plaintext : List UInt8} (h : openPacket crypto envelope aesKey = .ok plaintext) :
    envelope.nonce.length = aesGcmNonceLen := by
  obtain ⟨hn, _⟩ := except_bind_unit_ok_iff.mp h
  simpa using hn

/-- An envelope that opens at the target opens to the header that the source put in. -/
theorem Linked.header_eq {source : SourceHost F} {host : Host F} {header opened : UsxfHeader}
    (linked : Linked source host header) {nonce serialized signingKey : List UInt8}
    {envelope : EncryptedEnvelope} (hser : source.headerToVec header = .ok serialized)
    (hseal : sealPacket source.crypto nonce serialized sourceKey signingKey = .ok envelope)
    (hopen : OpensTo host envelope opened) : opened = header := by
  obtain ⟨plaintext, hp, hh⟩ := hopen
  have hn : nonce.length = aesGcmNonceLen := by
    obtain ⟨_, _, he⟩ := except_bind_ok_iff.mp hseal
    cases he
    exact openPacket_nonce_length hp
  rw [linked.crypto, linked.aesKey] at hp
  cases (openPacket_sealPacket linked.lawful hn hseal).symm.trans hp
  exact Option.some.inj (hh.symm.trans (linked.json _ hser))

end Link

section Committed

variable {F : Type} [F32Bits F] [F32Arith F] {source : SourceHost F} {host : Host F}
  {config : SourceConfig} {seqLen : Usize} {transferCodec : TransferCodec}
  {agentGraphManifest : Option AgentGraphManifest} {extractedCache : TensorMap F}
  {sent : List MigrationMessage}

/-- A daemon that answered the source's messages with a commit has staged the source's chunks, under
the source's header, and its cache is what was staged. -/
theorem SentMigration.committed
    (m : SentMigration source config seqLen transferCodec agentGraphManifest extractedCache sent)
    (linked : Linked source host (simHeader source.sha256 config seqLen transferCodec))
    {orchestrator : MigrationOrchestrator} {blockSize : Usize} {delivers : Nat → Bool}
    (hcommit : CommitSent (serve host (.mock orchestrator blockSize ∅)
      ⟨sent.map .ok, delivers⟩).outbox) :
    ∃ staging, seqLen ≤ maxContext ∧
      (simHeader source.sha256 config seqLen transferCodec).Valid ∧
      Stages host (simHeader source.sha256 config seqLen transferCodec) Staging.empty
        (sentChunks source config seqLen transferCodec extractedCache) staging ∧
      (serve host (.mock orchestrator blockSize ∅) ⟨sent.map .ok, delivers⟩).injector =
        ⟨blockSize, .mock staging.accumulatedBlocks⟩ := by
  obtain ⟨st, hcommits⟩ := staged_of_commitSent hcommit
  have hinbox := st.inbox_eq
  simp only [Connection.start, m.sent_eq, List.cons_append, List.nil_append, List.map_cons,
    List.map_append, List.map_map, List.cons.injEq, Except.ok.injEq,
    MigrationMessage.capabilityRequest.injEq, MigrationMessage.headerEnvelope.injEq] at hinbox
  obtain ⟨⟨-, -, hseq⟩, henvelope, hrest⟩ := hinbox
  obtain ⟨hopen, hvalid⟩ := openHeader_ok_iff.mp st.opens
  rw [← henvelope] at hopen
  have hheader := linked.header_eq m.serializes m.seals hopen
  have hchunks : sentChunks source config seqLen transferCodec extractedCache = st.chunks := by
    refine payloads_eq_of_append_eq ?_ ?_ hrest
    · cases agentGraphManifest with
      | none => simp
      | some manifest => simp
    · rw [hcommits.requested]
      cases st.binding with
      | none => simp
      | some binding => simp
  refine ⟨st.staging, hseq ▸ st.admitted, hheader ▸ hvalid, ?_, ?_⟩
  · rw [hchunks, ← hheader]
    exact st.staged
  · rw [(serve_staged st).1, StagedSession.cache, Finmap.union_empty]

end Committed

end PermeantOS
