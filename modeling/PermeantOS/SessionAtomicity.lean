import PermeantOS.Recording
import PermeantOS.SessionOutcome

namespace PermeantOS

section Rollback

variable {F : Type} [F32Bits F] [F32Arith F]

theorem StagedSession.answers_not_commit {host : Host F} {s : Session F}
    (st : StagedSession host s) : ¬CommitSent st.answers := by
  intro hsent
  obtain ⟨text, hmem⟩ := hsent
  have hcap : capabilityResponse host st.seqLen ≠ .commitResponse true text := by
    unfold capabilityResponse
    split <;> simp
  simp [StagedSession.answers, hcap.symm] at hmem

def DaemonState.mock (orchestrator : MigrationOrchestrator) (blockSize : Usize)
    (physicalCache : BlockMap F) : DaemonState F :=
  ⟨orchestrator, ⟨blockSize, .mock physicalCache⟩⟩

section Mock

variable {host : Host F} {orchestrator : MigrationOrchestrator} {blockSize : Usize}
  {before : BlockMap F} {connection : Connection}

/-- A staged session injects everything that was staged, committed or not. -/
theorem serve_staged
    (st : StagedSession host (connection.start (.mock orchestrator blockSize before))) :
    (serve host (.mock orchestrator blockSize before) connection).injector =
        ⟨blockSize, .mock (st.cache before)⟩ ∧
      (CommitSent (serve host (.mock orchestrator blockSize before) connection).outbox ↔
        st.Commits before) := by
  by_cases hc : st.Commits before
  · rw [serve, leftState_of_commits st rfl hc]
    exact ⟨rfl, fun _ => hc, fun _ => ⟨none, by simp⟩⟩
  · rw [serve, leftState_of_not_commits st rfl hc]
    exact ⟨rfl, fun hs => absurd hs st.answers_not_commit, fun h => absurd h hc⟩

/-- A connection that ends before the injection leaves the cache alone. -/
theorem serve_unstaged
    (h : IsEmpty (StagedSession host (connection.start (.mock orchestrator blockSize before)))) :
    (serve host (.mock orchestrator blockSize before) connection).injector =
        ⟨blockSize, .mock before⟩ ∧
      ¬CommitSent (serve host (.mock orchestrator blockSize before) connection).outbox := by
  obtain ⟨hi, answers, ho, hn⟩ := (staged_or_quiet host _).resolve_left (not_nonempty_iff.mpr h)
  refine ⟨hi, ?_⟩
  rw [serve, ho]
  intro hsent
  obtain ⟨text, hmem⟩ := hsent
  exact hn _ hmem text rfl

theorem staged_of_commitSent
    (h : CommitSent (serve host (.mock orchestrator blockSize before) connection).outbox) :
    ∃ st : StagedSession host (connection.start (.mock orchestrator blockSize before)),
      st.Commits before := by
  rcases isEmpty_or_nonempty
    (StagedSession host (connection.start (.mock orchestrator blockSize before))) with hempty | ⟨⟨st⟩⟩
  · exact absurd h (serve_unstaged hempty).2
  · exact ⟨st, (serve_staged st).2.mp h⟩

end Mock

/-- A connection that reported no success left the cache alone exactly when every session it could
stage was committed or staged nothing that the cache did not hold already. -/
theorem serve_rollback_iff (host : Host F) (orchestrator : MigrationOrchestrator)
    (blockSize : Usize) (before : BlockMap F) (connection : Connection) :
    (¬CommitSent (serve host (.mock orchestrator blockSize before) connection).outbox →
      (serve host (.mock orchestrator blockSize before) connection).injector.backend = .mock before) ↔
    ∀ st : StagedSession host (connection.start (.mock orchestrator blockSize before)),
      st.Commits before ∨ st.staging.accumulatedBlocks ∪ before = before := by
  constructor
  · intro h st
    obtain ⟨hi, hc⟩ := serve_staged st
    by_cases hcommit : st.Commits before
    · exact Or.inl hcommit
    · right
      have hsame := h (fun hs => hcommit (hc.mp hs))
      rw [hi] at hsame
      exact InjectorBackend.mock.inj hsame
  · intro h hn
    rcases isEmpty_or_nonempty
      (StagedSession host (connection.start (.mock orchestrator blockSize before))) with hempty | ⟨⟨st⟩⟩
    · rw [(serve_unstaged hempty).1]
    · obtain ⟨hi, hc⟩ := serve_staged st
      rw [hi, StagedSession.cache, (h st).resolve_left fun hcommit => hn (hc.mpr hcommit)]

end Rollback

def oneTokenHeader (weightsRevision : String) : UsxfHeader :=
  { testHeader [repeatedDigest '9'] 1 with modelIdentity := ⟨repeatedDigest '1', weightsRevision⟩ }

theorem oneTokenHeader_valid (weightsRevision : String) : (oneTokenHeader weightsRevision).Valid :=
  validateHeader_ok_iff.mpr ⟨rfl, rfl, by simp [oneTokenHeader, testHeader],
    by simp [oneTokenHeader, testHeader], (by decide : 1 = (divCeil 1 1).toNat),
    by simp [oneTokenHeader, testHeader],
    startsWithSha256_repeatedDigest _, startsWithSha256_repeatedDigest _⟩

def oneTokenJson (weightsRevision blockHash : String) : String :=
  "\x7b\"usxf_version\":\"1.1\",\"model_architecture\":\"test-model\",\"model_identity\":\x7b" ++
  "\"config_hash\":\"" ++ repeatedDigest '1' ++ "\",\"weights_revision\":\"" ++ weightsRevision ++
  "\"\x7d,\"attention_type\":\"gqa\",\"model_cache_spec\":\x7b\"n_layers\":1" ++
  ",\"n_q_heads\":2,\"n_kv_heads\":1,\"head_dim\":4,\"hidden_size\":8," ++
  "\"max_position_embeddings\":128,\"rope_theta\":10000.0\x7d,\"token_ids\":[42],\"seq_len\":1," ++
  "\"batch_size\":1,\"dtype\":\"float32\",\"block_size\":1,\"block_hashes\":[\"" ++
  blockHash ++ "\"],\"extra\":\x7b\x7d,\"created_at\":\"2026-01-01T00:00:00Z\"," ++
  "\"extractor_id\":\"test-extractor\",\"checksum\":\"" ++ repeatedDigest '0' ++
  "\",\"signature\":\"\"\x7d"

def testEntry : SealedHeader where
  header := oneTokenHeader "test"
  json := oneTokenJson "test" (repeatedDigest '9')
  nonce := bigEndian 12 0x000102030405060708090a0b
  ciphertext :=
    bigEndian 44 0x63a39c03656f863f12c096f58d364ec0c30d98bf3a4e555c79aa06d6d1b61f66b6063287f4bb448f91c7f994 ++
    bigEndian 44 0x2892c647d95d331db1b9c6ba5322dbe8c5ac44a6292a6dc8f32761b2124e85df5ee14debcd0da3bf355505d9 ++
    bigEndian 44 0x82aa10776600247b86c1252e3f192f60e91a6236553e50b6aa3f56aeeedf65d54b776e9cb107c52d72eb3aeb ++
    bigEndian 44 0x0a8e3c35cd9cc3e24a843546a2afb9a57e526158883f6e1da9438711d03797f8cdce9407d038ff545b7efdbb ++
    bigEndian 44 0x2764effa63c27441aa40169d9f388f24a1bdd0da2b629ad9e0af0aff914deb720af25d28ad01671e02fdaf04 ++
    bigEndian 44 0x6b508a6ef522a2b63ebac3caa5de5f3f6e0d9477a19a0bc34e98b2b5741f0f37b24aef8adc1f98e7ed14504b ++
    bigEndian 44 0xb5095f8a355aa4efcd98faa28839c27b25de31b3eed0cae92fdcd7a629b51016a5ff1686ef795765f29c076f ++
    bigEndian 44 0x45f612b650d5a5805bc4c39ab0f4903f3fd068b532f7f6713f666a4c5e792570f80c116eee124ae8d2a0668e ++
    bigEndian 44 0xe6030cdc3c8f6ac4cd6e70e05f585e28344b3e7dbee149a0f90fdb0fcd669949b12507f978f262eb39bbcc6b ++
    bigEndian 44 0x0c9450424c644b2a914df08ccf013841ec70af6b3f0b54c26e6be1eaec0a9b7f988edbc250d3c6bba90d45f3 ++
    bigEndian 44 0x210cc7865246f589b5bcf74700badb3c7205c58c87c8f9e2c59fd2083f2f199b4627a4c6af64d109e63e304c ++
    bigEndian 44 0xdabbc74b4c28274dbdf1a6849025fdb3cbddd0cc05dfab398f5c85ced9a4b70f7a20af2c7ed2221bb6a7f6e3 ++
    bigEndian 44 0x45efe975a54b01f35e2c0f377f58a5628af4988372ceef333f8c87da2b243a16d08bb8b498dc483144bf4de0 ++
    bigEndian 44 0x627cc3826b4bc4ba04f84032879c4d545d6a7e24912c1c73dcde783a299f40cdeeff1eccb52c1d3ed9c88b12 ++
    bigEndian 44 0x14a2f86c255fd88fd2e2596a41096dac941a8e236933bf7e2a81026f35e83128536e0cbe2c5e092ff24c2752 ++
    bigEndian 44 0xaee38702a76d77a546ae7c9c351a77e1b8c02a93f7266d77d51397a1b41fda567632d6ada9c9fdf1125feeb0 ++
    bigEndian 14 0x0b2fa76eff069078a5db3afd2538
  signature :=
    bigEndian 44 0xe7154211b684343c102de5552ef383bafd835428ad54b35eb01fcd1c2e23387c7d49a4481af750ea89c987dd ++
    bigEndian 20 0xf571aef70cee6c9ba93f9aec03c03a73c1d88709

def Recording.single (entry : SealedHeader) (hn : entry.nonce.length = aesGcmNonceLen)
    (hs : entry.signature.length = 64) : Recording where
  entries := [entry]
  nonce_inj := by simp
  json_inj := by simp
  nonce_length := by simpa using hn
  signature_length := by simpa using hs

def testRecording : Recording :=
  .single testEntry (by simp [testEntry, aesGcmNonceLen]) (by simp [testEntry])

/-- A chunk of block `0` and layer `0`, as sent without a codec. -/
def plainChunk (tensorName : String) (values : List F32) : PayloadChunk :=
  ⟨0, 0, tensorName, none, values.flatMap f32ToBeBytes, crc32Ieee (values.flatMap f32ToBeBytes)⟩

/-- The two chunks of a block with one layer. -/
def pairChunks (key value : List F32) : List PayloadChunk :=
  [plainChunk (keyName 0) key, plainChunk (valueName 0) value]

def pairStaging (header : UsxfHeader) (blockHash : String) (key value : List F32) : Staging F32 :=
  ⟨stageTensor (stageTensor ∅ blockHash (keyName 0) ⟨key, blockShape header (keyName 0)⟩)
    blockHash (valueName 0) ⟨value, blockShape header (valueName 0)⟩,
    insert (0, 0, valueName 0) (insert (0, 0, keyName 0) ∅)⟩

/-- A header of one block and one layer, sent without a codec. -/
structure PairHeader (header : UsxfHeader) (blockHash : String) : Prop where
  blockHashes : header.blockHashes = [blockHash]
  nLayers : header.modelCacheSpec.nLayers = 1
  plain : header.transferQuantization = none

section Pair

variable {header : UsxfHeader} {blockHash : String} {key value : List F32}

theorem PairHeader.stages (h : PairHeader header blockHash) (recording : Recording)
    (hkey : key.length = (blockFloatCount header (keyName 0)).toNat)
    (hvalue : value.length = (blockFloatCount header (valueName 0)).toNat) :
    Stages recording.host header Staging.empty (pairChunks key value)
      (pairStaging header blockHash key value) := by
  have hblock : header.blockHashes[0]? = some blockHash := by rw [h.blockHashes]; rfl
  have hlayer : 0 < header.modelCacheSpec.nLayers.toNat := by rw [h.nLayers]; decide
  have hcodec : header.transferQuantization.map (·.scheme) = none := by rw [h.plain]; rfl
  refine .cons rfl (stageChunk_ok_iff.mpr ⟨blockHash, key,
    ⟨hblock, hlayer, Or.inl rfl, by simp [Staging.empty]⟩, ?_, hkey, rfl⟩) ?_
  · rw [hcodec]
    exact decodePayload_plain _ _ _ _
  refine .cons rfl (stageChunk_ok_iff.mpr ⟨blockHash, value,
    ⟨hblock, hlayer, Or.inr rfl, ?_⟩, ?_, hvalue, rfl⟩) .nil
  · simp [Staging.empty, plainChunk, PayloadChunk.key, (keyName_ne_valueName 0 0).symm]
  · rw [hcodec]
    exact decodePayload_plain _ _ _ _

theorem mem_pairStaging (header : UsxfHeader) (blockHash : String) (key value : List F32) :
    blockHash ∈ (pairStaging header blockHash key value).accumulatedBlocks :=
  Finmap.mem_insert.mpr (Or.inl rfl)

end Pair

def oneTokenInbox (entry : SealedHeader) (values : List F32) (final : MigrationMessage) :
    List (Fallible MigrationMessage) :=
  [.ok (.capabilityRequest "test-model" "gqa" 1), .ok (.headerEnvelope entry.envelope),
    .ok (.payloadChunk (plainChunk (keyName 0) values)),
    .ok (.payloadChunk (plainChunk (valueName 0) values)), .ok final]

/-- A session of one block is staged, whatever its last message, unless that is a binding. -/
def pairSession {recording : Recording} {entry : SealedHeader} (h : entry ∈ recording.entries)
    {header : UsxfHeader} (hh : entry.header = header) (hvalid : header.Valid) {blockHash : String}
    (hpair : PairHeader header blockHash) {values : List F32}
    (hkey : values.length = (blockFloatCount header (keyName 0)).toNat)
    (hvalue : values.length = (blockFloatCount header (valueName 0)).toNat)
    (hcount : 2 = (chunkCount header).toNat) (final : MigrationMessage)
    (hf : ∀ binding, final ≠ .agentGraphBinding binding) (daemon : DaemonState F32) :
    StagedSession recording.host
      (Connection.start ⟨oneTokenInbox entry values final, fun _ => true⟩ daemon) where
  modelArchitecture := "test-model"
  attentionType := "gqa"
  seqLen := 1
  envelope := entry.envelope
  header := header
  chunks := pairChunks values values
  binding := none
  final := final
  rest := []
  staging := pairStaging header blockHash values values
  inbox_eq := rfl
  admitted := by decide
  opens := by
    rw [← hh]
    exact Recording.openHeader_eq h (hh ▸ hvalid)
  counted := hcount
  staged := hpair.stages recording hkey hvalue
  bound := by simp
  unbound := fun _ => hf
  delivered := by simp [Connection.start]

theorem oneTokenHeader_pair (weightsRevision : String) :
    PairHeader (oneTokenHeader weightsRevision) (repeatedDigest '9') := ⟨rfl, rfl, rfl⟩

theorem chunkCount_oneToken (weightsRevision : String) : 2 = (chunkCount (oneTokenHeader weightsRevision)).toNat :=
  (by decide : 2 = (1 * 2 * divCeil 1 1 : UInt64).toNat)

def oneTokenBlocks (values : List F32) : BlockMap F32 :=
  stageTensor (stageTensor ∅ (repeatedDigest '9') (keyName 0) ⟨values, [1, 1, 4, 1]⟩)
    (repeatedDigest '9') (valueName 0) ⟨values, [1, 1, 1, 4]⟩

def oneTokenSession {recording : Recording} {entry : SealedHeader} (h : entry ∈ recording.entries)
    {weightsRevision : String} (hh : entry.header = oneTokenHeader weightsRevision)
    {values : List F32} (hlen : values.length = 4) (final : MigrationMessage)
    (hf : ∀ binding, final ≠ .agentGraphBinding binding) (daemon : DaemonState F32) :
    StagedSession recording.host
      (Connection.start ⟨oneTokenInbox entry values final, fun _ => true⟩ daemon) :=
  pairSession h hh (oneTokenHeader_valid weightsRevision) (oneTokenHeader_pair weightsRevision) (hlen.trans rfl)
    (hlen.trans rfl) (chunkCount_oneToken weightsRevision) final hf daemon

theorem oneTokenBlocks_ne_empty (values : List F32) : oneTokenBlocks values ≠ ∅ := by
  intro h
  have hl := congrArg (Finmap.lookup (repeatedDigest '9')) h
  simp [oneTokenBlocks, stageTensor] at hl

/-- A one-token session that ends with a stray acknowledgement. -/
def strayConnection : Connection :=
  ⟨oneTokenInbox testEntry (List.replicate 4 ⟨0⟩) (.chunkAck 0), fun _ => true⟩

/-- A complete session that does not end with `CommitRequest` is refused, and has still filled the
empty cache. -/
theorem serve_without_commit_injects :
    ¬(¬CommitSent (serve (F := F32) testRecording.host (.mock (.new .default) 256 ∅)
          strayConnection).outbox →
        (serve (F := F32) testRecording.host (.mock (.new .default) 256 ∅)
          strayConnection).injector.backend = .mock ∅) := by
  intro h
  have hmem : testEntry ∈ testRecording.entries := List.mem_singleton_self _
  have hlen : (List.replicate 4 (⟨0⟩ : F32)).length = 4 := rfl
  obtain ⟨hi, hc⟩ := serve_staged (oneTokenSession hmem rfl hlen (.chunkAck 0) (by simp)
    (.mock (.new .default) 256 ∅))
  have hsame := h fun hs => absurd (hc.mp hs).requested (by simp [oneTokenSession, pairSession])
  rw [strayConnection, hi] at hsame
  have hunion : oneTokenBlocks (List.replicate 4 ⟨0⟩) ∪ ∅ = ∅ := InjectorBackend.mock.inj hsame
  rw [Finmap.union_empty] at hunion
  exact oneTokenBlocks_ne_empty _ hunion

end PermeantOS
