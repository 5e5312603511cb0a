import PermeantOS.DaemonRun
import PermeantOS.StoredBlocks

namespace PermeantOS

section Migration

variable {source : SourceHost F32} {host : Host F32} {config : SourceConfig} {seqLen : Usize}
  {transferCodec : TransferCodec} {agentGraphManifest : Option AgentGraphManifest}
  {extractedCache : TensorMap F32}

/-- No commit is sent on a connection without a request for it. -/
theorem commitRequest_mem_of_commitSent {orchestrator : MigrationOrchestrator} {blockSize : Usize}
    {before : BlockMap F32} {sent : List MigrationMessage} {delivers : Nat → Bool}
    (h : CommitSent (serve host (.mock orchestrator blockSize before)
      ⟨sent.map .ok, delivers⟩).outbox) : .commitRequest ∈ sent := by
  obtain ⟨st, hcommits⟩ := staged_of_commitSent h
  have hinbox : (sent.map .ok : List (Fallible MigrationMessage)) = _ := st.inbox_eq
  have hmem : .ok .commitRequest ∈ (sent.map .ok : List (Fallible MigrationMessage)) := by
    rw [hinbox, hcommits.requested]
    simp
  simpa using hmem

/-- The messages of the source on a fresh connection, and the cache of a daemon that handled them. -/
def sentBy (source : SourceHost F32) (config : SourceConfig) (seqLen : Usize)
    (transferCodec : TransferCodec) (agentGraphManifest : Option AgentGraphManifest)
    (extractedCache : TensorMap F32) (replies : List (Fallible MigrationMessage))
    (delivers : Nat → Bool) : List MigrationMessage :=
  (leftState ((runSimMigrate source config seqLen transferCodec agentGraphManifest
    extractedCache).run ⟨replies, delivers, []⟩)).outbox

theorem committedChunks_of_commitSent {orchestrator : MigrationOrchestrator} {blockSize : Usize}
    {replies : List (Fallible MigrationMessage)} {delivers delivers' : Nat → Bool}
    (linked : Linked source host (simHeader source.sha256 config seqLen transferCodec))
    (hq : source.qatq.RoundTrips) (hc : transferCodec ≠ .fp8)
    (hcanonical : CanonicalCache config seqLen extractedCache)
    (hcommit : CommitSent (serve host (.mock orchestrator blockSize ∅) ⟨(sentBy source config seqLen
      transferCodec agentGraphManifest extractedCache replies delivers).map .ok, delivers'⟩).outbox) :
    ∃ staging, CommittedChunks source host config seqLen transferCodec extractedCache staging ∧
      (runDaemon host (.mock orchestrator blockSize ∅) [⟨(sentBy source config seqLen transferCodec
        agentGraphManifest extractedCache replies delivers).map .ok, delivers'⟩]).physicalCache =
          staging.accumulatedBlocks := by
  obtain ⟨m⟩ := runSimMigrate_sent (s := ⟨replies, delivers, []⟩) rfl rfl
    (commitRequest_mem_of_commitSent hcommit)
  obtain ⟨staging, hadmitted, hvalid, hstaged, hinjector⟩ := m.committed linked hcommit
  obtain ⟨_, _, _, hb, _⟩ := validateHeader_ok_iff.mp hvalid
  refine ⟨staging, ⟨hcanonical, hc, hq, linked.qatq, hb, hadmitted, m.encodes, hstaged⟩, ?_⟩
  simp only [runDaemon, DaemonState.physicalCache]
  rw [sentBy, hinjector]

/-- After a committed migration every key and value of the source is found in the target's cache
exactly when all full blocks of the source are alike, because they share one hash. -/
theorem runSimMigrate_storesEvery_iff {orchestrator : MigrationOrchestrator} {blockSize : Usize}
    {replies : List (Fallible MigrationMessage)} {delivers delivers' : Nat → Bool}
    (linked : Linked source host (simHeader source.sha256 config seqLen transferCodec))
    (hq : source.qatq.RoundTrips) (hc : transferCodec ≠ .fp8)
    (hcanonical : CanonicalCache config seqLen extractedCache)
    (hsha : source.sha256 (dummyBytes config.blockSize.toNat) ≠
      source.sha256 (dummyBytes (seqLen.toNat % config.blockSize.toNat)))
    (hcommit : CommitSent (serve host (.mock orchestrator blockSize ∅) ⟨(sentBy source config seqLen
      transferCodec agentGraphManifest extractedCache replies delivers).map .ok, delivers'⟩).outbox) :
    StoresEvery config (simHeader source.sha256 config seqLen transferCodec) extractedCache
      (runDaemon host (.mock orchestrator blockSize ∅) [⟨(sentBy source config seqLen transferCodec
        agentGraphManifest extractedCache replies delivers).map .ok, delivers'⟩]).physicalCache ↔
      FullBlocksRepeat config seqLen extractedCache := by
  obtain ⟨staging, c, hcache⟩ := committedChunks_of_commitSent linked hq hc hcanonical hcommit
  rw [hcache]
  exact c.storesEvery_iff hsha

end Migration

/-- SHA-256 of no token and of one dummy token. -/
def recordedSha256 (bytes : List UInt8) : List UInt8 :=
  if bytes = [] then
    bigEndian 32 0xe3b0c44298fc1c149afbf4c8996fb92427ae41e4649b934ca495991b7852b855
  else bigEndian 32 0xae3c8b8d99a39542f78af83dbbb42c81cd94199ec1b5f60a0801063e95842570

def dummyHash : String := computeSha256 recordedSha256 (dummyBytes 1)

def oneDimConfig : SourceConfig where
  modelArchitecture := "test-model"
  modelIdentity := "test"
  modelConfigHash := repeatedDigest '1'
  nLayers := 1
  nQHeads := 2
  nKvHeads := 1
  headDim := 1
  hiddenSize := 2
  blockSize := 1
  createdAt := "2026-01-01T00:00:00Z"
  extractorId := "test-extractor"
  nonce := bigEndian 12 0x030102030405060708090a0b
  signingKey := List.replicate 32 1

def twoTokenJson : String :=
  "\x7b\"usxf_version\":\"1.1\",\"model_architecture\":\"test-model\",\"model_identity\":\x7b" ++
  "\"config_hash\":\"" ++ repeatedDigest '1' ++ "\",\"weights_revision\":\"test\"\x7d," ++
  "\"attention_type\":\"gqa\",\"model_cache_spec\":\x7b\"n_layers\":1,\"n_q_heads\":2," ++
  "\"n_kv_heads\":1,\"head_dim\":1,\"hidden_size\":2,\"max_position_embeddings\":131072," ++
  "\"rope_theta\":500000.0\x7d,\"token_ids\":[42,42],\"seq_len\":2,\"batch_size\":1," ++
  "\"dtype\":\"float32\",\"block_size\":1,\"block_hashes\":[\"" ++ dummyHash ++ "\",\"" ++
  dummyHash ++ "\"],\"extra\":\x7b\x7d," ++
  "\"created_at\":\"2026-01-01T00:00:00Z\",\"extractor_id\":\"test-extractor\"," ++
  "\"checksum\":\"" ++ dummyChecksum ++ "\",\"signature\":\"\"\x7d"

def twoTokenEntry : SealedHeader where
  header := simHeader recordedSha256 oneDimConfig 2 .none
  json := twoTokenJson
  nonce := oneDimConfig.nonce
  ciphertext :=
    bigEndian 44 0x423a057f4faee2c00d4c359ea7f6b176698bb4619129610afacae56a7c3e6fdcb8d93630fef4cd82e049f614 ++
    bigEndian 44 0xe6049f0a58819f2298504875eb8bf60d8cbe4ce0bb24a581ab1e72fc707d6ad16a6e9ee7dbf8d8de21e3010a ++
    bigEndian 44 0x3564ab7b35105f2ed1eb4b4661dafb0234b889973848c49e0c0a271608cb1145621b8bc0ab870d0f49c2d649 ++
    bigEndian 44 0x3a65c7ea891b88b89003293bf40db70c9b0e8bc04ec19a0c77d7b6b9b9b9b52b71bebcea6fdf1854fa524006 ++
    bigEndian 44 0xe430389a762267fa3b8579b179e7b7a220dd19ea503b6b75f29727fbc8eaa7e083eb137fb97442f55a7b3ab4 ++
    bigEndian 44 0x2ae4a86570c6d60828f9bf5e60bc2a11471505de705f186e27831c22812df96497be0bc3f5c759aec71faa47 ++
    bigEndian 44 0x7489786a6b26bc0b80f816eb8a3868f0ae98468840e91d7b9d866c092eed52f8b252a016f6b858584218657b ++
    bigEndian 44 0x15d6a65c3207f1dca329429757d7a352d8d5cbf280a69e00f0846c4c9200eb403759bfa1e19babae93f030bf ++
    bigEndian 44 0x502b31638b0dec54d62ff096d03e7715e4742e76c920b8fbfd1bbb0570ec2fec69b0dac3ce792943e175e885 ++
    bigEndian 44 0x9c73391c43ef6416a430e7175ebc29e27b016d6926d6a392378cb7b35c8248099ecf408f646b7c8c83abcbeb ++
    bigEndian 44 0xbc767b46cf4d66363de0520299dcf75845e1c2e22be74cd4a14546b1e72f66e44f828d28936dca08c2158d5f ++
    bigEndian 44 0xbd278c957af5af993c602ea3a1d414798bd79d3b491de895f075f6154f71f5b7e8b200153d29894488562146 ++
    bigEndian 44 0xd5578f1a9d115d10b4d7cc3d0b26fd330c0b237d2dadcfb52ae481056f54bb8496b49e9780ed31de5dcdc7e5 ++
    bigEndian 44 0x2f92ca3e90d83607f689f0edc0ff02908d55a6d88ee4b9594a7671db62aef9261a5e05ab794f9d7b2589a634 ++
    bigEndian 44 0xb811608aedefc29ea51b9aee0ec296c65b829319867e64dc9946ea3cb84599602ae5b1443f1ca7b74dec63e9 ++
    bigEndian 44 0x764b1b4c1cf632f2a5c7a09e65f7574b93943d93a28097716962cb02e77f4b26c59cc8b17cf4b5b9fc06c97f ++
    bigEndian 44 0x0cc27107ae4c93a0d520d6f07defef3fca5749f321b77b0b788d688c5ee9f689f3fdc25de3078a7b6420015c ++
    bigEndian 44 0xff582e35494215db770c3e71c69fb30cb7d907a30b5095876fe9c6ddd79a10647d508aa7deb99a401ddd29c7 ++
    bigEndian 7 0x616549e67503d7
  signature :=
    bigEndian 44 0x4a7f03fd8d8ca332a0270daa42d8ef8a4795058403ff21d548406072862898e78192332682e0a46c579c55a9 ++
    bigEndian 20 0xe8dda0baf8f543c28d0a6b568f8f72e6645a590a

def twoTokenRecording : Recording :=
  .single twoTokenEntry (bigEndian_length _ _) (by simp [twoTokenEntry])

def Recording.source (recording : Recording) : SourceHost F32 where
  crc32 := crc32Ieee
  crypto := recording.crypto
  sha256 := recordedSha256
  headerToVec header := contextOption "header was not recorded"
    ((recording.entries.find? fun a => a.header = header).map fun a => asBytes a.json)
  qatq := Qatq.stored
  recordF32Chunk _ := .ok ()

theorem twoToken_headerToVec : twoTokenRecording.source.headerToVec twoTokenEntry.header =
    .ok (asBytes twoTokenEntry.json) := by
  simp [Recording.source, twoTokenRecording, Recording.single, contextOption]

theorem twoToken_linked : Linked twoTokenRecording.source (twoTokenRecording.host (F := F32))
    twoTokenEntry.header where
  crypto := rfl
  lawful := twoTokenRecording.crypto_lawful
  aesKey := rfl
  qatq := rfl
  json bytes h := by
    cases h.symm.trans twoToken_headerToVec
    exact Recording.headerFromSlice_eq (List.mem_singleton_self _)

/-- One layer whose key and value are the same two numbers. -/
def twoTokenCache (first second : F32) : TensorMap F32 :=
  ((∅ : TensorMap F32).insert (keyName 0) ⟨[first, second], [2, 1, 1]⟩).insert (valueName 0)
    ⟨[first, second], [2, 1, 1]⟩

theorem twoTokenCache_lookup (first second : F32) {name : String}
    (h : name = keyName 0 ∨ name = valueName 0) :
    (twoTokenCache first second).lookup name = some ⟨[first, second], [2, 1, 1]⟩ := by
  rcases h with rfl | rfl
  · rw [twoTokenCache, Finmap.lookup_insert_of_ne _ (keyName_ne_valueName 0 0), Finmap.lookup_insert]
  · rw [twoTokenCache, Finmap.lookup_insert]

theorem twoTokenCache_canonical (first second : F32) :
    CanonicalCache oneDimConfig 2 (twoTokenCache first second) := by
  intro layerIdx hl name hname
  obtain rfl : layerIdx = 0 := Nat.lt_one_iff.mp hl
  exact ⟨_, twoTokenCache_lookup first second hname, rfl, rfl⟩

def oneDimChunk (blockIdx : Nat) (tensorName : String) (x : F32) : PayloadChunk :=
  chunkOf twoTokenRecording.source 0 blockIdx tensorName ⟨[x].flatMap f32ToBeBytes, none⟩

def twoTokenChunks (first second : F32) : List PayloadChunk :=
  [oneDimChunk 0 (keyName 0) first, oneDimChunk 0 (valueName 0) first,
    oneDimChunk 1 (keyName 0) second, oneDimChunk 1 (valueName 0) second]

def twoTokenMessages (first second : F32) : List MigrationMessage :=
  .capabilityRequest "test-model" "gqa" 2 :: .headerEnvelope twoTokenEntry.envelope ::
    ((twoTokenChunks first second).map .payloadChunk ++ [.commitRequest])

def twoTokenReplies : List (Fallible MigrationMessage) :=
  [.ok (.capabilityResponse true none "cpu"), .ok (.headerAck true), .ok (.chunkAck 0),
    .ok (.chunkAck 0), .ok (.chunkAck 1), .ok (.chunkAck 1), .ok (.commitResponse true none)]

theorem transpileLayer_twoToken (first second : F32) :
    transpileLayer oneDimConfig (twoTokenCache first second) 0 =
      .ok (⟨[first, second], [2, 1, 1, 1]⟩, ⟨[first, second], [2, 1, 1, 1]⟩) := by
  rw [transpileLayer, canonicalTensor, twoTokenCache_lookup first second (Or.inl rfl),
    canonicalTensor, twoTokenCache_lookup first second (Or.inr rfl)]
  rfl

theorem sentBy_twoToken (first second : F32) :
    sentBy twoTokenRecording.source oneDimConfig 2 .none none (twoTokenCache first second)
      twoTokenReplies (fun _ => true) = twoTokenMessages first second := by
  have hmem : twoTokenEntry ∈ twoTokenRecording.entries := List.mem_singleton_self _
  have hseal := Recording.sealPacket_eq hmem oneDimConfig.signingKey
  have hheader : (sendHeader twoTokenRecording.source oneDimConfig twoTokenEntry.header).run
      ⟨twoTokenReplies.drop 1, fun _ => true, (twoTokenMessages first second).take 1⟩ =
        .ok () ⟨twoTokenReplies.drop 2, fun _ => true, (twoTokenMessages first second).take 2⟩ :=
    run_liftExcept_bind_ok_iff.mpr ⟨_, twoToken_headerToVec,
      run_liftExcept_bind_ok_iff.mpr ⟨_, hseal, rfl⟩⟩
  have hlayer : (sendLayer twoTokenRecording.source oneDimConfig 2 .none
      (twoTokenCache first second) 0).run
        ⟨twoTokenReplies.drop 2, fun _ => true, (twoTokenMessages first second).take 2⟩ =
        .ok () ⟨twoTokenReplies.drop 6, fun _ => true, (twoTokenMessages first second).take 6⟩ :=
    run_liftExcept_bind_ok_iff.mpr ⟨_, transpileLayer_twoToken first second, rfl⟩
  have hstage : (stageMigration twoTokenRecording.source oneDimConfig 2 .none none
      (twoTokenCache first second)).run ⟨twoTokenReplies, fun _ => true, []⟩ =
        .ok () ⟨twoTokenReplies.drop 6, fun _ => true, (twoTokenMessages first second).take 6⟩ :=
    run_bind_ok_iff.mpr ⟨(), _, rfl, run_liftExcept_bind_ok_iff.mpr ⟨(), rfl,
      run_bind_ok_iff.mpr ⟨(), _, hheader, run_bind_ok_iff.mpr ⟨(), _, hlayer, rfl⟩⟩⟩⟩
  rw [sentBy, runSimMigrate, run_bind_of_ok hstage]
  rfl

theorem twoToken_blockHashes : twoTokenEntry.header.blockHashes = [dummyHash, dummyHash] := rfl

theorem twoTokenHeader_valid : twoTokenEntry.header.Valid :=
  validateHeader_ok_iff.mpr ⟨rfl, rfl, by simp [twoTokenEntry, simHeader],
    by simp [twoTokenEntry, simHeader, oneDimConfig], rfl, by simp [twoTokenEntry, simHeader],
    startsWithSha256_repeatedDigest _, by decide⟩

theorem stageChunk_oneDim {staging : Staging F32} {blockIdx : Nat} (hblock : blockIdx < 2)
    {tensorName : String} (hname : tensorName = keyName 0 ∨ tensorName = valueName 0) (x : F32)
    (hfresh : (UInt32.ofNat blockIdx, 0, tensorName) ∉ staging.receivedChunks) :
    stageChunk (twoTokenRecording.host (F := F32)) twoTokenEntry.header staging
      (oneDimChunk blockIdx tensorName x) =
        .ok ⟨stageTensor staging.accumulatedBlocks dummyHash tensorName
          ⟨[x], blockShape twoTokenEntry.header tensorName⟩,
          insert (UInt32.ofNat blockIdx, 0, tensorName) staging.receivedChunks⟩ := by
  have hcount : (blockFloatCount twoTokenEntry.header tensorName).toNat = 1 := by
    rcases hname with rfl | rfl <;> rfl
  have hhash : twoTokenEntry.header.blockHashes[(UInt32.ofNat blockIdx).toNat]? = some dummyHash := by
    rw [twoToken_blockHashes]
    obtain rfl | rfl : blockIdx = 0 ∨ blockIdx = 1 := by omega
    · rfl
    · rfl
  exact stageChunk_ok_iff.mpr ⟨dummyHash, [x], ⟨hhash, Nat.one_pos, hname, hfresh⟩,
    decodePayload_plain _ _ _ _, hcount.symm, rfl⟩

/-- What the two tokens leave staged: the second one. -/
def twoTokenStaging (first second : F32) : Staging F32 :=
  let stage (staging : Staging F32) (blockIdx : Nat) (tensorName : String) (x : F32) : Staging F32 :=
    ⟨stageTensor staging.accumulatedBlocks dummyHash tensorName
      ⟨[x], blockShape twoTokenEntry.header tensorName⟩,
      insert (UInt32.ofNat blockIdx, 0, tensorName) staging.receivedChunks⟩
  stage (stage (stage (stage .empty 0 (keyName 0) first) 0 (valueName 0) first) 1 (keyName 0) second)
    1 (valueName 0) second

theorem stages_twoToken (first second : F32) :
    Stages (twoTokenRecording.host (F := F32)) twoTokenEntry.header .empty
      (twoTokenChunks first second) (twoTokenStaging first second) := by
  have hkv := keyName_ne_valueName 0 0
  refine .cons rfl (stageChunk_oneDim (by omega) (Or.inl rfl) first (by simp [Staging.empty])) ?_
  refine .cons rfl (stageChunk_oneDim (by omega) (Or.inr rfl) first
    (by simp [Staging.empty, hkv.symm])) ?_
  refine .cons rfl (stageChunk_oneDim (by omega) (Or.inl rfl) second (by simp [Staging.empty])) ?_
  exact .cons rfl (stageChunk_oneDim (by omega) (Or.inr rfl) second
    (by simp [Staging.empty, hkv.symm])) .nil

def twoTokenSession (first second : F32) :
    StagedSession (twoTokenRecording.host (F := F32)) (Connection.start
      ⟨(twoTokenMessages first second).map .ok, fun _ => true⟩ (.mock (.new .default) 256 ∅)) where
  modelArchitecture := "test-model"
  attentionType := "gqa"
  seqLen := 2
  envelope := twoTokenEntry.envelope
  header := twoTokenEntry.header
  chunks := twoTokenChunks first second
  binding := none
  final := .commitRequest
  rest := []
  staging := twoTokenStaging first second
  inbox_eq := rfl
  admitted := by decide
  opens := Recording.openHeader_eq (List.mem_singleton_self _) twoTokenHeader_valid
  counted := rfl
  staged := stages_twoToken first second
  bound := by simp
  unbound := by simp
  delivered := by simp [Connection.start]

theorem commitSent_twoToken (first second : F32) :
    CommitSent (serve (F := F32) twoTokenRecording.host (.mock (.new .default) 256 ∅)
      ⟨(sentBy twoTokenRecording.source oneDimConfig 2 .none none (twoTokenCache first second)
        twoTokenReplies (fun _ => true)).map .ok, fun _ => true⟩).outbox := by
  rw [sentBy_twoToken]
  refine (serve_staged (twoTokenSession first second)).2.mpr ⟨rfl, ?_, rfl⟩
  intro hash hmem
  have hhash : hash = dummyHash := by
    have hmem' : hash ∈ [dummyHash, dummyHash] := hmem
    simpa using hmem'
  rw [hhash, StagedSession.cache, Finmap.mem_union]
  exact Or.inl (Finmap.mem_insert.mpr (Or.inl rfl))

theorem recordedSha256_separates : recordedSha256 (dummyBytes 1) ≠ recordedSha256 (dummyBytes 0) := by
  intro h
  have hn := congrArg ofBigEndian h
  rw [recordedSha256, if_neg (by decide), recordedSha256, if_pos (by decide),
    ofBigEndian_bigEndian (by norm_num), ofBigEndian_bigEndian (by norm_num)] at hn
  exact absurd hn (by norm_num)

/-- Two equal tokens survive the migration. -/
theorem runSimMigrate_storesEvery_equal :
    StoresEvery oneDimConfig twoTokenEntry.header (twoTokenCache ⟨0x3f800000⟩ ⟨0x3f800000⟩)
      (runDaemon (F := F32) twoTokenRecording.host (.mock (.new .default) 256 ∅)
        [⟨(sentBy twoTokenRecording.source oneDimConfig 2 .none none
          (twoTokenCache ⟨0x3f800000⟩ ⟨0x3f800000⟩) twoTokenReplies (fun _ => true)).map .ok,
          fun _ => true⟩]).physicalCache := by
  refine (runSimMigrate_storesEvery_iff twoToken_linked (fun _ _ h => by cases h; rfl) (by decide)
    (twoTokenCache_canonical _ _) recordedSha256_separates (commitSent_twoToken _ _)).mpr ?_
  intro layerIdx hl name hname head hhead dim hdim token other htoken hother _
  obtain rfl : layerIdx = 0 := Nat.lt_one_iff.mp hl
  obtain rfl : head = 0 := Nat.lt_one_iff.mp hhead
  obtain rfl : dim = 0 := Nat.lt_one_iff.mp hdim
  have hfull : ∀ {t : Nat}, t / 1 < 2 / 1 → sourceAt (twoTokenCache ⟨0x3f800000⟩ ⟨0x3f800000⟩) name
      [t, 0, 0] = some ⟨0x3f800000⟩ := by
    intro t ht
    rw [sourceAt, twoTokenCache_lookup _ _ hname]
    obtain rfl | rfl : t = 0 ∨ t = 1 := by omega
    · rfl
    · rfl
  rw [hfull htoken, hfull hother]

theorem physicalCache_twoToken (first second : F32) :
    (runDaemon (F := F32) twoTokenRecording.host (.mock (.new .default) 256 ∅)
      [⟨(sentBy twoTokenRecording.source oneDimConfig 2 .none none (twoTokenCache first second)
        twoTokenReplies (fun _ => true)).map .ok, fun _ => true⟩]).physicalCache =
      (twoTokenStaging first second).accumulatedBlocks := by
  have hinjector := (serve_staged (twoTokenSession first second)).1
  rw [sentBy_twoToken, runDaemon, runDaemon, DaemonState.physicalCache, hinjector]
  exact Finmap.union_empty

theorem storedAt_twoToken (first second : F32) :
    storedAt (twoTokenStaging first second).accumulatedBlocks dummyHash (keyName 0) [0, 0, 0, 0] =
      some second := by
  have hcell : cell (twoTokenStaging first second).accumulatedBlocks dummyHash (keyName 0) =
      some ⟨[second], blockShape twoTokenEntry.header (keyName 0)⟩ :=
    (cell_stageTensor_of_ne fun _ => keyName_ne_valueName 0 0).trans (cell_stageTensor_self _ _ _ _)
  rw [storedAt, hcell]
  exact element_keyBlock oneDimConfig _ _ 0 0 0 0

/-- Two different tokens do not: both blocks have the hash of the token `42`, and where the first key
should be, the committed cache holds the second. -/
theorem runSimMigrate_loses_first_token :
    Linked twoTokenRecording.source (twoTokenRecording.host (F := F32)) twoTokenEntry.header ∧
      CanonicalCache oneDimConfig 2 (twoTokenCache ⟨0⟩ ⟨0x3f800000⟩) ∧
      CommitSent (serve (F := F32) twoTokenRecording.host (.mock (.new .default) 256 ∅)
        ⟨(sentBy twoTokenRecording.source oneDimConfig 2 .none none (twoTokenCache ⟨0⟩ ⟨0x3f800000⟩)
          twoTokenReplies (fun _ => true)).map .ok, fun _ => true⟩).outbox ∧
      ¬StoresEvery oneDimConfig twoTokenEntry.header (twoTokenCache ⟨0⟩ ⟨0x3f800000⟩)
        (runDaemon (F := F32) twoTokenRecording.host (.mock (.new .default) 256 ∅)
          [⟨(sentBy twoTokenRecording.source oneDimConfig 2 .none none (twoTokenCache ⟨0⟩ ⟨0x3f800000⟩)
            twoTokenReplies (fun _ => true)).map .ok, fun _ => true⟩]).physicalCache := by
  refine ⟨twoToken_linked, twoTokenCache_canonical _ _, commitSent_twoToken _ _, ?_⟩
  intro h
  rw [physicalCache_twoToken] at h
  obtain ⟨hash, hhash, hkey, _⟩ := h 0 Nat.one_pos 0 Nat.two_pos 0 Nat.one_pos 0 Nat.one_pos
  rw [twoToken_blockHashes] at hhash
  obtain rfl : dummyHash = hash := Option.some.inj hhash
  rw [sourceAt, twoTokenCache_lookup _ _ (Or.inl rfl)] at hkey
  have hsame : some (⟨0x3f800000⟩ : F32) = some ⟨0⟩ := (storedAt_twoToken _ _).symm.trans hkey
  exact absurd hsame (by decide)

end PermeantOS
