import PermeantOS.SessionComplete

namespace PermeantOS

section Run

variable {F : Type}

/-- The Mock cache of a daemon; a command backend keeps none. -/
def DaemonState.physicalCache (daemon : DaemonState F) : BlockMap F :=
  match daemon.injector.backend with
  | .mock physicalCache => physicalCache
  | .jsonCommand _ => ∅

@[simp] theorem mock_physicalCache (orchestrator : MigrationOrchestrator) (blockSize : Usize)
    (cache : BlockMap F) :
    (DaemonState.mock orchestrator blockSize cache).physicalCache = cache := rfl

def Connection.Lists (host : Host F) (connection : Connection) (hash : String) : Prop :=
  ∃ header, CarriesHeader host connection.inbox header ∧ hash ∈ header.blockHashes

variable [F32Bits F] [F32Arith F] {host : Host F}

/-- One connection over a Mock cache: it changes only blocks that its header lists, and when it is
committed the cache holds all of these. -/
theorem serve_mock_step (host : Host F) (orchestrator : MigrationOrchestrator) (blockSize : Usize)
    (cache : BlockMap F) (connection : Connection) :
    ∃ orchestrator' cache',
      (⟨(serve host (.mock orchestrator blockSize cache) connection).orchestrator,
        (serve host (.mock orchestrator blockSize cache) connection).injector⟩ : DaemonState F) =
          .mock orchestrator' blockSize cache' ∧
      (∀ hash, ¬connection.Lists host hash → cache'.lookup hash = cache.lookup hash) ∧
      (CommitSent (serve host (.mock orchestrator blockSize cache) connection).outbox →
        ∀ hash, connection.Lists host hash → hash ∈ cache') := by
  rcases isEmpty_or_nonempty (StagedSession host (connection.start
    (.mock orchestrator blockSize cache))) with hempty | ⟨⟨st⟩⟩
  · obtain ⟨hi, hn⟩ := serve_unstaged hempty
    refine ⟨_, cache, by rw [hi]; rfl, fun _ _ => rfl, fun hs => absurd hs hn⟩
  · obtain ⟨hi, hc⟩ := serve_staged st
    refine ⟨_, st.cache cache, by rw [hi]; rfl, ?_, ?_⟩
    · intro hash hnot
      have hout : hash ∉ st.staging.accumulatedBlocks := by
        intro hmem
        obtain ⟨chunk, _, hblock⟩ := (st.staged.mem_blocks_iff.mp hmem).resolve_left
          Finmap.notMem_empty
        exact hnot ⟨st.header, ⟨_, st.envelope, _, st.inbox_eq, (openHeader_ok_iff.mp st.opens).1⟩,
          List.mem_of_getElem? hblock⟩
      exact Finmap.lookup_union_right hout
    · rintro hsent hash ⟨header, hcarries, hmem⟩
      obtain rfl := st.header_eq hcarries
      exact (hc.mp hsent).present hash hmem

theorem runDaemon_append (daemon : DaemonState F) (earlier later : List Connection) :
    runDaemon host daemon (earlier ++ later) = runDaemon host (runDaemon host daemon earlier) later := by
  induction earlier generalizing daemon with
  | nil => rfl
  | cons connection earlier ih =>
    rw [List.cons_append, runDaemon, runDaemon]
    exact ih _

/-- A Mock daemon stays one, and connections that do not list a block leave it alone. -/
theorem runDaemon_mock (host : Host F) (orchestrator : MigrationOrchestrator) (blockSize : Usize)
    (cache : BlockMap F) (connections : List Connection) :
    ∃ orchestrator' cache', runDaemon host (.mock orchestrator blockSize cache) connections =
        .mock orchestrator' blockSize cache' ∧
      ∀ hash, (∀ connection ∈ connections, ¬connection.Lists host hash) →
        cache'.lookup hash = cache.lookup hash := by
  induction connections generalizing orchestrator cache with
  | nil => exact ⟨orchestrator, cache, rfl, fun _ _ => rfl⟩
  | cons connection connections ih =>
    obtain ⟨o1, c1, hd, hkeep, _⟩ := serve_mock_step host orchestrator blockSize cache connection
    obtain ⟨o2, c2, hrun, hrest⟩ := ih o1 c1
    refine ⟨o2, c2, ?_, ?_⟩
    · rw [runDaemon]
      exact (congrArg (runDaemon host · connections) hd).trans hrun
    · intro hash hnot
      rw [hrest hash fun other ho => hnot other (List.mem_cons_of_mem connection ho),
        hkeep hash (hnot connection (by simp))]

/-- In every run, what a committed migration stored for a block stays until a connection whose
header lists that block. -/
theorem runDaemon_keeps_committed (host : Host F) (orchestrator : MigrationOrchestrator)
    (blockSize : Usize) (cache : BlockMap F) {earlier later : List Connection}
    {committed : Connection} {hash : String}
    (hsent : CommitSent (serve host
      (runDaemon host (.mock orchestrator blockSize cache) earlier) committed).outbox)
    (hlists : committed.Lists host hash)
    (hlater : ∀ connection ∈ later, ¬connection.Lists host hash) :
    ∃ tensors,
      (runDaemon host (.mock orchestrator blockSize cache)
        (earlier ++ [committed])).physicalCache.lookup hash = some tensors ∧
      (runDaemon host (.mock orchestrator blockSize cache)
        (earlier ++ committed :: later)).physicalCache.lookup hash = some tensors := by
  obtain ⟨o1, c1, hrun1, _⟩ := runDaemon_mock host orchestrator blockSize cache earlier
  rw [hrun1] at hsent
  obtain ⟨o2, c2, hd, _, hpresent⟩ := serve_mock_step host o1 blockSize c1 committed
  obtain ⟨o3, c3, hrun3, hkeep⟩ := runDaemon_mock host o2 blockSize c2 later
  obtain ⟨tensors, ht⟩ := Finmap.mem_iff.mp (hpresent hsent hash hlists)
  have hone : runDaemon host (.mock o1 blockSize c1) [committed] = .mock o2 blockSize c2 := hd
  have hall : runDaemon host (.mock o1 blockSize c1) (committed :: later) = .mock o3 blockSize c3 := by
    rw [runDaemon]
    exact (congrArg (runDaemon host · later) hd).trans hrun3
  refine ⟨tensors, ?_, ?_⟩
  · rw [runDaemon_append, hrun1, hone, mock_physicalCache, ht]
  · rw [runDaemon_append, hrun1, hall, mock_physicalCache, hkeep hash hlater, ht]

end Run

/-- The one-token header of another weights revision as it was sealed once. -/
def otherEntry : SealedHeader where
  header := oneTokenHeader "test-2"
  json := oneTokenJson "test-2" (repeatedDigest '9')
  nonce := bigEndian 12 0x010102030405060708090a0b
  ciphertext :=
    bigEndian 44 0xc90c994168bc2c46d9ee4eef3bc4b75b5d1103d3f9772c5233c595773833ccdd1d291b4dd0ab6313458ddd4e ++
    bigEndian 44 0xb70a84774be65673474eabfd4280470f94cc8cfddafbcf2f097a62e58e40cfc8bed007ed20f4f69bd848f001 ++
    bigEndian 44 0x92695eaad1cdbd7c5e4a28beaf5636aabdfad6ddbe48d75e3957ac6459f74ef4dd45f7dc74291a70c6121c94 ++
    bigEndian 44 0x7f77bb2143bc9ab4f70343f8e149d569de473e2ff74633655315a0bb0242af7ec9a6842ac9d94e9560ed3328 ++
    bigEndian 44 0x4b119abeab9ae378be24e4b7890bf8655d8219edbf5db1be7f8e9bb5c7272c7ce46507be862ab0b81a1634bd ++
    bigEndian 44 0xdca1c483c4738b5601a7192fe18903c5d8c0f7c9a891d65d914b2268a714bf9944aeda96f9c4a5e867db0e42 ++
    bigEndian 44 0xb76cf2c9b4e0b6b77a4f61b11001e7e32f91ee74697dc5680f9303d3604ec56efda02bbd4a96951f0ff3df1b ++
    bigEndian 44 0x054a9b860b86879189d85ed7578ec96366fd16adc871373b580120eca42021f473782b02034fe5265627bf03 ++
    bigEndian 44 0xfa1e33af3add3e2af75a11ee2eb89a18749dc228f9d9e2984c9725a5fb0bcb6e0ba1ae0b53628ed4b321e7d1 ++
    bigEndian 44 0xa9998222ebcf0964e18f79e92b879e79ba1d927e64f6958861889087e115cf3b3e399d5007911a1861e15706 ++
    bigEndian 44 0xeec56bfd5b26c2ff551db1316c1a019aaf68ab02ecf34388c35882585216dc2d67a8ee3589d061baffc24da1 ++
    bigEndian 44 0xb5f62bd19c70e40fa8184a1a485d692e78549a576ec01c4d32450bece3937c3fb18c77ec848abdd6ba0cac9d ++
    bigEndian 44 0xb2c76f65bcbb31e47b023226af613f33d99099fe01fa7ad29efbb73befdc3195e5adffa1cb6a5710d58e1ada ++
    bigEndian 44 0x2a8dc63e1fcbd1de5629ce01f26484cf4fb3c63120941cbb47acb0d4ea501d1863833146660cc57a7fa97349 ++
    bigEndian 44 0xb939bc698417d63393d9523061addfeb586a4a25df8adc90b52f1abe7b67edcb28f15f87a5c9e8cc3281dfd7 ++
    bigEndian 44 0x3603e00522e5bb2c839faddf67427ac13d5b026d993f13ed549a85c0912955b500e7e856340ac7d6eb858beb ++
    bigEndian 16 0xc8438aa222547a4016262602e5256264
  signature :=
    bigEndian 44 0x0b9c68dc9d42bf6d6b538744bbfaee06fa3ea074d82158d364df25c9c572722f40b51870968181f5983525da ++
    bigEndian 20 0x3e834cf27e02cbcbded862db442dc92c119ae401

/-- A header of the first model for another block. -/
def nextHeader : UsxfHeader := { oneTokenHeader "test" with blockHashes := [repeatedDigest '8'] }

theorem nextHeader_valid : nextHeader.Valid :=
  validateHeader_ok_iff.mpr (validateHeader_ok_iff.mp (oneTokenHeader_valid "test"))

theorem nextHeader_pair : PairHeader nextHeader (repeatedDigest '8') := ⟨rfl, rfl, rfl⟩

def nextEntry : SealedHeader where
  header := nextHeader
  json := oneTokenJson "test" (repeatedDigest '8')
  nonce := bigEndian 12 0x020102030405060708090a0b
  ciphertext :=
    bigEndian 44 0xfd47dd4ab41b30bea0360093b7f349f0632441c3049a7a26abcac9b593007a21393331e18340d56d8f644a27 ++
    bigEndian 44 0x8cab8b155d40436634e810abcbe20e06f55ff1a0a3c2282dffc82077e2f0b05e79fadd51896cebfd947b6a5e ++
    bigEndian 44 0x46b8198533b0ea7d5db3d0b138ceb25195031ef7f6c1fe9ebb30c1a9578e7b5cec2e94dbc26f0fbe4f1261a3 ++
    bigEndian 44 0xdb4cb9e9e57a69d2829eda9497018aec353c5f659c6d07470a6d9cbf93ee3967abf834f21a6271ae49a297ed ++
    bigEndian 44 0x92a24983243eb9c8de5efab7c6984acefe44aea287bac5e11316c90afcb33b6b0a9d7264667ac07f1f0fae82 ++
    bigEndian 44 0xf60333cacfeb0d7108d194879de440cb431f95651120ea925d2cee4d3f70341026f6364f024a8c7f2839e06f ++
    bigEndian 44 0xe95ac8ac42c2587f34169f9b50436776689e3e19559f498821a07368923f5b69e5213470947fa142ec9ec66f ++
    bigEndian 44 0x9b38ff9de356f0fa2e0e252426e137d28ea0ab8cecb19e3f7dbaf4f9bcbc76cddee246452c99fd32446d87e2 ++
    bigEndian 44 0x0b3a6cea0dd456640a4a54216e24c0fa3670e0f6f3dd54c9fc9a2756efff8c30970051305ae12ab56917fd0a ++
    bigEndian 44 0x9fd4e86b444ec4cfde98b8d3fc23b3954b2d82cc9a8ff00a2f87f11d5276e21e740a0b59250a1db21adf21cd ++
    bigEndian 44 0xfb4cda9b1a417152b58ed3895854d87bdc4c5dfb713a1a5537dc465fb0702f15c0d9895e07893f7563bfd56a ++
    bigEndian 44 0x2695b7857b0c587061d1a34e76da1a0a73c460b05b71ea064becb1aabdc8d48dc5ce1833ce232acaac0cc609 ++
    bigEndian 44 0xedd98421f38cb0fa7ed383240b588574768ae5329b9b5b220204197b114e7ea3c4f95e06d9d782f1643bd1bb ++
    bigEndian 44 0x2f3f9761c826bd6c2f0edd37d199859c55cf558f961b96744fc2e43e404d92a36bd3140cf9fd1ef8f92bc23d ++
    bigEndian 44 0x31db28d4d2b8b15dbb317d31283cc57f99d8823678c0b137c0d3e88ab2b52406ee1eb1172c18ebb43a6a755e ++
    bigEndian 44 0xa5707a75a00233eeccfd3b5ca5777b322b5094058731a0e0fd68eefc46163e441076625cd57ce83743a6fe58 ++
    bigEndian 14 0xe58627c4114a060e22077a8bc77e
  signature :=
    bigEndian 44 0x9682ee155db89bed7dd5d2d41cd9a4304019ee8607812e1a1ce03715140a5ee59f7800303611e77c46cb8caa ++
    bigEndian 20 0x952ea0cdc846597ee91e5873e5e2f4c4a0e87e0f

def Recording.pair (first second : SealedHeader) (hnonce : first.nonce ≠ second.nonce)
    (hjson : first.json ≠ second.json)
    (hn : first.nonce.length = aesGcmNonceLen ∧ second.nonce.length = aesGcmNonceLen)
    (hs : first.signature.length = 64 ∧ second.signature.length = 64) : Recording where
  entries := [first, second]
  nonce_inj := by
    simp only [List.mem_cons, List.not_mem_nil, or_false]
    rintro a (rfl | rfl) b (rfl | rfl) h
    · rfl
    · exact absurd h hnonce
    · exact absurd h.symm hnonce
    · rfl
  json_inj := by
    simp only [List.mem_cons, List.not_mem_nil, or_false]
    rintro a (rfl | rfl) b (rfl | rfl) h
    · rfl
    · exact absurd h hjson
    · exact absurd h.symm hjson
    · rfl
  nonce_length := by simpa using hn
  signature_length := by simpa using hs

theorem testEntry_nonce_ne : testEntry.nonce ≠ otherEntry.nonce := by
  intro h
  have hn := congrArg ofBigEndian h
  rw [testEntry, otherEntry, ofBigEndian_bigEndian (by norm_num),
    ofBigEndian_bigEndian (by norm_num)] at hn
  exact absurd hn (by norm_num)

theorem nextEntry_nonce_ne : testEntry.nonce ≠ nextEntry.nonce := by
  intro h
  have hn := congrArg ofBigEndian h
  rw [testEntry, nextEntry, ofBigEndian_bigEndian (by norm_num),
    ofBigEndian_bigEndian (by norm_num)] at hn
  exact absurd hn (by norm_num)

theorem oneTokenJson_injective {first second blockHash : String}
    (h : oneTokenJson first blockHash = oneTokenJson second blockHash) : first = second := by
  delta oneTokenJson at h
  simpa only [String.append_left_inj, String.append_right_inj] using h

theorem oneTokenJson_blockHash {weightsRevision first second : String}
    (h : oneTokenJson weightsRevision first = oneTokenJson weightsRevision second) : first = second := by
  delta oneTokenJson at h
  simpa only [String.append_left_inj, String.append_right_inj] using h

def pairRecording : Recording :=
  .pair testEntry otherEntry testEntry_nonce_ne
    (fun h => absurd (oneTokenJson_injective h) (by decide))
    ⟨by simp [testEntry, aesGcmNonceLen], by simp [otherEntry, aesGcmNonceLen]⟩
    ⟨by simp [testEntry], by simp [otherEntry]⟩

/-- The token of the first model, and another one after it. -/
def tokensRecording : Recording :=
  .pair testEntry nextEntry nextEntry_nonce_ne
    (fun h => absurd (oneTokenJson_blockHash h) (by decide))
    ⟨by simp [testEntry, aesGcmNonceLen], by simp [nextEntry, aesGcmNonceLen]⟩
    ⟨by simp [testEntry], by simp [nextEntry]⟩

def oneTokenConnection (entry : SealedHeader) (values : List F32) : Connection :=
  ⟨oneTokenInbox entry values .commitRequest, fun _ => true⟩

section Pair

variable {recording : Recording} {entry : SealedHeader} {header : UsxfHeader} {blockHash : String}
  {values : List F32}

theorem oneTokenConnection_carries (h : entry ∈ recording.entries) (hh : entry.header = header)
    (hvalid : header.Valid) (values : List F32) :
    CarriesHeader (F := F32) recording.host (oneTokenConnection entry values).inbox header := by
  refine ⟨_, entry.envelope, _, rfl, ?_⟩
  rw [← hh]
  exact (openHeader_ok_iff.mp (Recording.openHeader_eq h (hh ▸ hvalid))).1

theorem serve_pairConnection (h : entry ∈ recording.entries) (hh : entry.header = header)
    (hvalid : header.Valid) (hpair : PairHeader header blockHash)
    (hkey : values.length = (blockFloatCount header (keyName 0)).toNat)
    (hvalue : values.length = (blockFloatCount header (valueName 0)).toNat)
    (hcount : 2 = (chunkCount header).toNat) (orchestrator : MigrationOrchestrator) (cache : BlockMap F32) :
    CommitSent (serve recording.host (.mock orchestrator 256 cache)
        (oneTokenConnection entry values)).outbox ∧
      (serve recording.host (.mock orchestrator 256 cache) (oneTokenConnection entry values)).injector =
        ⟨256, .mock ((pairStaging header blockHash values values).accumulatedBlocks ∪ cache)⟩ := by
  obtain ⟨hi, hc⟩ := serve_staged (pairSession h hh hvalid hpair hkey hvalue hcount .commitRequest (by simp)
    (.mock orchestrator 256 cache))
  refine ⟨hc.mpr ⟨rfl, ?_, rfl⟩, hi⟩
  intro hash hmem
  have hlist : hash ∈ header.blockHashes := hmem
  rw [hpair.blockHashes] at hlist
  obtain rfl := List.mem_singleton.mp hlist
  exact Finmap.mem_union.mpr (Or.inl (mem_pairStaging header hash values values))

end Pair

theorem serve_oneTokenConnection {recording : Recording} {entry : SealedHeader}
    (h : entry ∈ recording.entries) {weightsRevision : String}
    (hh : entry.header = oneTokenHeader weightsRevision) (values : List F32)
    (hlen : values.length = 4) (orchestrator : MigrationOrchestrator) (cache : BlockMap F32) :
    CommitSent (serve recording.host (.mock orchestrator 256 cache)
        (oneTokenConnection entry values)).outbox ∧
      (serve recording.host (.mock orchestrator 256 cache)
        (oneTokenConnection entry values)).injector = ⟨256, .mock (oneTokenBlocks values ∪ cache)⟩ :=
  serve_pairConnection h hh (oneTokenHeader_valid weightsRevision) (oneTokenHeader_pair weightsRevision)
    (hlen.trans rfl) (hlen.trans rfl) (chunkCount_oneToken weightsRevision) orchestrator cache

theorem runDaemon_oneTokenConnection {recording : Recording} {entry : SealedHeader}
    (h : entry ∈ recording.entries) {weightsRevision : String}
    (hh : entry.header = oneTokenHeader weightsRevision) (values : List F32)
    (hlen : values.length = 4) (orchestrator : MigrationOrchestrator) (cache : BlockMap F32) :
    ∃ orchestrator', runDaemon recording.host (.mock orchestrator 256 cache)
      [oneTokenConnection entry values] = .mock orchestrator' 256 (oneTokenBlocks values ∪ cache) := by
  refine ⟨(serve recording.host (.mock orchestrator 256 cache)
    (oneTokenConnection entry values)).orchestrator, ?_⟩
  rw [runDaemon, runDaemon, (serve_oneTokenConnection h hh values hlen orchestrator cache).2]
  rfl

theorem lookup_oneTokenBlocks (values : List F32) (cache : BlockMap F32) :
    ((oneTokenBlocks values ∪ cache).lookup (repeatedDigest '9')).bind (·.lookup (keyName 0)) =
      some ⟨values, [1, 1, 4, 1]⟩ := by
  have hmem : repeatedDigest '9' ∈ oneTokenBlocks values :=
    Finmap.mem_insert.mpr (Or.inl rfl)
  rw [Finmap.lookup_union_left hmem, oneTokenBlocks, stageTensor, Finmap.lookup_insert,
    Option.bind_some, Finmap.lookup_insert_of_ne _ (keyName_ne_valueName 0 0), stageTensor,
    Finmap.lookup_insert, Option.getD_some, Finmap.lookup_insert]

theorem nextConnection_lists (values : List F32) {hash : String}
    (h : (oneTokenConnection nextEntry values).Lists (F := F32) tokensRecording.host hash) :
    hash = repeatedDigest '8' := by
  have hmem : nextEntry ∈ tokensRecording.entries := List.mem_cons_of_mem _ List.mem_cons_self
  obtain ⟨header, hcarries, hlist⟩ := h
  obtain rfl := hcarries.unique (oneTokenConnection_carries hmem rfl nextHeader_valid values)
  exact List.mem_singleton.mp hlist

/-- A connection that commits another block leaves the block of the one before it. -/
theorem runDaemon_keeps_committed_oneToken :
    CommitSent (serve (F := F32) tokensRecording.host (.mock (.new .default) 256 ∅)
        (oneTokenConnection testEntry (List.replicate 4 ⟨0⟩))).outbox ∧
      CommitSent (serve (F := F32) tokensRecording.host (runDaemon tokensRecording.host (.mock (.new .default) 256 ∅)
        [oneTokenConnection testEntry (List.replicate 4 ⟨0⟩)])
        (oneTokenConnection nextEntry (List.replicate 4 ⟨1⟩))).outbox ∧
      ∃ tensors,
        (runDaemon (F := F32) tokensRecording.host (.mock (.new .default) 256 ∅)
          ([] ++ [oneTokenConnection testEntry (List.replicate 4 ⟨0⟩)])).physicalCache.lookup
            (repeatedDigest '9') = some tensors ∧
        (runDaemon (F := F32) tokensRecording.host (.mock (.new .default) 256 ∅)
          ([] ++ oneTokenConnection testEntry (List.replicate 4 ⟨0⟩) ::
            [oneTokenConnection nextEntry (List.replicate 4 ⟨1⟩)])).physicalCache.lookup
            (repeatedDigest '9') = some tensors := by
  have hmem : testEntry ∈ tokensRecording.entries := List.mem_cons_self
  have hnext : nextEntry ∈ tokensRecording.entries := List.mem_cons_of_mem _ List.mem_cons_self
  have hsent := (serve_oneTokenConnection hmem rfl (List.replicate 4 ⟨0⟩) rfl
    (.new .default) ∅).1
  have hcarries := oneTokenConnection_carries hmem rfl (oneTokenHeader_valid "test") (List.replicate 4 ⟨0⟩)
  refine ⟨hsent, ?_, runDaemon_keeps_committed tokensRecording.host (.new .default) 256 ∅ hsent
    ⟨_, hcarries, List.mem_singleton_self _⟩ ?_⟩
  · obtain ⟨orchestrator, cache, hrun, _⟩ := runDaemon_mock (F := F32) tokensRecording.host (.new .default) 256 ∅
      [oneTokenConnection testEntry (List.replicate 4 ⟨0⟩)]
    rw [hrun]
    exact (serve_pairConnection hnext rfl nextHeader_valid nextHeader_pair rfl rfl
      (chunkCount_oneToken "test") orchestrator cache).1
  · intro connection hc hlists
    obtain rfl := List.mem_singleton.mp hc
    exact absurd (nextConnection_lists _ hlists) (by decide)

/-- Two models migrate the same token one after the other: the second session, of another model
identity, replaces the tensors that the first one committed. -/
theorem runDaemon_replaces_other_model :
    ∃ (first second : UsxfHeader) (committed later : Connection),
      CarriesHeader (F := F32) pairRecording.host committed.inbox first ∧
      CarriesHeader (F := F32) pairRecording.host later.inbox second ∧
      first.modelIdentity ≠ second.modelIdentity ∧
      CommitSent (serve (F := F32) pairRecording.host (.mock (.new .default) 256 ∅)
        committed).outbox ∧
      ∃ hash ∈ first.blockHashes,
        (runDaemon (F := F32) pairRecording.host (.mock (.new .default) 256 ∅)
          [committed, later]).physicalCache.lookup hash ≠
        (runDaemon (F := F32) pairRecording.host (.mock (.new .default) 256 ∅)
          [committed]).physicalCache.lookup hash := by
  have hfirst : testEntry ∈ pairRecording.entries := List.mem_cons_self
  have hsecond : otherEntry ∈ pairRecording.entries := List.mem_cons_of_mem _ List.mem_cons_self
  have hsent := (serve_oneTokenConnection hfirst rfl (List.replicate 4 ⟨0⟩) rfl (.new .default) ∅).1
  obtain ⟨o1, hone⟩ := runDaemon_oneTokenConnection hfirst rfl (List.replicate 4 ⟨0⟩) rfl
    (.new .default) ∅
  obtain ⟨o2, htwo⟩ := runDaemon_oneTokenConnection hsecond rfl (List.replicate 4 ⟨1⟩) rfl o1
    (oneTokenBlocks (List.replicate 4 ⟨0⟩) ∪ ∅)
  refine ⟨oneTokenHeader "test", oneTokenHeader "test-2",
    oneTokenConnection testEntry (List.replicate 4 ⟨0⟩),
    oneTokenConnection otherEntry (List.replicate 4 ⟨1⟩),
    oneTokenConnection_carries hfirst rfl (oneTokenHeader_valid _) _,
    oneTokenConnection_carries hsecond rfl (oneTokenHeader_valid _) _, ?_, hsent,
    repeatedDigest '9', List.mem_singleton_self _, ?_⟩
  · intro h
    have hrevision : "test" = "test-2" := congrArg ModelIdentity.weightsRevision h
    exact absurd hrevision (by decide)
  · intro h
    rw [← List.singleton_append, runDaemon_append, hone, htwo, mock_physicalCache,
      mock_physicalCache] at h
    have hk := congrArg (fun tensors => tensors.bind (·.lookup (keyName 0))) h
    simp only [lookup_oneTokenBlocks] at hk
    exact absurd hk (by simp)

end PermeantOS
