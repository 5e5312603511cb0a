import PermeantOS.SessionRun

namespace PermeantOS

variable {F : Type}

def CommitSent (answers : List MigrationMessage) : Prop :=
  ∃ errorMessage, .commitResponse true errorMessage ∈ answers

/-- Only messages of a given kind were sent between the two sessions. -/
def Sends (P : MigrationMessage → Prop) (s t : Session F) : Prop :=
  ∃ answers, t.outbox = s.outbox ++ answers ∧ ∀ msg ∈ answers, P msg

/-- The same, and nothing was injected. -/
def Quietly (P : MigrationMessage → Prop) (s t : Session F) : Prop :=
  t.injector = s.injector ∧ Sends P s t

section Relations

variable (P : MigrationMessage → Prop)

instance : Std.Refl (Sends (F := F) P) where
  refl s := ⟨[], by simp, by simp⟩

instance : IsTrans (Session F) (Sends P) where
  trans s t u := by
    rintro ⟨answers, ho, hp⟩ ⟨answers', ho', hp'⟩
    refine ⟨answers ++ answers', by rw [ho', ho, List.append_assoc], ?_⟩
    intro msg hmem
    exact (List.mem_append.mp hmem).elim (hp msg) (hp' msg)

instance : Std.Refl (Quietly (F := F) P) where
  refl s := ⟨rfl, refl_of (Sends P) s⟩

instance : IsTrans (Session F) (Quietly P) where
  trans s t u := by
    rintro ⟨hi, hs⟩ ⟨hi', hs'⟩
    exact ⟨hi'.trans hi, trans_of (Sends P) hs hs'⟩

end Relations

section Phases

variable {P : MigrationMessage → Prop}

theorem receive_quiet : Keeps (Quietly P) (receive (F := F)) := by
  intro session
  obtain ⟨inbox, delivers, outbox, orchestrator, injector⟩ := session
  cases inbox with
  | nil => exact refl_of (Quietly P) _
  | cons first rest =>
    cases first with
    | error fault => exact refl_of (Quietly P) _
    | ok msg => exact ⟨rfl, [], (List.append_nil outbox).symm, by simp⟩

theorem send_quiet {msg : MigrationMessage} (hp : P msg) :
    Keeps (Quietly P) (send (F := F) msg) := by
  intro s
  rw [send, run_get_bind]
  split
  next => exact ⟨rfl, [msg], rfl, by simpa using hp⟩
  next => exact refl_of (Quietly P) _

theorem exchangeCapability_quiet (host : Host F)
    (hp : ∀ accepted text device, P (.capabilityResponse accepted text device)) :
    Keeps (Quietly P) (exchangeCapability host) := by
  apply receive_quiet.bind
  intro msg
  cases msg with
  | capabilityRequest arch attention seqLen =>
    have hr : P (capabilityResponse host seqLen) := by
      unfold capabilityResponse
      split <;> exact hp _ _ _
    exact (send_quiet hr).bind fun _ => Keeps.pure _
  | _ => exact Keeps.throw _

theorem receiveHeader_quiet (host : Host F) (hp : P (.headerAck true)) :
    Keeps (Quietly P) (receiveHeader host) := by
  apply receive_quiet.bind
  intro msg
  cases msg with
  | headerEnvelope envelope =>
    refine Keeps.bind (Keeps.liftExcept _) ?_
    intro header
    exact (send_quiet hp).bind fun _ => Keeps.pure _
  | _ => exact Keeps.throw _

theorem receiveBinding_quiet (header : UsxfHeader)
    (hp : ∀ accepted text, P (.agentGraphBindingAck accepted text)) :
    Keeps (Quietly P) (receiveBinding (F := F) header) := by
  apply receive_quiet.bind
  intro msg
  cases msg with
  | agentGraphBinding binding =>
    dsimp only
    split
    next =>
      apply (send_quiet (hp _ _)).bind
      intro _
      have hmod : ∀ s : Session F, Quietly P s
          { s with orchestrator := s.orchestrator.recordFailure } :=
        fun s => ⟨rfl, [], by simp, by simp⟩
      exact (Keeps.modify hmod).bind fun _ => Keeps.throw _
    next => exact (send_quiet (hp _ _)).bind fun _ => receive_quiet
  | _ => exact Keeps.pure _

theorem streamChunks_quiet [F32Bits F] [F32Arith F] (host : Host F) (header : UsxfHeader) (n : Nat)
    (staging : Staging F) (hp : ∀ chunkIndex, P (.chunkAck chunkIndex)) :
    Keeps (Quietly P) (streamChunks host header n staging) := by
  induction n generalizing staging with
  | zero => exact Keeps.pure _
  | succ n ih =>
    apply receive_quiet.bind
    intro msg
    refine Keeps.bind (Keeps.liftExcept _) ?_
    intro staged
    obtain ⟨chunkIndex, next⟩ := staged
    exact (send_quiet (hp _)).bind fun _ => ih next

end Phases

def Session.withCache (session : Session F) (physicalCache : BlockMap F) : Session F :=
  { session with injector := { session.injector with backend := .mock physicalCache } }

@[simp] theorem withCache_outbox (session : Session F) (physicalCache : BlockMap F) :
    (session.withCache physicalCache).outbox = session.outbox := rfl

@[simp] theorem withCache_backend (session : Session F) (physicalCache : BlockMap F) :
    (session.withCache physicalCache).injector.backend = .mock physicalCache := rfl

theorem injectBlock_mock (host : Host F) {s : Session F} {cache : BlockMap F}
    (hb : s.injector.backend = .mock cache) (hash : String) (tensors : TensorMap F) :
    (injectBlock host hash tensors).run s = .ok () (s.withCache (cache.insert hash tensors)) := by
  rw [injectBlock, run_get_bind, KVConnectorBaseV1.injectBlockTensors, hb]
  rfl

/-- The Mock cache after the listed blocks were injected one after the other. -/
def injectAll (blocks : BlockMap F) : List String → BlockMap F → BlockMap F
  | [], cache => cache
  | hash :: rest, cache => injectAll blocks rest (cache.insert hash ((blocks.lookup hash).getD ∅))

theorem injectStaged_mock (host : Host F) {s : Session F} {cache : BlockMap F}
    (hb : s.injector.backend = .mock cache) (blocks : BlockMap F) (hashes : List String) :
    (injectStaged host blocks hashes).run s = .ok () (s.withCache (injectAll blocks hashes cache)) := by
  induction hashes generalizing s cache with
  | nil =>
    have hs : s.withCache cache = s := by
      simp only [Session.withCache, ← hb]
    rw [injectAll, hs]
    rfl
  | cons hash rest ih =>
    rw [injectStaged, run_bind_of_ok (injectBlock_mock host hb _ _), ih (withCache_backend _ _)]
    rfl

theorem lookup_injectAll_of_not_mem {blocks cache : BlockMap F} {hashes : List String} {hash : String}
    (h : hash ∉ hashes) : (injectAll blocks hashes cache).lookup hash = cache.lookup hash := by
  induction hashes generalizing cache with
  | nil => rfl
  | cons first rest ih =>
    rw [List.mem_cons, not_or] at h
    rw [injectAll, ih h.2, Finmap.lookup_insert_of_ne _ h.1]

theorem lookup_injectAll_of_mem {blocks cache : BlockMap F} {hashes : List String} {hash : String}
    (h : hash ∈ hashes) : (injectAll blocks hashes cache).lookup hash =
      some ((blocks.lookup hash).getD ∅) := by
  induction hashes generalizing cache with
  | nil => cases h
  | cons first rest ih =>
    rw [injectAll]
    by_cases hr : hash ∈ rest
    · exact ih hr
    · obtain rfl := (List.mem_cons.mp h).resolve_right hr
      rw [lookup_injectAll_of_not_mem hr, Finmap.lookup_insert]

/-- Injecting every staged block, in whatever order, puts the staged blocks over the cache. -/
theorem injectAll_keys (order : HashOrder) (blocks cache : BlockMap F) :
    injectAll blocks (order.keys blocks) cache = blocks ∪ cache := by
  apply Finmap.ext_lookup
  intro hash
  by_cases h : hash ∈ blocks
  · obtain ⟨tensors, ht⟩ := Finmap.mem_iff.mp h
    rw [lookup_injectAll_of_mem ((order.mem_keys_iff blocks hash).mpr h),
      Finmap.lookup_union_left h, ht, Option.getD_some]
  · rw [lookup_injectAll_of_not_mem (fun hk => h ((order.mem_keys_iff blocks hash).mp hk)),
      Finmap.lookup_union_right h]

theorem verifyContinuation_mock_ok_iff {host : InjectorHost F} {injector : KVConnectorBaseV1 F}
    {cache : BlockMap F} (hb : injector.backend = .mock cache) {expectedHashes : List String} :
    injector.verifyContinuation host expectedHashes = .ok () ↔
      ∀ hash ∈ expectedHashes, hash ∈ cache := by
  rw [KVConnectorBaseV1.verifyContinuation, hb]
  simp

theorem commit_run_ok_iff {host : Host F} {header : UsxfHeader} {final : MigrationMessage}
    {s t : Session F} :
    (commit host header final).run s = .ok () t ↔ final = .commitRequest ∧
      s.injector.verifyContinuation host.injectorHost header.blockHashes = .ok () ∧
      s.delivers s.outbox.length = true ∧
      t = { s.advance s.inbox [.commitResponse true none] with
        orchestrator := s.orchestrator.recordSuccess } := by
  constructor
  · intro h
    cases final with
    | commitRequest =>
      rw [commit, run_get_bind] at h
      obtain ⟨⟨⟩, u, hl, hrest⟩ := run_bind_ok_iff.mp h
      obtain ⟨hv, rfl⟩ := run_liftExcept_ok_iff.mp hl
      obtain ⟨⟨⟩, v, hs, hm⟩ := run_bind_ok_iff.mp hrest
      obtain ⟨hd, rfl⟩ := send_ok_iff.mp hs
      cases hm
      exact ⟨rfl, hv, hd, rfl⟩
    | _ => cases h
  · intro hparts
    obtain ⟨rfl, hv, hd, rfl⟩ := hparts
    rw [commit, run_get_bind]
    refine run_bind_ok_iff.mpr ⟨(), _, run_liftExcept_ok_iff.mpr ⟨hv, rfl⟩, ?_⟩
    exact run_bind_ok_iff.mpr ⟨(), _, send_ok_iff.mpr ⟨hd, rfl⟩, rfl⟩

/-- A refused commit changes nothing: the blocks injected before it stay. -/
theorem commit_error {host : Host F} {header : UsxfHeader} {final : MigrationMessage}
    {s t : Session F} {fault : Fault} (h : (commit host header final).run s = .error fault t) :
    t = s := by
  cases final with
  | commitRequest =>
    rw [commit, run_get_bind] at h
    cases hv : s.injector.verifyContinuation host.injectorHost header.blockHashes with
    | error fault' =>
      rw [hv] at h
      exact (EStateM.Result.error.inj h).2.symm
    | ok =>
      rw [hv, run_bind_of_ok (run_liftExcept_ok _ _)] at h
      cases hs : (send (.commitResponse true none)).run s with
      | error fault' u =>
        rw [run_bind_of_error hs] at h
        rw [← (EStateM.Result.error.inj h).2]
        exact send_error hs
      | ok _ u =>
        rw [run_bind_of_ok hs] at h
        cases h
  | _ => exact (EStateM.Result.error.inj h).2.symm

/-- What the last step asks for, over a Mock cache that holds the staged blocks. -/
structure CommitAccepted (header : UsxfHeader) (cache : BlockMap F) (final : MigrationMessage)
    (s : Session F) : Prop where
  requested : final = .commitRequest
  present : ∀ hash ∈ header.blockHashes, hash ∈ cache
  delivered : s.delivers s.outbox.length = true

theorem commit_ok_iff (host : Host F) {header : UsxfHeader} {final : MigrationMessage}
    {s t : Session F} {cache : BlockMap F} (hb : s.injector.backend = .mock cache) :
    (commit host header final).run s = .ok () t ↔ CommitAccepted header cache final s ∧
      t = { s.advance s.inbox [.commitResponse true none] with
        orchestrator := s.orchestrator.recordSuccess } := by
  rw [commit_run_ok_iff, verifyContinuation_mock_ok_iff hb]
  constructor
  · intro hparts
    obtain ⟨hr, hp, hd, ht⟩ := hparts
    exact ⟨⟨hr, hp, hd⟩, ht⟩
  · intro hparts
    obtain ⟨⟨hr, hp, hd⟩, ht⟩ := hparts
    exact ⟨hr, hp, hd, ht⟩

theorem commit_refused {host : Host F} {header : UsxfHeader} {final : MigrationMessage}
    {s : Session F} {cache : BlockMap F} (hb : s.injector.backend = .mock cache)
    (h : ¬CommitAccepted header cache final s) :
    leftState ((commit host header final).run s) = s := by
  cases hrun : (commit host header final).run s with
  | error fault t => exact commit_error hrun
  | ok _ t => exact absurd ((commit_ok_iff host hb).mp hrun).1 h

section Staged

variable [F32Bits F] [F32Arith F]

/-- A session whose chunks were all staged: the next thing the daemon does is to wait for a binding
or the commit request. -/
structure StreamedSession (host : Host F) (s : Session F) where
  modelArchitecture : String
  attentionType : String
  seqLen : Usize
  envelope : EncryptedEnvelope
  header : UsxfHeader
  chunks : List PayloadChunk
  rest : List (Fallible MigrationMessage)
  staging : Staging F
  inbox_eq : s.inbox = .ok (.capabilityRequest modelArchitecture attentionType seqLen) ::
    .ok (.headerEnvelope envelope) :: (chunks.map (fun chunk => .ok (.payloadChunk chunk)) ++ rest)
  admitted : seqLen ≤ maxContext
  opens : openHeader host envelope = .ok header
  counted : chunks.length = (chunkCount header).toNat
  staged : Stages host header Staging.empty chunks staging
  delivered : ∀ k < 2 + chunks.length, s.delivers (s.outbox.length + k) = true

def StreamedSession.answers {host : Host F} {s : Session F} (st : StreamedSession host s) :
    List MigrationMessage :=
  [capabilityResponse host st.seqLen, .headerAck true] ++
    st.chunks.map fun chunk => .chunkAck chunk.chunkIndex

theorem handleMigrationConnection_of_streamed {host : Host F} {s : Session F}
    (st : StreamedSession host s) :
    (handleMigrationConnection host).run s =
      (do let msg ← receiveBinding st.header
          injectStaged host st.staging.accumulatedBlocks
            (host.hashOrder.keys st.staging.accumulatedBlocks)
          commit host st.header msg : Daemon F Unit).run (s.advance st.rest st.answers) := by
  obtain ⟨afterHeader, hafter⟩ : ∃ afterHeader, afterHeader =
      st.chunks.map (fun chunk => .ok (.payloadChunk chunk)) ++ st.rest := ⟨_, rfl⟩
  have hin : s.inbox = .ok (.capabilityRequest st.modelArchitecture st.attentionType st.seqLen) ::
      .ok (.headerEnvelope st.envelope) :: afterHeader := by rw [hafter]; exact st.inbox_eq
  have hcap : (exchangeCapability host).run s = .ok true
      (s.advance (.ok (.headerEnvelope st.envelope) :: afterHeader) [capabilityResponse host st.seqLen]) :=
    exchangeCapability_ok_iff.mpr ⟨_, _, _, _, hin, by simpa using st.delivered 0 (by omega),
      by simpa using st.admitted, rfl⟩
  have hheader : (receiveHeader host).run
      (s.advance (.ok (.headerEnvelope st.envelope) :: afterHeader) [capabilityResponse host st.seqLen]) =
        .ok st.header (s.advance afterHeader [capabilityResponse host st.seqLen, .headerAck true]) :=
    receiveHeader_ok_iff.mpr ⟨st.envelope, afterHeader, rfl, st.opens,
      by simpa using st.delivered 1 (by omega), by simp⟩
  have hstream : (streamChunks host st.header (chunkCount st.header).toNat Staging.empty).run
      (s.advance afterHeader [capabilityResponse host st.seqLen, .headerAck true]) =
        .ok st.staging (s.advance st.rest st.answers) := by
    refine streamChunks_ok_iff.mpr ⟨st.chunks, st.rest, st.counted, hafter, st.staged, ?_,
      by simp [StreamedSession.answers]⟩
    intro k hk
    have hd := st.delivered (2 + k) (by rw [st.counted]; omega)
    simpa [Nat.add_assoc] using hd
  rw [handleMigrationConnection, run_bind_of_ok hcap, if_pos rfl, run_bind_of_ok hheader,
    migrateBlocks, run_bind_of_ok hstream]

theorem streamed_of_phases {host : Host F} {s t1 t2 t3 : Session F} {header : UsxfHeader}
    {staging : Staging F} (h1 : (exchangeCapability host).run s = .ok true t1)
    (h2 : (receiveHeader host).run t1 = .ok header t2)
    (h3 : (streamChunks host header (chunkCount header).toNat Staging.empty).run t2 =
      .ok staging t3) :
    ∃ st : StreamedSession host s, st.header = header ∧ st.staging = staging ∧
      t3 = s.advance st.rest st.answers := by
  obtain ⟨arch, attention, seqLen, rest1, hin1, hd1, hadm, rfl⟩ := exchangeCapability_ok_iff.mp h1
  obtain ⟨envelope, rest2, hin2, hopen, hd2, rfl⟩ := receiveHeader_ok_iff.mp h2
  obtain ⟨chunks, rest3, hlen, hin3, hst, hd3, rfl⟩ := streamChunks_ok_iff.mp h3
  simp only [advance_inbox, advance_delivers, advance_outbox, List.length_append,
    List.length_singleton] at hin2 hd2 hin3 hd3
  have hd : ∀ k < 2 + chunks.length, s.delivers (s.outbox.length + k) = true := by
    intro k hk
    match k with
    | 0 => exact hd1
    | 1 => exact hd2
    | k + 2 =>
      have hk' := hd3 k (by omega)
      rwa [show s.outbox.length + (k + 2) = s.outbox.length + 1 + 1 + k by omega]
  exact ⟨⟨arch, attention, seqLen, envelope, header, chunks, rest3, staging,
    by simp [hin1, hin2, hin3], by simpa using hadm.symm, hopen, hlen, hst, hd⟩, rfl, rfl,
    by simp [StreamedSession.answers]⟩

/-- A session whose chunks were all staged, and whose binding, if any, was accepted: the next thing
the daemon does is to inject. -/
structure StagedSession (host : Host F) (s : Session F) where
  modelArchitecture : String
  attentionType : String
  seqLen : Usize
  envelope : EncryptedEnvelope
  header : UsxfHeader
  chunks : List PayloadChunk
  binding : Option AgentGraphBinding
  final : MigrationMessage
  rest : List (Fallible MigrationMessage)
  staging : Staging F
  inbox_eq : s.inbox = .ok (.capabilityRequest modelArchitecture attentionType seqLen) ::
    .ok (.headerEnvelope envelope) :: (chunks.map (fun chunk => .ok (.payloadChunk chunk)) ++
      (binding.toList.map (fun b => .ok (.agentGraphBinding b)) ++ .ok final :: rest))
  admitted : seqLen ≤ maxContext
  opens : openHeader host envelope = .ok header
  counted : chunks.length = (chunkCount header).toNat
  staged : Stages host header Staging.empty chunks staging
  bound : ∀ b, binding = some b → validateAgentGraphBinding b header = .ok ()
  unbound : binding = none → ∀ b, final ≠ .agentGraphBinding b
  delivered : ∀ k < 2 + chunks.length + binding.toList.length,
    s.delivers (s.outbox.length + k) = true

variable {host : Host F} {s : Session F}

def StagedSession.answers (st : StagedSession host s) : List MigrationMessage :=
  [capabilityResponse host st.seqLen, .headerAck true] ++
    (st.chunks.map (fun chunk => .chunkAck chunk.chunkIndex) ++
      st.binding.toList.map fun _ => .agentGraphBindingAck true none)

def StagedSession.afterChunks (st : StagedSession host s) : List (Fallible MigrationMessage) :=
  st.binding.toList.map (fun b => .ok (.agentGraphBinding b)) ++ .ok st.final :: st.rest

theorem StagedSession.receiveBinding_run (st : StagedSession host s) (sent : List MigrationMessage)
    (hsent : sent.length = 2 + st.chunks.length) :
    (receiveBinding st.header).run (s.advance st.afterChunks sent) = .ok st.final
      (s.advance st.rest (sent ++ st.binding.toList.map fun _ => .agentGraphBindingAck true none)) := by
  rw [receiveBinding_ok_iff]
  cases hb : st.binding with
  | none =>
    left
    refine ⟨st.rest, by simp [StagedSession.afterChunks, hb], st.unbound hb, by simp⟩
  | some b =>
    right
    refine ⟨b, st.rest, by simp [StagedSession.afterChunks, hb], st.bound b hb, ?_, by simp⟩
    have hd := st.delivered (2 + st.chunks.length) (by rw [hb]; simp)
    simpa [hsent] using hd

def StagedSession.streamed (st : StagedSession host s) : StreamedSession host s where
  modelArchitecture := st.modelArchitecture
  attentionType := st.attentionType
  seqLen := st.seqLen
  envelope := st.envelope
  header := st.header
  chunks := st.chunks
  rest := st.afterChunks
  staging := st.staging
  inbox_eq := st.inbox_eq
  admitted := st.admitted
  opens := st.opens
  counted := st.counted
  staged := st.staged
  delivered := fun k hk => st.delivered k (by omega)

theorem handleMigrationConnection_of_staged (st : StagedSession host s) :
    (handleMigrationConnection host).run s =
      (do injectStaged host st.staging.accumulatedBlocks
            (host.hashOrder.keys st.staging.accumulatedBlocks)
          commit host st.header st.final : Daemon F Unit).run (s.advance st.rest st.answers) := by
  have hbind := st.receiveBinding_run st.streamed.answers
    (by simp [StreamedSession.answers, StagedSession.streamed]; omega)
  rw [handleMigrationConnection_of_streamed st.streamed]
  refine (run_bind_of_ok hbind).trans ?_
  simp only [StreamedSession.answers, StagedSession.streamed, StagedSession.answers,
    List.append_assoc]

/-- A streamed session that gets past its binding is a staged session. -/
theorem StreamedSession.staged_of_binding (st : StreamedSession host s) {final : MigrationMessage}
    {t : Session F}
    (h : (receiveBinding st.header).run (s.advance st.rest st.answers) = .ok final t) :
    Nonempty (StagedSession host s) := by
  rcases receiveBinding_ok_iff.mp h with ⟨rest, hin, hn, _⟩ | ⟨b, rest, hin, hb, hd, _⟩
  · rw [advance_inbox] at hin
    exact ⟨⟨st.modelArchitecture, st.attentionType, st.seqLen, st.envelope, st.header, st.chunks, none,
      final, rest, st.staging, by simp [st.inbox_eq, hin], st.admitted, st.opens, st.counted,
      st.staged, by simp, fun _ => hn, by simpa using st.delivered⟩⟩
  · simp only [advance_inbox, advance_delivers, advance_outbox, StreamedSession.answers,
      List.length_append, List.length_cons, List.length_nil, List.length_map] at hin hd
    refine ⟨⟨st.modelArchitecture, st.attentionType, st.seqLen, st.envelope, st.header, st.chunks,
      some b, final, rest, st.staging, by simp [st.inbox_eq, hin], st.admitted, st.opens, st.counted,
      st.staged, by simpa using hb, by simp, ?_⟩⟩
    intro k hk
    by_cases hlast : k = 2 + st.chunks.length
    · rw [hlast, ← hd]
    · simp only [Option.toList_some, List.length_singleton] at hk
      exact st.delivered k (by omega)

theorem staged_of_phases {t1 t2 t3 t4 : Session F} {header : UsxfHeader} {staging : Staging F}
    {final : MigrationMessage} (h1 : (exchangeCapability host).run s = .ok true t1)
    (h2 : (receiveHeader host).run t1 = .ok header t2)
    (h3 : (streamChunks host header (chunkCount header).toNat Staging.empty).run t2 = .ok staging t3)
    (h4 : (receiveBinding header).run t3 = .ok final t4) : Nonempty (StagedSession host s) := by
  obtain ⟨st, rfl, rfl, rfl⟩ := streamed_of_phases h1 h2 h3
  exact st.staged_of_binding h4

def NotCommit (msg : MigrationMessage) : Prop := ∀ text, msg ≠ .commitResponse true text

/-- Every session either gets as far as the injection, or injects nothing and reports no success. -/
theorem staged_or_quiet (host : Host F) (s : Session F) :
    Nonempty (StagedSession host s) ∨
      Quietly NotCommit s (leftState ((handleMigrationConnection host).run s)) := by
  have hcap : Keeps (Quietly NotCommit) (exchangeCapability host) :=
    exchangeCapability_quiet host (by simp [NotCommit])
  have hheader : Keeps (Quietly NotCommit) (receiveHeader host) :=
    receiveHeader_quiet host (by simp [NotCommit])
  have hstream : ∀ header n staging, Keeps (Quietly NotCommit) (streamChunks host header n staging) :=
    fun header n staging => streamChunks_quiet host header n staging (by simp [NotCommit])
  have hbind : ∀ header, Keeps (Quietly NotCommit) (receiveBinding (F := F) header) :=
    fun header => receiveBinding_quiet header (by simp [NotCommit])
  unfold handleMigrationConnection
  rcases hcap.past_or_left _ s with ⟨goesOn, t1, h1, q1, e1⟩ | hq
  swap
  · exact Or.inr hq
  rw [e1]
  cases goesOn with
  | false => exact Or.inr q1
  | true =>
    rw [if_pos rfl]
    rcases hheader.past_or_left _ t1 with ⟨header, t2, h2, q2, e2⟩ | hq
    swap
    · exact Or.inr (trans_of (Quietly NotCommit) q1 hq)
    rw [e2, migrateBlocks]
    have q12 := trans_of (Quietly NotCommit) q1 q2
    rcases (hstream header _ _).past_or_left _ t2 with ⟨staging, t3, h3, q3, e3⟩ | hq
    swap
    · exact Or.inr (trans_of (Quietly NotCommit) q12 hq)
    rw [e3]
    have q13 := trans_of (Quietly NotCommit) q12 q3
    rcases (hbind header).past_or_left _ t3 with ⟨final, t4, h4, _, _⟩ | hq
    · exact Or.inl (staged_of_phases h1 h2 h3 h4)
    · exact Or.inr (trans_of (Quietly NotCommit) q13 hq)

def StagedSession.cache (st : StagedSession host s) (before : BlockMap F) : BlockMap F :=
  st.staging.accumulatedBlocks ∪ before

def StagedSession.Commits (st : StagedSession host s) (before : BlockMap F) : Prop :=
  CommitAccepted st.header (st.cache before) st.final (s.advance st.rest st.answers)

theorem leftState_of_commits (st : StagedSession host s) {before : BlockMap F}
    (hb : s.injector.backend = .mock before) (h : st.Commits before) :
    leftState ((handleMigrationConnection host).run s) =
      { (s.advance st.rest (st.answers ++ [.commitResponse true none])).withCache (st.cache before) with
        orchestrator := s.orchestrator.recordSuccess } := by
  have hinj := injectStaged_mock host (s := s.advance st.rest st.answers) hb
    st.staging.accumulatedBlocks (host.hashOrder.keys st.staging.accumulatedBlocks)
  rw [injectAll_keys] at hinj
  have hacc : CommitAccepted st.header (st.cache before) st.final
      ((s.advance st.rest st.answers).withCache (st.cache before)) :=
    ⟨h.requested, h.present, h.delivered⟩
  have hcommit := (commit_ok_iff host (withCache_backend _ _)).mpr ⟨hacc, rfl⟩
  rw [handleMigrationConnection_of_staged st, run_bind_of_ok hinj]
  refine (congrArg leftState hcommit).trans ?_
  simp [Session.withCache, Session.advance]

theorem leftState_of_not_commits (st : StagedSession host s) {before : BlockMap F}
    (hb : s.injector.backend = .mock before) (h : ¬st.Commits before) :
    leftState ((handleMigrationConnection host).run s) =
      (s.advance st.rest st.answers).withCache (st.cache before) := by
  have hinj := injectStaged_mock host (s := s.advance st.rest st.answers) hb
    st.staging.accumulatedBlocks (host.hashOrder.keys st.staging.accumulatedBlocks)
  rw [injectAll_keys] at hinj
  rw [handleMigrationConnection_of_staged st, run_bind_of_ok hinj]
  exact commit_refused (withCache_backend _ _) fun hc => h ⟨hc.requested, hc.present, hc.delivered⟩

end Staged

end PermeantOS
