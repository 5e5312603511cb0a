import PermeantOS.DaemonRun

namespace PermeantOS

variable {F : Type}

def Advances (s t : Session F) : Prop := ∃ rest answers, t = s.advance rest answers

instance : Std.Refl (Advances (F := F)) where
  refl s := ⟨s.inbox, [], (advance_nil s).symm⟩

instance : IsTrans (Session F) Advances where
  trans s t u := by
    rintro ⟨rest, answers, rfl⟩ ⟨rest', answers', rfl⟩
    exact ⟨rest', answers ++ answers', advance_advance s rest answers rest' answers'⟩

section Phases

theorem receive_advances : Keeps Advances (receive (F := F)) := by
  intro s
  cases h : receive.run s with
  | error fault t =>
    rw [leftState_error, receive_error h]
    exact refl_of Advances s
  | ok msg t =>
    obtain ⟨rest, _, rfl⟩ := receive_ok_iff.mp h
    exact ⟨rest, [], rfl⟩

theorem send_advances (msg : MigrationMessage) : Keeps Advances (send (F := F) msg) := by
  intro s
  cases h : (send msg).run s with
  | error fault t =>
    rw [leftState_error, send_error h]
    exact refl_of Advances s
  | ok _ t =>
    obtain ⟨_, rfl⟩ := send_ok_iff.mp h
    exact ⟨s.inbox, [msg], rfl⟩

theorem exchangeCapability_advances (host : Host F) : Keeps Advances (exchangeCapability host) := by
  apply receive_advances.bind
  intro msg
  cases msg with
  | capabilityRequest arch attention seqLen =>
    exact (send_advances _).bind fun _ => Keeps.pure _
  | _ => exact Keeps.throw _

theorem receiveHeader_advances (host : Host F) : Keeps Advances (receiveHeader host) := by
  apply receive_advances.bind
  intro msg
  cases msg with
  | headerEnvelope envelope =>
    refine Keeps.bind (Keeps.liftExcept _) ?_
    intro header
    exact (send_advances _).bind fun _ => Keeps.pure _
  | _ => exact Keeps.throw _

theorem streamChunks_advances [F32Bits F] [F32Arith F] (host : Host F) (header : UsxfHeader)
    (n : Nat) (staging : Staging F) : Keeps Advances (streamChunks host header n staging) := by
  induction n generalizing staging with
  | zero => exact Keeps.pure _
  | succ n ih =>
    apply receive_advances.bind
    intro msg
    refine Keeps.bind (Keeps.liftExcept _) ?_
    intro staged
    obtain ⟨chunkIndex, next⟩ := staged
    exact (send_advances _).bind fun _ => ih next

theorem receiveBinding_rejected {header : UsxfHeader} {s : Session F} {binding : AgentGraphBinding}
    {after : List (Fallible MigrationMessage)} {fault : Fault}
    (hin : s.inbox = .ok (.agentGraphBinding binding) :: after)
    (hb : validateAgentGraphBinding binding header = .error fault)
    (hd : s.delivers s.outbox.length = true) :
    (receiveBinding header).run s = .error
      (.error s!"Agent Memory Graph binding rejected: {fault.text}")
      { s.advance after [.agentGraphBindingAck false (some fault.text)] with
        orchestrator := s.orchestrator.recordFailure } := by
  have hr : receive.run s = .ok (.agentGraphBinding binding) (s.advance after []) :=
    receive_ok_iff.mpr ⟨after, hin, rfl⟩
  have hs : (send (.agentGraphBindingAck false (some fault.text))).run (s.advance after []) =
      .ok () (s.advance after [.agentGraphBindingAck false (some fault.text)]) :=
    send_ok_iff.mpr ⟨by simpa using hd, by simp⟩
  rw [receiveBinding, run_bind_of_ok hr]
  dsimp only
  rw [hb]
  dsimp only
  rw [run_bind_of_ok hs]
  rfl

/-- Only a refused binding whose answer goes out makes this phase more than reading and answering. -/
theorem receiveBinding_advances {header : UsxfHeader} {s : Session F}
    (h : ∀ binding after fault, s.inbox = .ok (.agentGraphBinding binding) :: after →
      validateAgentGraphBinding binding header = .error fault →
      s.delivers s.outbox.length = false) :
    Advances s (leftState ((receiveBinding header).run s)) := by
  rw [receiveBinding]
  rcases receive_advances.past_or_left _ s with ⟨msg, t, hr, hadv, he⟩ | hadv
  swap
  · exact hadv
  rw [he]
  obtain ⟨after, hin, rfl⟩ := receive_ok_iff.mp hr
  cases msg with
  | agentGraphBinding binding =>
    dsimp only
    cases hb : validateAgentGraphBinding binding header with
    | ok =>
      exact trans_of Advances hadv
        ((send_advances _).bind (fun _ => receive_advances) (s.advance after []))
    | error fault =>
      dsimp only
      rcases (send_advances (.agentGraphBindingAck false (some fault.text))).past_or_left _
        (s.advance after []) with ⟨⟨⟩, u, hs, _, _⟩ | hadv'
      · obtain ⟨hd, _⟩ := send_ok_iff.mp hs
        have hno := h binding after fault hin hb
        rw [advance_delivers, advance_outbox, List.append_nil, hno] at hd
        cases hd
      · exact trans_of Advances hadv hadv'
  | _ => exact hadv

end Phases

/-- The injection loop on the injector alone. -/
def injectBlocks (host : Host F) (blocks : BlockMap F) : List String → KVConnectorBaseV1 F →
    Fallible (KVConnectorBaseV1 F)
  | [], injector => .ok injector
  | hash :: rest, injector => do
    let injector ← injector.injectBlockTensors host.injectorHost host.hashOrder hash
      ((blocks.lookup hash).getD ∅)
    injectBlocks host blocks rest injector

/-- The loop in a session changes nothing but its injector, and gets through exactly where the loop
on the injector does. -/
theorem injectStaged_cases (host : Host F) (blocks : BlockMap F) (hashes : List String)
    (s : Session F) :
    (∃ injector, injectBlocks host blocks hashes s.injector = .ok injector ∧
      (injectStaged host blocks hashes).run s = .ok () { s with injector }) ∨
    ∃ fault injector, injectBlocks host blocks hashes s.injector = .error fault ∧
      (injectStaged host blocks hashes).run s = .error fault { s with injector } := by
  induction hashes generalizing s with
  | nil => exact Or.inl ⟨s.injector, rfl, rfl⟩
  | cons hash rest ih =>
    rw [injectBlocks, injectStaged]
    cases h : s.injector.injectBlockTensors host.injectorHost host.hashOrder hash
        ((blocks.lookup hash).getD ∅) with
    | error fault =>
      have hrun : (injectBlock host hash ((blocks.lookup hash).getD ∅)).run s = .error fault s := by
        rw [injectBlock, run_get_bind, h]
        rfl
      rw [run_bind_of_error hrun]
      exact Or.inr ⟨fault, s.injector, rfl, rfl⟩
    | ok injector =>
      have hrun : (injectBlock host hash ((blocks.lookup hash).getD ∅)).run s =
          .ok () { s with injector } := by
        rw [injectBlock, run_get_bind, h]
        rfl
      rw [run_bind_of_ok hrun]
      exact ih { s with injector }

section Sessions

variable [F32Bits F] [F32Arith F]

/-- A streamed session whose binding is refused, and whose refusal is delivered. -/
structure RejectedSession (host : Host F) (s : Session F) extends StreamedSession host s where
  binding : AgentGraphBinding
  after : List (Fallible MigrationMessage)
  fault : Fault
  rest_eq : rest = .ok (.agentGraphBinding binding) :: after
  rejected : validateAgentGraphBinding binding header = .error fault
  refusal_delivered : s.delivers (s.outbox.length + (2 + chunks.length)) = true

/-- A staged session that asks for the commit, whose blocks the injector takes and finds again, and
whose success is delivered. -/
structure CommittedSession (host : Host F) (s : Session F) extends StagedSession host s where
  injected : KVConnectorBaseV1 F
  injects : injectBlocks host staging.accumulatedBlocks
    (host.hashOrder.keys staging.accumulatedBlocks) s.injector = .ok injected
  requested : final = .commitRequest
  verified : injected.verifyContinuation host.injectorHost header.blockHashes = .ok ()
  success_delivered :
    s.delivers (s.outbox.length + (2 + chunks.length + binding.toList.length)) = true

variable {host : Host F} {s : Session F}

theorem StreamedSession.answers_length (st : StreamedSession host s) :
    st.answers.length = 2 + st.chunks.length := by
  simp only [StreamedSession.answers, List.length_append, List.length_cons, List.length_nil,
    List.length_map]

theorem StagedSession.answers_length (st : StagedSession host s) :
    st.answers.length = 2 + st.chunks.length + st.binding.toList.length := by
  simp only [StagedSession.answers, List.length_append, List.length_cons, List.length_nil,
    List.length_map]
  omega

theorem StreamedSession.answers_not_commit (st : StreamedSession host s) :
    ¬CommitSent st.answers := by
  intro hsent
  obtain ⟨text, hmem⟩ := hsent
  have hcap : capabilityResponse host st.seqLen ≠ .commitResponse true text := by
    unfold capabilityResponse
    split <;> simp
  simp [StreamedSession.answers, hcap.symm] at hmem

theorem leftState_of_rejected (st : RejectedSession host s) :
    leftState ((handleMigrationConnection host).run s) =
      { s.advance st.after (st.answers ++ [.agentGraphBindingAck false (some st.fault.text)]) with
        orchestrator := s.orchestrator.recordFailure } := by
  have hd : (s.advance st.rest st.answers).delivers
      (s.advance st.rest st.answers).outbox.length = true := by
    rw [advance_delivers, advance_outbox, List.length_append, st.answers_length]
    exact st.refusal_delivered
  have hrun := receiveBinding_rejected (s := s.advance st.rest st.answers) st.rest_eq st.rejected hd
  rw [handleMigrationConnection_of_streamed st.toStreamedSession, run_bind_of_error hrun]
  simp [Session.advance]

theorem leftState_of_committed (st : CommittedSession host s) :
    leftState ((handleMigrationConnection host).run s) =
      { s.advance st.rest (st.answers ++ [.commitResponse true none]) with
        injector := st.injected, orchestrator := s.orchestrator.recordSuccess } := by
  have hinject : (injectStaged host st.staging.accumulatedBlocks
      (host.hashOrder.keys st.staging.accumulatedBlocks)).run (s.advance st.rest st.answers) =
        .ok () { s.advance st.rest st.answers with injector := st.injected } := by
    rcases injectStaged_cases host st.staging.accumulatedBlocks
      (host.hashOrder.keys st.staging.accumulatedBlocks) (s.advance st.rest st.answers) with
      ⟨injector, hi, hrun⟩ | ⟨fault, injector, hi, _⟩
    · cases hi.symm.trans st.injects
      exact hrun
    · cases hi.symm.trans st.injects
  have hd : s.delivers (s.outbox ++ st.answers).length = true := by
    rw [List.length_append, st.answers_length]
    exact st.success_delivered
  rw [handleMigrationConnection_of_staged st.toStagedSession, run_bind_of_ok hinject,
    commit_run_ok_iff.mpr ⟨st.requested, st.verified, hd, rfl⟩]
  simp [Session.advance]

/-- A session that is staged and not committed is not counted, whatever goes wrong. -/
theorem leftState_of_uncommitted (st : StagedSession host s) (h : IsEmpty (CommittedSession host s)) :
    ∃ injector, leftState ((handleMigrationConnection host).run s) =
      { s.advance st.rest st.answers with injector } := by
  rw [handleMigrationConnection_of_staged st]
  rcases injectStaged_cases host st.staging.accumulatedBlocks
    (host.hashOrder.keys st.staging.accumulatedBlocks) (s.advance st.rest st.answers) with
    ⟨injector, hi, hrun⟩ | ⟨fault, injector, _, hrun⟩
  swap
  · rw [run_bind_of_error hrun]
    exact ⟨injector, rfl⟩
  rw [run_bind_of_ok hrun]
  refine ⟨injector, ?_⟩
  cases hcommit : (commit host st.header st.final).run { s.advance st.rest st.answers with injector } with
  | error fault t => exact commit_error hcommit
  | ok _ t =>
    obtain ⟨hr, hv, hd, _⟩ := commit_run_ok_iff.mp hcommit
    have hdelivered : s.delivers (s.outbox.length +
        (2 + st.chunks.length + st.binding.toList.length)) = true := by
      rw [← st.answers_length, ← List.length_append]
      exact hd
    exact (h.false ⟨st, injector, hi, hr, hv, hdelivered⟩).elim

/-- A session that is neither committed nor has its binding refused is not counted. -/
theorem leftState_of_uncounted (hc : IsEmpty (CommittedSession host s))
    (hr : IsEmpty (RejectedSession host s)) :
    (leftState ((handleMigrationConnection host).run s)).orchestrator = s.orchestrator := by
  have hadvances : ∀ {t}, Advances s t → t.orchestrator = s.orchestrator := by
    rintro t ⟨rest, answers, rfl⟩
    rfl
  rcases isEmpty_or_nonempty (StagedSession host s) with hs | ⟨⟨st⟩⟩
  swap
  · obtain ⟨injector, he⟩ := leftState_of_uncommitted st hc
    rw [he]
    rfl
  unfold handleMigrationConnection
  rcases (exchangeCapability_advances host).past_or_left _ s with ⟨goesOn, t1, h1, a1, e1⟩ | ha
  swap
  · exact hadvances ha
  cases goesOn with
  | false =>
    rw [e1]
    exact hadvances a1
  | true =>
    rw [e1, if_pos rfl]
    rcases (receiveHeader_advances host).past_or_left _ t1 with ⟨header, t2, h2, a2, e2⟩ | ha
    swap
    · exact hadvances (trans_of Advances a1 ha)
    rw [e2, migrateBlocks]
    rcases (streamChunks_advances host header _ _).past_or_left _ t2 with ⟨staging, t3, h3, a3, e3⟩ | ha
    swap
    · exact hadvances (trans_of Advances (trans_of Advances a1 a2) ha)
    rw [e3]
    obtain ⟨st, rfl, rfl, rfl⟩ := streamed_of_phases h1 h2 h3
    have hunanswered : ∀ binding after fault,
        (s.advance st.rest st.answers).inbox = .ok (.agentGraphBinding binding) :: after →
        validateAgentGraphBinding binding st.header = .error fault →
        (s.advance st.rest st.answers).delivers (s.advance st.rest st.answers).outbox.length =
          false := by
      intro binding after fault hin hb
      rw [← Bool.not_eq_true, advance_delivers, advance_outbox, List.length_append, st.answers_length]
      intro hd
      exact hr.false ⟨st, binding, after, fault, hin, hb, hd⟩
    have ha := receiveBinding_advances hunanswered
    cases h4 : (receiveBinding st.header).run (s.advance st.rest st.answers) with
    | ok final t4 =>
      obtain ⟨staged⟩ := st.staged_of_binding h4
      exact (hs.false staged).elim
    | error fault t4 =>
      rw [h4] at ha
      rw [run_bind_of_error h4]
      exact hadvances (trans_of Advances ⟨_, _, rfl⟩ ha)

end Sessions

section Accounting

def Connection.admitted (connection : Connection) : Bool :=
  match connection.inbox with
  | .ok (.capabilityRequest _ _ seqLen) :: _ => decide (seqLen ≤ maxContext)
  | _ => false

def isCommitSuccess : MigrationMessage → Bool
  | .commitResponse true _ => true
  | _ => false

theorem any_isCommitSuccess_iff {answers : List MigrationMessage} :
    answers.any isCommitSuccess = true ↔ CommitSent answers := by
  rw [List.any_eq_true]
  constructor
  · intro hparts
    obtain ⟨msg, hmem, hmsg⟩ := hparts
    unfold isCommitSuccess at hmsg
    split at hmsg
    next text => exact ⟨text, hmem⟩
    next => cases hmsg
  · intro hsent
    obtain ⟨text, hmem⟩ := hsent
    exact ⟨_, hmem, rfl⟩

variable [F32Bits F] [F32Arith F]

/-- How many connections were admitted and ended without commit since the last one that was
committed; `n` is the number before the first of the list. -/
def failuresSinceCommit (host : Host F) : DaemonState F → Nat → List Connection → Nat
  | _, n, [] => n
  | daemon, n, connection :: rest =>
    let session := serve host daemon connection
    let n :=
      if session.outbox.any isCommitSuccess then 0
      else if connection.admitted then n + 1
      else n
    failuresSinceCommit host ⟨session.orchestrator, session.injector⟩ n rest

variable {host : Host F} {daemon : DaemonState F} {connection : Connection}

theorem failuresSinceCommit_append (daemon : DaemonState F) (n : Nat)
    (earlier later : List Connection) :
    failuresSinceCommit host daemon n (earlier ++ later) =
      failuresSinceCommit host (runDaemon host daemon earlier)
        (failuresSinceCommit host daemon n earlier) later := by
  induction earlier generalizing daemon n with
  | nil => rfl
  | cons connection earlier ih =>
    rw [List.cons_append, failuresSinceCommit, failuresSinceCommit, runDaemon]
    exact ih _ _

theorem serve_committed (st : CommittedSession host (connection.start daemon)) :
    (serve host daemon connection).orchestrator = daemon.orchestrator.recordSuccess ∧
      CommitSent (serve host daemon connection).outbox := by
  rw [serve, leftState_of_committed st]
  exact ⟨rfl, none, by simp⟩

theorem serve_rejected (st : RejectedSession host (connection.start daemon)) :
    (serve host daemon connection).orchestrator = daemon.orchestrator.recordFailure ∧
      ¬CommitSent (serve host daemon connection).outbox ∧ connection.admitted = true := by
  refine ⟨?_, ?_, ?_⟩
  · rw [serve, leftState_of_rejected st]
    rfl
  · rw [serve, leftState_of_rejected st]
    intro hsent
    obtain ⟨text, hmem⟩ := hsent
    have hmem : .commitResponse true text ∈
        st.answers ++ [.agentGraphBindingAck false (some st.fault.text)] := hmem
    rcases List.mem_append.mp hmem with hmem | hmem
    · exact st.answers_not_commit ⟨text, hmem⟩
    · cases List.mem_singleton.mp hmem
  · have hin : connection.inbox = _ := st.inbox_eq
    rw [Connection.admitted, hin]
    exact decide_eq_true st.admitted

theorem serve_uncounted (hc : IsEmpty (CommittedSession host (connection.start daemon)))
    (hr : IsEmpty (RejectedSession host (connection.start daemon))) :
    (serve host daemon connection).orchestrator = daemon.orchestrator ∧
      ¬CommitSent (serve host daemon connection).outbox := by
  refine ⟨leftState_of_uncounted hc hr, ?_⟩
  rcases staged_or_quiet host (connection.start daemon) with ⟨⟨st⟩⟩ | ⟨_, answers, ho, hn⟩
  · obtain ⟨injector, he⟩ := leftState_of_uncommitted st hc
    rw [serve, he]
    exact st.answers_not_commit
  · rw [serve, ho]
    intro hsent
    obtain ⟨text, hmem⟩ := hsent
    exact hn _ hmem text rfl

/-- A connection whose end the daemon accounts for: it was not admitted, or is committed, or ends with
a refused binding. -/
def Accounted (host : Host F) (daemon : DaemonState F) (connection : Connection) : Prop :=
  connection.admitted = false ∨ Nonempty (CommittedSession host (connection.start daemon)) ∨
    Nonempty (RejectedSession host (connection.start daemon))

/-- One connection keeps the counter right exactly where its end is accounted for and the count still
fits. -/
theorem serve_failures_iff {n : Nat} (hn : daemon.orchestrator.consecutiveFailures.toNat = n) :
    (serve host daemon connection).orchestrator.consecutiveFailures.toNat =
        failuresSinceCommit host daemon n [connection] ↔
      Accounted host daemon connection ∧ failuresSinceCommit host daemon n [connection] < 2 ^ 32 := by
  simp only [failuresSinceCommit]
  by_cases hc : Nonempty (CommittedSession host (connection.start daemon))
  · obtain ⟨horch, hsent⟩ := serve_committed hc.some
    rw [any_isCommitSuccess_iff.mpr hsent, if_pos rfl, horch]
    exact ⟨fun _ => ⟨Or.inr (Or.inl hc), by decide⟩, fun _ => rfl⟩
  · by_cases hr : Nonempty (RejectedSession host (connection.start daemon))
    · obtain ⟨horch, hsent, hadmitted⟩ := serve_rejected hr.some
      have hcount : (daemon.orchestrator.recordFailure).consecutiveFailures.toNat =
          (n + 1) % 2 ^ 32 := by
        rw [← hn]
        exact UInt32.toNat_add _ _
      rw [if_neg (mt any_isCommitSuccess_iff.mp hsent), if_pos hadmitted, horch, hcount]
      constructor
      · intro h
        exact ⟨Or.inr (Or.inr hr), by omega⟩
      · intro h
        exact Nat.mod_eq_of_lt h.2
    · obtain ⟨horch, hsent⟩ := serve_uncounted (not_nonempty_iff.mp hc) (not_nonempty_iff.mp hr)
      have hfits : n < 2 ^ 32 := hn ▸ UInt32.toNat_lt _
      rw [if_neg (mt any_isCommitSuccess_iff.mp hsent), horch, hn]
      cases hadmitted : connection.admitted with
      | false => exact ⟨fun _ => ⟨Or.inl hadmitted, hfits⟩, fun _ => rfl⟩
      | true =>
        constructor
        · intro h
          rw [if_pos rfl] at h
          omega
        · intro hparts
          obtain ⟨haccounted | haccounted | haccounted, _⟩ := hparts
          · rw [hadmitted] at haccounted
            cases haccounted
          · exact absurd haccounted hc
          · exact absurd haccounted hr

theorem runDaemon_concat (daemon : DaemonState F) (front : List Connection) (connection : Connection) :
    (runDaemon host daemon (front ++ [connection])).orchestrator =
      (serve host (runDaemon host daemon front) connection).orchestrator := by
  rw [runDaemon_append]
  rfl

/-- The circuit breaker sees every failed migration of a run exactly where the daemon accounts for the
end of each connection, and fewer than 2^32 migrations fail between two commits. -/
theorem runDaemon_failures_iff (host : Host F) (injector : KVConnectorBaseV1 F)
    (connections : List Connection) :
    (∀ front, front <+: connections →
      (runDaemon host ⟨.new .default, injector⟩ front).orchestrator.consecutiveFailures.toNat =
        failuresSinceCommit host ⟨.new .default, injector⟩ 0 front) ↔
    (∀ front connection, front ++ [connection] <+: connections →
      Accounted host (runDaemon host ⟨.new .default, injector⟩ front) connection) ∧
    ∀ front, front <+: connections →
      failuresSinceCommit host ⟨.new .default, injector⟩ 0 front < 2 ^ 32 := by
  constructor
  · intro h
    refine ⟨?_, fun front hfront => h front hfront ▸ UInt32.toNat_lt _⟩
    intro front connection hfront
    have hbefore := h front ((List.prefix_append _ _).trans hfront)
    have hafter := h _ hfront
    rw [runDaemon_concat, failuresSinceCommit_append] at hafter
    exact ((serve_failures_iff hbefore).mp hafter).1
  · rintro ⟨haccounted, hfits⟩ front
    induction front using List.reverseRecOn with
    | nil => exact fun _ => rfl
    | append_singleton front connection ih =>
      intro hfront
      have hbefore := ih ((List.prefix_append _ _).trans hfront)
      have hfit := hfits _ hfront
      rw [failuresSinceCommit_append] at hfit
      rw [runDaemon_concat, failuresSinceCommit_append]
      exact (serve_failures_iff hbefore).mpr ⟨haccounted front connection hfront, hfit⟩

end Accounting

def hangUpConnection : Connection :=
  ⟨[.ok (.capabilityRequest "test-model" "gqa" 1)], fun _ => true⟩

theorem hangUpConnection_uncounted :
    (runDaemon (F := F32) testRecording.host .initial
        [hangUpConnection]).orchestrator.consecutiveFailures.toNat = 0 ∧
      failuresSinceCommit (F := F32) testRecording.host .initial 0 [hangUpConnection] = 1 :=
  ⟨rfl, rfl⟩

end PermeantOS
