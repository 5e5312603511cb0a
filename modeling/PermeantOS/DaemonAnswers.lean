import PermeantOS.SessionRun

namespace PermeantOS

variable {F : Type} {α β : Type}

section Lockstep

/-- Nothing more can be received: the stream is closed, or its next message is broken. -/
def Stuck : List (Fallible MigrationMessage) → Prop
  | .ok _ :: _ => False
  | _ => True

def Session.withInbox (session : Session F) (inbox : List (Fallible MigrationMessage)) : Session F :=
  { session with inbox }

/-- Two runs of one action from `s`, the first with all of `front` and `rest` to receive, the second with
`front` only and a stuck `tail`. They end alike with the same part of `front` left, or the second fails; then
it has sent what the first has sent in answer to `front`, where `owed` answers were due at the start. -/
inductive Follows (owed owed' : Nat) (s : Session F) (front rest tail : List (Fallible MigrationMessage)) :
    EStateM.Result Fault (Session F) α → EStateM.Result Fault (Session F) α → Prop
  | both (a : α) (t : Session F) (left : List (Fallible MigrationMessage)) (hinbox : t.inbox = left ++ rest)
      (hpace : t.outbox.length + owed' + left.length = s.outbox.length + owed + front.length)
      (hout : s.outbox <+: t.outbox) :
      Follows owed owed' s front rest tail (.ok a t) (.ok a (t.withInbox (left ++ tail)))
  | ahead (full : EStateM.Result Fault (Session F) α) (e : Fault) (u : Session F)
      (hsent : u.outbox = (leftState full).outbox.take (s.outbox.length + owed + front.length))
      (hout : s.outbox <+: (leftState full).outbox)
      (hahead : ∀ a t, full = .ok a t → s.outbox.length + owed + front.length ≤ t.outbox.length) :
      Follows owed owed' s front rest tail full (.error e u)

/-- An action that answers message by message: it starts with `owed` answers due and returns with `owed'`. -/
def Lockstep (owed owed' : Nat) (x : Daemon F α) : Prop :=
  ∀ (s : Session F) (front rest tail : List (Fallible MigrationMessage)), s.inbox = front ++ rest → Stuck tail →
    Follows owed owed' s front rest tail (x.run s) (x.run (s.withInbox (front ++ tail)))

variable {owed owed' owed'' : Nat}

theorem Lockstep.grows {x : Daemon F α} (h : Lockstep owed owed' x) (s : Session F) :
    s.outbox <+: (leftState (x.run s)).outbox := by
  have hfollows := h s s.inbox [] [] (List.append_nil _).symm trivial
  generalize x.run s = full at hfollows ⊢
  generalize x.run (s.withInbox (s.inbox ++ [])) = short at hfollows
  cases hfollows with
  | both a t left _ _ hout => exact hout
  | ahead full e u _ hout _ => exact hout

theorem Lockstep.bind {x : Daemon F α} {f : α → Daemon F β} (hx : Lockstep owed owed' x)
    (hf : ∀ a, Lockstep owed' owed'' (f a)) : Lockstep owed owed'' (x >>= f) := by
  intro s front rest tail hinbox hstuck
  have hfollows := hx s front rest tail hinbox hstuck
  rw [EStateM.run_bind, EStateM.run_bind]
  generalize x.run s = full at hfollows ⊢
  generalize x.run (s.withInbox (front ++ tail)) = short at hfollows ⊢
  cases hfollows with
  | both a t left hleft hpace hout =>
    have hnext := hf a t left rest tail hleft hstuck
    dsimp only
    generalize (f a).run t = full at hnext ⊢
    generalize (f a).run (t.withInbox (left ++ tail)) = short at hnext ⊢
    cases hnext with
    | both b u left' hleft' hpace' hout' => exact .both b u left' hleft' (by omega) (hout.trans hout')
    | ahead full e u hsent hout' hahead =>
      have hdue : t.outbox.length + owed' + left.length = s.outbox.length + owed + front.length := hpace
      rw [hdue] at hsent
      refine .ahead full e u hsent (hout.trans hout') ?_
      intro b w hfull
      have := hahead b w hfull
      omega
  | ahead full e u hsent hout hahead =>
    cases full with
    | error e' t => exact .ahead (.error e' t) e u hsent hout (fun _ _ h => by cases h)
    | ok a t =>
      have hgrows := (hf a).grows t
      have hdue := hahead a t rfl
      dsimp only
      refine .ahead _ e u ?_ (hout.trans hgrows) ?_
      · rw [hsent, leftState_ok]
        obtain ⟨more, hmore⟩ := hgrows
        rw [← hmore, List.take_append_of_le_length hdue]
      · intro b w hfull
        rw [hfull, leftState_ok] at hgrows
        exact hdue.trans hgrows.length_le

theorem Lockstep.pure (a : α) : Lockstep owed owed (pure a : Daemon F α) := by
  intro s front rest tail hinbox _
  exact .both a s front hinbox rfl (List.prefix_refl _)

/-- A failure sends nothing. -/
theorem follows_error {s : Session F} {front rest tail : List (Fallible MigrationMessage)} (e e' : Fault) :
    Follows owed owed' s front rest tail (.error e s : EStateM.Result Fault (Session F) α)
      (.error e' (s.withInbox (front ++ tail))) := by
  refine .ahead (.error e s) e' _ ?_ (List.prefix_refl _) (fun _ _ h => by cases h)
  rw [leftState_error, List.take_of_length_le (by omega)]
  rfl

theorem Lockstep.throw (e : Fault) : Lockstep owed owed' (throw e : Daemon F α) :=
  fun _ _ _ _ _ _ => follows_error e e

theorem Lockstep.liftExcept (x : Fallible α) : Lockstep owed owed (PermeantOS.liftExcept x : Daemon F α) := by
  cases x with
  | ok a => exact Lockstep.pure a
  | error e => exact Lockstep.throw e

/-- An action that neither receives nor sends. -/
theorem lockstep_of_local {x : Daemon F α} (hx : ∀ s : Session F, (∃ a t, x.run s = .ok a t ∧ t.inbox = s.inbox ∧
      t.outbox = s.outbox ∧ ∀ inbox, x.run (s.withInbox inbox) = .ok a (t.withInbox inbox)) ∨
    ∃ e, ∀ inbox, x.run (s.withInbox inbox) = .error e (s.withInbox inbox)) : Lockstep owed owed x := by
  intro s front rest tail hinbox _
  rcases hx s with ⟨a, t, hrun, hin, hout, hall⟩ | ⟨e, hall⟩
  · rw [hrun, hall]
    exact .both a t front (hin.trans hinbox) (by rw [hout]) (hout ▸ List.prefix_refl _)
  · have hrun : x.run s = .error e s := hall s.inbox
    rw [hrun, hall]
    exact follows_error e e

theorem receive_stuck {s : Session F} (h : Stuck s.inbox) : ∃ e, receive.run s = .error e s := by
  obtain ⟨inbox, delivers, outbox, orchestrator, injector⟩ := s
  cases inbox with
  | nil => exact ⟨_, rfl⟩
  | cons first rest =>
    cases first with
    | error fault => exact ⟨fault, rfl⟩
    | ok msg => exact h.elim

theorem receive_outbox (s : Session F) : (leftState (receive.run s)).outbox = s.outbox := by
  cases h : receive.run s with
  | ok msg t =>
    obtain ⟨rest, _, rfl⟩ := receive_ok_iff.mp h
    exact List.append_nil _
  | error fault t =>
    rw [receive_error h]
    rfl

/-- With no answer due, the next message makes one due. -/
theorem receive_lockstep : Lockstep 0 1 (receive (F := F)) := by
  intro s front rest tail hinbox hstuck
  cases front with
  | nil =>
    obtain ⟨e, hshort⟩ := receive_stuck (s := s.withInbox tail) hstuck
    rw [List.nil_append, hshort]
    refine .ahead _ e _ ?_ ?_ ?_
    · rw [receive_outbox]
      exact (List.take_of_length_le (Nat.le_add_right _ _)).symm
    · rw [receive_outbox]
    · intro msg t hfull
      have hout := receive_outbox s
      rw [hfull, leftState_ok] at hout
      rw [hout]
      exact Nat.le_refl _
  | cons first front =>
    obtain ⟨inbox, delivers, outbox, orchestrator, injector⟩ := s
    obtain rfl : inbox = first :: front ++ rest := hinbox
    cases first with
    | error fault => exact follows_error fault fault
    | ok msg =>
      refine .both msg ⟨front ++ rest, delivers, outbox, orchestrator, injector⟩ front rfl ?_ (List.prefix_refl _)
      simp only [List.length_cons]
      omega

theorem send_lockstep (msg : MigrationMessage) : Lockstep (owed + 1) owed (send (F := F) msg) := by
  intro s front rest tail hinbox _
  cases h : (send msg).run s with
  | error fault t =>
    obtain rfl := send_error h
    have hclosed : ¬t.delivers t.outbox.length = true := by
      intro hdelivers
      have hsent : (send msg).run t = .ok () (t.advance t.inbox [msg]) := send_ok_iff.mpr ⟨hdelivers, rfl⟩
      rw [hsent] at h
      cases h
    have hshort : (send msg).run (t.withInbox (front ++ tail)) =
        .error (.error "Failed to write frame content") (t.withInbox (front ++ tail)) := by
      rw [send, run_get_bind, if_neg (by exact hclosed)]
      rfl
    rw [hshort]
    exact follows_error _ _
  | ok a t =>
    obtain ⟨hdelivers, rfl⟩ := send_ok_iff.mp h
    have hshort : (send msg).run (s.withInbox (front ++ tail)) =
        .ok () ((s.advance s.inbox [msg]).withInbox (front ++ tail)) :=
      send_ok_iff.mpr ⟨hdelivers, rfl⟩
    rw [hshort]
    refine .both () (s.advance s.inbox [msg]) front hinbox ?_ (List.prefix_append _ _)
    rw [advance_outbox, List.length_append, List.length_singleton]
    omega

theorem modify_lockstep {f : Session F → Session F}
    (hf : ∀ s inbox, f (s.withInbox inbox) = (f s).withInbox inbox)
    (hout : ∀ s, (f s).outbox = s.outbox) : Lockstep owed owed (modifyThe (Session F) f : Daemon F Unit) := by
  intro s front rest tail hinbox _
  have hfull : (modifyThe (Session F) f : Daemon F Unit).run s = .ok () (f s) := rfl
  have hshort : (modifyThe (Session F) f : Daemon F Unit).run (s.withInbox (front ++ tail)) =
      .ok () ((f s).withInbox (front ++ tail)) := by
    rw [← hf]
    rfl
  have hsame : f s = (f s).withInbox s.inbox := hf s s.inbox
  have hin : (f s).inbox = s.inbox := by
    rw [hsame]
    rfl
  rw [hfull, hshort]
  refine .both () (f s) front (hin.trans hinbox) (by rw [hout]) ?_
  rw [hout]

end Lockstep

section Phases

theorem exchangeCapability_lockstep (host : Host F) : Lockstep 0 0 (exchangeCapability host) := by
  apply receive_lockstep.bind
  intro msg
  cases msg with
  | capabilityRequest arch attention seqLen =>
    exact (send_lockstep _).bind fun _ => Lockstep.pure _
  | _ => exact Lockstep.throw _

theorem receiveHeader_lockstep (host : Host F) : Lockstep 0 0 (receiveHeader host) := by
  apply receive_lockstep.bind
  intro msg
  cases msg with
  | headerEnvelope envelope =>
    refine Lockstep.bind (Lockstep.liftExcept _) ?_
    intro header
    exact (send_lockstep _).bind fun _ => Lockstep.pure _
  | _ => exact Lockstep.throw _

theorem streamChunks_lockstep [F32Bits F] [F32Arith F] (host : Host F) (header : UsxfHeader) (n : Nat)
    (staging : Staging F) : Lockstep 0 0 (streamChunks host header n staging) := by
  induction n generalizing staging with
  | zero => exact Lockstep.pure _
  | succ n ih =>
    apply receive_lockstep.bind
    intro msg
    refine Lockstep.bind (Lockstep.liftExcept _) ?_
    intro staged
    obtain ⟨chunkIndex, next⟩ := staged
    exact (send_lockstep _).bind fun _ => ih next

/-- The message that ends the session is still to be answered. -/
theorem receiveBinding_lockstep (header : UsxfHeader) : Lockstep 0 1 (receiveBinding (F := F) header) := by
  apply receive_lockstep.bind
  intro msg
  cases msg with
  | agentGraphBinding binding =>
    dsimp only
    split
    next =>
      have hrecord : Lockstep 0 0 (modifyThe (Session F) fun session =>
          { session with orchestrator := session.orchestrator.recordFailure } : Daemon F Unit) :=
        modify_lockstep (fun _ _ => rfl) fun _ => rfl
      exact (send_lockstep _).bind fun _ => hrecord.bind fun _ => Lockstep.throw _
    next => exact (send_lockstep _).bind fun _ => receive_lockstep
  | _ => exact Lockstep.pure _

theorem injectBlock_lockstep {owed : Nat} (host : Host F) (hash : String) (tensors : TensorMap F) :
    Lockstep owed owed (injectBlock host hash tensors) := by
  apply lockstep_of_local
  intro s
  cases h : s.injector.injectBlockTensors host.injectorHost host.hashOrder hash tensors with
  | ok injector =>
    have hrun : ∀ inbox, (injectBlock host hash tensors).run (s.withInbox inbox) =
        .ok () (({ s with injector } : Session F).withInbox inbox) := by
      intro inbox
      have hget : (s.withInbox inbox).injector = s.injector := rfl
      rw [injectBlock, run_get_bind, hget, run_liftExcept_bind_of_ok h]
      rfl
    exact .inl ⟨(), _, hrun s.inbox, rfl, rfl, hrun⟩
  | error e =>
    right
    refine ⟨e, ?_⟩
    intro inbox
    have hget : (s.withInbox inbox).injector = s.injector := rfl
    rw [injectBlock, run_get_bind, hget, h]
    rfl

theorem injectStaged_lockstep {owed : Nat} (host : Host F) (blocks : BlockMap F) (hashes : List String) :
    Lockstep owed owed (injectStaged host blocks hashes) := by
  induction hashes with
  | nil => exact Lockstep.pure _
  | cons hash hashes ih => exact (injectBlock_lockstep host hash _).bind fun _ => ih

theorem commit_lockstep (host : Host F) (header : UsxfHeader) (final : MigrationMessage) :
    Lockstep 1 0 (commit host header final) := by
  cases final with
  | commitRequest =>
    intro s front rest tail hinbox hstuck
    have hcommit : ∀ s : Session F, (commit host header .commitRequest).run s =
        ((liftExcept (s.injector.verifyContinuation host.injectorHost header.blockHashes) : Daemon F _) >>= fun _ => do
          send (.commitResponse true none)
          modify fun session => { session with orchestrator := session.orchestrator.recordSuccess }).run s :=
      fun _ => rfl
    rw [hcommit, hcommit]
    refine Lockstep.bind (Lockstep.liftExcept _) ?_ s front rest tail hinbox hstuck
    have hrecord : Lockstep 0 0 (modifyThe (Session F) fun session =>
        { session with orchestrator := session.orchestrator.recordSuccess } : Daemon F Unit) :=
      modify_lockstep (fun _ _ => rfl) fun _ => rfl
    exact fun _ => (send_lockstep _).bind fun _ => hrecord
  | _ => exact Lockstep.throw _

variable [F32Bits F] [F32Arith F]

theorem handleMigrationConnection_lockstep (host : Host F) : Lockstep 0 0 (handleMigrationConnection host) := by
  apply (exchangeCapability_lockstep host).bind
  intro goesOn
  cases goesOn with
  | false => exact Lockstep.pure _
  | true =>
    apply (receiveHeader_lockstep host).bind
    intro header
    apply (streamChunks_lockstep host header _ _).bind
    intro staging
    apply (receiveBinding_lockstep header).bind
    intro msg
    apply (injectStaged_lockstep host _ _).bind
    intro _
    exact commit_lockstep host header msg

/-- Where nothing more can be received, the daemon has sent the first answers of any session that begins so. -/
theorem serve_stuck (host : Host F) (daemon : DaemonState F) (delivers : Nat → Bool)
    (front rest : List (Fallible MigrationMessage)) {tail : List (Fallible MigrationMessage)} (htail : Stuck tail) :
    (serve host daemon ⟨front ++ tail, delivers⟩).outbox =
      (serve host daemon ⟨front ++ rest, delivers⟩).outbox.take front.length := by
  have hfollows := handleMigrationConnection_lockstep host
    (Connection.start ⟨front ++ rest, delivers⟩ daemon) front rest tail rfl htail
  have hshort : (Connection.start ⟨front ++ rest, delivers⟩ daemon).withInbox (front ++ tail) =
      Connection.start ⟨front ++ tail, delivers⟩ daemon := rfl
  rw [hshort] at hfollows
  unfold serve
  generalize (handleMigrationConnection host).run (Connection.start ⟨front ++ rest, delivers⟩ daemon) = full
    at hfollows ⊢
  generalize (handleMigrationConnection host).run (Connection.start ⟨front ++ tail, delivers⟩ daemon) = short
    at hfollows ⊢
  have hstart : (Connection.start ⟨front ++ rest, delivers⟩ daemon).outbox = [] := rfl
  cases hfollows with
  | both a t left _ hpace _ =>
    rw [hstart, List.length_nil] at hpace
    rw [leftState_ok, leftState_ok, List.take_of_length_le (by omega)]
    rfl
  | ahead full e u hsent _ _ =>
    rw [hstart, List.length_nil, Nat.zero_add] at hsent
    exact hsent

/-- The daemon answers as it receives, one answer a message: cut off behind any number of messages, it has sent
that many of the answers it sends in the whole session, or all of them. -/
theorem serve_take (host : Host F) (daemon : DaemonState F) (connection : Connection) (n : Nat) :
    (serve host daemon { connection with inbox := connection.inbox.take n }).outbox =
      (serve host daemon connection).outbox.take n := by
  obtain ⟨inbox, delivers⟩ := connection
  have hclosed : Stuck [] := trivial
  have hcut := serve_stuck host daemon delivers (inbox.take n) (inbox.drop n) hclosed
  have hwhole := serve_stuck host daemon delivers inbox [] hclosed
  rw [List.append_nil, List.take_append_drop, List.length_take] at hcut
  rw [List.append_nil] at hwhole
  rw [hcut]
  rcases Nat.le_total n inbox.length with hle | hle
  · rw [Nat.min_eq_left hle]
  · have hcount : (serve host daemon ⟨inbox, delivers⟩).outbox.length ≤ inbox.length := by
      rw [hwhole, List.length_take]
      exact Nat.min_le_left _ _
    rw [Nat.min_eq_right hle, ← hwhole, List.take_of_length_le (hcount.trans hle)]

end Phases

end PermeantOS
