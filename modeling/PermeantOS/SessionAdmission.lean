import PermeantOS.SessionAtomicity

namespace PermeantOS

variable {F : Type} {P : MigrationMessage → Prop}

theorem Quietly.sends {s t : Session F} (h : Quietly P s t) : Sends P s t := h.2

theorem Keeps.sends {α : Type} {x : Daemon F α} (h : Keeps (Quietly P) x) : Keeps (Sends P) x :=
  fun s => (h s).sends

theorem injectStaged_sends (host : Host F) (blocks : BlockMap F) (hashes : List String) :
    Keeps (Sends P) (injectStaged host blocks hashes) := by
  induction hashes with
  | nil => exact Keeps.pure _
  | cons hash rest ih =>
    refine Keeps.bind ?_ fun _ => ih
    intro s
    rw [injectBlock, run_get_bind]
    cases h : s.injector.injectBlockTensors host.injectorHost host.hashOrder hash
        ((blocks.lookup hash).getD ∅) with
    | error fault => exact refl_of (Sends P) s
    | ok injector => exact ⟨[], (List.append_nil s.outbox).symm, by simp⟩

theorem commit_sends (host : Host F) (header : UsxfHeader) (final : MigrationMessage)
    (hp : P (.commitResponse true none)) : Keeps (Sends P) (commit host header final) := by
  cases final with
  | commitRequest =>
    intro s
    rw [commit, run_get_bind]
    have hmod : ∀ s : Session F, Sends P s { s with orchestrator := s.orchestrator.recordSuccess } :=
      fun s => ⟨[], by simp, by simp⟩
    exact (Keeps.bind (Keeps.liftExcept _) fun _ =>
      (send_quiet hp).sends.bind fun _ => Keeps.modify hmod) s
  | _ => exact Keeps.throw _

theorem receiveHeader_error {host : Host F} {s t : Session F} {fault : Fault}
    (h : (receiveHeader host).run s = .error fault t) : t.outbox = s.outbox := by
  rw [receiveHeader] at h
  cases hr : receive.run s with
  | error fault' u =>
    rw [run_bind_of_error hr] at h
    cases h
    rw [receive_error hr]
  | ok msg u =>
    rw [run_bind_of_ok hr] at h
    obtain ⟨rest, _, rfl⟩ := receive_ok_iff.mp hr
    have hout : (s.advance rest []).outbox = s.outbox := by simp
    cases msg with
    | headerEnvelope envelope =>
      dsimp only at h
      cases ho : openHeader host envelope with
      | error fault' =>
        rw [ho, run_bind_of_error (run_liftExcept_error _ _)] at h
        cases h
        exact hout
      | ok header =>
        rw [ho, run_bind_of_ok (run_liftExcept_ok _ _)] at h
        cases hs : (send (.headerAck true)).run (s.advance rest []) with
        | error fault' u =>
          rw [run_bind_of_error hs] at h
          cases h
          rw [send_error hs, hout]
        | ok a u =>
          rw [run_bind_of_ok hs] at h
          cases h
    | _ =>
      cases h
      exact hout

/-- The inbox starts with an admitted request and an envelope that opens to a valid header, and
both answers go out. -/
structure HeaderAccepted (host : Host F) (connection : Connection) (requested : Usize)
    (header : UsxfHeader) : Prop where
  inbox : ∃ modelArchitecture attentionType envelope rest,
    connection.inbox = .ok (.capabilityRequest modelArchitecture attentionType requested) ::
      .ok (.headerEnvelope envelope) :: rest ∧ openHeader host envelope = .ok header
  admitted : requested ≤ maxContext
  delivered : connection.delivers 0 = true ∧ connection.delivers 1 = true

theorem headerAccepted_of_run {host : Host F} {daemon : DaemonState F} {connection : Connection}
    {t1 t2 : Session F} {header : UsxfHeader}
    (h1 : (exchangeCapability host).run (connection.start daemon) = .ok true t1)
    (h2 : (receiveHeader host).run t1 = .ok header t2) :
    ∃ requested, HeaderAccepted host connection requested header := by
  obtain ⟨arch, attention, requested, rest1, hin1, hd1, hadm, rfl⟩ := exchangeCapability_ok_iff.mp h1
  obtain ⟨envelope, rest2, hin2, hopen, hd2, rfl⟩ := receiveHeader_ok_iff.mp h2
  rw [advance_inbox] at hin2
  exact ⟨requested, ⟨arch, attention, envelope, rest2, by rw [← hin2]; exact hin1, hopen⟩,
    by simpa using hadm.symm, hd1, hd2⟩

theorem HeaderAccepted.unique {host : Host F} {connection : Connection} {requested requested' : Usize}
    {header header' : UsxfHeader} (h : HeaderAccepted host connection requested header)
    (h' : HeaderAccepted host connection requested' header') :
    requested = requested' ∧ header = header' := by
  obtain ⟨arch, attention, envelope, rest, hin, hopen⟩ := h.inbox
  obtain ⟨arch', attention', envelope', rest', hin', hopen'⟩ := h'.inbox
  rw [hin] at hin'
  cases hin'
  cases hopen.symm.trans hopen'
  exact ⟨rfl, rfl⟩

section Admission

variable [F32Bits F] [F32Arith F]

theorem migrateBlocks_sends (host : Host F) (header : UsxfHeader) :
    Keeps (Sends fun _ => True) (migrateBlocks host header) := by
  refine Keeps.bind (streamChunks_quiet host header _ _ fun _ => trivial).sends fun staging => ?_
  refine Keeps.bind (receiveBinding_quiet header fun _ _ => trivial).sends fun final => ?_
  exact Keeps.bind (injectStaged_sends host _ _) fun _ => commit_sends host header final trivial

/-- The daemon acknowledges exactly the accepted headers. -/
theorem headerAck_sent_iff (host : Host F) (daemon : DaemonState F) (connection : Connection) :
    .headerAck true ∈ (serve host daemon connection).outbox ↔
      ∃ requested header, HeaderAccepted host connection requested header := by
  constructor
  · intro hmem
    have hcap := exchangeCapability_quiet host (P := (· ≠ .headerAck true)) (by simp)
      (connection.start daemon)
    have hno : ∀ t, Quietly (· ≠ .headerAck true) (connection.start daemon) t →
        .headerAck true ∉ t.outbox := by
      rintro t ⟨_, answers, ho, hp⟩ hin
      rw [ho] at hin
      exact hp _ hin rfl
    cases h1 : (exchangeCapability host).run (connection.start daemon) with
    | error fault t =>
      rw [serve, handleMigrationConnection, run_bind_of_error h1] at hmem
      rw [h1] at hcap
      exact absurd hmem (hno t hcap)
    | ok goesOn t1 =>
      rw [h1] at hcap
      rw [serve, handleMigrationConnection, run_bind_of_ok h1] at hmem
      cases goesOn with
      | false => exact absurd hmem (hno t1 hcap)
      | true =>
        rw [if_pos rfl] at hmem
        cases h2 : (receiveHeader host).run t1 with
        | error fault t2 =>
          rw [run_bind_of_error h2, leftState_error, receiveHeader_error h2] at hmem
          exact absurd hmem (hno t1 hcap)
        | ok header t2 =>
          obtain ⟨requested, hacc⟩ := headerAccepted_of_run h1 h2
          exact ⟨requested, header, hacc⟩
  · intro hparts
    obtain ⟨requested, header, ⟨arch, attention, envelope, rest, hin, hopen⟩, hadm, hd0, hd1⟩ := hparts
    have h1 : (exchangeCapability host).run (connection.start daemon) = .ok true
        ((connection.start daemon).advance (.ok (.headerEnvelope envelope) :: rest)
          [capabilityResponse host requested]) :=
      exchangeCapability_ok_iff.mpr ⟨arch, attention, requested, _, hin, hd0, by simpa using hadm, rfl⟩
    have h2 : (receiveHeader host).run ((connection.start daemon).advance
        (.ok (.headerEnvelope envelope) :: rest) [capabilityResponse host requested]) =
          .ok header ((connection.start daemon).advance rest
            [capabilityResponse host requested, .headerAck true]) :=
      receiveHeader_ok_iff.mpr ⟨envelope, rest, rfl, hopen, hd1, by simp⟩
    obtain ⟨answers, ho, _⟩ := migrateBlocks_sends host header
      ((connection.start daemon).advance rest [capabilityResponse host requested, .headerAck true])
    rw [serve, handleMigrationConnection, run_bind_of_ok h1, if_pos rfl, run_bind_of_ok h2, ho]
    simp

/-- The acknowledged header asks for the admitted size exactly when no admitted request is followed
by an envelope with a valid header of another size. -/
theorem serve_admission_iff (host : Host F) (daemon : DaemonState F) (connection : Connection) :
    (.headerAck true ∈ (serve host daemon connection).outbox →
      ∃ requested header, HeaderAccepted host connection requested header ∧
        header.seqLen = requested ∧ header.seqLen ≤ maxContext) ↔
    ∀ requested header, HeaderAccepted host connection requested header →
      header.seqLen = requested := by
  rw [headerAck_sent_iff]
  constructor
  · intro h requested header hacc
    obtain ⟨requested', header', hacc', hsize, _⟩ := h ⟨requested, header, hacc⟩
    obtain ⟨rfl, rfl⟩ := hacc.unique hacc'
    exact hsize
  · rintro h ⟨requested, header, hacc⟩
    have hsize := h requested header hacc
    exact ⟨requested, header, hacc, hsize, hsize ▸ hacc.admitted⟩

end Admission

def mismatchedConnection : Connection :=
  ⟨[.ok (.capabilityRequest "test-model" "gqa" 2), .ok (.headerEnvelope testEntry.envelope)],
    fun _ => true⟩

theorem mismatchedConnection_accepted :
    HeaderAccepted (F := F32) testRecording.host mismatchedConnection 2 (oneTokenHeader "test") where
  inbox := ⟨_, _, _, _, rfl,
    Recording.openHeader_eq (List.mem_singleton_self _) (oneTokenHeader_valid _)⟩
  admitted := by decide
  delivered := ⟨rfl, rfl⟩

/-- The daemon acknowledges a header whose size was not the one it admitted. -/
theorem serve_acknowledges_other_size :
    ¬(.headerAck true ∈ (serve (F := F32) testRecording.host .initial mismatchedConnection).outbox →
      ∃ requested header, HeaderAccepted (F := F32) testRecording.host mismatchedConnection requested
        header ∧ header.seqLen = requested ∧ header.seqLen ≤ maxContext) := by
  intro h
  obtain ⟨requested, header, hacc, hsize, _⟩ :=
    h ((headerAck_sent_iff _ _ _).mpr ⟨2, _, mismatchedConnection_accepted⟩)
  obtain ⟨rfl, rfl⟩ := mismatchedConnection_accepted.unique hacc
  exact absurd hsize (by simp [oneTokenHeader, testHeader])

end PermeantOS
