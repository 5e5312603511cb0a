import PermeantOS.Fallible
import PermeantOS.Orchestrator

namespace PermeantOS

def MigrationState.debug : MigrationState → String
  | .idle => "Idle"
  | .extracting => "Extracting"
  | .streaming => "Streaming"
  | .injecting => "Injecting"
  | .validating => "Validating"
  | .committed => "Committed"
  | .rolledBack => "RolledBack"

/-- `T` is the type of clock readings, `DateTime<Utc>`. -/
structure MigrationStateMachine (T : Type) where
  currentState : MigrationState
  updatedAt : T
  history : List (MigrationState × T)
  deriving DecidableEq, Repr

def validTransition : MigrationState → MigrationState → Bool
  | .idle, .extracting => true
  | .idle, .rolledBack => true
  | .extracting, .streaming => true
  | .extracting, .rolledBack => true
  | .streaming, .injecting => true
  | .streaming, .rolledBack => true
  | .injecting, .validating => true
  | .injecting, .rolledBack => true
  | .validating, .committed => true
  | .validating, .rolledBack => true
  | .committed, _ => false
  | .rolledBack, _ => false
  | s1, s2 => decide (s1 = s2)

variable {T : Type}

/-- `now` is what the clock shows. -/
def MigrationStateMachine.new (now : T) : MigrationStateMachine T :=
  ⟨.idle, now, [(.idle, now)]⟩

def transitionTo (next : MigrationState) (now : T) :
    EStateM Fault (MigrationStateMachine T) Unit := do
  let machine ← get
  if validTransition machine.currentState next then
    if machine.currentState ≠ next then
      set (⟨next, now, machine.history ++ [(next, now)]⟩ : MigrationStateMachine T)
  else throw (.error
    s!"Invalid state transition from {machine.currentState.debug} to {next.debug}")

/-- The machine after a list of calls, refused ones included. -/
def runTransitions (machine : MigrationStateMachine T) (calls : List (MigrationState × T)) :
    MigrationStateMachine T :=
  calls.foldl (fun machine call => leftState ((transitionTo call.1 call.2).run machine)) machine

/-- The phase that follows in the order of a migration. -/
def MigrationState.nextPhase : MigrationState → Option MigrationState
  | .idle => some .extracting
  | .extracting => some .streaming
  | .streaming => some .injecting
  | .injecting => some .validating
  | .validating => some .committed
  | .committed => none
  | .rolledBack => none

def MigrationState.IsTerminal (state : MigrationState) : Prop :=
  state = .committed ∨ state = .rolledBack

instance (state : MigrationState) : Decidable state.IsTerminal :=
  inferInstanceAs (Decidable (_ ∨ _))

/-- The six phases of a migration that was committed. -/
def phases : List MigrationState :=
  [.idle, .extracting, .streaming, .injecting, .validating, .committed]

/-- What a migration in this phase has been through. -/
def MigrationState.phasesUpTo : MigrationState → List MigrationState
  | .idle => [.idle]
  | .extracting => [.idle, .extracting]
  | .streaming => [.idle, .extracting, .streaming]
  | .injecting => [.idle, .extracting, .streaming, .injecting]
  | .validating => [.idle, .extracting, .streaming, .injecting, .validating]
  | .committed => phases
  | .rolledBack => []

theorem validTransition_iff {state next : MigrationState} :
    validTransition state next = true ↔
      ¬state.IsTerminal ∧ (next = state ∨ state.nextPhase = some next ∨ next = .rolledBack) := by
  cases state <;> cases next <;> decide

/-- A call is refused and changes nothing, or stays in its state and changes nothing, or enters the
next phase or the rolled-back state and records that. -/
theorem transitionTo_cases (machine : MigrationStateMachine T) (next : MigrationState) (now : T) :
    (∃ fault, (transitionTo next now).run machine = .error fault machine ∧
      validTransition machine.currentState next = false) ∨
    ((transitionTo next now).run machine = .ok () machine ∧ next = machine.currentState ∧
      ¬machine.currentState.IsTerminal) ∨
    ((transitionTo next now).run machine =
        .ok () ⟨next, now, machine.history ++ [(next, now)]⟩ ∧ next ≠ machine.currentState ∧
      ¬machine.currentState.IsTerminal ∧
      (machine.currentState.nextPhase = some next ∨ next = .rolledBack)) := by
  rw [transitionTo, run_get_bind]
  cases hv : validTransition machine.currentState next with
  | false => exact Or.inl ⟨_, rfl, rfl⟩
  | true =>
    obtain ⟨hactive, hnext⟩ := validTransition_iff.mp hv
    right
    by_cases hsame : machine.currentState = next
    · left
      rw [if_pos rfl, if_neg (not_not.mpr hsame)]
      exact ⟨rfl, hsame.symm, hactive⟩
    · right
      rw [if_pos rfl, if_pos hsame]
      exact ⟨rfl, Ne.symm hsame, hactive, hnext.resolve_left (Ne.symm hsame)⟩

theorem transitionTo_error {machine machine' : MigrationStateMachine T} {next : MigrationState}
    {now : T} {fault : Fault} (h : (transitionTo next now).run machine = .error fault machine') :
    machine' = machine := by
  rcases transitionTo_cases machine next now with ⟨_, he, _⟩ | ⟨he, _⟩ | ⟨he, _⟩
  · rw [he] at h
    exact (EStateM.Result.error.inj h).2.symm
  · rw [he] at h
    cases h
  · rw [he] at h
    cases h

/-- The states that a machine in its present state has recorded. -/
inductive Visits : List MigrationState → MigrationState → Prop
  | start : Visits [.idle] .idle
  | forward {states state next} : Visits states state → state.nextPhase = some next →
      Visits (states ++ [next]) next
  | rollBack {states state} : Visits states state → ¬state.IsTerminal →
      Visits (states ++ [.rolledBack]) .rolledBack

namespace Visits

variable {states : List MigrationState} {state : MigrationState}

theorem head (h : Visits states state) : states.head? = some .idle := by
  induction h with
  | start => rfl
  | forward _ _ ih => simp [ih]
  | rollBack _ _ ih => simp [ih]

theorem last (h : Visits states state) : states.getLast? = some state := by
  cases h with
  | start => rfl
  | forward _ _ => simp
  | rollBack _ _ => simp

/-- Recorded states follow one another in the order of the phases, or into the rolled-back state. -/
theorem chain (h : Visits states state) :
    states.IsChain fun a b => a ≠ b ∧ (a.nextPhase = some b ∨ b = .rolledBack) := by
  induction h with
  | start => exact List.isChain_singleton _
  | @forward states state next hvisits hnext ih =>
    refine List.isChain_append.mpr ⟨ih, List.isChain_singleton _, ?_⟩
    intro a ha b hb
    obtain rfl := Option.some.inj (hvisits.last.symm.trans ha)
    obtain rfl := Option.some.inj hb
    refine ⟨?_, Or.inl hnext⟩
    rintro rfl
    cases state <;> cases hnext
  | @rollBack states state hvisits hactive ih =>
    refine List.isChain_append.mpr ⟨ih, List.isChain_singleton _, ?_⟩
    intro a ha b hb
    obtain rfl := Option.some.inj (hvisits.last.symm.trans ha)
    obtain rfl := Option.some.inj hb
    refine ⟨?_, Or.inr rfl⟩
    rintro rfl
    exact hactive (Or.inr rfl)

theorem eq_phasesUpTo (h : Visits states state) (hr : state ≠ .rolledBack) :
    states = state.phasesUpTo := by
  induction h with
  | start => rfl
  | @forward states state next _ hnext ih =>
    have hstate : state ≠ .rolledBack := by
      rintro rfl
      cases hnext
    rw [ih hstate]
    cases state <;> cases hnext <;> rfl
  | rollBack => exact absurd rfl hr

/-- Only a migration that went through all six phases was ever committed. -/
theorem eq_phases_of_committed (h : Visits states state) (hc : .committed ∈ states) :
    states = phases := by
  have hstate : state = .committed := by
    cases h with
    | start => simp at hc
    | @forward states state next hvisits hnext =>
      have hr : state ≠ .rolledBack := by
        rintro rfl
        cases hnext
      rw [hvisits.eq_phasesUpTo hr] at hc
      cases state <;> cases hnext <;> revert hc <;> decide
    | @rollBack states state hvisits hactive =>
      have hr : state ≠ .rolledBack := fun hr => hactive (Or.inr hr)
      rw [hvisits.eq_phasesUpTo hr] at hc
      cases state <;> revert hc hactive <;> decide
  subst hstate
  exact h.eq_phasesUpTo (by decide)

end Visits

/-- One call keeps the record in step with the state. -/
theorem transitionTo_visits {machine : MigrationStateMachine T}
    (h : Visits (machine.history.map (·.1)) machine.currentState) (next : MigrationState) (now : T) :
    Visits ((leftState ((transitionTo next now).run machine)).history.map (·.1))
      (leftState ((transitionTo next now).run machine)).currentState := by
  rcases transitionTo_cases machine next now with ⟨_, he, _⟩ | ⟨he, _⟩ | ⟨he, _, hactive, hnext⟩
  · rw [he]
    exact h
  · rw [he]
    exact h
  · rw [he]
    simp only [leftState_ok, List.map_append, List.map_cons, List.map_nil]
    rcases hnext with hnext | rfl
    · exact h.forward hnext
    · exact h.rollBack hactive

theorem runTransitions_visits (now : T) (calls : List (MigrationState × T)) :
    Visits ((runTransitions (.new now) calls).history.map (·.1))
      (runTransitions (.new now) calls).currentState := by
  refine List.foldlRecOn
    (motive := fun (machine : MigrationStateMachine T) =>
      Visits (machine.history.map (·.1)) machine.currentState) calls _ ?_ ?_
  · exact Visits.start
  · intro machine h call _
    exact transitionTo_visits h call.1 call.2

theorem runTransitions_terminal {machine : MigrationStateMachine T}
    (h : machine.currentState.IsTerminal) (calls : List (MigrationState × T)) :
    runTransitions machine calls = machine := by
  induction calls with
  | nil => rfl
  | cons call calls ih =>
    have hstay : leftState ((transitionTo call.1 call.2).run machine) = machine := by
      rcases transitionTo_cases machine call.1 call.2 with ⟨_, he, _⟩ | ⟨_, _, hn⟩ | ⟨_, _, hn, _⟩
      · rw [he]
        rfl
      · exact absurd h hn
      · exact absurd h hn
    rw [runTransitions, List.foldl_cons, hstay]
    exact ih

/-- Whatever is called on a new machine, accepted or refused: its history starts idle, ends in the
current state and follows the phases or rolls back; it is committed only after all six phases; a
terminal state is final; and a refused call changes nothing. -/
theorem runTransitions_history (now : T) (calls : List (MigrationState × T)) :
    let machine := runTransitions (.new now) calls
    let states := machine.history.map (·.1)
    states.head? = some .idle ∧ states.getLast? = some machine.currentState ∧
      states.IsChain (fun a b => a ≠ b ∧ (a.nextPhase = some b ∨ b = .rolledBack)) ∧
      (.committed ∈ states → states = phases) ∧
      (machine.currentState.IsTerminal → ∀ more, runTransitions machine more = machine) ∧
      ∀ next time fault machine', (transitionTo next time).run machine = .error fault machine' →
        machine' = machine := by
  have hvisits := runTransitions_visits now calls
  exact ⟨hvisits.head, hvisits.last, hvisits.chain, hvisits.eq_phases_of_committed,
    runTransitions_terminal, fun _ _ _ _ => transitionTo_error⟩

end PermeantOS
