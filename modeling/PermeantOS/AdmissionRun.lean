import PermeantOS.Admission
import Mathlib.Algebra.BigOperators.Group.List.Basic
import Mathlib.Logic.Relation

namespace PermeantOS

variable {T : Type}

inductive OrchestratorCall (T : Type)
  | initiateMigration (request : MigrationRequest) (now : T)
  | recordSuccess
  | recordFailure

namespace OrchestratorCall

/-- What a call leaves behind; a refused request is a call too. -/
def apply (orchestrator : MigrationOrchestrator) : OrchestratorCall T → MigrationOrchestrator
  | .initiateMigration request now =>
    leftState ((PermeantOS.initiateMigration request now).run orchestrator)
  | .recordSuccess => orchestrator.recordSuccess
  | .recordFailure => orchestrator.recordFailure

def isSuccess : OrchestratorCall T → Bool
  | .recordSuccess => true
  | _ => false

def isFailure : OrchestratorCall T → Bool
  | .recordFailure => true
  | _ => false

end OrchestratorCall

/-- The calls are made one after another on a new orchestrator, matched or not. -/
def runCalls (policy : ResourcePolicy) (calls : List (OrchestratorCall T)) : MigrationOrchestrator :=
  calls.foldl OrchestratorCall.apply (.new policy)

/-- How often a failure was recorded since the last success, or since the start. -/
def failuresSinceSuccess (calls : List (OrchestratorCall T)) : Nat :=
  (calls.reverse.takeWhile (fun call => !call.isSuccess)).countP OrchestratorCall.isFailure

theorem runCalls_concat (policy : ResourcePolicy) (calls : List (OrchestratorCall T))
    (call : OrchestratorCall T) :
    runCalls policy (calls ++ [call]) = call.apply (runCalls policy calls) := by
  simp [runCalls]

def WithinLimit (policy : ResourcePolicy) (orchestrator : MigrationOrchestrator) : Prop :=
  orchestrator.policy = policy ∧
    orchestrator.activeMigrations ≤ policy.maxConcurrentMigrations

theorem addOne_toNat {active limit : UInt64} (h : active < limit) :
    (active + 1).toNat = active.toNat + 1 := by
  have hlt := UInt64.lt_iff_toNat_lt.mp h
  have hlimit := limit.toNat_lt
  have hone : (1 : UInt64).toNat = 1 := rfl
  rw [UInt64.toNat_add, hone, Nat.mod_eq_of_lt (by omega)]

theorem subOne_toNat {active : UInt64} :
    (if 0 < active then active - 1 else active).toNat = active.toNat - 1 := by
  have hzero : (0 : UInt64).toNat = 0 := rfl
  have hone : (1 : UInt64).toNat = 1 := rfl
  split
  next h =>
    have hpos := UInt64.lt_iff_toNat_lt.mp h
    rw [hzero] at hpos
    rw [UInt64.toNat_sub_of_le _ _ (UInt64.le_iff_toNat_le.mpr (by omega)), hone]
  next h =>
    have hpos := UInt64.le_iff_toNat_le.mp (UInt64.not_lt.mp h)
    rw [hzero] at hpos
    omega

theorem recordSuccess_active (orchestrator : MigrationOrchestrator) :
    orchestrator.recordSuccess.activeMigrations.toNat = orchestrator.activeMigrations.toNat - 1 :=
  subOne_toNat

theorem recordFailure_active (orchestrator : MigrationOrchestrator) :
    orchestrator.recordFailure.activeMigrations.toNat = orchestrator.activeMigrations.toNat - 1 :=
  subOne_toNat

theorem OrchestratorCall.withinLimit {policy : ResourcePolicy} {orchestrator : MigrationOrchestrator}
    (h : WithinLimit policy orchestrator) (call : OrchestratorCall T) :
    WithinLimit policy (call.apply orchestrator) := by
  obtain ⟨rfl, hlimit⟩ := h
  have hle := UInt64.le_iff_toNat_le.mp hlimit
  cases call with
  | initiateMigration request now =>
    rw [OrchestratorCall.apply]
    rcases initiateMigration_cases orchestrator request now with ⟨hadmits, hrun⟩ | ⟨_, fault, hrun⟩
    · rw [hrun]
      refine ⟨rfl, UInt64.le_iff_toNat_le.mpr ?_⟩
      have hlt := UInt64.lt_iff_toNat_lt.mp hadmits.concurrency
      have hnext := addOne_toNat hadmits.concurrency
      show (orchestrator.activeMigrations + 1).toNat ≤ _
      omega
    · rw [hrun]
      exact ⟨rfl, hlimit⟩
  | recordSuccess =>
    refine ⟨rfl, UInt64.le_iff_toNat_le.mpr ?_⟩
    have hactive := recordSuccess_active orchestrator
    show orchestrator.recordSuccess.activeMigrations.toNat ≤ _
    omega
  | recordFailure =>
    refine ⟨rfl, UInt64.le_iff_toNat_le.mpr ?_⟩
    have hactive := recordFailure_active orchestrator
    show orchestrator.recordFailure.activeMigrations.toNat ≤ _
    omega

theorem runCalls_withinLimit (policy : ResourcePolicy) (calls : List (OrchestratorCall T)) :
    WithinLimit policy (runCalls policy calls) := by
  induction calls using List.reverseRecOn with
  | nil => exact ⟨rfl, UInt64.le_iff_toNat_le.mpr (Nat.zero_le _)⟩
  | append_singleton calls call ih =>
    rw [runCalls_concat]
    exact call.withinLimit ih

section Failures

variable (calls : List (OrchestratorCall T))

@[simp] theorem failuresSinceSuccess_initiate (request : MigrationRequest) (now : T) :
    failuresSinceSuccess (calls ++ [.initiateMigration request now]) =
      failuresSinceSuccess calls := by
  simp [failuresSinceSuccess, OrchestratorCall.isSuccess, OrchestratorCall.isFailure]

@[simp] theorem failuresSinceSuccess_success :
    failuresSinceSuccess (calls ++ [.recordSuccess]) = 0 := by
  simp [failuresSinceSuccess, OrchestratorCall.isSuccess]

@[simp] theorem failuresSinceSuccess_failure :
    failuresSinceSuccess (calls ++ [.recordFailure]) = failuresSinceSuccess calls + 1 := by
  rw [failuresSinceSuccess, List.reverse_append, List.reverse_singleton, List.singleton_append,
    List.takeWhile_cons_of_pos rfl, List.countP_cons_of_pos rfl]
  rfl

end Failures

theorem apply_initiate_failures (orchestrator : MigrationOrchestrator) (request : MigrationRequest)
    (now : T) :
    ((OrchestratorCall.initiateMigration request now).apply orchestrator).consecutiveFailures =
      orchestrator.consecutiveFailures := by
  rw [OrchestratorCall.apply]
  rcases initiateMigration_cases orchestrator request now with ⟨_, hrun⟩ | ⟨_, fault, hrun⟩
  · rw [hrun]
    rfl
  · rw [hrun]
    rfl

/-- The counter holds the number of failures since the last success while that number fits. -/
theorem runCalls_consecutiveFailures (policy : ResourcePolicy) (calls : List (OrchestratorCall T))
    (h : ∀ front, front <+: calls → failuresSinceSuccess front < 2 ^ 32) :
    (runCalls policy calls).consecutiveFailures.toNat = failuresSinceSuccess calls := by
  induction calls using List.reverseRecOn with
  | nil => rfl
  | append_singleton calls call ih =>
    have hbefore := ih fun front hf => h front (hf.trans (List.prefix_append _ _))
    have hafter := h _ (List.prefix_refl _)
    rw [runCalls_concat]
    cases call with
    | initiateMigration request now =>
      rw [apply_initiate_failures, hbefore, failuresSinceSuccess_initiate]
    | recordSuccess =>
      rw [failuresSinceSuccess_success]
      rfl
    | recordFailure =>
      have hone : (1 : UInt32).toNat = 1 := rfl
      rw [failuresSinceSuccess_failure] at hafter ⊢
      show ((runCalls policy calls).consecutiveFailures + 1).toNat = _
      rw [UInt32.toNat_add, hone, hbefore, Nat.mod_eq_of_lt hafter]

/-- After any calls on a new orchestrator with fewer than 2^32 failures in a row: the active count is
within its limit, the failure count is the number of failures since the last success, a refused
request changes nothing, and a request is let in exactly under the three conditions, which raises the
active count by one and changes nothing else. -/
theorem runCalls_invariants (policy : ResourcePolicy) (calls : List (OrchestratorCall T))
    (h : ∀ front, front <+: calls → failuresSinceSuccess front < 2 ^ 32) :
    let orchestrator := runCalls policy calls
    orchestrator.activeMigrations ≤ policy.maxConcurrentMigrations ∧
    orchestrator.consecutiveFailures.toNat = failuresSinceSuccess calls ∧
    (∀ request (now : T) fault orchestrator',
      (initiateMigration request now).run orchestrator = .error fault orchestrator' →
        orchestrator' = orchestrator) ∧
    (∀ request (now : T),
      (∃ result orchestrator',
        (initiateMigration request now).run orchestrator = .ok result orchestrator') ↔
      orchestrator.consecutiveFailures < policy.circuitBreakerThreshold ∧
      orchestrator.activeMigrations < policy.maxConcurrentMigrations ∧
      (evaluateMigration request).kvCacheSizeBytes ≤ policy.maxMemoryQuotaBytes) ∧
    ∀ request (now : T) result orchestrator',
      (initiateMigration request now).run orchestrator = .ok result orchestrator' →
        orchestrator'.policy = orchestrator.policy ∧
        orchestrator'.consecutiveFailures = orchestrator.consecutiveFailures ∧
        orchestrator'.activeMigrations.toNat = orchestrator.activeMigrations.toNat + 1 := by
  intro orchestrator
  obtain ⟨hpolicy, hlimit⟩ := runCalls_withinLimit policy calls
  refine ⟨hlimit, runCalls_consecutiveFailures policy calls h, ?_, ?_, ?_⟩
  · intro request now fault orchestrator' herror
    rcases initiateMigration_cases orchestrator request now with ⟨_, hrun⟩ | ⟨_, _, hrun⟩
    · rw [hrun] at herror
      cases herror
    · rw [hrun] at herror
      exact (EStateM.Result.error.inj herror).2.symm
  · intro request now
    rw [initiateMigration_ok_iff, ← hpolicy]
    constructor
    · intro hadmits
      exact ⟨hadmits.breaker, hadmits.concurrency, hadmits.memory⟩
    · intro hconditions
      exact ⟨hconditions.1, hconditions.2.1, hconditions.2.2⟩
  · intro request now result orchestrator' hok
    rcases initiateMigration_cases orchestrator request now with ⟨hadmits, hrun⟩ | ⟨_, _, hrun⟩
    · rw [hrun] at hok
      cases hok
      exact ⟨rfl, rfl, addOne_toNat hadmits.concurrency⟩
    · rw [hrun] at hok
      cases hok

def oneTokenRequest : MigrationRequest where
  seqLen := 1
  nLayers := 1
  nKvHeads := 1
  headDim := 1
  transferQuant := some "fp8"
  networkBandwidthBps := 10000000000.0

theorem runCalls_invariants_failure_success_failure :
    let calls : List (OrchestratorCall Unit) :=
      [.initiateMigration oneTokenRequest (), .recordFailure, .recordSuccess, .recordFailure]
    (∀ front, front <+: calls → failuresSinceSuccess front < 2 ^ 32) ∧
      (runCalls .default calls).consecutiveFailures.toNat = 1 := by
  intro calls
  have hfew : ∀ front, front <+: calls → failuresSinceSuccess front < 2 ^ 32 := by
    have hinits : ∀ front ∈ calls.inits, failuresSinceSuccess front < 2 ^ 32 := by decide
    intro front hfront
    exact hinits front ((List.mem_inits front calls).mpr hfront)
  exact ⟨hfew, (runCalls_invariants .default calls hfew).2.1⟩

/-- An orchestrator beside the sizes of the migrations it let in and that are not closed yet. -/
structure Admissions where
  orchestrator : MigrationOrchestrator
  sizes : List UInt64

namespace Admissions

def start (policy : ResourcePolicy) : Admissions := ⟨.new policy, []⟩

def allocated (state : Admissions) : Nat := (state.sizes.map UInt64.toNat).sum

/-- Each record call closes one open migration, whichever. -/
inductive Step : Admissions → OrchestratorCall T → Admissions → Prop
  | initiate {state request now machine decision orchestrator} :
      (initiateMigration request now).run state.orchestrator =
        .ok (machine, decision) orchestrator →
      Step state (.initiateMigration request now)
        ⟨orchestrator, decision.kvCacheSizeBytes :: state.sizes⟩
  | refuse {state request now fault orchestrator} :
      (initiateMigration request now).run state.orchestrator = .error fault orchestrator →
      Step state (.initiateMigration request now) ⟨orchestrator, state.sizes⟩
  | success {state size} : size ∈ state.sizes →
      Step state .recordSuccess ⟨state.orchestrator.recordSuccess, state.sizes.erase size⟩
  | failure {state size} : size ∈ state.sizes →
      Step state .recordFailure ⟨state.orchestrator.recordFailure, state.sizes.erase size⟩

/-- A request that is let in fits into the quota beside what is open already. -/
def Fits (state : Admissions) : OrchestratorCall T → Prop
  | .initiateMigration request _ => Admits state.orchestrator request →
      state.allocated + (evaluateMigration request).kvCacheSizeBytes.toNat ≤
        state.orchestrator.policy.maxMemoryQuotaBytes.toNat
  | .recordSuccess => True
  | .recordFailure => True

/-- A step lets a request in, changes nothing, or closes one open migration. -/
theorem Step.cases {state state' : Admissions} {call : OrchestratorCall T}
    (h : Step state call state') :
    (∃ request now, call = .initiateMigration request now ∧ Admits state.orchestrator request ∧
      state' = ⟨{ state.orchestrator with
          activeMigrations := state.orchestrator.activeMigrations + 1 },
        (evaluateMigration request).kvCacheSizeBytes :: state.sizes⟩) ∨
    state' = state ∨
    ∃ size ∈ state.sizes, state'.sizes = state.sizes.erase size ∧
      state'.orchestrator.policy = state.orchestrator.policy ∧
      state'.orchestrator.activeMigrations.toNat = state.orchestrator.activeMigrations.toNat - 1 := by
  cases h with
  | @initiate request now machine decision orchestrator hrun =>
    left
    rcases initiateMigration_cases state.orchestrator request now with ⟨hadmits, he⟩ | ⟨_, _, he⟩
    · rw [he] at hrun
      cases hrun
      exact ⟨request, now, rfl, hadmits, rfl⟩
    · rw [he] at hrun
      cases hrun
  | @refuse request now fault orchestrator hrun =>
    right
    left
    rcases initiateMigration_cases state.orchestrator request now with ⟨_, he⟩ | ⟨_, _, he⟩
    · rw [he] at hrun
      cases hrun
    · rw [he] at hrun
      cases hrun
      rfl
  | @success size hsize =>
    exact Or.inr (Or.inr ⟨size, hsize, rfl, rfl, recordSuccess_active _⟩)
  | @failure size hsize =>
    exact Or.inr (Or.inr ⟨size, hsize, rfl, rfl, recordFailure_active _⟩)

/-- What every run maintains: the active count is the number of open migrations, each of which was
let in under an even size within the quota and an open breaker. -/
structure Counted (policy : ResourcePolicy) (state : Admissions) : Prop where
  policy_eq : state.orchestrator.policy = policy
  active : state.orchestrator.activeMigrations.toNat = state.sizes.length
  limit : state.sizes.length ≤ policy.maxConcurrentMigrations.toNat
  sizes : ∀ size ∈ state.sizes, size ≤ policy.maxMemoryQuotaBytes ∧ size.toNat % 2 = 0 ∧
    0 < policy.circuitBreakerThreshold

theorem kvCacheSizeBytes_even (request : MigrationRequest) :
    (evaluateMigration request).kvCacheSizeBytes.toNat % 2 = 0 := by
  have htwo : 2 ∣ trueCacheSize request := by
    unfold trueCacheSize
    exact Dvd.dvd.mul_right (Dvd.dvd.mul_right (Dvd.dvd.mul_right (Dvd.dvd.mul_right
      (Nat.dvd_mul_left 2 _) _) _) _) _
  rw [kvCacheSizeBytes_toNat]
  omega

theorem Step.counted {policy : ResourcePolicy} {state state' : Admissions}
    {call : OrchestratorCall T} (h : Step state call state') (hc : Counted policy state) :
    Counted policy state' := by
  obtain ⟨hpolicy, hactive, hlimit, hsizes⟩ := hc
  rcases h.cases with ⟨request, now, rfl, hadmits, rfl⟩ | rfl | ⟨size, hsize, hs, hp, ha⟩
  · have hnext := addOne_toNat hadmits.concurrency
    have hlt := UInt64.lt_iff_toNat_lt.mp hadmits.concurrency
    rw [hpolicy] at hlt
    refine ⟨hpolicy, ?_, ?_, ?_⟩
    · show (state.orchestrator.activeMigrations + 1).toNat = _
      rw [hnext, hactive, List.length_cons]
    · rw [List.length_cons]
      omega
    · intro size hsize
      rcases List.mem_cons.mp hsize with rfl | hsize
      · have hbreaker := hadmits.breaker
        have hmemory := hadmits.memory
        rw [hpolicy] at hbreaker hmemory
        refine ⟨hmemory, kvCacheSizeBytes_even request, ?_⟩
        exact UInt32.lt_of_le_of_lt (UInt32.zero_le) hbreaker
      · exact hsizes size hsize
  · exact ⟨hpolicy, hactive, hlimit, hsizes⟩
  · have hlength := List.length_erase_of_mem hsize
    refine ⟨hp.trans hpolicy, ?_, ?_, ?_⟩
    · rw [hs, ha, hlength, hactive]
    · rw [hs, hlength]
      omega
    · intro other hother
      rw [hs] at hother
      exact hsizes other (List.mem_of_mem_erase hother)

/-- A run, and a run of calls that satisfy a condition where they are made. -/
def Reaches (cond : Admissions → OrchestratorCall T → Prop) : Admissions → Admissions → Prop :=
  Relation.ReflTransGen fun state state' => ∃ call, Step state call state' ∧ cond state call

theorem counted_start (policy : ResourcePolicy) : Counted policy (start policy) :=
  ⟨rfl, rfl, Nat.zero_le _, by simp [start]⟩

theorem Reaches.counted {policy : ResourcePolicy} {cond : Admissions → OrchestratorCall T → Prop}
    {state : Admissions} (h : Reaches cond (start policy) state) : Counted policy state := by
  induction h with
  | refl => exact counted_start policy
  | tail _ hstep ih =>
    obtain ⟨call, hstep, _⟩ := hstep
    exact hstep.counted ih

/-- A request that fits keeps the sum within the quota, and closing a migration lowers the sum. -/
theorem Step.allocated_le {policy : ResourcePolicy} {state state' : Admissions}
    {call : OrchestratorCall T} (h : Step state call state') (hfits : state.Fits call)
    (hc : Counted policy state) (hq : state.allocated ≤ policy.maxMemoryQuotaBytes.toNat) :
    state'.allocated ≤ policy.maxMemoryQuotaBytes.toNat := by
  rcases h.cases with ⟨request, now, rfl, hadmits, rfl⟩ | rfl | ⟨size, hsize, hs, _, _⟩
  · have hfit := hfits hadmits
    rw [hc.policy_eq] at hfit
    simp only [allocated, List.map_cons, List.sum_cons] at hfit ⊢
    omega
  · exact hq
  · have hsum := List.sum_map_erase UInt64.toNat hsize
    simp only [allocated, hs] at hq ⊢
    omega

theorem Reaches.allocated_le {policy : ResourcePolicy} {state : Admissions}
    (h : Reaches (Fits (T := T)) (start policy) state) :
    state.allocated ≤ policy.maxMemoryQuotaBytes.toNat := by
  induction h with
  | refl => exact Nat.zero_le _
  | tail hreach hstep ih =>
    obtain ⟨call, hstep, hfits⟩ := hstep
    exact hstep.allocated_le hfits (Reaches.counted hreach) ih

/-- Policies under which no run can have two open migrations of more than zero bytes. -/
theorem Counted.allocated_le {policy : ResourcePolicy} {state : Admissions}
    (hc : Counted policy state)
    (h : policy.maxConcurrentMigrations ≤ 1 ∨ policy.maxMemoryQuotaBytes < 2 ∨
      policy.circuitBreakerThreshold = 0) :
    state.allocated ≤ policy.maxMemoryQuotaBytes.toNat := by
  obtain ⟨_, _, hlimit, hsizes⟩ := hc
  unfold allocated
  rcases h with h | h | h
  · have hone := UInt64.le_iff_toNat_le.mp h
    have hlength : state.sizes.length ≤ 1 := hlimit.trans hone
    match hs : state.sizes, hlength with
    | [], _ => simp
    | [size], _ =>
      have hsize := (hsizes size (by simp [hs])).1
      simpa using UInt64.le_iff_toNat_le.mp hsize
  · have htwo := UInt64.lt_iff_toNat_lt.mp h
    have hzero : ∀ n ∈ state.sizes.map UInt64.toNat, n = 0 := by
      intro n hn
      obtain ⟨size, hsize, rfl⟩ := List.mem_map.mp hn
      obtain ⟨hle, heven, _⟩ := hsizes size hsize
      have hle := UInt64.le_iff_toNat_le.mp hle
      have h2 : (2 : UInt64).toNat = 2 := rfl
      omega
    rw [List.sum_eq_zero hzero]
    exact Nat.zero_le _
  · have hnil : state.sizes = [] := by
      apply List.eq_nil_iff_forall_not_mem.mpr
      intro size hsize
      have hpos := (hsizes size hsize).2.2
      rw [h] at hpos
      exact absurd hpos (by decide)
    rw [hnil]
    exact Nat.zero_le _

/-- A cache of the largest even size within the quota. -/
def largestRequest (policy : ResourcePolicy) : MigrationRequest :=
  { oneTokenRequest with nLayers := policy.maxMemoryQuotaBytes / 2 }

theorem largestRequest_size (policy : ResourcePolicy) :
    (evaluateMigration (largestRequest policy)).kvCacheSizeBytes.toNat =
      policy.maxMemoryQuotaBytes.toNat / 2 * 2 := by
  have hquota := policy.maxMemoryQuotaBytes.toNat_lt
  have hsize : trueCacheSize (largestRequest policy) = policy.maxMemoryQuotaBytes.toNat / 2 * 2 := by
    have hhalf : (policy.maxMemoryQuotaBytes / 2).toNat = policy.maxMemoryQuotaBytes.toNat / 2 := by
      rw [UInt64.toNat_div]
      rfl
    have hone : (1 : UInt64).toNat = 1 := rfl
    simp only [trueCacheSize, largestRequest, oneTokenRequest, bytesPerElement, hhalf, hone,
      Nat.mul_one]
  rw [kvCacheSizeBytes_toNat, hsize, Nat.mod_eq_of_lt (by omega)]

theorem reaches_two_largest (policy : ResourcePolicy) (now : T)
    (hconcurrent : 1 < policy.maxConcurrentMigrations)
    (hthreshold : 0 < policy.circuitBreakerThreshold) :
    ∃ state, Reaches (T := T) (fun _ _ => True) (start policy) state ∧
      state.allocated = 2 * (policy.maxMemoryQuotaBytes.toNat / 2 * 2) := by
  have hmemory : (evaluateMigration (largestRequest policy)).kvCacheSizeBytes ≤
      policy.maxMemoryQuotaBytes := by
    rw [UInt64.le_iff_toNat_le, largestRequest_size]
    omega
  have hadmit : ∀ active < policy.maxConcurrentMigrations, ∀ sizes,
      Step ⟨⟨policy, active, 0⟩, sizes⟩ (.initiateMigration (largestRequest policy) now)
        ⟨⟨policy, active + 1, 0⟩,
          (evaluateMigration (largestRequest policy)).kvCacheSizeBytes :: sizes⟩ := by
    intro active hactive sizes
    apply Step.initiate
    rcases initiateMigration_cases ⟨policy, active, 0⟩ (largestRequest policy) now with
      ⟨_, hrun⟩ | ⟨hn, _⟩
    · exact hrun
    · exact absurd ⟨hthreshold, hactive, hmemory⟩ hn
  have hfirst := hadmit 0 (UInt64.lt_trans (by decide) hconcurrent) []
  have hsecond := hadmit (0 + 1) hconcurrent
    [(evaluateMigration (largestRequest policy)).kvCacheSizeBytes]
  refine ⟨_, .tail (.single ⟨_, hfirst, trivial⟩) ⟨_, hsecond, trivial⟩, ?_⟩
  simp only [allocated, List.map_cons, List.map_nil, List.sum_cons, List.sum_nil,
    largestRequest_size]
  omega

/-- All runs under a policy keep within its quota exactly where it allows one migration at a time, or
no migration of more than zero bytes; and a run under any policy does where each request that is let
in fits beside what is open. -/
theorem allocated_le_quota_iff [Inhabited T] (policy : ResourcePolicy) :
    ((∀ state, Reaches (T := T) (fun _ _ => True) (start policy) state →
        state.allocated ≤ policy.maxMemoryQuotaBytes.toNat) ↔
      policy.maxConcurrentMigrations ≤ 1 ∨ policy.maxMemoryQuotaBytes < 2 ∨
        policy.circuitBreakerThreshold = 0) ∧
    ∀ state, Reaches (T := T) Fits (start policy) state →
      state.allocated ≤ policy.maxMemoryQuotaBytes.toNat := by
  refine ⟨⟨?_, ?_⟩, fun _ => Reaches.allocated_le⟩
  · intro h
    by_contra hn
    obtain ⟨hconcurrent, hn⟩ := not_or.mp hn
    obtain ⟨hquota, hthreshold⟩ := not_or.mp hn
    have hthreshold : 0 < policy.circuitBreakerThreshold := UInt32.pos_iff_ne_zero.mpr hthreshold
    obtain ⟨state, hreach, hsum⟩ :=
      reaches_two_largest policy (default : T) (UInt64.not_le.mp hconcurrent) hthreshold
    have hle := h state hreach
    have htwo := UInt64.le_iff_toNat_le.mp (UInt64.not_lt.mp hquota)
    have h2 : (2 : UInt64).toNat = 2 := rfl
    omega
  · intro h state hreach
    exact (Reaches.counted hreach).allocated_le h

theorem default_exceeds_quota :
    ∃ state, Reaches (T := Unit) (fun _ _ => True) (start .default) state ∧
      state.allocated = 2 * ResourcePolicy.default.maxMemoryQuotaBytes.toNat ∧
      ResourcePolicy.default.maxMemoryQuotaBytes.toNat < state.allocated := by
  obtain ⟨state, hreach, hsum⟩ := reaches_two_largest .default () (by decide) (by decide)
  have hquota : ResourcePolicy.default.maxMemoryQuotaBytes.toNat = 34359738368 := rfl
  refine ⟨state, hreach, ?_, ?_⟩
  · omega
  · omega

end Admissions

end PermeantOS
