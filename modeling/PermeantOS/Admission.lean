import PermeantOS.StateMachine

namespace PermeantOS

structure MigrationDecision where
  shouldMigrate : Bool
  estimatedTransferTimeSecs : Float
  estimatedPrefillTimeSecs : Float
  kvCacheSizeBytes : UInt64
  deriving Repr

/-- The arguments of an `initiate_migration` call; `transferQuant` is the quantization scheme. -/
structure MigrationRequest where
  seqLen : Usize
  nLayers : Usize
  nKvHeads : Usize
  headDim : Usize
  transferQuant : Option String
  networkBandwidthBps : Float
  deriving Repr

def bytesPerElement (transferQuant : Option String) : Usize :=
  match transferQuant with
  | some "fp8" => 1
  | some "int8" => 1
  | _ => 2

/-- Products wrap as the release build computes them. -/
def evaluateMigration (request : MigrationRequest) : MigrationDecision :=
  let kvCacheSizeBytes := request.nLayers * 2 * request.nKvHeads * request.headDim * request.seqLen *
    bytesPerElement request.transferQuant
  let transferBits := (kvCacheSizeBytes * 8).toFloat
  let baseTransferTime := transferBits / request.networkBandwidthBps
  let protocolOverheadSecs : Float := 0.15
  let estimatedTransferTimeSecs := baseTransferTime + protocolOverheadSecs
  let seqLenF := request.seqLen.toFloat
  let linearCost := seqLenF * 1e-5
  let quadraticCost := seqLenF * seqLenF * 6e-10
  let estimatedPrefillTimeSecs := linearCost + quadraticCost
  let shouldMigrate := decide (estimatedTransferTimeSecs ≤ estimatedPrefillTimeSecs * 0.7)
  ⟨shouldMigrate, estimatedTransferTimeSecs, estimatedPrefillTimeSecs, kvCacheSizeBytes⟩

namespace ResourcePolicy

def checkConcurrency (policy : ResourcePolicy) (activeCount : Usize) : Fallible Unit :=
  bailIf (policy.maxConcurrentMigrations ≤ activeCount)
    s!"Resource quota exceeded: Max concurrent migrations is {policy.maxConcurrentMigrations}, currently running {activeCount}"

def checkMemoryAllocation (policy : ResourcePolicy) (requestedBytes currentAllocated : UInt64) :
    Fallible Unit :=
  bailIf (policy.maxMemoryQuotaBytes < currentAllocated + requestedBytes)
    s!"Resource quota exceeded: Requested {requestedBytes} bytes, which exceeds remaining memory quota (max {policy.maxMemoryQuotaBytes}, currently allocated {currentAllocated})"

def checkCircuitBreaker (policy : ResourcePolicy) (consecutiveFailures : UInt32) : Fallible Unit :=
  bailIf (policy.circuitBreakerThreshold ≤ consecutiveFailures)
    s!"Circuit breaker active: Migration service disabled due to {consecutiveFailures} consecutive failures (threshold {policy.circuitBreakerThreshold})"

end ResourcePolicy

variable {T : Type}

def initiateMigration (request : MigrationRequest) (now : T) :
    EStateM Fault MigrationOrchestrator (MigrationStateMachine T × MigrationDecision) := do
  let orchestrator ← get
  liftExcept (orchestrator.policy.checkCircuitBreaker orchestrator.consecutiveFailures)
  liftExcept (orchestrator.policy.checkConcurrency orchestrator.activeMigrations)
  let decision := evaluateMigration request
  -- nothing is counted as allocated already, whatever is still active
  liftExcept (orchestrator.policy.checkMemoryAllocation decision.kvCacheSizeBytes 0)
  set { orchestrator with activeMigrations := orchestrator.activeMigrations + 1 }
  pure (.new now, decision)

structure Admits (orchestrator : MigrationOrchestrator) (request : MigrationRequest) : Prop where
  breaker : orchestrator.consecutiveFailures < orchestrator.policy.circuitBreakerThreshold
  concurrency : orchestrator.activeMigrations < orchestrator.policy.maxConcurrentMigrations
  memory : (evaluateMigration request).kvCacheSizeBytes ≤ orchestrator.policy.maxMemoryQuotaBytes

theorem checkMemoryAllocation_ok_iff {policy : ResourcePolicy} {requested current : UInt64} :
    policy.checkMemoryAllocation requested current = .ok () ↔
      current + requested ≤ policy.maxMemoryQuotaBytes := by
  unfold ResourcePolicy.checkMemoryAllocation
  rw [bailIf_ok_iff, UInt64.not_lt]

theorem admits_iff {orchestrator : MigrationOrchestrator} {request : MigrationRequest} :
    Admits orchestrator request ↔
      orchestrator.policy.checkCircuitBreaker orchestrator.consecutiveFailures = .ok () ∧
      orchestrator.policy.checkConcurrency orchestrator.activeMigrations = .ok () ∧
      orchestrator.policy.checkMemoryAllocation (evaluateMigration request).kvCacheSizeBytes 0 =
        .ok () := by
  have hzero : (0 : UInt64) + (evaluateMigration request).kvCacheSizeBytes =
      (evaluateMigration request).kvCacheSizeBytes := UInt64.zero_add _
  rw [checkMemoryAllocation_ok_iff, hzero, ResourcePolicy.checkCircuitBreaker,
    ResourcePolicy.checkConcurrency, bailIf_ok_iff, bailIf_ok_iff, UInt32.not_le, UInt64.not_le]
  constructor
  · intro h
    exact ⟨h.breaker, h.concurrency, h.memory⟩
  · intro h
    exact ⟨h.1, h.2.1, h.2.2⟩

/-- A request is let in and counted, or refused with the orchestrator as it was. -/
theorem initiateMigration_cases (orchestrator : MigrationOrchestrator) (request : MigrationRequest)
    (now : T) :
    (Admits orchestrator request ∧ (initiateMigration request now).run orchestrator =
      .ok (.new now, evaluateMigration request)
        { orchestrator with activeMigrations := orchestrator.activeMigrations + 1 }) ∨
    (¬Admits orchestrator request ∧ ∃ fault,
      (initiateMigration request now).run orchestrator = .error fault orchestrator) := by
  rw [initiateMigration, run_get_bind, admits_iff]
  dsimp only
  cases hb : orchestrator.policy.checkCircuitBreaker orchestrator.consecutiveFailures with
  | error fault =>
    right
    refine ⟨?_, fault, rfl⟩
    intro h
    cases h.1
  | ok =>
    cases hc : orchestrator.policy.checkConcurrency orchestrator.activeMigrations with
    | error fault =>
      right
      refine ⟨?_, fault, rfl⟩
      intro h
      cases h.2.1
    | ok =>
      cases hm : orchestrator.policy.checkMemoryAllocation
          (evaluateMigration request).kvCacheSizeBytes 0 with
      | error fault =>
        right
        refine ⟨?_, fault, rfl⟩
        intro h
        cases h.2.2
      | ok => exact Or.inl ⟨⟨rfl, rfl, rfl⟩, rfl⟩

theorem initiateMigration_ok_iff {orchestrator : MigrationOrchestrator} {request : MigrationRequest}
    {now : T} :
    (∃ result orchestrator',
      (initiateMigration request now).run orchestrator = .ok result orchestrator') ↔
      Admits orchestrator request := by
  rcases initiateMigration_cases orchestrator request now with ⟨hadmits, hrun⟩ | ⟨hn, fault, hrun⟩
  · exact ⟨fun _ => hadmits, fun _ => ⟨_, _, hrun⟩⟩
  · rw [hrun]
    simp [hn]

/-- The size of the cache in bytes, without a machine word to hold it. -/
def trueCacheSize (request : MigrationRequest) : Nat :=
  request.nLayers.toNat * 2 * request.nKvHeads.toNat * request.headDim.toNat * request.seqLen.toNat *
    (bytesPerElement request.transferQuant).toNat

theorem kvCacheSizeBytes_toNat (request : MigrationRequest) :
    (evaluateMigration request).kvCacheSizeBytes.toNat = trueCacheSize request % 2 ^ 64 := by
  have htwo : (2 : UInt64).toNat = 2 := rfl
  simp only [evaluateMigration, trueCacheSize, UInt64.toNat_mul, htwo, Nat.mod_mul_mod]

theorem kvCacheSizeBytes_eq_iff (request : MigrationRequest) :
    (evaluateMigration request).kvCacheSizeBytes.toNat = trueCacheSize request ↔
      trueCacheSize request < 2 ^ 64 := by
  rw [kvCacheSizeBytes_toNat]
  constructor
  · intro h
    rw [← h]
    exact Nat.mod_lt _ (by decide)
  · exact Nat.mod_eq_of_lt

theorem not_admits_iff {orchestrator : MigrationOrchestrator} {request : MigrationRequest} :
    ¬Admits orchestrator request ↔
      orchestrator.policy.circuitBreakerThreshold ≤ orchestrator.consecutiveFailures ∨
      orchestrator.policy.maxConcurrentMigrations ≤ orchestrator.activeMigrations ∨
      orchestrator.policy.maxMemoryQuotaBytes.toNat < trueCacheSize request % 2 ^ 64 := by
  rw [← kvCacheSizeBytes_toNat, ← UInt64.lt_iff_toNat_lt]
  constructor
  · intro h
    by_contra hn
    obtain ⟨hbreaker, hn⟩ := not_or.mp hn
    obtain ⟨hconcurrency, hmemory⟩ := not_or.mp hn
    exact h ⟨UInt32.not_le.mp hbreaker, UInt64.not_le.mp hconcurrency, UInt64.not_lt.mp hmemory⟩
  · intro h hadmits
    rcases h with h | h | h
    · exact UInt32.not_lt.mpr h hadmits.breaker
    · exact UInt64.not_lt.mpr h hadmits.concurrency
    · exact UInt64.not_le.mpr h hadmits.memory

/-- The two checks that admission rests on go by true sizes exactly where no product and no sum
leaves 64 bits, or where the request is refused all the same. -/
theorem initiateMigration_true_size_iff (orchestrator : MigrationOrchestrator)
    (request : MigrationRequest) (now : T) (policy : ResourcePolicy) (requested current : UInt64) :
    ((∀ machine decision orchestrator',
        (initiateMigration request now).run orchestrator = .ok (machine, decision) orchestrator' →
        decision.kvCacheSizeBytes.toNat = trueCacheSize request ∧
          trueCacheSize request ≤ orchestrator.policy.maxMemoryQuotaBytes.toNat) ↔
      trueCacheSize request < 2 ^ 64 ∨
      orchestrator.policy.circuitBreakerThreshold ≤ orchestrator.consecutiveFailures ∨
      orchestrator.policy.maxConcurrentMigrations ≤ orchestrator.activeMigrations ∨
      orchestrator.policy.maxMemoryQuotaBytes.toNat < trueCacheSize request % 2 ^ 64) ∧
    ((policy.checkMemoryAllocation requested current = .ok () →
        requested.toNat + current.toNat ≤ policy.maxMemoryQuotaBytes.toNat) ↔
      requested.toNat + current.toNat < 2 ^ 64 ∨
      policy.maxMemoryQuotaBytes.toNat < (requested.toNat + current.toNat) % 2 ^ 64) := by
  constructor
  · rw [← not_admits_iff, ← kvCacheSizeBytes_eq_iff]
    rcases initiateMigration_cases orchestrator request now with ⟨hadmits, hrun⟩ | ⟨hn, fault, hrun⟩
    · have hmemory := UInt64.le_iff_toNat_le.mp hadmits.memory
      constructor
      · intro h
        exact Or.inl (h _ _ _ hrun).1
      · intro h machine decision orchestrator' heq
        have hsize := h.resolve_right (not_not.mpr hadmits)
        rw [hrun] at heq
        cases heq
        exact ⟨hsize, hsize ▸ hmemory⟩
    · rw [hrun]
      simp [hn]
  · rw [checkMemoryAllocation_ok_iff, UInt64.le_iff_toNat_le, UInt64.toNat_add, Nat.add_comm]
    have hquota := policy.maxMemoryQuotaBytes.toNat_lt
    constructor
    · intro h
      by_cases hsum : (requested.toNat + current.toNat) % 2 ^ 64 ≤ policy.maxMemoryQuotaBytes.toNat
      · left
        have := h hsum
        omega
      · right
        omega
    · intro h hle
      rcases h with h | h
      · rwa [Nat.mod_eq_of_lt h] at hle
      · omega

/-- 2^32 tokens over 2^31 layers: the product wraps to zero bytes. -/
def wrappingRequest : MigrationRequest where
  seqLen := 0x100000000
  nLayers := 0x80000000
  nKvHeads := 1
  headDim := 1
  transferQuant := none
  networkBandwidthBps := 10000000000.0

theorem wrappingRequest_admitted :
    (initiateMigration wrappingRequest ()).run (.new .default) =
      .ok (.new (), evaluateMigration wrappingRequest) ⟨.default, 1, 0⟩ ∧
    (evaluateMigration wrappingRequest).kvCacheSizeBytes.toNat = 0 ∧
    ResourcePolicy.default.maxMemoryQuotaBytes.toNat < trueCacheSize wrappingRequest ∧
    ResourcePolicy.default.checkMemoryAllocation 0xFFFFFFFFFFFFFFFF 1 = .ok () ∧
    ResourcePolicy.default.maxMemoryQuotaBytes.toNat < 0xFFFFFFFFFFFFFFFF + 1 := by
  have hsize : (evaluateMigration wrappingRequest).kvCacheSizeBytes.toNat = 0 := by
    rw [kvCacheSizeBytes_toNat]
    decide
  have hadmits : Admits (.new .default) wrappingRequest := by
    refine ⟨by decide, by decide, ?_⟩
    rw [UInt64.le_iff_toNat_le, hsize]
    exact Nat.zero_le _
  refine ⟨?_, hsize, by decide, by decide, by decide⟩
  rcases initiateMigration_cases (.new .default) wrappingRequest () with ⟨_, hrun⟩ | ⟨hn, _⟩
  · exact hrun
  · exact absurd hadmits hn

end PermeantOS
