import PermeantOS.Usxf
import Mathlib.Data.Finmap

namespace PermeantOS

inductive MigrationState
  | idle | extracting | streaming | injecting | validating | committed | rolledBack
  deriving DecidableEq, Repr

structure ResourcePolicy where
  maxConcurrentMigrations : Usize
  maxMemoryQuotaBytes : UInt64
  phaseTimeouts : Finmap (fun _ : MigrationState => UInt64)
  circuitBreakerThreshold : UInt32

def ResourcePolicy.default : ResourcePolicy where
  maxConcurrentMigrations := 4
  maxMemoryQuotaBytes := 32 * 1024 * 1024 * 1024
  phaseTimeouts := ((((Finmap.singleton .idle 30).insert .extracting 120).insert .streaming 300).insert
    .injecting 120).insert .validating 60
  circuitBreakerThreshold := 5

structure MigrationOrchestrator where
  policy : ResourcePolicy
  activeMigrations : Usize
  consecutiveFailures : UInt32

def MigrationOrchestrator.new (policy : ResourcePolicy) : MigrationOrchestrator := ⟨policy, 0, 0⟩

def MigrationOrchestrator.recordFailure (orchestrator : MigrationOrchestrator) :
    MigrationOrchestrator :=
  { orchestrator with
    consecutiveFailures := orchestrator.consecutiveFailures + 1
    activeMigrations := if 0 < orchestrator.activeMigrations then orchestrator.activeMigrations - 1
      else orchestrator.activeMigrations }

def MigrationOrchestrator.recordSuccess (orchestrator : MigrationOrchestrator) :
    MigrationOrchestrator :=
  { orchestrator with
    consecutiveFailures := 0
    activeMigrations := if 0 < orchestrator.activeMigrations then orchestrator.activeMigrations - 1
      else orchestrator.activeMigrations }

end PermeantOS
