import SimpleNetworkMonitor.Common.Log
import SimpleNetworkMonitor.Common.Transaction
import SimpleNetworkMonitor.Domain.Filters
import SimpleNetworkMonitor.History.Model.Ingest
import SimpleNetworkMonitor.History.Model.Rollup
/-!
# The database

The tables of the schema. A row holds what its columns are parsed to: a
timestamp is an instant (the texts of two instants compare as the instants
do, within the years 0 to 9999), a latency an exact duration, and a TCP
snapshot the value its JSON stands for.
-/

namespace SimpleNetworkMonitor.Storage

/-! ## Rows -/

/-- A row of `usage_history` or `usage_samples`. -/
structure UsageRow where
  hostId : String
  snapshot : UsageSnapshot
  deriving DecidableEq

/-- Since when a host has been observed without a gap, and when last. -/
structure Coverage where
  startedAt : ℤ
  observedAt : ℤ
  deriving DecidableEq

/-- What a host ID stood for when the inventory was last published. -/
structure Identity where
  address : String
  usageEnabled : Bool
  deriving DecidableEq

/-- The last attempt on a check, and the target it was on. -/
structure LatestTcp where
  address : String
  port : ℕ
  snapshot : TcpSnapshot
  deriving DecidableEq

inductive JobStatus where
  | pending
  | running
  | ok
  | error
  | interrupted
  deriving DecidableEq

structure JobRow where
  status : JobStatus
  lastStartedMs : Option ℤ := none
  lastSuccessMs : Option ℤ := none
  nextRunMs : ℤ
  durationMs : Option ℤ := none
  workDone : ℕ := 0
  failures : ℕ := 0
  message : Option String := none
  deriving DecidableEq

/-- **The database**, with the temporary tables of the writer's
connection. -/
structure Database where
  latestStatus : Table String HostRuntimeState := ∅
  transitions : Log IcmpTransition := ∅
  latestUsage : Table String UsageSnapshot := ∅
  usageSamples : Log UsageRow := ∅
  usageHistory : Log UsageRow := ∅
  usageCoverage : Table String Coverage := ∅
  hostIdentity : Table String Identity := ∅
  retentionFloor : Option ℤ := none
  latestTcp : Table (String × String) LatestTcp := ∅
  history : History.HistoryDb := {}
  maintenanceJobs : Table String JobRow := ∅
  incomingHosts : Table String Unit := ∅
  incomingTcp : Table (String × String) (String × ℕ) := ∅
  deriving DecidableEq

/-- A program of statements over the database. -/
abbrev Sql := Txn Database StorageError

/-- `?` on a computation whose error is a message. -/
def orInvalidData {α : Type} (x : Except String α) : Except StorageError α :=
  x.mapError .invalidData

end SimpleNetworkMonitor.Storage
