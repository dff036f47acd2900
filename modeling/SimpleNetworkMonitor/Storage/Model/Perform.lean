import SimpleNetworkMonitor.Storage.Model.Jobs
/-!
# What a job does

Between its claim and its completion a job does its work. Rollup and
retention write the tables; the other jobs are the engine's, which answers
what is asked of it here.
-/

namespace SimpleNetworkMonitor.Storage

/-- **What SQLite answers** about its pages, and about the runs of jobs. -/
structure Engine where
  autoVacuum : Except StorageError ℕ
  freelistCount : Except StorageError ℤ
  pageCount : Except StorageError ℤ
  pageSize : Except StorageError ℤ
  /-- `PRAGMA incremental_vacuum` over so many pages, and the free pages after it. -/
  incrementalVacuum : ℕ → Except StorageError ℤ
  optimize : Except StorageError Unit
  /-- `PRAGMA wal_checkpoint(PASSIVE)`: the pages of the log, and those checkpointed. -/
  walCheckpoint : Except StorageError (ℤ × ℤ)
  /-- Delete runs that finished before an instant, up to a number, and say how many. -/
  deleteRuns : ℤ → ℕ → Except StorageError ℕ

/-- `as u64` -/
def asU64 (n : ℤ) : ℕ := (n % 2 ^ 64).toNat

def reclaim (engine : Engine) (config : MaintenanceConfig) :
    Except StorageError (ℕ × Bool × Option String) := do
  let mode ← engine.autoVacuum
  if mode ≠ 2 then
    return (0, false, some
      "Run --compact-database with the service stopped to enable incremental reclamation")
  let free ← engine.freelistCount
  let pages ← engine.pageCount
  let size ← engine.pageSize
  if free * size < config.reclaimMinBytes ∨ free * 100 < pages * config.reclaimFreePercent then
    return (0, false, some "Reusable space below reclamation thresholds")
  let after ← engine.incrementalVacuum config.reclaimPages
  return (asU64 (free - after), false, none)

def checkpoint (engine : Engine) : Except StorageError (ℕ × Bool × Option String) := do
  let (pages, done) ← engine.walCheckpoint
  return (done.toNat, false, some
    s!"{done} of {pages} WAL pages checkpointed; automatic checkpoints remain enabled")

def cleanJobHistory (engine : Engine) (config : MaintenanceConfig) (nowMs : ℤ) :
    Except StorageError (ℕ × Bool × Option String) := do
  let work ← engine.deleteRuns (nowMs - 30 * 86400000) config.batchSize
  return (work, work = config.batchSize, none)

/-- **Do a job**: what work was done, and whether there is more. Each of the
two calls of retention reads the clock. -/
def performJob (engine : Engine) (scan scan' : Table.LimitScan) (faults faults' : Faults)
    (now now' : ℤ) (kind : JobKind) : Call (ℕ × Bool × Option String) := do
  -- The legacy event/usage tables retain their existing cutoff-anchor semantics.
  if kind = .retention then
    let _ ← pruneHistory scan faults now
    pure ()
  match kind with
  | .rollup => do
    let (work, more) ← rollup faults' now'
    return (work, more, none)
  | .retention => do
    let (work, more) ← prune scan' faults' now'
    return (work, more, none)
  | .reclaim => withInner none faults' fun inner => (reclaim engine inner.maintenanceConfig, inner)
  | .optimize => withInner none faults' fun inner =>
    (engine.optimize.map fun _ => (0, false, none), inner)
  | .checkpoint => withInner none faults' fun inner => (checkpoint engine, inner)
  | .jobHistory => withInner none faults' fun inner =>
    (cleanJobHistory engine inner.maintenanceConfig (timestampMillis now'), inner)

end SimpleNetworkMonitor.Storage
