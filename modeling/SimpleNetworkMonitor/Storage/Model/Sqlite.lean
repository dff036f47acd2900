import SimpleNetworkMonitor.Common.Program
import SimpleNetworkMonitor.Storage.Model.Catalog
import SimpleNetworkMonitor.Storage.Model.Statements
/-!
# The storage

What the process keeps beside the database, and the calls that write. A
call is a program over the storage that may throw half-way: what it
assigned before it threw stays assigned. A statement fails where the
schedule of faults says so, a lock where it is poisoned.
-/

namespace SimpleNetworkMonitor.Storage

structure StoragePolicies where
  history : HistoryConfig
  maintenance : MaintenanceConfig
  usageRetention : ℕ
  historyRetention : ℕ
  deriving DecidableEq

/-- What the writer mutex guards. -/
structure Inner where
  generation : ℕ := 0
  historyRetention : ℕ := fromSecs (365 * 86400)
  historyConfig : HistoryConfig := {}
  maintenanceConfig : MaintenanceConfig := {}
  usage : Table String UsageSnapshot := ∅
  conn : Database := {}
  usageSampleRetention : Option ℕ := none
  deriving DecidableEq

structure SqliteStorage where
  hosts : Catalog := ∅
  historyPolicy : HistoryConfig := {}
  inner : Inner := {}
  deriving DecidableEq

/-- A handle for a monitor generation fences its writes; any other handle
does not. -/
abbrev WriteGeneration := Option ℕ

inductive Lock where
  | hosts
  | inner
  | historyPolicy
  deriving DecidableEq

/-- **What goes wrong from outside** during a call. -/
structure Faults where
  poisoned : Lock → Bool := fun _ => false
  sql : List (Option StorageError) := []

/-- A program over the storage. -/
abbrev Call := Program SqliteStorage StorageError

def lock (faults : Faults) (lock : Lock) : Call Unit :=
  if faults.poisoned lock then throw .lockPoisoned else pure ()

/-! ## The closures of the writing calls -/

/-- A transaction on the writer's connection. -/
def Inner.transaction {α : Type} (inner : Inner) (txn : Sql α) (faults : Faults) :
    Except StorageError α × Inner :=
  let (result, conn) := txn.transact faults.sql inner.conn
  (result, { inner with conn })

/-- The history observation of an ICMP state. -/
def icmpObservation (state : HostRuntimeState) : HistoryObservation where
  state := state.status.asStr
  success := state.lastError.isNone
  latencyMs := state.latency.map durationMs
  consoleUsers := none
  remoteUsers := none
  error := state.lastError

def checkResultTransaction (hostId : String) (state : HostRuntimeState)
    (transition : Option IcmpTransition) (now : ℤ) : Sql Unit := do
  upsertLatestState hostId state
  if let some at_ := state.lastCheckedAt then
    recordHistory hostId .icmp "" (timestampMillis at_) (icmpObservation state)
      (timestampMillis now)
  if let some event := transition then insertTransition event

def usageObservation (snapshot : UsageSnapshot) : HistoryObservation where
  state := if snapshot.status = .ok then "up" else "unknown"
  success := snapshot.status = .ok
  latencyMs := none
  consoleUsers := snapshot.consoleUsers
  remoteUsers := snapshot.remoteUsers
  error := snapshot.error

/-- The samples of a host that are past their retention go. -/
def deleteOldSamples (hostId : String) (retention : ℕ) (now : ℤ) : Sql Unit := do
  let cutoff ← Txn.ofExcept (checkedCutoff now retention)
  Txn.update fun db =>
    { db with
      usageSamples := db.usageSamples.deleteWhere fun _ row =>
        row.hostId = hostId && row.snapshot.collectedAt < cutoff }

/-- The clock is read twice, for the history and for the sample cutoff. -/
def usageTransaction (host : Host) (snapshot : UsageSnapshot) (shouldInsertHistory : Bool)
    (retention : Option ℕ) (now now' : ℤ) : Sql Unit := do
  updateCoverage host snapshot
  upsertLatestUsage host.id snapshot
  insertUsageSample host.id snapshot
  recordHistory host.id .usage "" (timestampMillis snapshot.collectedAt)
    (usageObservation snapshot) (timestampMillis now)
  if shouldInsertHistory then insertUsageHistory host.id snapshot
  if let some retention := retention then deleteOldSamples host.id retention now'

/-- A usage row goes to the history where it differs from the one cached. -/
def Inner.writeUsage (inner : Inner) (host : Host) (snapshot : UsageSnapshot) (faults : Faults)
    (now now' : ℤ) : Except StorageError Bool × Inner :=
  let shouldInsertHistory := (inner.usage.find? host.id).all (snapshot.differsForHistory ·)
  let txn := usageTransaction host snapshot shouldInsertHistory inner.usageSampleRetention now now'
  match inner.transaction txn faults with
  | (.error e, inner) => (.error e, inner)
  | (.ok (), inner) =>
    (.ok shouldInsertHistory, { inner with usage := inner.usage.upsert host.id snapshot })

def tcpObservation (snapshot : TcpSnapshot) : HistoryObservation where
  state := if snapshot.success then "up" else "down"
  success := snapshot.success
  latencyMs := snapshot.duration.map durationMs
  consoleUsers := none
  remoteUsers := none
  error := snapshot.error

def tcpTransaction (host : Host) (check : TcpCheckConfig) (snapshot : TcpSnapshot) (now : ℤ) :
    Sql Unit := do
  recordHistory host.id .tcp check.id.value (timestampMillis snapshot.observedAt)
    (tcpObservation snapshot) (timestampMillis now)
  upsertLatestTcp host.id check.id.value host.address check.port.get snapshot

/-! ## Retention -/

/-- How many rows one batch deletes from a table. -/
def PRUNE_LIMIT : ℕ := 5000

/-- A bounded delete from a log, and how many rows went. -/
def pruneLog {α : Type} (scan : Table.LimitScan) (log : Log α) (doomed : ℕ → α → Bool) :
    ℕ × Log α :=
  let pruned := log.deleteLimit scan PRUNE_LIMIT doomed
  (log.rows.length - pruned.rows.length, pruned)

/-- The row a host's inactivity history needs at a cutoff: the last one
before it. -/
def anchor (db : Database) (hostId : String) (cutoff : ℤ) : Option ℕ :=
  (db.usageHistory.latest? (·.snapshot.collectedAt) fun row =>
    row.hostId = hostId && row.snapshot.collectedAt < cutoff).map Prod.fst

/-- A history row that may go: too old, and not the anchor of a host that
is still observed. -/
def isOutdated (db : Database) (cutoff : ℤ) (id : ℕ) (row : UsageRow) : Bool :=
  row.snapshot.collectedAt < cutoff
    && (row.hostId ∉ db.latestUsage.keys || anchor db row.hostId cutoff ≠ some id)

def pruneHistoryTransaction (scan : Table.LimitScan) (now : ℤ) (sampleRetention : Option ℕ)
    (cutoff : ℤ) : Sql ℕ := do
  let mut removed := 0
  if let some retention := sampleRetention then
    let cutoff ← Txn.ofExcept (checkedCutoff now retention)
    removed ← Txn.exec1 fun db =>
      let (n, usageSamples) := pruneLog scan db.usageSamples fun _ row =>
        row.snapshot.collectedAt < cutoff
      .ok (n, { db with usageSamples })
  let transitions ← Txn.exec1 fun db =>
    let (n, transitions) := pruneLog scan db.transitions fun _ row => row.changedAt < cutoff
    .ok (n, { db with transitions })
  -- Keep one cutoff anchor for a still-configured host's inactivity history.
  let usageHistory ← Txn.exec1 fun db =>
    let (n, usageHistory) := pruneLog scan db.usageHistory (isOutdated db cutoff)
    .ok (n, { db with usageHistory })
  Txn.update fun db =>
    { db with retentionFloor := some (db.retentionFloor.elim cutoff (max · cutoff)) }
  return removed + transitions + usageHistory

/-- A bounded maintenance batch over the tables that grow. -/
def Inner.pruneHistory (inner : Inner) (scan : Table.LimitScan) (faults : Faults) (now : ℤ) :
    Except StorageError ℕ × Inner :=
  match checkedCutoff now inner.historyRetention with
  | .error e => (.error e, inner)
  | .ok cutoff =>
    inner.transaction (pruneHistoryTransaction scan now inner.usageSampleRetention cutoff) faults

/-- The rollup job's batch. -/
def Inner.rollup (inner : Inner) (faults : Faults) (now : ℤ) :
    Except StorageError (ℕ × Bool) × Inner :=
  inner.transaction
    (Txn.exec1 fun db =>
      let (history, done) := History.rollup inner.historyConfig (timestampMillis now) db.history
        inner.maintenanceConfig.batchSize
      .ok (done, { db with history }))
    faults

/-- The retention job's batch over the history tables. -/
def Inner.prune (inner : Inner) (scan : Table.LimitScan) (faults : Faults) (now : ℤ) :
    Except StorageError (ℕ × Bool) × Inner :=
  inner.transaction
    (Txn.exec1 fun db =>
      let (history, done) := History.prune scan inner.maintenanceConfig.batchSize db.history
        (timestampMillis now) inner.historyConfig
        (inner.usageSampleRetention.getD (fromSecs (30 * 86400)))
      .ok (done, { db with history }))
    faults

/-! ## The writing calls -/

/-- **Every write goes through here**: under the writer mutex, and through a
monitor's handle only in the monitor's generation. -/
def withInner {α : Type} (handle : WriteGeneration) (faults : Faults)
    (f : Inner → Except StorageError α × Inner) : Call α := do
  lock faults .inner
  let storage ← get
  if handle.any (· ≠ storage.inner.generation) then throw .staleGeneration
  let (result, inner) := f storage.inner
  set { storage with inner }
  ExceptT.mk (pure result)

/-- The generation a new handle is for. -/
def monitorGeneration (faults : Faults) : Call ℕ := do
  lock faults .inner
  return (← get).inner.generation

/-- Check the catalog under its read lock. -/
def ensureHostExists (faults : Faults) (hostId : String) : Call Unit := do
  lock faults .hosts
  if !(← get).hosts.containsKey hostId then throw (.notFound hostId)

/-- The host of an ID in the catalog. -/
def lookupHost (faults : Faults) (hostId : String) : Call Host := do
  lock faults .hosts
  let some host := (← get).hosts.get hostId | throw (.notFound hostId)
  return host

def updateCheckResult (handle : WriteGeneration) (faults : Faults) (now : ℤ) (hostId : String)
    (state : HostRuntimeState) (transition : Option IcmpTransition) : Call Unit := do
  ensureHostExists faults hostId
  withInner handle faults fun inner =>
    inner.transaction (checkResultTransaction hostId state transition now) faults

def updateUsage (handle : WriteGeneration) (faults : Faults) (now now' : ℤ) (hostId : String)
    (snapshot : UsageSnapshot) : Call Bool := do
  ensureHostExists faults hostId
  ExceptT.mk (pure (orInvalidData snapshot.validate))
  let host ← lookupHost faults hostId
  withInner handle faults fun inner => inner.writeUsage host snapshot faults now now'

/-- The check of a host that an attempt is on. -/
def findCheck (host : Host) (checkId : CheckId) : Except StorageError TcpCheckConfig :=
  match host.modules.tcp.checks.find? fun check =>
    check.id = checkId && host.modules.tcp.enabled with
  | some check => .ok check
  | none => .error (.invalidData "TCP check is absent or disabled")

def updateTcp (handle : WriteGeneration) (faults : Faults) (now : ℤ) (hostId : String)
    (checkId : CheckId) (snapshot : TcpSnapshot) : Call Unit := do
  let host ← lookupHost faults hostId
  let check ← ExceptT.mk (pure (findCheck host checkId))
  withInner handle faults fun inner =>
    inner.transaction (tcpTransaction host check snapshot now) faults

def pruneHistory (scan : Table.LimitScan) (faults : Faults) (now : ℤ) : Call ℕ :=
  withInner none faults fun inner => inner.pruneHistory scan faults now

def rollup (faults : Faults) (now : ℤ) : Call (ℕ × Bool) :=
  withInner none faults fun inner => inner.rollup faults now

def prune (scan : Table.LimitScan) (faults : Faults) (now : ℤ) : Call (ℕ × Bool) :=
  withInner none faults fun inner => inner.prune scan faults now

end SimpleNetworkMonitor.Storage
