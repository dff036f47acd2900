import SimpleNetworkMonitor.Storage.Model.Catalog
import SimpleNetworkMonitor.Storage.Model.Statements
/-!
# Reads

A read clones the catalog and then runs on one state of the database. It
is a function of the two, which need not be of the same time.
-/

namespace SimpleNetworkMonitor.Storage

/-! ## TCP attempts -/

/-- One row of `latest_tcp` goes to the check that is still on its target. -/
def loadRow (hosts : Catalog) (result : Table String Snapshots)
    (row : (String × String) × LatestTcp) : Table String Snapshots :=
  let ((hostId, checkId), latest) := row
  match hosts.get hostId with
  | none => result
  | some host =>
    -- A read using an older catalog must not attach a changed target's result.
    if host.address ≠ latest.address || !host.modules.tcp.enabled then result
    else
      match host.modules.tcp.checks.find? fun check =>
        check.id.value = checkId && check.port.get = latest.port with
      | none => result
      | some check =>
        result.upsert hostId (((result.find? hostId).getD ∅).upsert check.id latest.snapshot)

def load (db : Database) (hosts : Catalog) (id : Option String) : Table String Snapshots :=
  (db.latestTcp.rows.filter fun row => id.all (· = row.1.1)).foldl (loadRow hosts) ∅

def loadHost (db : Database) (host : Host) : Snapshots :=
  ((load db (Catalog.ofHosts [host]) (some host.id)).find? host.id).getD ∅

def loadAll (db : Database) (hosts : Catalog) : Table String Snapshots := load db hosts none

/-! ## Filters -/

def metadataValueMatches (actual : Value) (expected : String) : Bool :=
  match actual with
  | .string value => value = expected
  | .bool value => (if value then "true" else "false") = expected
  | .number rendered => rendered = expected
  | _ => false

/-- The history of a host, as the rows of `usage_history` tell it. -/
def sqliteInactivityHistory (db : Database) (hostId : String) : InactivityHistory StorageError where
  stateAtOrBefore cutoff predicate :=
    .ok <| (db.usageHistory.latest? (·.snapshot.collectedAt) fun row =>
        row.hostId = hostId && row.snapshot.collectedAt ≤ cutoff).map fun row =>
      if row.2.snapshot.status = .ok then .ok (predicate.matchesCounts row.2.snapshot)
      else .unknown
  windowBreaksInactivity cutoff predicate :=
    .ok <| db.usageHistory.values.any fun row =>
      row.hostId = hostId && cutoff < row.snapshot.collectedAt
        && (row.snapshot.status ≠ .ok || predicate.matchesCounts row.snapshot)

def mapInactivityError : InactivityError StorageError → StorageError
  | .invalidDuration message => .invalidData ("invalid inactivity duration: " ++ message)
  | .storage error => error

/-- Whether a host has been covered since the cutoff, and nothing of it
pruned. -/
def isCovered (db : Database) (hostId : String) (cutoff : ℤ) : Bool :=
  (db.usageCoverage.find? hostId).any (·.startedAt ≤ cutoff)
    && !db.retentionFloor.any (cutoff < ·)

/-- One inactivity condition of a filter. -/
def matchesInactivity (db : Database) (host : Host) (snapshot : UsageSnapshot) (now : ℤ)
    (duration : Option ℕ) (predicate : ActivityPredicate) : Except StorageError Bool :=
  match duration with
  | none => .ok true
  | some duration =>
    (evaluateInactivity snapshot duration now predicate
      (sqliteInactivityHistory db host.id)).mapError mapInactivityError

def matchesUsageFilter (db : Database) (host : Host) (snapshot : UsageSnapshot)
    (filter : UsageFilter) : Except StorageError Bool := do
  if filter.status.any (snapshot.status ≠ ·) then return false
  if filter.inactiveConsoleFor.isSome || filter.noUsersFor.isSome then
    if !host.modules.usage.enabled || !isFresh (some snapshot.collectedAt)
        host.modules.usage.interval host.modules.usage.timeout filter.now then
      return false
    let window := max (filter.inactiveConsoleFor.getD 0) (filter.noUsersFor.getD 0)
    let cutoff ← checkedCutoff filter.now window
    if !isCovered db host.id cutoff then return false
  if !(← matchesInactivity db host snapshot filter.now filter.inactiveConsoleFor .consoleOnly) then
    return false
  if !(← matchesInactivity db host snapshot filter.now filter.noUsersFor .anyUser) then
    return false
  return true

def matchesHostFilter (db : Database) (record : HostRecord) (filter : HostFilter) :
    Except StorageError Bool := do
  if filter.icmpStatus.any (record.state.status ≠ ·) then return false
  if filter.group.any (· ∉ record.host.groups) then return false
  if !filter.metadata.all fun (key, expected) =>
      (record.host.metadata.find? (·.1 = key)).any (metadataValueMatches ·.2 expected) then
    return false
  if !filter.usage.isEmpty then
    match record.usage with
    | none => return false
    | some snapshot => return ← matchesUsageFilter db record.host snapshot filter.usage
  return true

/-! ## Records -/

def hostRecord (db : Database) (host : Host) : HostRecord :=
  let state := (db.latestStatus.find? host.id).getD {}
  let usage := db.latestUsage.find? host.id
  { state.toRecord host usage with tcp := loadHost db host }

/-- The record of a host in a read of all. -/
def bulkRecord (db : Database) (hosts : Catalog) (host : Host) : HostRecord :=
  let state := (db.latestStatus.find? host.id).getD {}
  let usage := db.latestUsage.find? host.id
  { state.toRecord host usage with tcp := ((loadAll db hosts).find? host.id).getD ∅ }

def sortedRecords (db : Database) (hosts : Catalog) (filter : HostFilter) :
    Except StorageError (List HostRecord) := do
  let records ← (hosts.hosts.map (bulkRecord db hosts)).filterM (matchesHostFilter db · filter)
  return records.mergeSort fun a b => a.host.id ≤ b.host.id

/-! ## The reading calls -/

def hostsPage (db : Database) (hosts : Catalog) (after : Option String) (limit : ℕ) :
    List HostRecord :=
  ((hosts.hosts.filter fun host => after.all (· < host.id)).take limit).map (hostRecord db)

/-- A page as the trait would read it, where a repository does not say how:
of all hosts, sorted. -/
def HostRepository.hostsPage (hosts : HostFilter → Except StorageError (List HostRecord)) (now : ℤ)
    (after : Option String) (limit : ℕ) : Except StorageError (List HostRecord) := do
  let records ← hosts { usage := { now } }
  let sorted := records.mergeSort fun a b => a.host.id ≤ b.host.id
  return (sorted.filter fun record => after.all (· < record.host.id)).take limit

def host (db : Database) (hosts : Catalog) (id : String) : Option HostRecord :=
  (hosts.get id).map (hostRecord db)

def usageSummary (snapshots : List UsageSnapshot) : UsageSummary :=
  snapshots.foldl (fun summary snapshot =>
    let summary := { summary with hostsReporting := summary.hostsReporting + 1 }
    match snapshot.status with
    | .ok =>
      { summary with
        consoleUsers := summary.consoleUsers + snapshot.consoleUsers.getD 0
        remoteUsers := summary.remoteUsers + snapshot.remoteUsers.getD 0 }
    | .failed => { summary with hostsWithErrors := summary.hostsWithErrors + 1 }) {}

/-- The usage of a host that a report lists. -/
def hostUsage (db : Database) (hosts : Catalog) (filter : UsageFilter)
    (row : String × UsageSnapshot) : Except StorageError (Option HostUsage) := do
  let some host := hosts.get row.1 | return none
  if !(← matchesUsageFilter db host row.2 filter) then return none
  return some ⟨host.id, host.address, host.name, host.groups, row.2⟩

def usageReport (db : Database) (hosts : Catalog) (filter : UsageFilter) :
    Except StorageError UsageReport := do
  let found ← db.latestUsage.rows.mapM (hostUsage db hosts filter)
  let hosts := found.reduceOption.mergeSort fun a b => a.id ≤ b.id
  return { summary := usageSummary (hosts.map (·.usage)), hosts }

/-! ## Lists of one host -/

/-- `ensure_host_exists_sync`: an ID that the inventory does not have. -/
def demandHost (hosts : Catalog) (hostId : String) : Except StorageError Unit :=
  if hosts.containsKey hostId then .ok () else .error (.notFound hostId)

/-- The transitions of a host, newest first, with their numbers. -/
def loadHistory (db : Database) (hostId : String) (limit : ℕ) : List (ℕ × IcmpTransition) :=
  (db.transitions.newestFirst (·.changedAt) fun event => event.hostId = hostId).take limit

/-- The rows of a host in a table of usage, newest first, with their
numbers. -/
def loadUsageRows (table : Log UsageRow) (hostId : String) (limit : ℕ) : List (ℕ × UsageRow) :=
  (table.newestFirst (·.snapshot.collectedAt) fun row => row.hostId = hostId).take limit

def loadUsageHistory (db : Database) : String → ℕ → List (ℕ × UsageRow) :=
  loadUsageRows db.usageHistory

def loadUsageSamples (db : Database) : String → ℕ → List (ℕ × UsageRow) :=
  loadUsageRows db.usageSamples

end SimpleNetworkMonitor.Storage
