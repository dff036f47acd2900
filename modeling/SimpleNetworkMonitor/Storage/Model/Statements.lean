import SimpleNetworkMonitor.Storage.Model.Database
/-!
# Statements

What the storage calls write, statement by statement. A call to the
history tables is one statement here: where a part of it fails, the
transaction rolls back the whole.
-/

namespace SimpleNetworkMonitor.Storage

/-- `duration` before `now`, where both are representable. -/
def checkedCutoff (now : ℤ) (duration : ℕ) : Except StorageError ℤ :=
  match fromStd duration with
  | none => .error (.invalidData "invalid retention duration")
  | some delta =>
    match checkedSubSigned now delta with
    | none => .error (.invalidData "duration exceeds supported date range")
    | some value => .ok value

theorem checkedCutoff_eq_ok {now cutoff : ℤ} {duration : ℕ}
    (h : checkedCutoff now duration = .ok cutoff) : cutoff = now - duration := by
  unfold checkedCutoff at h
  rcases hdelta : fromStd duration with - | delta
  · simp only [hdelta] at h
    cases h
  · simp only [hdelta] at h
    rcases hcut : checkedSubSigned now delta with - | value
    · simp only [hcut] at h
      cases h
    · simp only [hcut] at h
      obtain rfl := Except.ok.inj h
      rw [checkedSubSigned_eq_some hcut, fromStd_eq_some hdelta]

/-! ## Current observations -/

def upsertLatestState (hostId : String) (state : HostRuntimeState) : Sql Unit :=
  Txn.update fun db => { db with latestStatus := db.latestStatus.upsert hostId state }

def upsertLatestUsage (hostId : String) (snapshot : UsageSnapshot) : Sql Unit :=
  Txn.update fun db => { db with latestUsage := db.latestUsage.upsert hostId snapshot }

def upsertLatestTcp (hostId checkId address : String) (port : ℕ) (snapshot : TcpSnapshot) :
    Sql Unit :=
  Txn.update fun db =>
    { db with latestTcp := db.latestTcp.upsert (hostId, checkId) ⟨address, port, snapshot⟩ }

/-- Coverage goes on where the observation before is fresh, and starts anew
otherwise. -/
def updateCoverage (host : Host) (snapshot : UsageSnapshot) : Sql Unit := do
  let previous ← Txn.query fun db => db.usageCoverage.find? host.id
  let observed := snapshot.collectedAt
  let fresh := previous.filter fun coverage =>
    isFresh (some coverage.observedAt) host.modules.usage.interval host.modules.usage.timeout
      snapshot.collectedAt
  let started := (fresh.map (·.startedAt)).getD observed
  Txn.update fun db =>
    { db with usageCoverage := db.usageCoverage.upsert host.id ⟨started, observed⟩ }

/-! ## Logs -/

inductive UsageTable where
  | samples
  | history

def insertUsageRow (table : UsageTable) (hostId : String) (snapshot : UsageSnapshot) : Sql Unit :=
  Txn.update fun db =>
    match table with
    | .samples => { db with usageSamples := db.usageSamples.append ⟨hostId, snapshot⟩ }
    | .history => { db with usageHistory := db.usageHistory.append ⟨hostId, snapshot⟩ }

def insertUsageSample : String → UsageSnapshot → Sql Unit := insertUsageRow .samples

def insertUsageHistory : String → UsageSnapshot → Sql Unit := insertUsageRow .history

/-- The columns that tell whether a transition is already there. -/
def sameTransition (event row : IcmpTransition) : Bool :=
  row.hostId = event.hostId && row.changedAt = event.changedAt
    && row.previousStatus = event.previousStatus && row.newStatus = event.newStatus

/-- A transition is inserted once. -/
def insertTransition (event : IcmpTransition) : Sql Unit := do
  let found ← Txn.query fun db => db.transitions.values.any (sameTransition event)
  if found then return ()
  Txn.update fun db => { db with transitions := db.transitions.append event }

/-- `history::record`. -/
def recordHistory (hostId : String) (module : History.Module) (checkId : String) (at_ : ℤ)
    (observation : HistoryObservation) (now : ℤ) : Sql Unit :=
  Txn.update fun db =>
    { db with history := History.record db.history hostId module checkId at_ observation now }

/-! ## Identities -/

def clearIncomingHosts : Sql Unit := Txn.update fun db => { db with incomingHosts := ∅ }

def insertIncomingHost (hostId : String) : Sql Unit :=
  Txn.exec1 fun db =>
    if h : hostId ∈ db.incomingHosts.keys then
      .error (.sqlite "UNIQUE constraint failed: incoming_hosts.host_id")
    else .ok ((), { db with incomingHosts := db.incomingHosts.insertNew hostId () h })

def deleteLatestStatus (hostId : String) : Sql Unit :=
  Txn.update fun db => { db with latestStatus := db.latestStatus.erase hostId }

def deleteLatestUsage (hostId : String) : Sql Unit :=
  Txn.update fun db => { db with latestUsage := db.latestUsage.erase hostId }

def deleteCoverage (hostId : String) : Sql Unit :=
  Txn.update fun db => { db with usageCoverage := db.usageCoverage.erase hostId }

def upsertIdentity (host : Host) : Sql Unit :=
  Txn.update fun db =>
    { db with
      hostIdentity := db.hostIdentity.upsert host.id ⟨host.address, host.modules.usage.enabled⟩ }

/-- **One host of an inventory.** What was observed of it goes where its ID
stands for another address, its coverage where usage is or was disabled. -/
def syncIdentity (host : Host) : Sql Unit := do
  Txn.ofExcept (orInvalidData host.validate)
  insertIncomingHost host.id
  let prior ← Txn.query fun db => db.hostIdentity.find? host.id
  if prior.all (·.address ≠ host.address) then
    deleteLatestStatus host.id
    deleteLatestUsage host.id
    deleteCoverage host.id
  else if !host.modules.usage.enabled || prior.any (!·.usageEnabled) then
    deleteCoverage host.id
  upsertIdentity host

/-- `DELETE FROM table WHERE host_id NOT IN (SELECT host_id FROM incoming_hosts)`,
for each table of current observations. -/
def deleteDeparted : Sql Unit := do
  Txn.update fun db =>
    { db with latestStatus := db.latestStatus.deleteWhere fun id _ => id ∉ db.incomingHosts.keys }
  Txn.update fun db =>
    { db with latestUsage := db.latestUsage.deleteWhere fun id _ => id ∉ db.incomingHosts.keys }
  Txn.update fun db =>
    { db with usageCoverage := db.usageCoverage.deleteWhere fun id _ => id ∉ db.incomingHosts.keys }
  Txn.update fun db =>
    { db with hostIdentity := db.hostIdentity.deleteWhere fun id _ => id ∉ db.incomingHosts.keys }

def insertIncomingTcp (host : Host) (check : TcpCheckConfig) : Sql Unit :=
  Txn.exec1 fun db =>
    if h : (host.id, check.id.value) ∈ db.incomingTcp.keys then
      .error (.sqlite "UNIQUE constraint failed: incoming_tcp.host_id, incoming_tcp.check_id")
    else
      .ok ((), { db with
        incomingTcp := db.incomingTcp.insertNew (host.id, check.id.value)
          (host.address, check.port.get) h })

/-- The attempts on targets that are no longer checked go. -/
def syncChecks (hosts : List Host) : Sql Unit := do
  Txn.update fun db => { db with incomingTcp := ∅ }
  (hosts.filter (·.modules.tcp.enabled)).forM fun host =>
    host.modules.tcp.checks.forM fun check => insertIncomingTcp host check
  Txn.update fun db =>
    { db with
      latestTcp := db.latestTcp.deleteWhere fun key row =>
        db.incomingTcp.find? key ≠ some (row.address, row.port) }

/-- `history::sync_epochs`. -/
def syncEpochs (hosts : List Host) (nowMs : ℤ) : Sql Unit :=
  Txn.update fun db => { db with history := History.syncEpochs db.history hosts nowMs }

/-- **Align the database with an inventory.** -/
def syncIdentitiesInTransaction (hosts : List Host) (now : ℤ) : Sql Unit := do
  clearIncomingHosts
  hosts.forM syncIdentity
  deleteDeparted
  syncChecks hosts
  syncEpochs hosts (timestampMillis now)

/-! ## Jobs -/

/-- The row of a job that is registered: a new one is due at once, one that
is there no later than its interval from now. -/
def registeredJob (row : Option JobRow) (intervalMs : ℕ) (nowMs : ℤ) : JobRow :=
  match row with
  | none => { status := .pending, nextRunMs := nowMs }
  | some row => { row with nextRunMs := min row.nextRunMs (nowMs + intervalMs) }

def registerJob (config : MaintenanceConfig) (nowMs : ℤ) (kind : JobKind) : Sql Unit :=
  Txn.update fun db =>
    { db with
      maintenanceJobs := db.maintenanceJobs.upsert kind.id
        (registeredJob (db.maintenanceJobs.find? kind.id) (asMillis (kind.interval config)) nowMs) }

def registerJobs (config : MaintenanceConfig) (nowMs : ℤ) : Sql Unit :=
  JobKind.ALL.forM (registerJob config nowMs)

end SimpleNetworkMonitor.Storage
