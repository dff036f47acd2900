import SimpleNetworkMonitor.Storage.Model.Sqlite
/-!
# Publishing a configuration

Identities, check targets, epochs and maintenance schedules change in one
transaction; the policies, the generation, the usage cache and the catalog
follow it in memory, under the locks.
-/

namespace SimpleNetworkMonitor.Storage

/-- What a reload does to the database. The clock is read once for the
epochs and once for the schedules. -/
def reloadTransaction (hostMap : Catalog) (policies : Option StoragePolicies) (now now' : ℤ) :
    Sql Unit := do
  syncIdentitiesInTransaction hostMap.hosts now
  if let some config := policies then registerJobs config.maintenance (timestampMillis now')

/-- The policies a reload publishes. -/
def SqliteStorage.publishPolicies (config : StoragePolicies) (storage : SqliteStorage) :
    SqliteStorage where
  hosts := storage.hosts
  historyPolicy := config.history
  inner :=
    { storage.inner with
      historyConfig := config.history
      maintenanceConfig := config.maintenance
      historyRetention := config.historyRetention
      usageSampleRetention := some config.usageRetention }

def SqliteStorage.bumpGeneration (storage : SqliteStorage) : SqliteStorage :=
  { storage with inner := { storage.inner with generation := storage.inner.generation + 1 } }

def SqliteStorage.retainUsage (keep : String → Bool) (storage : SqliteStorage) : SqliteStorage :=
  { storage with
    inner := { storage.inner with usage := storage.inner.usage.deleteWhere fun id _ => !keep id } }

/-- Whether an ID has one address in both catalogs. -/
def sameAddress (current hostMap : Catalog) (id : String) : Bool :=
  match current.get id, hostMap.get id with
  | some old, some new => old.address = new.address
  | _, _ => false

/-- **Replace the inventory**, and with it the policies where there are
some. Nothing in memory is assigned before the transaction commits. -/
def replaceConfiguration (faults : Faults) (now now' : ℤ) (hosts : List Host)
    (policies : Option StoragePolicies) : Call Unit := do
  let hostIds := (hosts.map (·.id)).dedup
  if hostIds.length ≠ hosts.length then throw (.invalidData "duplicate host ID")
  let hostMap := Catalog.ofHosts hosts
  lock faults .hosts
  let current := (← get).hosts
  lock faults .inner
  lock faults .historyPolicy
  let (result, inner) :=
    (← get).inner.transaction (reloadTransaction hostMap policies now now') faults
  modify fun storage => { storage with inner }
  ExceptT.mk (pure result)
  if let some config := policies then modify (·.publishPolicies config)
  modify (·.bumpGeneration)
  modify (·.retainUsage (sameAddress current hostMap))
  modify fun storage => { storage with hosts := hostMap }
  modify (·.retainUsage (hostIds.contains ·))

def updateHosts (faults : Faults) (now now' : ℤ) (hosts : List Host) : Call Unit :=
  replaceConfiguration faults now now' hosts none

/-- The checks a configuration passes before it is published. -/
def StoragePolicies.validate (policies : StoragePolicies) : Except StorageError Unit := do
  orInvalidData policies.history.validate
  orInvalidData policies.maintenance.validate
  [policies.usageRetention, policies.historyRetention].forM fun duration =>
    orInvalidData (validateDuration duration)

def updateConfiguration (faults : Faults) (now now' : ℤ) (hosts : List Host)
    (policies : StoragePolicies) : Call Unit := do
  ExceptT.mk (pure policies.validate)
  replaceConfiguration faults now now' hosts (some policies)

/-! ## Settings outside a reload -/

def setHistoryRetention (faults : Faults) (duration : ℕ) : Call Unit := do
  ExceptT.mk (pure (orInvalidData (validateDuration duration)))
  lock faults .inner
  modify fun storage => { storage with inner := { storage.inner with historyRetention := duration } }

def setUsageSampleRetention (faults : Faults) (retention : Option ℕ) : Call Unit := do
  if let some duration := retention then
    ExceptT.mk (pure (orInvalidData (validateDuration duration)))
  lock faults .inner
  modify fun storage =>
    { storage with inner := { storage.inner with usageSampleRetention := retention } }

def configureMaintenance (faults : Faults) (now : ℤ) (history : HistoryConfig)
    (maintenance : MaintenanceConfig) : Call Unit := do
  ExceptT.mk (pure (orInvalidData history.validate))
  ExceptT.mk (pure (orInvalidData maintenance.validate))
  lock faults .inner
  lock faults .historyPolicy
  let (result, inner) :=
    (← get).inner.transaction (registerJobs maintenance (timestampMillis now)) faults
  modify fun storage => { storage with inner }
  ExceptT.mk (pure result)
  modify fun storage => { storage with historyPolicy := history }
  modify fun storage =>
    { storage with
      inner := { storage.inner with historyConfig := history, maintenanceConfig := maintenance } }

/-! ## Opening -/

/-- The cache of a fresh process: the durable usage of the hosts listed. -/
def loadUsage (hosts : List Host) (persisted : Table String UsageSnapshot) :
    Table String UsageSnapshot :=
  hosts.foldl (fun usage host =>
    match persisted.find? host.id with
    | some snapshot => usage.upsert host.id snapshot
    | none => usage) ∅

/-- **Open the database** that another process left. The cache is read after
the identities are committed, and that read may fail on its own. -/
def newInitialized (faults : Faults) (readError : Option StorageError) (now : ℤ)
    (conn : Database) (hosts : List Host) : Except StorageError SqliteStorage × Database :=
  match (syncIdentitiesInTransaction hosts now).transact faults.sql conn, readError with
  | (.error e, conn), _ => (.error e, conn)
  | (.ok (), conn), some e => (.error e, conn)
  | (.ok (), conn), none =>
    (.ok
      { hosts := Catalog.ofHosts hosts
        inner := { usage := loadUsage hosts conn.latestUsage, conn } }, conn)

end SimpleNetworkMonitor.Storage
