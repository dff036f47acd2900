import SimpleNetworkMonitor.Daemon.Helpers.Calls
import SimpleNetworkMonitor.History.Helpers.Inventory
/-!
# A reload is all or nothing

Where a reload fails, at whatever point, everything it would have changed
is as it was. Where it succeeds, everything corresponds to the new
configuration: the token, the settings, the catalog, the policies, every
table, and the cache beside them.
-/

namespace SimpleNetworkMonitor.Daemon

open Storage

/-! ## What a reload publishes -/

/-- The IDs whose rows of current observations survive: those that are
listed, under the address they had. -/
def keeps (catalog : Catalog) (db : Database) (id : String) : Bool :=
  (catalog.get id).any (!resets db ·)

/-- The IDs whose coverage goes on: with usage enabled, before and now. -/
def covers (catalog : Catalog) (db : Database) (id : String) : Bool :=
  (catalog.get id).any (!uncovers db ·)

/-- **The database of a configuration.** Its identities, check targets and
open epochs are those of the inventory, its schedules those of the
policies; what was observed of a target that is still there is kept, and
so is everything else. -/
structure PublishedDb (catalog : Catalog) (config : AppConfig) (now now' : ℤ)
    (db db' : Database) : Prop where
  hostIdentity : ∀ id, db'.hostIdentity.find? id = (catalog.get id).map identityOf
  latestStatus : ∀ id, db'.latestStatus.find? id =
    (db.latestStatus.find? id).filter fun _ => keeps catalog db id
  latestUsage : ∀ id, db'.latestUsage.find? id =
    (db.latestUsage.find? id).filter fun _ => keeps catalog db id
  usageCoverage : ∀ id, db'.usageCoverage.find? id =
    (db.usageCoverage.find? id).filter fun _ => covers catalog db id
  latestTcp : ∀ key, db'.latestTcp.find? key =
    (db.latestTcp.find? key).filter fun row => isTarget catalog.hosts key row.address row.port
  history : db'.history = History.syncEpochs db.history catalog.hosts (timestampMillis now)
  serving : History.Serving db'.history (History.targets catalog.hosts)
  jobs : ∀ kind : JobKind, db'.maintenanceJobs.find? kind.id =
    some (registeredJob (db.maintenanceJobs.find? kind.id)
      (asMillis (kind.interval config.maintenance)) (timestampMillis now'))
  otherJobs : ∀ id, (∀ kind, id ≠ JobKind.id kind) →
    db'.maintenanceJobs.find? id = db.maintenanceJobs.find? id
  transitions : db'.transitions = db.transitions
  usageSamples : db'.usageSamples = db.usageSamples
  usageHistory : db'.usageHistory = db.usageHistory
  retentionFloor : db'.retentionFloor = db.retentionFloor

/-- **The state of a configuration**, reached from an older one. -/
structure Published (config : AppConfig) (now now' : ℤ) (old new : Shared) : Prop where
  apiToken : new.apiToken = config.apiToken
  moduleConfig : new.moduleConfig = config.modules
  hosts : ∀ host, host ∈ new.storage.hosts.hosts ↔ host ∈ config.hosts
  generation : new.storage.inner.generation = old.storage.inner.generation + 1
  historyPolicy : new.storage.historyPolicy = config.history
  historyConfig : new.storage.inner.historyConfig = config.history
  maintenanceConfig : new.storage.inner.maintenanceConfig = config.maintenance
  historyRetention : new.storage.inner.historyRetention = config.historyRetention
  usageSampleRetention : new.storage.inner.usageSampleRetention =
    some config.modules.usage.sampleRetention
  usage : ∀ id, new.storage.inner.usage.find? id =
    (old.storage.inner.usage.find? id).filter fun _ =>
      sameAddress old.storage.hosts new.storage.hosts id
  conn : PublishedDb new.storage.hosts config now now' old.storage.inner.conn new.storage.inner.conn

/-- What the transaction of a reload leaves. -/
theorem publishedDb_of_exec {catalog : Catalog} {config : AppConfig} {now now' : ℤ}
    {db db' : Database}
    (h : (reloadTransaction catalog (some (policies config)) now now').exec db = .ok ((), db')) :
    PublishedDb catalog config now now' db db' := by
  obtain ⟨⟨⟩, db₁, hsync, hjobs⟩ := Txn.exec_bind_eq_ok.mp h
  have hs := synced_of_exec hsync
  -- registering the jobs changes their table only
  obtain ⟨hrows, hother, hframe⟩ := exec_registerJobs_list JobKind.nodup_ALL hjobs
  have hhistory : db'.history = History.syncEpochs db.history catalog.hosts (timestampMillis now) := by
    rw [← hs.history, hframe]
  have hserving : History.Serving db'.history (History.targets catalog.hosts) := by
    rw [hhistory]
    exact History.serving_syncEpochs _ _ (History.nodup_targetKeys hs.nodup hs.valid)
  refine ⟨fun id => ?_, fun id => ?_, fun id => ?_, fun id => ?_, fun key => ?_, hhistory, hserving,
    fun kind => ?_, fun id hid => ?_, ?_, ?_, ?_, ?_⟩
  · rw [hframe]
    exact hs.hostIdentity id
  · rw [hframe]
    exact hs.latestStatus id
  · rw [hframe]
    exact hs.latestUsage id
  · rw [hframe]
    exact hs.usageCoverage id
  · rw [hframe]
    exact hs.latestTcp key
  · rw [hrows kind (JobKind.mem_ALL kind), hs.maintenanceJobs]
    rfl
  · rw [hother id fun kind _ => hid kind, hs.maintenanceJobs]
  · rw [hframe]
    exact hs.transitions
  · rw [hframe]
    exact hs.usageSamples
  · rw [hframe]
    exact hs.usageHistory
  · rw [hframe]
    exact hs.retentionFloor

/-! ## All or nothing -/

/-- **A reload is all or nothing.** Whatever fails, and wherever, a reload
that returns an error leaves the daemon exactly as it was; one that succeeds
leaves it in the state of the new configuration. -/
theorem applyReloadedConfig_allOrNothing (faults : ReloadFaults) (now now' : ℤ)
    (config : AppConfig) (shared : Shared) :
    match Program.run (applyReloadedConfig faults now now' config) shared with
    | (.error _, after) => after = shared
    | (.ok (), after) => Published config now now' shared after := by
  rcases applyReloadedConfig_cases faults now now' config shared with ⟨e, h⟩ | ⟨conn, hnd, hexec, h⟩
  · rw [h]
  · rw [h]
    have hdb := publishedDb_of_exec hexec
    refine ⟨rfl, rfl, fun host => Catalog.mem_ofHosts hnd, rfl, rfl, rfl, rfl, rfl, rfl,
      fun id => ?_, hdb⟩
    show ((shared.storage.inner.usage.deleteWhere _).find? id) = _
    rw [Table.find?_deleteWhere]
    simp only [Bool.not_not]
    rfl

/-- A daemon that starts from nothing takes this configuration. -/
def sampleConfig : AppConfig where
  hosts := [{ id := "node-a", address := "192.0.2.1", name := "Node A", groups := ["core"] }]

example :
    (Program.run (applyReloadedConfig {} 1000000 1000000 sampleConfig) ⟨none, {}, {}⟩).1 = .ok () := by
  decide +kernel

example :
    (Program.run (applyReloadedConfig { sql := List.replicate 9 none ++ [some .busy] } 1000000 1000000
      sampleConfig) ⟨none, {}, {}⟩).1 = .error (.storage .busy) := by
  decide +kernel

end SimpleNetworkMonitor.Daemon
