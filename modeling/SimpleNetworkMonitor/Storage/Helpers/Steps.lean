import SimpleNetworkMonitor.History.Helpers.Sound
import SimpleNetworkMonitor.Storage.Helpers.Effects
/-!
# What a call can do

Every call, whatever it is given and whatever goes wrong, does one of a few
things to the storage. An invariant of runs is proved for these.
-/

namespace SimpleNetworkMonitor.Storage

variable {storage storage' : SqliteStorage} {db db' : Database}

/-! ## Settings -/

/-- **No observation is touched**: at most settings and schedules differ. -/
structure SameData (storage storage' : SqliteStorage) : Prop where
  hosts : storage'.hosts = storage.hosts
  generation : storage'.inner.generation = storage.inner.generation
  usage : storage'.inner.usage = storage.inner.usage
  conn : storage'.inner.conn =
    { storage.inner.conn with maintenanceJobs := storage'.inner.conn.maintenanceJobs }

theorem SameData.refl (storage : SqliteStorage) : SameData storage storage := ⟨rfl, rfl, rfl, rfl⟩

theorem sameData_setHistoryRetention (faults : Faults) (duration : ℕ) :
    SameData storage (Program.run (setHistoryRetention faults duration) storage).2 := by
  rcases setHistoryRetention_cases faults duration storage with ⟨e, h⟩ | h <;> rw [h]
  · exact .refl storage
  · exact ⟨rfl, rfl, rfl, rfl⟩

theorem sameData_setUsageSampleRetention (faults : Faults) (retention : Option ℕ) :
    SameData storage (Program.run (setUsageSampleRetention faults retention) storage).2 := by
  rcases setUsageSampleRetention_cases faults retention storage with ⟨e, h⟩ | h <;> rw [h]
  · exact .refl storage
  · exact ⟨rfl, rfl, rfl, rfl⟩

theorem sameData_configureMaintenance (faults : Faults) (now : ℤ) (history : HistoryConfig)
    (maintenance : MaintenanceConfig) :
    SameData storage (Program.run (configureMaintenance faults now history maintenance) storage).2 := by
  rcases configureMaintenance_cases faults now history maintenance storage with
    ⟨e, h⟩ | ⟨conn, -, hexec, h⟩ <;> rw [h]
  · exact .refl storage
  · exact ⟨rfl, rfl, rfl, exec_registerJobs_frame hexec⟩

/-! ## Calls -/

/-- **What a call does**, and what it commits of the usage of a host. -/
inductive Change (storage : SqliteStorage) : Option UsageObservation → SqliteStorage → Prop where
  | settings {storage' : SqliteStorage} (h : SameData storage storage') : Change storage none storage'
  | checkResult {handle : WriteGeneration} {hostId : String} (state : HostRuntimeState)
      (transition : Option IcmpTransition) (now : ℤ)
      (hkey : storage.hosts.containsKey hostId = true) (hcurrent : Current handle storage) :
      Change storage none
        (storage.withConn (storage.inner.conn.putCheckResult hostId state transition now))
  | tcp {handle : WriteGeneration} {hostId : String} {checkId : CheckId} {host : Host}
      {check : TcpCheckConfig} (snapshot : TcpSnapshot) (now : ℤ)
      (hget : storage.hosts.get hostId = some host) (hcheck : findCheck host checkId = .ok check)
      (hcurrent : Current handle storage) :
      Change storage none (storage.withConn (storage.inner.conn.putTcp host check snapshot now))
  | usage {handle : WriteGeneration} {hostId : String} {host : Host} {snapshot : UsageSnapshot}
      {shouldInsertHistory : Bool} (usageSamples : Log UsageRow) (now : ℤ)
      (hget : storage.hosts.get hostId = some host) (hvalid : snapshot.validate = .ok ())
      (hcurrent : Current handle storage)
      (hinsert : shouldInsertHistory =
        (storage.inner.usage.find? host.id).all (snapshot.differsForHistory ·)) :
      Change storage (some ⟨host, snapshot⟩) { storage with inner := { storage.inner with
        conn := { storage.inner.conn.putUsage host snapshot shouldInsertHistory now with
          usageSamples }
        usage := storage.inner.usage.upsert host.id snapshot } }
  | pruned (scan : Table.LimitScan) (cutoff : ℤ) (usageSamples : Log UsageRow) :
      Change storage none
        (storage.withConn { storage.inner.conn.putPruned scan cutoff with usageSamples })
  | rolledUp (config : HistoryConfig) (nowMs : ℤ) (limit : ℕ) :
      Change storage none (storage.withConn { storage.inner.conn with
        history := (History.rollup config nowMs storage.inner.conn.history limit).1 })
  | prunedHistory (scan : Table.LimitScan) (limit : ℕ) (nowMs : ℤ) (config : HistoryConfig)
      (usageRetention : ℕ) :
      Change storage none (storage.withConn { storage.inner.conn with
        history :=
          (History.prune scan limit storage.inner.conn.history nowMs config usageRetention).1 })
  | published {hosts : List Host} {now now' : ℤ} {conn : Database}
      (policies : Option StoragePolicies) (hnd : (hosts.map (·.id)).Nodup)
      (hexec : (reloadTransaction (Catalog.ofHosts hosts) policies now now').exec storage.inner.conn =
        .ok ((), conn)) :
      Change storage none (published storage (Catalog.ofHosts hosts) policies conn)

theorem change_replaceConfiguration (faults : Faults) (now now' : ℤ) (hosts : List Host)
    (policies : Option StoragePolicies) (storage : SqliteStorage) :
    Change storage none
      (Program.run (replaceConfiguration faults now now' hosts policies) storage).2 := by
  rcases replaceConfiguration_cases faults now now' hosts policies storage with
    ⟨e, h⟩ | ⟨conn, hnd, hexec, h⟩
  · rw [h]
    exact .settings (.refl storage)
  · rw [h]
    exact .published policies hnd hexec

theorem change_updateConfiguration (faults : Faults) (now now' : ℤ) (hosts : List Host)
    (policies : StoragePolicies) (storage : SqliteStorage) :
    Change storage none
      (Program.run (updateConfiguration faults now now' hosts policies) storage).2 := by
  rcases updateConfiguration_cases faults now now' hosts policies storage with
    ⟨e, h⟩ | ⟨conn, hnd, hexec, h⟩
  · rw [h]
    exact .settings (.refl storage)
  · rw [h]
    exact .published (some policies) hnd hexec

/-- **Every call does one of these.** -/
theorem StorageOp.change (op : StorageOp) (storage : SqliteStorage) :
    Change storage (op.observed storage) (op.apply storage) := by
  cases op with
  | updateCheckResult handle faults now hostId state transition =>
    rcases updateCheckResult_cases handle faults now hostId state transition storage with
      ⟨e, h⟩ | ⟨hkey, hcurrent, h⟩ <;> simp only [apply, observed, h]
    · exact .settings (.refl storage)
    · exact .checkResult state transition now hkey hcurrent
  -- the only call that is an observation
  | updateUsage handle faults now now' hostId snapshot =>
    rcases updateUsage_cases handle faults now now' hostId snapshot storage with
      ⟨e, h⟩ | ⟨host, shouldInsertHistory, usageSamples, hget, hvalid, hcurrent, hinsert, -, h⟩ <;>
      simp only [apply, observed, h]
    · exact .settings (.refl storage)
    · rw [hget]
      exact .usage usageSamples now hget hvalid hcurrent hinsert
  | updateTcp handle faults now hostId checkId snapshot =>
    rcases updateTcp_cases handle faults now hostId checkId snapshot storage with
      ⟨e, h⟩ | ⟨host, check, hget, hcheck, hcurrent, h⟩ <;> simp only [apply, observed, h]
    · exact .settings (.refl storage)
    · exact .tcp snapshot now hget hcheck hcurrent
  | pruneHistory scan faults now =>
    rcases pruneHistory_cases scan faults now storage with ⟨e, h⟩ | ⟨n, h⟩ <;>
      simp only [apply, observed, h]
    · exact .settings (.refl storage)
    · exact .pruned scan _ _
  | rollup faults now =>
    rcases rollup_cases faults now storage with ⟨e, h⟩ | ⟨done, h⟩ <;>
      simp only [apply, observed, h]
    · exact .settings (.refl storage)
    · exact .rolledUp _ _ _
  | prune scan faults now =>
    rcases prune_cases scan faults now storage with ⟨e, h⟩ | h <;>
      simp only [apply, observed, h]
    · exact .settings (.refl storage)
    · exact .prunedHistory scan _ _ _ _
  | updateHosts faults now now' hosts =>
    exact change_replaceConfiguration faults now now' hosts none storage
  | updateConfiguration faults now now' hosts policies =>
    exact change_updateConfiguration faults now now' hosts policies storage
  | setHistoryRetention faults duration =>
    exact .settings (sameData_setHistoryRetention faults duration)
  | setUsageSampleRetention faults retention =>
    exact .settings (sameData_setUsageSampleRetention faults retention)
  | configureMaintenance faults now history maintenance =>
    exact .settings (sameData_configureMaintenance faults now history maintenance)
  | scheduleJobs jobs => exact .settings ⟨rfl, rfl, rfl, rfl⟩

/-! ## Opening -/

/-- The process that has just opened a database. -/
def opened (hosts : List Host) (conn : Database) : SqliteStorage where
  hosts := Catalog.ofHosts hosts
  inner := { usage := loadUsage hosts conn.latestUsage, conn }

/-- **Opening** fails and changes nothing, or aligns the database; then the
process is up, or it fails to read what is in there. -/
theorem start_cases (faults : Faults) (readError : Option StorageError) (now : ℤ)
    (hosts : List Host) (service : Service) :
    ServiceOp.apply (.start faults readError now hosts) service = .down service.conn ∨
      ∃ conn, Synced hosts now service.conn conn ∧
        (ServiceOp.apply (.start faults readError now hosts) service = .down conn ∨
          ServiceOp.apply (.start faults readError now hosts) service = .up (opened hosts conn)) := by
  simp only [ServiceOp.apply, newInitialized]
  rcases (syncIdentitiesInTransaction hosts now).transact_cases faults.sql service.conn with
    ⟨e, h⟩ | ⟨⟨⟩, conn, hexec, h⟩
  · rw [h]
    exact Or.inl rfl
  · rw [h]
    refine Or.inr ⟨conn, synced_of_exec hexec, ?_⟩
    rcases readError with - | e
    · exact Or.inr rfl
    · exact Or.inl rfl

/-- A process that is up has aligned the database. -/
theorem opened_of_newInitialized {faults : Faults} {readError : Option StorageError} {now : ℤ}
    {conn conn' : Database} {hosts : List Host} {storage : SqliteStorage}
    (h : newInitialized faults readError now conn hosts = (.ok storage, conn')) :
    Synced hosts now conn conn' ∧ storage = opened hosts conn' := by
  unfold newInitialized at h
  rcases (syncIdentitiesInTransaction hosts now).transact_cases faults.sql conn with
    ⟨e, h'⟩ | ⟨⟨⟩, db, hexec, h'⟩ <;> simp only [h'] at h
  · cases h
  · rcases readError with - | e
    · obtain ⟨hstorage, rfl⟩ := Prod.mk.inj h
      exact ⟨synced_of_exec hexec, (Except.ok.inj hstorage).symm⟩
    · cases h

/-! ## The history tables of a service -/

theorem sound_icmpHistory {history : History.HistoryDb} (hs : History.Sound history)
    (hostId : String) (state : HostRuntimeState) (now : ℤ) :
    History.Sound (icmpHistory history hostId state now) := by
  unfold icmpHistory
  split
  · exact hs
  · exact History.sound_record hs _ _ _

theorem sound_change {observed : Option UsageObservation} (h : Change storage observed storage')
    (hs : History.Sound storage.inner.conn.history) :
    History.Sound storage'.inner.conn.history := by
  cases h with
  | settings h =>
    rw [h.conn]
    exact hs
  | checkResult state transition now hkey hcurrent => exact sound_icmpHistory hs _ _ _
  | tcp snapshot now hget hcheck hcurrent => exact History.sound_record hs _ _ _
  | usage usageSamples now hget hvalid hcurrent hinsert => exact History.sound_record hs _ _ _
  | pruned scan cutoff usageSamples => exact hs
  | rolledUp config nowMs limit => exact History.sound_rollup hs limit
  | prunedHistory scan limit nowMs config usageRetention =>
    exact History.sound_prune hs scan usageRetention limit
  | published policies hnd hexec =>
    have hhistory := (synced_of_reload hexec).history
    exact hhistory ▸ History.sound_syncEpochs hs _

/-- **The history tables of a service are sound**, after every run. -/
theorem Service.sound (ops : List ServiceOp) : History.Sound (Service.run ops).conn.history := by
  refine Service.run_induction (P := fun service => History.Sound service.conn.history)
    History.sound_empty (fun op service hs => ?_) ops
  cases op with
  | start faults readError now hosts =>
    rcases start_cases faults readError now hosts service with h | ⟨conn, hsync, h | h⟩ <;> rw [h]
    · exact hs
    · exact hsync.history ▸ History.sound_syncEpochs hs _
    · exact hsync.history ▸ History.sound_syncEpochs hs _
  | call op =>
    cases service with
    | up storage => exact sound_change (op.change storage) hs
    | down conn => exact hs

end SimpleNetworkMonitor.Storage
