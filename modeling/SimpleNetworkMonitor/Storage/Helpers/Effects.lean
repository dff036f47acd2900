import SimpleNetworkMonitor.Storage.Helpers.Calls
import SimpleNetworkMonitor.Storage.Model.Run
/-!
# What each call does

Every writing call either fails and changes nothing, or runs its
transaction on the database. For each transaction, the database it leaves.
-/

namespace SimpleNetworkMonitor.Storage

variable {faults : Faults} {handle : WriteGeneration} {storage : SqliteStorage} {now now' : ℤ}
variable {hostId : String} {db db' : Database}

/-- The storage with another database. -/
def SqliteStorage.withConn (storage : SqliteStorage) (conn : Database) : SqliteStorage :=
  { storage with inner := { storage.inner with conn } }

@[simp] theorem SqliteStorage.withConn_conn (storage : SqliteStorage) (conn : Database) :
    (storage.withConn conn).inner.conn = conn := rfl

/-- A handle whose writes the storage accepts. -/
def Current (handle : WriteGeneration) (storage : SqliteStorage) : Prop :=
  ∀ generation, handle = some generation → generation = storage.inner.generation

/-! ## The fence -/

theorem run_withInner {α : Type} (f : Inner → Except StorageError α × Inner) :
    Program.run (withInner handle faults f) storage =
      if faults.poisoned .inner then (.error .lockPoisoned, storage)
      else if handle.any (· ≠ storage.inner.generation) then (.error .staleGeneration, storage)
      else ((f storage.inner).1, { storage with inner := (f storage.inner).2 }) := by
  rw [withInner, Program.run_bind, run_lock]
  split_ifs with hp hg
  · rfl
  · simp only [Program.run_bind, Program.run_get, hg, if_true, Program.run_throw]
  · simp only [Program.run_bind, Program.run_get, hg, Bool.false_eq_true, if_false,
      Program.run_set, Program.run_mk]

theorem current_of_not_any (h : ¬ handle.any (· ≠ storage.inner.generation) = true) :
    Current handle storage := by
  rintro generation rfl
  simpa using h

/-- **A fenced transaction** fails and changes nothing, or is committed in
the handle's generation. -/
theorem withInner_cases {α : Type} (handle : WriteGeneration) (faults : Faults)
    (storage : SqliteStorage) (txn : Inner → Sql α) :
    (∃ e, Program.run (withInner handle faults fun inner => inner.transaction (txn inner) faults)
        storage = (.error e, storage)) ∨
      ∃ a conn, Current handle storage ∧ (txn storage.inner).exec storage.inner.conn = .ok (a, conn) ∧
        Program.run (withInner handle faults fun inner => inner.transaction (txn inner) faults)
          storage = (.ok a, storage.withConn conn) := by
  rw [run_withInner]
  split_ifs with hp hg
  · exact Or.inl ⟨_, rfl⟩
  · exact Or.inl ⟨_, rfl⟩
  · rcases storage.inner.transaction_cases (txn storage.inner) faults with
      ⟨e, h⟩ | ⟨a, conn, hexec, h⟩
    · exact Or.inl ⟨e, by rw [h]⟩
    · exact Or.inr ⟨a, conn, current_of_not_any hg, hexec, by rw [h]; rfl⟩

/-! ## Looking up the host -/

theorem run_ensureHostExists_cases (faults : Faults) (hostId : String) (storage : SqliteStorage) :
    (∃ e, Program.run (ensureHostExists faults hostId) storage = (.error e, storage)) ∨
      (storage.hosts.containsKey hostId = true ∧
        Program.run (ensureHostExists faults hostId) storage = (.ok (), storage)) := by
  unfold ensureHostExists
  rw [Program.run_bind, run_lock]
  rcases faults.poisoned .hosts with - | -
  · rcases hkey : storage.hosts.containsKey hostId with - | -
    · exact Or.inl ⟨.notFound hostId, by simp [Program.run_bind, hkey]⟩
    · exact Or.inr ⟨rfl, by simp [Program.run_bind, hkey]⟩
  · exact Or.inl ⟨_, rfl⟩

theorem run_lookupHost_cases (faults : Faults) (hostId : String) (storage : SqliteStorage) :
    (∃ e, Program.run (lookupHost faults hostId) storage = (.error e, storage)) ∨
      ∃ host, storage.hosts.get hostId = some host ∧
        Program.run (lookupHost faults hostId) storage = (.ok host, storage) := by
  unfold lookupHost
  rw [Program.run_bind, run_lock]
  rcases faults.poisoned .hosts with - | -
  · rcases hget : storage.hosts.get hostId with - | host
    · exact Or.inl ⟨.notFound hostId, by simp [Program.run_bind, hget]⟩
    · exact Or.inr ⟨host, rfl, by simp [Program.run_bind, hget]⟩
  · exact Or.inl ⟨_, rfl⟩

/-! ## ICMP results -/

/-- A transition is appended where it is not there yet. -/
def logTransition (log : Log IcmpTransition) (event : IcmpTransition) : Log IcmpTransition :=
  if log.values.any (sameTransition event) then log else log.append event

/-- The history of an ICMP state, where the state has been observed. -/
def icmpHistory (history : History.HistoryDb) (hostId : String) (state : HostRuntimeState)
    (now : ℤ) : History.HistoryDb :=
  match state.lastCheckedAt with
  | none => history
  | some at_ =>
    History.record history hostId .icmp "" (timestampMillis at_) (icmpObservation state)
      (timestampMillis now)

/-- The database after an ICMP result. -/
def Database.putCheckResult (db : Database) (hostId : String) (state : HostRuntimeState)
    (transition : Option IcmpTransition) (now : ℤ) : Database :=
  { db with
    latestStatus := db.latestStatus.upsert hostId state
    history := icmpHistory db.history hostId state now
    transitions := transition.elim db.transitions (logTransition db.transitions) }

theorem logTransition_of_any {log : Log IcmpTransition} {event : IcmpTransition}
    (h : log.values.any (sameTransition event) = true) : logTransition log event = log :=
  if_pos h

theorem any_logTransition {log : Log IcmpTransition} {event : IcmpTransition} :
    (logTransition log event).values.any (sameTransition event) = true := by
  unfold logTransition
  split_ifs with h
  · exact h
  · simp [sameTransition]

theorem exec_insertTransition (event : IcmpTransition) :
    (insertTransition event).exec db =
      .ok ((), { db with transitions := logTransition db.transitions event }) := by
  unfold insertTransition logTransition
  rw [Txn.exec_bind, Txn.exec_query]
  show (if _ then _ else _ : Sql Unit).exec db = _
  split_ifs
  · rfl
  · rw [Txn.exec_update]

theorem exec_checkResultTransaction (hostId : String) (state : HostRuntimeState)
    (transition : Option IcmpTransition) (now : ℤ) :
    (checkResultTransaction hostId state transition now).exec db =
      .ok ((), db.putCheckResult hostId state transition now) := by
  unfold checkResultTransaction Database.putCheckResult icmpHistory
  rcases state.lastCheckedAt with - | at_ <;> rcases transition with - | event <;>
    simp only [upsertLatestState, recordHistory, Txn.exec_bind, Txn.exec_update, Txn.exec_pure,
      exec_insertTransition, Option.elim] <;> rfl

theorem updateCheckResult_cases (handle : WriteGeneration) (faults : Faults) (now : ℤ)
    (hostId : String) (state : HostRuntimeState) (transition : Option IcmpTransition)
    (storage : SqliteStorage) :
    (∃ e, Program.run (updateCheckResult handle faults now hostId state transition) storage =
        (.error e, storage)) ∨
      (storage.hosts.containsKey hostId = true ∧ Current handle storage ∧
        Program.run (updateCheckResult handle faults now hostId state transition) storage =
          (.ok (), storage.withConn
            (storage.inner.conn.putCheckResult hostId state transition now))) := by
  unfold updateCheckResult
  rw [Program.run_bind]
  rcases run_ensureHostExists_cases faults hostId storage with ⟨e, h⟩ | ⟨hkey, h⟩
  · rw [h]
    exact Or.inl ⟨e, rfl⟩
  · rw [h]
    rcases withInner_cases handle faults storage
        (fun _ => checkResultTransaction hostId state transition now) with
      ⟨e, h'⟩ | ⟨⟨⟩, conn, hcurrent, hexec, h'⟩
    · exact Or.inl ⟨e, h'⟩
    · rw [exec_checkResultTransaction] at hexec
      obtain ⟨-, rfl⟩ := Prod.mk.inj (Except.ok.inj hexec)
      exact Or.inr ⟨hkey, hcurrent, h'⟩

/-! ## TCP attempts -/

/-- The database after an attempt on a check. -/
def Database.putTcp (db : Database) (host : Host) (check : TcpCheckConfig) (snapshot : TcpSnapshot)
    (now : ℤ) : Database :=
  { db with
    history := History.record db.history host.id .tcp check.id.value
      (timestampMillis snapshot.observedAt) (tcpObservation snapshot) (timestampMillis now)
    latestTcp := db.latestTcp.upsert (host.id, check.id.value)
      ⟨host.address, check.port.get, snapshot⟩ }

theorem exec_tcpTransaction (host : Host) (check : TcpCheckConfig) (snapshot : TcpSnapshot)
    (now : ℤ) :
    (tcpTransaction host check snapshot now).exec db =
      .ok ((), db.putTcp host check snapshot now) := by
  simp only [tcpTransaction, recordHistory, upsertLatestTcp, Txn.exec_bind, Txn.exec_update]
  rfl

theorem findCheck_eq_ok {host : Host} {checkId : CheckId} {check : TcpCheckConfig}
    (h : findCheck host checkId = .ok check) :
    check ∈ host.modules.tcp.checks ∧ check.id = checkId ∧ host.modules.tcp.enabled = true := by
  unfold findCheck at h
  rcases hf : host.modules.tcp.checks.find? fun check =>
      decide (check.id = checkId) && host.modules.tcp.enabled with - | found
  · rw [hf] at h
    cases h
  · rw [hf] at h
    obtain rfl := Except.ok.inj h
    have hfound := List.find?_some hf
    simp only [Bool.and_eq_true, decide_eq_true_eq] at hfound
    exact ⟨List.mem_of_find?_eq_some hf, hfound⟩

theorem updateTcp_cases (handle : WriteGeneration) (faults : Faults) (now : ℤ) (hostId : String)
    (checkId : CheckId) (snapshot : TcpSnapshot) (storage : SqliteStorage) :
    (∃ e, Program.run (updateTcp handle faults now hostId checkId snapshot) storage =
        (.error e, storage)) ∨
      ∃ host check, storage.hosts.get hostId = some host ∧ findCheck host checkId = .ok check ∧
        Current handle storage ∧
        Program.run (updateTcp handle faults now hostId checkId snapshot) storage =
          (.ok (), storage.withConn (storage.inner.conn.putTcp host check snapshot now)) := by
  unfold updateTcp
  rw [Program.run_bind]
  rcases run_lookupHost_cases faults hostId storage with ⟨e, h⟩ | ⟨host, hget, h⟩
  · rw [h]
    exact Or.inl ⟨e, rfl⟩
  · rw [h]
    rcases hcheck : findCheck host checkId with e | check
    · exact Or.inl ⟨e, by simp only [Program.run_bind, Program.run_mk, hcheck]⟩
    · simp only [Program.run_bind, Program.run_mk, hcheck]
      rcases withInner_cases handle faults storage
          (fun _ => tcpTransaction host check snapshot now) with
        ⟨e, h'⟩ | ⟨⟨⟩, conn, hcurrent, hexec, h'⟩
      · exact Or.inl ⟨e, h'⟩
      · rw [exec_tcpTransaction] at hexec
        obtain ⟨-, rfl⟩ := Prod.mk.inj (Except.ok.inj hexec)
        exact Or.inr ⟨host, check, hget, hcheck, hcurrent, h'⟩

/-! ## Usage collections -/

/-- The coverage of a host after an observation. -/
def coverageAfter (host : Host) (previous : Option Coverage) (collectedAt : ℤ) : Coverage :=
  let fresh := previous.filter fun coverage =>
    isFresh (some coverage.observedAt) host.modules.usage.interval host.modules.usage.timeout
      collectedAt
  ⟨(fresh.map (·.startedAt)).getD collectedAt, collectedAt⟩

/-- The database after a usage collection, the retention of samples apart. -/
def Database.putUsage (db : Database) (host : Host) (snapshot : UsageSnapshot)
    (shouldInsertHistory : Bool) (now : ℤ) : Database :=
  { db with
    usageCoverage := db.usageCoverage.upsert host.id
      (coverageAfter host (db.usageCoverage.find? host.id) snapshot.collectedAt)
    latestUsage := db.latestUsage.upsert host.id snapshot
    usageSamples := db.usageSamples.append ⟨host.id, snapshot⟩
    history := History.record db.history host.id .usage "" (timestampMillis snapshot.collectedAt)
      (usageObservation snapshot) (timestampMillis now)
    usageHistory := if shouldInsertHistory then db.usageHistory.append ⟨host.id, snapshot⟩
      else db.usageHistory }

theorem exec_updateCoverage (host : Host) (snapshot : UsageSnapshot) :
    (updateCoverage host snapshot).exec db = .ok ((), { db with
      usageCoverage := db.usageCoverage.upsert host.id
        (coverageAfter host (db.usageCoverage.find? host.id) snapshot.collectedAt) }) := by
  simp only [updateCoverage, Txn.exec_bind, Txn.exec_query, Txn.exec_update]
  rfl

theorem exec_deleteOldSamples {retention : ℕ}
    (h : (deleteOldSamples hostId retention now).exec db = .ok ((), db')) :
    ∃ usageSamples, db' = { db with usageSamples } := by
  obtain ⟨cutoff, db₁, hcut, hdelete⟩ := Txn.exec_bind_eq_ok.mp h
  obtain ⟨-, rfl⟩ := exec_ofExcept_eq_ok.mp hcut
  rw [Txn.exec_update] at hdelete
  obtain ⟨-, rfl⟩ := Prod.mk.inj (Except.ok.inj hdelete)
  exact ⟨_, rfl⟩

/-- The samples after a collection: where they are kept for ever, one more. -/
def Sampled (db : Database) (host : Host) (snapshot : UsageSnapshot) (retention : Option ℕ)
    (usageSamples : Log UsageRow) : Prop :=
  retention = none → usageSamples = db.usageSamples.append ⟨host.id, snapshot⟩

/-- What a collection leaves, whatever samples are retained. -/
theorem exec_usageTransaction {host : Host} {snapshot : UsageSnapshot} {shouldInsertHistory : Bool}
    {retention : Option ℕ}
    (h : (usageTransaction host snapshot shouldInsertHistory retention now now').exec db =
      .ok ((), db')) :
    ∃ usageSamples, Sampled db host snapshot retention usageSamples ∧ db' =
      { db.putUsage host snapshot shouldInsertHistory now with usageSamples } := by
  unfold usageTransaction at h
  simp only [Txn.exec_bind, exec_updateCoverage, upsertLatestUsage, insertUsageSample,
    insertUsageRow, recordHistory, Txn.exec_update, Except.ok_bind] at h
  cases shouldInsertHistory <;> rcases retention with - | retention
  · obtain ⟨-, rfl⟩ := Prod.mk.inj (Except.ok.inj h)
    exact ⟨_, fun _ => rfl, rfl⟩
  · obtain ⟨usageSamples, heq⟩ := exec_deleteOldSamples h
    exact ⟨usageSamples, fun hnone => (by cases hnone), heq⟩
  · obtain ⟨-, rfl⟩ := Prod.mk.inj (Except.ok.inj h)
    exact ⟨_, fun _ => rfl, rfl⟩
  · obtain ⟨usageSamples, heq⟩ := exec_deleteOldSamples h
    exact ⟨usageSamples, fun hnone => (by cases hnone), heq⟩

/-- The cache follows the commit. -/
theorem writeUsage_cases (inner : Inner) (host : Host) (snapshot : UsageSnapshot) (faults : Faults)
    (now now' : ℤ) :
    (∃ e, inner.writeUsage host snapshot faults now now' = (.error e, inner)) ∨
      ∃ shouldInsertHistory usageSamples,
        shouldInsertHistory = (inner.usage.find? host.id).all (snapshot.differsForHistory ·) ∧
        Sampled inner.conn host snapshot inner.usageSampleRetention usageSamples ∧
        inner.writeUsage host snapshot faults now now' = (.ok shouldInsertHistory, { inner with
          conn := { inner.conn.putUsage host snapshot shouldInsertHistory now with usageSamples }
          usage := inner.usage.upsert host.id snapshot }) := by
  unfold Inner.writeUsage
  simp only
  generalize hs : (inner.usage.find? host.id).all (snapshot.differsForHistory ·) =
    shouldInsertHistory
  rcases inner.transaction_cases (usageTransaction host snapshot shouldInsertHistory
      inner.usageSampleRetention now now') faults with ⟨e, htxn⟩ | ⟨⟨⟩, conn, hexec, htxn⟩
  · exact Or.inl ⟨e, by rw [htxn]⟩
  · obtain ⟨usageSamples, hsampled, rfl⟩ := exec_usageTransaction hexec
    exact Or.inr ⟨shouldInsertHistory, usageSamples, rfl, hsampled, by rw [htxn]⟩

theorem updateUsage_cases (handle : WriteGeneration) (faults : Faults) (now now' : ℤ)
    (hostId : String) (snapshot : UsageSnapshot) (storage : SqliteStorage) :
    (∃ e, Program.run (updateUsage handle faults now now' hostId snapshot) storage =
        (.error e, storage)) ∨
      ∃ host shouldInsertHistory usageSamples, storage.hosts.get hostId = some host ∧
        snapshot.validate = .ok () ∧ Current handle storage ∧
        shouldInsertHistory =
          (storage.inner.usage.find? host.id).all (snapshot.differsForHistory ·) ∧
        Sampled storage.inner.conn host snapshot storage.inner.usageSampleRetention usageSamples ∧
        Program.run (updateUsage handle faults now now' hostId snapshot) storage =
          (.ok shouldInsertHistory, { storage with inner := { storage.inner with
            conn := { storage.inner.conn.putUsage host snapshot shouldInsertHistory now with
              usageSamples }
            usage := storage.inner.usage.upsert host.id snapshot } }) := by
  unfold updateUsage
  rw [Program.run_bind]
  rcases run_ensureHostExists_cases faults hostId storage with ⟨e, h⟩ | ⟨-, h⟩
  · rw [h]
    exact Or.inl ⟨e, rfl⟩
  · rw [h]
    rcases hvalid : snapshot.validate with e | ⟨⟨⟩⟩
    · refine Or.inl ⟨.invalidData e, ?_⟩
      simp only [Program.run_bind, Program.run_mk, orInvalidData, Except.mapError]
    · simp only [Program.run_bind, Program.run_mk, orInvalidData, Except.mapError]
      -- the host is looked up again once the snapshot is valid
      rcases run_lookupHost_cases faults hostId storage with ⟨e, h'⟩ | ⟨host, hget, h'⟩
      · rw [h']
        exact Or.inl ⟨e, rfl⟩
      · rw [h']
        simp only [run_withInner]
        split_ifs with hp hg
        · exact Or.inl ⟨_, rfl⟩
        · exact Or.inl ⟨_, rfl⟩
        · rcases writeUsage_cases storage.inner host snapshot faults now now' with
            ⟨e, hw⟩ | ⟨shouldInsertHistory, usageSamples, hinsert, hsampled, hw⟩
          · exact Or.inl ⟨e, by rw [hw]⟩
          · exact Or.inr ⟨host, shouldInsertHistory, usageSamples, hget, trivial,
              current_of_not_any hg, hinsert, hsampled, by rw [hw]⟩

/-! ## Maintenance -/

/-- The database after a retention batch, the retention of samples apart. -/
def Database.putPruned (db : Database) (scan : Table.LimitScan) (cutoff : ℤ) : Database :=
  { db with
    transitions := db.transitions.deleteLimit scan PRUNE_LIMIT fun _ row => row.changedAt < cutoff
    usageHistory := db.usageHistory.deleteLimit scan PRUNE_LIMIT (isOutdated db cutoff)
    retentionFloor := some (db.retentionFloor.elim cutoff (max · cutoff)) }

/-- The usage samples after a retention batch. -/
def Inner.keptSamples (inner : Inner) (scan : Table.LimitScan) (now : ℤ) : Log UsageRow :=
  inner.usageSampleRetention.elim inner.conn.usageSamples fun retention =>
    inner.conn.usageSamples.deleteLimit scan PRUNE_LIMIT fun _ row =>
      row.snapshot.collectedAt < now - retention

/-- The retention batch, past the samples. -/
theorem exec_pruneLogs {scan : Table.LimitScan} {cutoff : ℤ} {removed n : ℕ}
    (h : (do
      let transitions ← Txn.exec1 fun db : Database =>
        let (n, transitions) := pruneLog scan db.transitions fun _ row => row.changedAt < cutoff
        .ok (n, { db with transitions })
      let usageHistory ← Txn.exec1 fun db : Database =>
        let (n, usageHistory) := pruneLog scan db.usageHistory (isOutdated db cutoff)
        .ok (n, { db with usageHistory })
      Txn.update fun db =>
        { db with retentionFloor := some (db.retentionFloor.elim cutoff (max · cutoff)) }
      return removed + transitions + usageHistory : Sql ℕ).exec db = .ok (n, db')) :
    db' = db.putPruned scan cutoff := by
  simp only [Txn.exec_bind, Txn.exec_exec1, Txn.exec_update, Txn.exec_pure] at h
  exact (Prod.mk.inj (Except.ok.inj h)).2.symm

theorem exec_pruneHistoryTransaction {inner : Inner} {scan : Table.LimitScan} {cutoff : ℤ} {n : ℕ}
    (h : (pruneHistoryTransaction scan now inner.usageSampleRetention cutoff).exec inner.conn =
      .ok (n, db')) :
    db' = { inner.conn.putPruned scan cutoff with usageSamples := inner.keptSamples scan now } := by
  unfold pruneHistoryTransaction at h
  unfold Inner.keptSamples
  rcases hretention : inner.usageSampleRetention with - | retention
  · rw [hretention] at h
    exact exec_pruneLogs h
  · rw [hretention] at h
    obtain ⟨sampleCutoff, db₁, hcut, h₁⟩ := Txn.exec_bind_eq_ok.mp h
    obtain ⟨hcutoff, rfl⟩ := exec_ofExcept_eq_ok.mp hcut
    obtain rfl := checkedCutoff_eq_ok hcutoff
    obtain ⟨removed, db₂, hsamples, h₂⟩ := Txn.exec_bind_eq_ok.mp h₁
    rw [Txn.exec_exec1] at hsamples
    obtain ⟨-, rfl⟩ := Prod.mk.inj (Except.ok.inj hsamples)
    exact exec_pruneLogs h₂

theorem pruneHistory_cases (scan : Table.LimitScan) (faults : Faults) (now : ℤ)
    (storage : SqliteStorage) :
    (∃ e, Program.run (pruneHistory scan faults now) storage = (.error e, storage)) ∨
      ∃ n, Program.run (pruneHistory scan faults now) storage =
        (.ok n, storage.withConn
          { storage.inner.conn.putPruned scan (now - storage.inner.historyRetention) with
            usageSamples := storage.inner.keptSamples scan now }) := by
  unfold pruneHistory Inner.pruneHistory
  rw [run_withInner]
  split_ifs with hp hg
  · exact Or.inl ⟨_, rfl⟩
  · exact Or.inl ⟨_, rfl⟩
  · rcases hcut : checkedCutoff now storage.inner.historyRetention with e | cutoff
    · exact Or.inl ⟨e, rfl⟩
    · rcases storage.inner.transaction_cases (pruneHistoryTransaction scan now
          storage.inner.usageSampleRetention cutoff) faults with ⟨e, h⟩ | ⟨n, conn, hexec, h⟩
      · exact Or.inl ⟨e, by simp only [h]⟩
      · obtain rfl := exec_pruneHistoryTransaction hexec
        obtain rfl := checkedCutoff_eq_ok hcut
        exact Or.inr ⟨n, by simp only [h]; rfl⟩

theorem rollup_cases (faults : Faults) (now : ℤ) (storage : SqliteStorage) :
    (∃ e, Program.run (rollup faults now) storage = (.error e, storage)) ∨
      ∃ done, Program.run (rollup faults now) storage =
        (.ok done, storage.withConn { storage.inner.conn with
          history := (History.rollup storage.inner.historyConfig (timestampMillis now)
            storage.inner.conn.history storage.inner.maintenanceConfig.batchSize).1 }) := by
  rcases withInner_cases none faults storage (fun inner => Txn.exec1 fun db =>
      let rolled := History.rollup inner.historyConfig (timestampMillis now) db.history
        inner.maintenanceConfig.batchSize
      .ok (rolled.2, { db with history := rolled.1 })) with ⟨e, h⟩ | ⟨done, conn, -, hexec, h⟩
  · exact Or.inl ⟨e, h⟩
  · rw [Txn.exec_exec1] at hexec
    obtain ⟨-, rfl⟩ := Prod.mk.inj (Except.ok.inj hexec)
    exact Or.inr ⟨done, h⟩

/-- The history after a retention batch, and what the batch answers. -/
def Inner.prunedHistory (inner : Inner) (scan : Table.LimitScan) (now : ℤ) :
    History.HistoryDb × ℕ × Bool :=
  History.prune scan inner.maintenanceConfig.batchSize inner.conn.history (timestampMillis now)
    inner.historyConfig (inner.usageSampleRetention.getD (fromSecs (30 * 86400)))

theorem prune_cases (scan : Table.LimitScan) (faults : Faults) (now : ℤ)
    (storage : SqliteStorage) :
    (∃ e, Program.run (prune scan faults now) storage = (.error e, storage)) ∨
      Program.run (prune scan faults now) storage =
        (.ok (storage.inner.prunedHistory scan now).2, storage.withConn { storage.inner.conn with
          history := (storage.inner.prunedHistory scan now).1 }) := by
  rcases withInner_cases none faults storage (fun inner => Txn.exec1 fun db =>
      let pruned := History.prune scan inner.maintenanceConfig.batchSize db.history
        (timestampMillis now) inner.historyConfig
        (inner.usageSampleRetention.getD (fromSecs (30 * 86400)))
      .ok (pruned.2, { db with history := pruned.1 })) with ⟨e, h⟩ | ⟨done, conn, -, hexec, h⟩
  · exact Or.inl ⟨e, h⟩
  · rw [Txn.exec_exec1] at hexec
    obtain ⟨rfl, rfl⟩ := Prod.mk.inj (Except.ok.inj hexec)
    exact Or.inr h

end SimpleNetworkMonitor.Storage
