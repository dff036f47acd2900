import SimpleNetworkMonitor.Storage.Helpers.Sync
/-!
# Running a call

How the pieces of a call compose, and what each call comes to: an error
that changes nothing, or the effect of its transaction.
-/

namespace SimpleNetworkMonitor.Storage

variable {faults : Faults} {now now' : ℤ} {hosts : List Host} {storage : SqliteStorage}

/-- A lock that is poisoned ends the call. -/
theorem run_lock (faults : Faults) (l : Lock) (storage : SqliteStorage) :
    Program.run (lock faults l) storage =
      if faults.poisoned l then (.error .lockPoisoned, storage) else (.ok (), storage) := by
  rw [lock]
  split_ifs <;> rfl

/-- **All or nothing**, for a transaction on the writer's connection. -/
theorem Inner.transaction_cases {α : Type} (inner : Inner) (txn : Sql α) (faults : Faults) :
    (∃ e, inner.transaction txn faults = (.error e, inner)) ∨
      ∃ a conn, txn.exec inner.conn = .ok (a, conn) ∧
        inner.transaction txn faults = (.ok a, { inner with conn }) := by
  unfold Inner.transaction
  rcases txn.transact_cases faults.sql inner.conn with ⟨e, h⟩ | ⟨a, conn, hexec, h⟩
  · exact Or.inl ⟨e, by rw [h]⟩
  · exact Or.inr ⟨a, conn, hexec, by rw [h]⟩

/-! ## The transaction of a reload -/

section Jobs

variable {config : MaintenanceConfig} {nowMs : ℤ} {db db' : Database}

theorem exec_registerJob {kind : JobKind}
    (h : (registerJob config nowMs kind).exec db = .ok ((), db')) :
    (∀ id, db'.maintenanceJobs.find? id =
      if id = kind.id then
        some (registeredJob (db.maintenanceJobs.find? kind.id) (asMillis (kind.interval config)) nowMs)
      else db.maintenanceJobs.find? id) ∧
      db' = { db with maintenanceJobs := db'.maintenanceJobs } := by
  rw [registerJob, Txn.exec_update] at h
  obtain ⟨-, rfl⟩ := Prod.mk.inj (Except.ok.inj h)
  refine ⟨fun id => ?_, rfl⟩
  split_ifs with hid
  · rw [hid]
    exact Table.find?_upsert_self
  · exact Table.find?_upsert_of_ne hid

/-- **Every job is registered**, and no other row changes. -/
theorem exec_registerJobs_list {kinds : List JobKind} (hnd : kinds.Nodup) :
    ∀ {db : Database}, (kinds.forM (registerJob config nowMs)).exec db = .ok (⟨⟩, db') →
      (∀ kind ∈ kinds, db'.maintenanceJobs.find? kind.id =
        some (registeredJob (db.maintenanceJobs.find? kind.id) (asMillis (kind.interval config))
          nowMs)) ∧
      (∀ id, (∀ kind ∈ kinds, id ≠ JobKind.id kind) →
        db'.maintenanceJobs.find? id = db.maintenanceJobs.find? id) ∧
      db' = { db with maintenanceJobs := db'.maintenanceJobs } := by
  induction kinds with
  | nil =>
    intro db h
    rw [Txn.exec_forM_nil] at h
    obtain ⟨-, rfl⟩ := Prod.mk.inj (Except.ok.inj h)
    exact ⟨by simp, fun _ _ => rfl, rfl⟩
  | cons kind kinds ih =>
    intro db h
    obtain ⟨hfresh, hnd⟩ := List.nodup_cons.mp hnd
    rw [Txn.exec_forM_cons] at h
    obtain ⟨⟨⟨⟩, db₁⟩, h₁, h₂⟩ := Except.bind_eq_ok_iff.mp h
    obtain ⟨hrow, hframe₁⟩ := exec_registerJob h₁
    obtain ⟨hrows, hother, hframe₂⟩ := ih hnd h₂
    have hne : ∀ k ∈ kinds, k.id ≠ kind.id := fun k hk heq =>
      hfresh (JobKind.id_injective heq ▸ hk)
    refine ⟨fun k hk => ?_, fun id hid => ?_, ?_⟩
    · rcases List.mem_cons.mp hk with rfl | hk
      · rw [hother k.id fun k' hk' => (hne k' hk').symm, hrow, if_pos rfl]
      · rw [hrows k hk, hrow, if_neg (hne k hk)]
    · rw [hother id fun k hk => hid k (List.mem_cons_of_mem _ hk), hrow,
        if_neg (hid kind List.mem_cons_self)]
    · rw [hframe₂, hframe₁]

theorem exec_registerJobs_frame (h : (registerJobs config nowMs).exec db = .ok ((), db')) :
    db' = { db with maintenanceJobs := db'.maintenanceJobs } := by
  refine Txn.exec_forM_induction (P := fun s => s = { db with maintenanceJobs := s.maintenanceJobs })
    (fun kind _ s s' hexec hs => ?_) h rfl
  rw [(exec_registerJob hexec).2, hs]

/-- **The tables a reload leaves** are those of a synchronization, the
schedules apart. -/
theorem synced_of_reload {hostMap : Catalog} {policies : Option StoragePolicies} {now' : ℤ}
    (h : (reloadTransaction hostMap policies now now').exec db = .ok ((), db')) :
    Synced hostMap.hosts now db { db' with maintenanceJobs := db.maintenanceJobs } := by
  obtain ⟨⟨⟩, db₁, hsync, hjobs⟩ := Txn.exec_bind_eq_ok.mp h
  have hs := synced_of_exec hsync
  have hframe : db' = { db₁ with maintenanceJobs := db'.maintenanceJobs } := by
    cases policies with
    | none =>
      rw [Txn.exec_pure] at hjobs
      obtain ⟨-, rfl⟩ := Prod.mk.inj (Except.ok.inj hjobs)
      rfl
    | some config => exact exec_registerJobs_frame hjobs
  have heq : { db' with maintenanceJobs := db.maintenanceJobs } = db₁ := by
    rw [hframe, ← hs.maintenanceJobs]
  rwa [heq]

end Jobs

/-! ## Publishing -/

/-- What a reload leaves of the storage, once its transaction committed. -/
def published (storage : SqliteStorage) (hostMap : Catalog) (policies : Option StoragePolicies)
    (conn : Database) : SqliteStorage where
  hosts := hostMap
  historyPolicy := policies.elim storage.historyPolicy (·.history)
  inner :=
    { generation := storage.inner.generation + 1
      historyRetention := policies.elim storage.inner.historyRetention (·.historyRetention)
      historyConfig := policies.elim storage.inner.historyConfig (·.history)
      maintenanceConfig := policies.elim storage.inner.maintenanceConfig (·.maintenance)
      usage := storage.inner.usage.deleteWhere fun id _ => !sameAddress storage.hosts hostMap id
      conn
      usageSampleRetention := policies.elim storage.inner.usageSampleRetention (some ·.usageRetention) }

theorem nodup_of_dedup_length {l : List String} (h : l.dedup.length = l.length) : l.Nodup := by
  rw [← List.dedup_eq_self]
  exact (List.dedup_sublist l).eq_of_length h

/-- An ID that keeps its address is listed. -/
theorem sameAddress_imp_mem {current : Catalog} {id : String} (hnd : (hosts.map (·.id)).Nodup)
    (h : sameAddress current (Catalog.ofHosts hosts) id = true) : id ∈ (hosts.map (·.id)).dedup := by
  unfold sameAddress at h
  rcases ho : current.get id with - | old
  · simp [ho] at h
  · rcases hn : (Catalog.ofHosts hosts).get id with - | new
    · simp [ho, hn] at h
    · obtain ⟨hmem, rfl⟩ := (Catalog.get_ofHosts hnd).mp hn
      exact List.mem_dedup.mpr (List.mem_map_of_mem (f := fun h : Host => h.id) hmem)

/-- The second pass over the cache finds nothing to drop. -/
theorem deleteWhere_unlisted {current hostMap : Catalog} {ids : List String}
    (usage : Table String UsageSnapshot)
    (h : ∀ id, sameAddress current hostMap id = true → id ∈ ids) :
    ((usage.deleteWhere fun id _ => !sameAddress current hostMap id).deleteWhere
      fun id _ => !ids.contains id) =
    usage.deleteWhere fun id _ => !sameAddress current hostMap id := by
  rw [Table.deleteWhere_deleteWhere]
  congr 1
  funext id _
  by_cases hs : sameAddress current hostMap id = true
  · simp [hs, h id hs]
  · simp [hs]

/-- **A reload publishes everything or nothing.** -/
theorem replaceConfiguration_cases (faults : Faults) (now now' : ℤ) (hosts : List Host)
    (policies : Option StoragePolicies) (storage : SqliteStorage) :
    (∃ e, Program.run (replaceConfiguration faults now now' hosts policies) storage =
        (.error e, storage)) ∨
      ∃ conn, (hosts.map (·.id)).Nodup ∧
        (reloadTransaction (Catalog.ofHosts hosts) policies now now').exec storage.inner.conn =
          .ok ((), conn) ∧
        Program.run (replaceConfiguration faults now now' hosts policies) storage =
          (.ok (), published storage (Catalog.ofHosts hosts) policies conn) := by
  unfold replaceConfiguration
  by_cases hlen : (hosts.map (·.id)).dedup.length = hosts.length
  · have hnd : (hosts.map (·.id)).Nodup := nodup_of_dedup_length (by rw [hlen, List.length_map])
    simp only [hlen, ne_eq, not_true_eq_false, if_false, Program.run_bind, Program.run_get, run_lock]
    rcases hh : faults.poisoned .hosts with - | -
    · rcases hi : faults.poisoned .inner with - | -
      · rcases hp : faults.poisoned .historyPolicy with - | -
        · simp only [Bool.false_eq_true, if_false, Program.run_modify, Program.run_mk]
          rcases storage.inner.transaction_cases
              (reloadTransaction (Catalog.ofHosts hosts) policies now now') faults with
            ⟨e, h⟩ | ⟨⟨⟩, conn, hexec, h⟩
          · exact Or.inl ⟨e, by rw [h]⟩
          · refine Or.inr ⟨conn, hnd, hexec, ?_⟩
            -- the cache drops the hosts that are gone or moved
            have hdrop := deleteWhere_unlisted storage.inner.usage
              (fun id => @sameAddress_imp_mem _ storage.hosts id hnd)
            rw [h]
            cases policies with
            | none =>
              simp only [Program.run_bind, Program.run_modify, SqliteStorage.bumpGeneration,
                SqliteStorage.retainUsage, hdrop]
              rfl
            | some config =>
              simp only [Program.run_bind, Program.run_modify, SqliteStorage.publishPolicies,
                SqliteStorage.bumpGeneration, SqliteStorage.retainUsage, hdrop]
              rfl
        · exact Or.inl ⟨_, rfl⟩
      · exact Or.inl ⟨_, rfl⟩
    · exact Or.inl ⟨_, rfl⟩
  · simp only [hlen, ne_eq, not_false_eq_true, if_true, Program.run_bind, Program.run_throw]
    exact Or.inl ⟨_, rfl⟩

/-- A configuration is checked, and then published whole. -/
theorem updateConfiguration_cases (faults : Faults) (now now' : ℤ) (hosts : List Host)
    (policies : StoragePolicies) (storage : SqliteStorage) :
    (∃ e, Program.run (updateConfiguration faults now now' hosts policies) storage =
        (.error e, storage)) ∨
      ∃ conn, (hosts.map (·.id)).Nodup ∧
        (reloadTransaction (Catalog.ofHosts hosts) (some policies) now now').exec
          storage.inner.conn = .ok ((), conn) ∧
        Program.run (updateConfiguration faults now now' hosts policies) storage =
          (.ok (), published storage (Catalog.ofHosts hosts) (some policies) conn) := by
  rw [updateConfiguration, Program.run_bind, Program.run_mk]
  rcases policies.validate with e | ⟨⟨⟩⟩
  · exact Or.inl ⟨e, rfl⟩
  · exact replaceConfiguration_cases faults now now' hosts (some policies) storage

/-! ## Settings outside a reload -/

theorem setHistoryRetention_cases (faults : Faults) (duration : ℕ) (storage : SqliteStorage) :
    (∃ e, Program.run (setHistoryRetention faults duration) storage = (.error e, storage)) ∨
      Program.run (setHistoryRetention faults duration) storage = (.ok (), { storage with
        inner := { storage.inner with historyRetention := duration } }) := by
  unfold setHistoryRetention
  rcases hvalid : orInvalidData (validateDuration duration) with e | ⟨⟨⟩⟩
  · exact Or.inl ⟨e, by simp only [Program.run_bind, Program.run_mk]⟩
  · rcases hp : faults.poisoned .inner with - | -
    · refine Or.inr ?_
      simp only [Program.run_bind, Program.run_mk, run_lock, hp]
      rfl
    · refine Or.inl ⟨.lockPoisoned, ?_⟩
      simp only [Program.run_bind, Program.run_mk, run_lock, hp, if_true]

theorem setUsageSampleRetention_cases (faults : Faults) (retention : Option ℕ)
    (storage : SqliteStorage) :
    (∃ e, Program.run (setUsageSampleRetention faults retention) storage = (.error e, storage)) ∨
      Program.run (setUsageSampleRetention faults retention) storage = (.ok (), { storage with
        inner := { storage.inner with usageSampleRetention := retention } }) := by
  have hset : ∀ storage : SqliteStorage, Program.run (do
      lock faults .inner
      modify fun storage =>
        { storage with inner := { storage.inner with usageSampleRetention := retention } }) storage =
      if faults.poisoned .inner then (.error .lockPoisoned, storage) else (.ok (), { storage with
        inner := { storage.inner with usageSampleRetention := retention } }) := by
    intro storage
    rw [Program.run_bind, run_lock]
    split_ifs <;> rfl
  have hcases := hset storage
  unfold setUsageSampleRetention
  rcases retention with - | duration
  · split_ifs at hcases with hp
    · exact Or.inl ⟨_, hcases⟩
    · exact Or.inr hcases
  · rcases hvalid : orInvalidData (validateDuration duration) with e | ⟨⟨⟩⟩
    · exact Or.inl ⟨e, by simp only [Program.run_bind, Program.run_mk, hvalid]⟩
    · simp only [Program.run_bind, Program.run_mk, hvalid] at hcases ⊢
      split_ifs at hcases with hp
      · exact Or.inl ⟨_, hcases⟩
      · exact Or.inr hcases

/-- **New intervals** are registered and published, or nothing is. -/
theorem configureMaintenance_cases (faults : Faults) (now : ℤ) (history : HistoryConfig)
    (maintenance : MaintenanceConfig) (storage : SqliteStorage) :
    (∃ e, Program.run (configureMaintenance faults now history maintenance) storage =
        (.error e, storage)) ∨
      ∃ conn, maintenance.validate = .ok () ∧
        (registerJobs maintenance (timestampMillis now)).exec storage.inner.conn = .ok ((), conn) ∧
        Program.run (configureMaintenance faults now history maintenance) storage =
          (.ok (), { storage with
            historyPolicy := history
            inner := { storage.inner with
              conn, historyConfig := history, maintenanceConfig := maintenance } }) := by
  unfold configureMaintenance
  rcases hh : orInvalidData history.validate with e | ⟨⟨⟩⟩
  · exact Or.inl ⟨e, by simp only [Program.run_bind, Program.run_mk]⟩
  · rcases hm : orInvalidData maintenance.validate with e | ⟨⟨⟩⟩
    · exact Or.inl ⟨e, by simp only [Program.run_bind, Program.run_mk]⟩
    · rcases hi : faults.poisoned .inner with - | -
      · rcases hp : faults.poisoned .historyPolicy with - | -
        · simp only [Program.run_bind, Program.run_mk, run_lock, hi, hp, Program.run_get,
            Bool.false_eq_true, if_false]
          rcases storage.inner.transaction_cases
              (registerJobs maintenance (timestampMillis now)) faults with
            ⟨e, h⟩ | ⟨⟨⟩, conn, hexec, h⟩
          · exact Or.inl ⟨e, by simp only [h, Program.run_modify]⟩
          · refine Or.inr ⟨conn, Except.mapError_eq_ok_iff.mp hm, hexec, ?_⟩
            simp only [h, Program.run_modify]
        · refine Or.inl ⟨.lockPoisoned, ?_⟩
          simp only [Program.run_bind, Program.run_mk, run_lock, hi, hp, if_true,
            Bool.false_eq_true, if_false]
      · refine Or.inl ⟨.lockPoisoned, ?_⟩
        simp only [Program.run_bind, Program.run_mk, run_lock, hi, if_true]

end SimpleNetworkMonitor.Storage
