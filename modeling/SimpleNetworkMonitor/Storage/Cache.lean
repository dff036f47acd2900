import SimpleNetworkMonitor.Storage.Helpers.Observing
import SimpleNetworkMonitor.Storage.Helpers.World
/-!
# The usage cache

Whether a collection goes to the usage history is decided by a cache in
memory. Whoever holds the writer mutex finds in it what the table of latest
usage holds, of the hosts in the catalog and of no others.
-/

namespace SimpleNetworkMonitor.Storage

/-- **The cache is durable**: it agrees with the table, and neither knows a
host that the catalog does not. -/
structure Durable (storage : SqliteStorage) : Prop extends Agrees storage where
  cached : ∀ id ∈ storage.inner.usage.keys, storage.hosts.containsKey id = true
  persisted : ∀ id ∈ storage.inner.conn.latestUsage.keys, storage.hosts.containsKey id = true

variable {storage : SqliteStorage} {hosts : List Host} {now now' : ℤ} {db db' : Database}

/-- The cache holds of every ID what the table holds. -/
theorem Durable.find?_eq (h : Durable storage) (id : String) :
    storage.inner.usage.find? id = storage.inner.conn.latestUsage.find? id := by
  rcases hkey : storage.hosts.containsKey id with - | -
  · have hcached : storage.inner.usage.find? id = none :=
      Table.find?_eq_none.mpr fun hmem => by simp [h.cached id hmem] at hkey
    have hpersisted : storage.inner.conn.latestUsage.find? id = none :=
      Table.find?_eq_none.mpr fun hmem => by simp [h.persisted id hmem] at hkey
    rw [hcached, hpersisted]
  · exact h.usage id hkey

/-! ## What keeps it -/

/-- A host that is listed is in the catalog that is collected from the list. -/
theorem containsKey_of_listed (hnd : (hosts.map (·.id)).Nodup) {id : String} {host : Host}
    (h : listed hosts id = some host) : (Catalog.ofHosts hosts).containsKey id = true := by
  have hget := (Catalog.get_ofHosts hnd).mpr ⟨mem_of_listed h, id_of_listed h⟩
  rw [Catalog.containsKey, hget]
  rfl

/-- What a synchronization leaves in the table is of hosts that are listed. -/
theorem containsKey_of_synced (hs : Synced hosts now db db') {id : String}
    (hmem : id ∈ db'.latestUsage.keys) : (Catalog.ofHosts hosts).containsKey id = true := by
  obtain ⟨snapshot, hfind⟩ := Table.exists_find?_of_mem_keys hmem
  rw [hs.latestUsage] at hfind
  rcases hl : listed hosts id with - | host
  · rw [hl] at hfind
    simp at hfind
  · exact containsKey_of_listed hs.nodup hl

theorem durable_opened (hs : Synced hosts now db db') : Durable (opened hosts db') := by
  refine ⟨agrees_opened hs, fun id hmem => ?_, fun id hmem => containsKey_of_synced hs hmem⟩
  obtain ⟨snapshot, hfind⟩ := Table.exists_find?_of_mem_keys hmem
  rw [show (opened hosts db').inner.usage = loadUsage hosts db'.latestUsage from rfl,
    find?_loadUsage] at hfind
  have hpersisted : db'.latestUsage.find? id = some snapshot := (Option.filter_eq_some_iff.mp hfind).1
  exact containsKey_of_synced hs (Table.mem_keys_of_find? hpersisted)

/-- **A reload** drops from the cache what it drops from the table. -/
theorem durable_published (h : Durable storage) (hnd : (hosts.map (·.id)).Nodup)
    {policies : Option StoragePolicies} {conn : Database}
    (hexec : (reloadTransaction (Catalog.ofHosts hosts) policies now now').exec storage.inner.conn =
      .ok ((), conn)) : Durable (published storage (Catalog.ofHosts hosts) policies conn) := by
  have hs := synced_of_reload hexec
  refine ⟨agrees_published h.toAgrees hs, fun id hmem => ?_, fun id hmem => ?_⟩
  · obtain ⟨snapshot, hrow⟩ := Table.mem_keys.mp hmem
    obtain ⟨-, hsame⟩ := Table.mem_deleteWhere.mp hrow
    have hsame : sameAddress storage.hosts (Catalog.ofHosts hosts) id = true := by simpa using hsame
    have hlisted := sameAddress_imp_mem hnd hsame
    obtain ⟨host, hhost, hid⟩ := List.mem_map.mp (List.mem_dedup.mp hlisted)
    have hget := (Catalog.get_ofHosts hnd).mpr ⟨hhost, hid⟩
    show (Catalog.ofHosts hosts).containsKey id = true
    rw [Catalog.containsKey, hget]
    rfl
  · have hkey := containsKey_of_synced hs hmem
    have hofHosts : ∀ id, (Catalog.ofHosts (Catalog.ofHosts hosts).hosts).containsKey id = true →
        (Catalog.ofHosts hosts).containsKey id = true := by
      intro id hkey
      obtain ⟨host, hget⟩ := Option.isSome_iff_exists.mp hkey
      obtain ⟨hhost, hid⟩ := (Catalog.get_ofHosts (Catalog.nodup_ids _)).mp hget
      rw [Catalog.containsKey, Catalog.get_eq_some.mpr ⟨hhost, hid⟩]
      rfl
    exact hofHosts id hkey

/-- **A collection** goes to the cache and to the table. -/
theorem durable_putUsage (h : Durable storage) {host : Host} (hget : storage.hosts.get host.id = some host)
    (snapshot : UsageSnapshot) (shouldInsertHistory : Bool) (usageSamples : Log UsageRow) :
    Durable { storage with inner := { storage.inner with
      conn := { storage.inner.conn.putUsage host snapshot shouldInsertHistory now with usageSamples }
      usage := storage.inner.usage.upsert host.id snapshot } } := by
  have hkeys : ∀ (table : Table String UsageSnapshot),
      (∀ id ∈ table.keys, storage.hosts.containsKey id = true) →
      ∀ id ∈ (table.upsert host.id snapshot).keys, storage.hosts.containsKey id = true := by
    intro table htable id hmem
    by_cases hid : id = host.id
    · rw [hid, Catalog.containsKey, hget]
      rfl
    · obtain ⟨snapshot', hfind⟩ := Table.exists_find?_of_mem_keys hmem
      rw [Table.find?_upsert_of_ne hid] at hfind
      exact htable id (Table.mem_keys_of_find? hfind)
  refine ⟨⟨h.identity, fun id hkey => ?_⟩, hkeys _ h.cached, hkeys _ h.persisted⟩
  show (storage.inner.usage.upsert host.id snapshot).find? id =
    (storage.inner.conn.latestUsage.upsert host.id snapshot).find? id
  by_cases hid : id = host.id
  · rw [hid, Table.find?_upsert_self, Table.find?_upsert_self]
  · rw [Table.find?_upsert_of_ne hid, Table.find?_upsert_of_ne hid]
    exact h.find?_eq id

/-- What touches neither the catalog, the cache nor the tables of identities
and usage. -/
theorem Durable.congr (h : Durable storage) {storage' : SqliteStorage}
    (hhosts : storage'.hosts = storage.hosts) (husage : storage'.inner.usage = storage.inner.usage)
    (hlatest : storage'.inner.conn.latestUsage = storage.inner.conn.latestUsage)
    (hidentity : storage'.inner.conn.hostIdentity = storage.inner.conn.hostIdentity) :
    Durable storage' := by
  refine ⟨⟨fun id => ?_, fun id hkey => ?_⟩, fun id hmem => ?_, fun id hmem => ?_⟩
  · rw [hidentity, hhosts]
    exact h.identity id
  · rw [husage, hlatest]
    exact h.find?_eq id
  · rw [hhosts]
    exact h.cached id (by rwa [husage] at hmem)
  · rw [hhosts]
    exact h.persisted id (by rwa [hlatest] at hmem)

/-- Maintenance does not look at the cache. -/
theorem usage_apply_of_isMaintenance {op : StorageOp} (hop : op.isMaintenance = true)
    (storage : SqliteStorage) : (op.apply storage).inner.usage = storage.inner.usage := by
  cases op with
  | pruneHistory scan faults now =>
    rcases pruneHistory_cases scan faults now storage with ⟨e, h⟩ | ⟨n, h⟩ <;>
      simp only [StorageOp.apply, h, SqliteStorage.withConn]
  | rollup faults now =>
    rcases rollup_cases faults now storage with ⟨e, h⟩ | ⟨done, h⟩ <;>
      simp only [StorageOp.apply, h, SqliteStorage.withConn]
  | prune scan faults now =>
    rcases prune_cases scan faults now storage with ⟨e, h⟩ | h <;>
      simp only [StorageOp.apply, h, SqliteStorage.withConn]
  | setHistoryRetention faults duration => exact (sameData_setHistoryRetention faults duration).usage
  | setUsageSampleRetention faults retention =>
    exact (sameData_setUsageSampleRetention faults retention).usage
  | configureMaintenance faults now history maintenance =>
    exact (sameData_configureMaintenance faults now history maintenance).usage
  | scheduleJobs jobs => rfl
  | updateCheckResult => cases hop
  | updateUsage => cases hop
  | updateTcp => cases hop
  | updateHosts => cases hop
  | updateConfiguration => cases hop

/-! ## A reload under way -/

/-- **What a reload has yet to assign** of what it committed. -/
def Reload.rest (reload : Reload) (storage : SqliteStorage) : SqliteStorage :=
  let trimmed (storage : SqliteStorage) :=
    storage.retainUsage ((reload.hosts.map (·.id)).dedup.contains ·)
  let replaced (storage : SqliteStorage) := trimmed { storage with hosts := reload.hostMap }
  let retained (storage : SqliteStorage) :=
    replaced (storage.retainUsage (sameAddress storage.hosts reload.hostMap))
  let bumped (storage : SqliteStorage) := retained storage.bumpGeneration
  match reload.stage with
  | .catalogLocked | .innerLocked | .locked => storage
  | .committed => bumped (reload.policies.elim storage fun config => storage.publishPolicies config)
  | .policiesPublished => bumped storage
  | .generationBumped => retained storage
  | .usageRetained => replaced storage
  | .catalogReplaced => trimmed storage
  | .cacheTrimmed | .innerReleased => storage

/-- A reload that has just committed comes to what it publishes. -/
theorem Reload.rest_committed (reload : Reload) (storage : SqliteStorage) (conn : Database)
    (hnd : (reload.hosts.map (·.id)).Nodup) :
    Reload.rest { reload with stage := .committed }
        { storage with inner := { storage.inner with conn } } =
      published storage reload.hostMap reload.policies conn := by
  have hdrop := deleteWhere_unlisted storage.inner.usage fun id =>
    @sameAddress_imp_mem _ storage.hosts id hnd
  obtain ⟨hosts, policies, stage⟩ := reload
  cases policies <;>
    simp only [Reload.rest, SqliteStorage.bumpGeneration, SqliteStorage.retainUsage, Option.elim,
      SqliteStorage.publishPolicies, Reload.hostMap, hdrop] <;> rfl

namespace World

variable {w w' : World}

/-- The storage as it is once the reload under way is over. -/
def settled (w : World) : SqliteStorage :=
  match w.reload with
  | some reload => reload.rest w.storage
  | none => w.storage

/-- Where the writer mutex is free, nothing is left to assign. -/
theorem settled_of_innerFree (h : w.innerFree = true) : w.settled = w.storage := by
  unfold settled
  rcases hreload : w.reload with - | ⟨hosts, policies, stage⟩
  · rfl
  · simp only [innerFree, hreload, Option.any_some, Reload.holdsInner] at h
    cases stage <;> first | rfl | simp at h

/-- The catalog that can be written under is the one that can be read. -/
theorem catalog_of_innerFree (h : w.innerFree = true) : w.catalog = w.storage.hosts := by
  unfold catalog
  rcases hreload : w.reload with - | ⟨hosts, policies, stage⟩
  · rfl
  · simp only [innerFree, hreload, Option.any_some, Reload.holdsInner] at h
    cases stage <;> first | rfl | simp at h

end World

/-! ## Writes -/

/-- A snapshot that tells something else of a host than the table does. -/
def Changed (db : Database) (hostId : String) (snapshot : UsageSnapshot) : Prop :=
  ∀ previous, db.latestUsage.find? hostId = some previous →
    snapshot.status ≠ previous.status ∨ snapshot.consoleUsers ≠ previous.consoleUsers ∨
      snapshot.remoteUsers ≠ previous.remoteUsers ∨ snapshot.error ≠ previous.error

/-- **What a write of usage leaves**: a row in the history exactly where the
snapshot tells something else than the table; nothing where it fails. -/
def Outcome.Recorded (outcome : Outcome) : Prop :=
  ∀ hostId snapshot, outcome.task.write = .usage hostId snapshot →
    (∀ e, outcome.result = .error e → outcome.after = outcome.before) ∧
    (outcome.result = .ok () → ∃ appended : Bool,
      (appended = true ↔ Changed outcome.before.inner.conn hostId snapshot) ∧
      outcome.after.inner.conn.usageHistory =
        if appended then outcome.before.inner.conn.usageHistory.append ⟨hostId, snapshot⟩
        else outcome.before.inner.conn.usageHistory)

/-- The cache is asked what the table says. -/
theorem Durable.all_differs (h : Durable storage) (hostId : String) (snapshot : UsageSnapshot) :
    (storage.inner.usage.find? hostId).all (snapshot.differsForHistory ·) = true ↔
      Changed storage.inner.conn hostId snapshot := by
  rw [h.find?_eq, Option.all_eq_true]
  refine forall_congr' fun previous => imp_congr_right fun _ => ?_
  simp only [UsageSnapshot.differsForHistory, Bool.or_eq_true, decide_eq_true_eq, or_assoc]

/-- The host a write of usage is about is the one that the catalog has. -/
theorem request_usage {write : Write} {catalog : Catalog} {host : Host} {snapshot : UsageSnapshot}
    (h : write.request catalog = .ok (.usage host snapshot)) :
    write = .usage host.id snapshot ∧ catalog.get host.id = some host := by
  cases write with
  | checkResult hostId state transition =>
    simp only [Write.request] at h
    split at h <;> cases h
  | usage hostId snapshot' =>
    simp only [Write.request] at h
    rcases hget : catalog.get hostId with - | host'
    · rw [hget] at h
      cases h
    · rw [hget] at h
      cases h
      obtain ⟨-, rfl⟩ := Catalog.get_eq_some.mp hget
      exact ⟨rfl, hget⟩
  | tcp hostId checkId snapshot' =>
    simp only [Write.request] at h
    rcases hget : catalog.get hostId with - | host'
    · rw [hget] at h
      cases h
    · rw [hget] at h
      obtain ⟨check, -, hcheck⟩ := Except.map_eq_ok_iff.mp h
      cases hcheck

theorem durable_performed (h : Durable storage) {write : Write} {request : Request} {inner : Inner}
    (hrequest : write.request storage.hosts = .ok request)
    (hperformed : Performed storage.inner now request inner) :
    Durable { storage with inner } := by
  cases hperformed with
  | checkResult hostId state transition => exact h.congr rfl rfl rfl rfl
  | usage host snapshot usageSamples hinsert =>
    exact durable_putUsage h (request_usage hrequest).2 snapshot _ usageSamples
  | tcp host check snapshot => exact h.congr rfl rfl rfl rfl

namespace World

variable {w w' : World}

/-- **What every world keeps** once the database is open. -/
structure Caching (w : World) : Prop where
  coherent : w.Coherent
  durable : Durable w.settled
  nodup : ∀ reload, w.reload = some reload → (reload.hosts.map (·.id)).Nodup
  recorded : ∀ outcome ∈ w.outcomes, outcome.Recorded

/-- What the invariant is about stays. -/
theorem Caching.mono (hw : w.Caching) (hcoherent : w'.Coherent) (hstorage : w'.storage = w.storage)
    (hreload : w'.reload = w.reload) (houtcomes : w'.outcomes = w.outcomes) : w'.Caching := by
  refine ⟨hcoherent, ?_, fun reload h => hw.nodup reload (hreload ▸ h), houtcomes ▸ hw.recorded⟩
  have hsettled : w'.settled = w.settled := by
    unfold settled
    rw [hstorage, hreload]
  rw [hsettled]
  exact hw.durable

/-- A write that is let through writes under the catalog it was made under. -/
theorem Caching.request (hw : w.Caching) {task : Task} (h : task ∈ w.tasks)
    (hfree : w.innerFree = true) (hgeneration : w.storage.inner.generation = task.handle)
    {request : Request} (hstate : task.state = .admitted request) :
    task.write.request w.storage.hosts = .ok request := by
  obtain ⟨catalog, hpub, hrequest⟩ := hw.coherent.request h hgeneration hstate
  have hcurrent := hw.coherent.current
  rw [hgeneration, hpub, catalog_of_innerFree hfree] at hcurrent
  obtain rfl := Option.some.inj hcurrent
  exact hrequest

/-- **A write that is done** is recorded. -/
theorem recorded_done (hdurable : Durable storage) {write : Write} {request : Request}
    {inner : Inner} (hrequest : write.request storage.hosts = .ok request)
    (hperformed : Performed storage.inner now request inner) {hostId : String}
    {snapshot : UsageSnapshot} (hwrite : write = .usage hostId snapshot) :
    ∃ appended : Bool, (appended = true ↔ Changed storage.inner.conn hostId snapshot) ∧
      inner.conn.usageHistory =
        if appended then storage.inner.conn.usageHistory.append ⟨hostId, snapshot⟩
        else storage.inner.conn.usageHistory := by
  cases hperformed with
  | checkResult hostId' state transition =>
    rw [hwrite, Write.request] at hrequest
    split at hrequest <;> cases hrequest
  | @usage host snapshot' appended usageSamples hinsert =>
    obtain ⟨hwrite', -⟩ := request_usage hrequest
    rw [hwrite] at hwrite'
    obtain ⟨rfl, rfl⟩ := Write.usage.inj hwrite'
    refine ⟨appended, ?_, rfl⟩
    rw [hinsert]
    exact hdurable.all_differs host.id snapshot
  | tcp host check snapshot' =>
    rw [hwrite, Write.request] at hrequest
    split at hrequest <;> cases hrequest

theorem caching_advance (hw : w.Caching) (i : ℕ) (faults : Faults) (now now' : ℤ) :
    (w.advance i faults now now').Caching := by
  have hcoherent := coherent_advance hw.coherent i faults now now'
  have h := hw.coherent.advanced i faults now now'
  generalize w.advance i faults now now' = w' at h hcoherent
  cases h with
  | stuck => exact hw
  | @failed task htask e =>
    refine ⟨hcoherent, hw.durable, hw.nodup, fun outcome houtcome => ?_⟩
    rcases List.mem_append.mp houtcome with houtcome | houtcome
    · exact hw.recorded outcome houtcome
    · obtain rfl := List.mem_singleton.mp houtcome
      exact fun hostId snapshot _ => ⟨fun _ _ => rfl, fun hok => by cases hok⟩
  | read htask hfree hready => exact hw.mono hcoherent rfl rfl rfl
  | admitted htask hstate => exact hw.mono hcoherent rfl rfl rfl
  | @done task request inner htask hstate hfree hgeneration hperformed hperform =>
    have hdurable : Durable w.storage := settled_of_innerFree hfree ▸ hw.durable
    have hrequest := hw.request (List.mem_of_getElem? htask) hfree hgeneration hstate
    refine ⟨hcoherent, ?_, hw.nodup, fun outcome houtcome => ?_⟩
    · have hfree' : (w.finish i task (.ok ()) faults now now' { w.storage with inner }).innerFree
          = true := hfree
      rw [settled_of_innerFree hfree']
      exact durable_performed hdurable hrequest hperformed
    · rcases List.mem_append.mp houtcome with houtcome | houtcome
      · exact hw.recorded outcome houtcome
      · obtain rfl := List.mem_singleton.mp houtcome
        exact fun hostId snapshot hwrite => ⟨fun e he => (by cases he), fun _ =>
          recorded_done hdurable hrequest hperformed hwrite⟩

/-- **A step of a reload** assigns what the rest of it says, and committing
leaves what it publishes. -/
theorem durable_reloadStep (hw : w.Caching) (faults : Faults) (now now' : ℤ) :
    Durable (w.reloadStep faults now now').settled := by
  unfold reloadStep
  rcases hreload : w.reload with - | ⟨hosts, policies, stage⟩
  · exact hw.durable
  · have hdurable := hw.durable
    have hnd := hw.nodup _ hreload
    simp only [settled, hreload] at hdurable
    rcases stage
    · simp only
      split_ifs
      · exact hdurable
      · exact hdurable
    · simp only
      split_ifs
      · exact hdurable
      · exact hdurable
    · simp only
      rcases w.storage.inner.transaction_cases
          (reloadTransaction (Catalog.ofHosts hosts) policies now now') faults with
        ⟨e, h⟩ | ⟨⟨⟩, conn, hexec, h⟩ <;> simp only [Reload.hostMap, h]
      · exact hdurable
      · show Durable (Reload.rest { (⟨hosts, policies, .locked⟩ : Reload) with stage := .committed } _)
        rw [Reload.rest_committed _ _ _ hnd]
        exact durable_published hdurable hnd hexec
    all_goals exact hdurable

/-- A reload goes on with the hosts it was asked for, or it is over. -/
theorem hosts_reloadStep {w : World} {faults : Faults} {now now' : ℤ} {reload : Reload}
    (h : (w.reloadStep faults now now').reload = some reload) :
    ∃ before, w.reload = some before ∧ reload.hosts = before.hosts := by
  unfold reloadStep at h
  rcases hreload : w.reload with - | before
  · simp [hreload] at h
  · refine ⟨before, rfl, ?_⟩
    obtain ⟨hosts, policies, stage⟩ := before
    have hto : ∀ (reload' : Reload) (stage' : ReloadStage) (storage : SqliteStorage),
        (w.reloadTo reload' stage' storage).reload = some reload → reload.hosts = reload'.hosts := by
      rintro reload' stage' storage hto
      obtain rfl := Option.some.inj hto
      rfl
    simp only [hreload] at h
    cases stage <;> simp only at h
    case catalogLocked | innerLocked =>
      split_ifs at h
      exact hto ⟨hosts, policies, _⟩ _ _ h
    case locked =>
      split at h
      · cases h
      · exact hto ⟨hosts, policies, _⟩ _ _ h
    case innerReleased => cases h
    all_goals exact hto ⟨hosts, policies, _⟩ _ _ h

theorem caching_reloadStep (hw : w.Caching) (faults : Faults) (now now' : ℤ) :
    (w.reloadStep faults now now').Caching := by
  refine ⟨coherent_reloadStep hw.coherent faults now now', durable_reloadStep hw faults now now',
    fun reload h => ?_, ?_⟩
  · obtain ⟨before, hbefore, hhosts⟩ := hosts_reloadStep h
    rw [hhosts]
    exact hw.nodup before hbefore
  · rw [outcomes_reloadStep]
    exact hw.recorded

/-- **Every event keeps it.** -/
theorem caching_step (event : Event) (hw : w.Caching) : (w.step event).Caching := by
  have hcoherent := coherent_step event hw.coherent
  cases event with
  | monitorGeneration faults =>
    refine hw.mono hcoherent ?_ ?_ ?_ <;> simp only [step] <;> split_ifs <;> try split
    all_goals rfl
  | call handle write =>
    refine hw.mono hcoherent ?_ ?_ ?_ <;> simp only [step] <;> split_ifs <;> rfl
  | advance i faults now now' => exact caching_advance hw i faults now now'
  | cancel i =>
    refine hw.mono hcoherent ?_ ?_ ?_ <;> simp only [step] <;> split <;> try split_ifs
    all_goals rfl
  | reload faults hosts policies =>
    simp only [step] at hcoherent ⊢
    split_ifs at hcoherent ⊢ with h
    · exact hw
    · simp only [Bool.or_eq_true, decide_eq_true_eq, not_or, Decidable.not_not] at h
      have hnd : (hosts.map (·.id)).Nodup :=
        nodup_of_dedup_length (by rw [h.1.1, List.length_map])
      have hnone : w.reload = none := by simpa [catalogFree] using h.2
      refine ⟨hcoherent, ?_, fun reload hreload => ?_, hw.recorded⟩
      · -- a reload that begins has assigned nothing yet
        have hdurable := hw.durable
        unfold settled at hdurable
        rw [hnone] at hdurable
        exact hdurable
      · obtain rfl := Option.some.inj hreload
        exact hnd
  | reloadStep faults now now' => exact caching_reloadStep hw faults now now'
  | maintain op =>
    simp only [step] at hcoherent ⊢
    split_ifs at hcoherent ⊢ with h
    · obtain ⟨hop, hfree⟩ := Bool.and_eq_true_iff.mp h
      have hm := maintained_apply hop w.storage
      have hdurable : Durable w.storage := settled_of_innerFree hfree ▸ hw.durable
      have hfree' : ({ w with storage := op.apply w.storage } : World).innerFree = true := hfree
      refine ⟨hcoherent, ?_, hw.nodup, hw.recorded⟩
      -- the writer mutex is free, so no reload is between its assignments
      rw [settled_of_innerFree hfree']
      exact hdurable.congr hm.hosts (usage_apply_of_isMaintenance hop w.storage) hm.latestUsage
        hm.hostIdentity
    · exact hw
  | clone read =>
    refine hw.mono hcoherent ?_ ?_ ?_ <;> simp only [step] <;> split_ifs <;> rfl
  | query reader =>
    refine hw.mono hcoherent ?_ ?_ ?_ <;> simp only [step] <;> split <;> rfl
  | restart faults now hosts =>
    simp only [step, newInitialized] at hcoherent ⊢
    rcases (syncIdentitiesInTransaction hosts now).transact_cases faults.sql
      w.storage.inner.conn with ⟨e, h⟩ | ⟨⟨⟩, conn, hexec, h⟩ <;> simp only [h] at hcoherent ⊢
    · exact hw
    · exact ⟨hcoherent, durable_opened (synced_of_exec hexec), fun _ hreload => (by cases hreload),
        hw.recorded⟩

/-- The world of a process that has just opened its database. -/
def opened (storage : SqliteStorage) : World := { storage, published := [storage.hosts] }

theorem caching_run {faults : Faults} {now : ℤ} {conn conn' : Database} {hosts : List Host}
    {storage : SqliteStorage} (hopen : newInitialized faults none now conn hosts = (.ok storage, conn'))
    (events : List Event) : (events.foldl step (opened storage)).Caching := by
  refine List.foldl_invariant (P := fun _ (w : World) => w.Caching)
    (fun _ _ w event _ hw => caching_step event hw) ?_
  obtain ⟨hsync, rfl⟩ := opened_of_newInitialized hopen
  exact ⟨⟨rfl, rfl, fun _ h => absurd h List.not_mem_nil, fun _ h => absurd h List.not_mem_nil⟩,
    durable_opened hsync, fun _ h => (by cases h), fun _ h => absurd h List.not_mem_nil⟩

end World

/-! ## The result -/

/-- **The change-detection cache is the durable latest usage.** From whatever
database is opened, whatever writes, reloads, maintenance and restarts follow
and however they fail or are interleaved: whenever the writer mutex is free,
cache and table hold the same snapshots, of hosts in the catalog; and every
write of usage that succeeded has put a row into the history exactly where its
snapshot told something else than the table did, while one that failed has
changed nothing. -/
theorem usage_cache_is_durable (faults : Faults) (now : ℤ) (conn conn' : Database)
    (hosts : List Host) (storage : SqliteStorage) (events : List Event)
    (hopen : newInitialized faults none now conn hosts = (.ok storage, conn')) :
    let w := events.foldl World.step (World.opened storage)
    (w.innerFree = true →
      (∀ id, w.storage.inner.usage.find? id = w.storage.inner.conn.latestUsage.find? id) ∧
      ∀ id ∈ w.storage.inner.conn.latestUsage.keys, w.storage.hosts.containsKey id = true) ∧
    ∀ outcome ∈ w.outcomes, outcome.Recorded := by
  intro w
  have hw : w.Caching := World.caching_run hopen events
  refine ⟨fun hfree => ?_, hw.recorded⟩
  have hdurable : Durable w.storage := World.settled_of_innerFree hfree ▸ hw.durable
  exact ⟨hdurable.find?_eq, hdurable.persisted⟩

/-! ## A sample -/

/-- A host whose usage is collected. -/
def sampleCollectedHost : Host where
  id := "node-c"
  address := "192.0.2.3"
  name := "Node C"
  groups := []
  modules := { usage := { enabled := true } }

/-- The storage that an empty database is opened into. -/
def sampleOpened : SqliteStorage :=
  match newInitialized {} none 0 {} [sampleCollectedHost] with
  | (.ok storage, _) => storage
  | (.error _, _) => {}

/-- A collection goes through all its steps. -/
def sampleWrite (handle seconds consoleUsers : ℕ) : List Event :=
  .call handle (.usage "node-c" (.success (fromSecs seconds) consoleUsers 0)) ::
    List.replicate 4 (.advance 0 {} (fromSecs seconds) (fromSecs seconds))

/-- Two collections that tell the same, a restart, and one that tells more. -/
def sampleWrites : List Event :=
  .monitorGeneration {} :: sampleWrite 0 0 1 ++ sampleWrite 0 300 1 ++
    [.restart {} (fromSecs 400) [sampleCollectedHost], .monitorGeneration {}] ++ sampleWrite 0 600 2

theorem sampleWrites_cached :
    let w := sampleWrites.foldl World.step (World.opened sampleOpened)
    (w.innerFree = true ∧ w.outcomes.length = 3 ∧ w.storage.inner.conn.usageHistory.rows.length = 2) ∧
      w.storage.inner.usage.find? "node-c" = w.storage.inner.conn.latestUsage.find? "node-c" :=
  ⟨by decide +kernel, ((usage_cache_is_durable {} 0 {} sampleOpened.inner.conn [sampleCollectedHost]
    sampleOpened sampleWrites (by decide +kernel)).1 (by decide +kernel)).1 "node-c"⟩

end SimpleNetworkMonitor.Storage
