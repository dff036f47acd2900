import SimpleNetworkMonitor.Storage.Helpers.Watched
/-!
# Observing a run

The tables know the usage of every ID as it was committed, and the process
agrees with them: its catalog is what the identities say, and its cache
holds the latest usage of the hosts in the catalog.
-/

namespace SimpleNetworkMonitor.Storage

/-- **The process agrees with its database.** -/
structure Agrees (storage : SqliteStorage) : Prop where
  identity : ∀ id, storage.inner.conn.hostIdentity.find? id =
    (storage.hosts.get id).map identityOf
  usage : ∀ id, storage.hosts.containsKey id = true →
    storage.inner.usage.find? id = storage.inner.conn.latestUsage.find? id

/-- The collections of one ID. -/
def ofHost (id : String) (observed : List UsageObservation) : List UsageObservation :=
  observed.filter (·.host.id = id)

/-- Every ID is watched. -/
def AllWatched (db : Database) (observed : List UsageObservation) : Prop :=
  ∀ id, ∃ old stretch, ofHost id observed = old ++ stretch ∧ Watched db id old stretch

/-- **What a run keeps**, with the collections it committed. -/
structure Observing (service : Service) (observed : List UsageObservation) : Prop where
  watched : AllWatched service.conn observed
  agrees : ∀ storage, service = .up storage → Agrees storage

/-- **The clock of a host only goes forward** from one collection to the
next. -/
def Increasing (observed : List UsageObservation) : Prop :=
  observed.Pairwise fun a b => a.host.id = b.host.id → a.collectedAt < b.collectedAt

instance (observed : List UsageObservation) : Decidable (Increasing observed) :=
  inferInstanceAs (Decidable (observed.Pairwise _))

variable {storage storage' : SqliteStorage} {observed : List UsageObservation}
variable {db db' : Database} {hosts : List Host} {now : ℤ}

theorem increasing_ofHost (h : Increasing observed) (id : String) :
    (ofHost id observed).Pairwise fun a b => a.collectedAt < b.collectedAt := by
  have hfilter : (ofHost id observed).Pairwise
      fun a b => a.host.id = b.host.id → a.collectedAt < b.collectedAt := h.filter _
  refine hfilter.imp_of_mem fun {a b} ha hb hlt => hlt ?_
  have ha' := (List.mem_filter.mp ha).2
  have hb' := (List.mem_filter.mp hb).2
  simp only [decide_eq_true_eq] at ha' hb'
  rw [ha', hb']

/-! ## Databases -/

theorem allWatched_synced (hs : Synced hosts now db db') (h : AllWatched db observed) :
    AllWatched db' observed := by
  intro id
  obtain ⟨old, stretch, hsplit, hw⟩ := h id
  rcases watched_synced hs hw with hw' | hw'
  · exact ⟨old, stretch, hsplit, hw'⟩
  · exact ⟨old ++ stretch, [], by rw [hsplit, List.append_nil], hw'⟩

/-- What touches none of the tables of usage. -/
theorem allWatched_congr (h : AllWatched db observed) (hlatest : db'.latestUsage = db.latestUsage)
    (hidentity : db'.hostIdentity = db.hostIdentity)
    (hcoverage : db'.usageCoverage = db.usageCoverage)
    (hhistory : db'.usageHistory = db.usageHistory)
    (hfloor : db'.retentionFloor = db.retentionFloor) : AllWatched db' observed := by
  intro id
  obtain ⟨old, stretch, hsplit, hw⟩ := h id
  refine ⟨old, stretch, hsplit, hw.congr (by rw [hlatest]) (by rw [hidentity]) (by rw [hcoverage])
    (fun r hr _ => hhistory ▸ hr) (fun t => ?_) hfloor⟩
  unfold rowAt
  rw [hhistory]

/-! ## Processes -/

/-- **The cache of a fresh process** is what is persisted of its hosts. -/
theorem find?_loadUsage (hosts : List Host) (persisted : Table String UsageSnapshot) (id : String) :
    (loadUsage hosts persisted).find? id =
      (persisted.find? id).filter fun _ => hosts.any (·.id = id) := by
  revert id
  refine List.foldl_invariant (P := fun done usage => ∀ id, Table.find? usage id =
    (persisted.find? id).filter fun _ => done.any fun host : Host => host.id = id) (fun done rest usage host _ h id => ?_)
    fun id => ?_
  · rcases hp : persisted.find? host.id with - | snapshot
    · show usage.find? id = _
      rw [h id, List.any_append]
      by_cases hid : host.id = id
      · rw [← hid, hp]
        rfl
      · simp [hid]
    · show (usage.upsert host.id snapshot).find? id = _
      by_cases hid : host.id = id
      · subst hid
        rw [Table.find?_upsert_self, hp]
        simp [Option.filter]
      · rw [Table.find?_upsert_of_ne (Ne.symm hid), h id, List.any_append]
        simp [hid]
  · cases persisted.find? id <;> rfl

theorem agrees_opened (hs : Synced hosts now db db') : Agrees (opened hosts db') where
  identity id := by
    rw [show (opened hosts db').inner.conn = db' from rfl, hs.hostIdentity]
    refine congrArg _ (Option.ext fun host => ?_)
    rw [show (opened hosts db').hosts = Catalog.ofHosts hosts from rfl,
      Catalog.get_ofHosts hs.nodup]
    constructor
    · intro h
      exact ⟨mem_of_listed h, id_of_listed h⟩
    · rintro ⟨hmem, rfl⟩
      rcases hl : listed hosts host.id with - | host'
      · exact absurd rfl (listed_eq_none.mp hl host hmem)
      · rw [List.inj_on_of_nodup_map hs.nodup (mem_of_listed hl) hmem (id_of_listed hl)]
  usage id hkey := by
    obtain ⟨host, hget⟩ := Option.isSome_iff_exists.mp hkey
    obtain ⟨hmem, hid⟩ := (Catalog.get_ofHosts hs.nodup).mp hget
    have hany : hosts.any (·.id = id) = true :=
      List.any_eq_true.mpr ⟨host, hmem, by simp [hid]⟩
    rw [show (opened hosts db').inner.usage = loadUsage hosts db'.latestUsage from rfl,
      find?_loadUsage, hany, filter_true]
    rfl

/-- An ID keeps its rows exactly where it keeps its address. -/
theorem not_resets_iff (h : Agrees storage) {hostMap : Catalog} {id : String} {host : Host}
    (hget : hostMap.get id = some host) :
    sameAddress storage.hosts hostMap id = !resets storage.inner.conn host := by
  obtain ⟨-, hid⟩ := Catalog.get_eq_some.mp hget
  unfold sameAddress resets
  rw [hid, h.identity, hget]
  rcases storage.hosts.get id with - | old
  · rfl
  · simp [identityOf]

theorem agrees_published (h : Agrees storage) {hostMap : Catalog} {conn : Database}
    {policies : Option StoragePolicies}
    (hs : Synced hostMap.hosts now storage.inner.conn
      { conn with maintenanceJobs := storage.inner.conn.maintenanceJobs }) :
    Agrees (published storage hostMap policies conn) where
  identity := hs.hostIdentity
  usage id hkey := by
    obtain ⟨host, hget⟩ : ∃ host, hostMap.get id = some host := Option.isSome_iff_exists.mp hkey
    have hlatest : conn.latestUsage.find? id =
        (storage.inner.conn.latestUsage.find? id).filter fun _ => !resets storage.inner.conn host := by
      rw [hs.latestUsage, show listed hostMap.hosts id = some host from hget]
      rfl
    have hcache : (published storage hostMap policies conn).inner.usage.find? id =
        (storage.inner.usage.find? id).filter fun _ => !resets storage.inner.conn host := by
      rw [show (published storage hostMap policies conn).inner.usage =
        storage.inner.usage.deleteWhere fun id _ => !sameAddress storage.hosts hostMap id from rfl,
        Table.find?_deleteWhere, Bool.not_not, not_resets_iff h hget]
    show _ = conn.latestUsage.find? id
    rw [hcache, hlatest]
    rcases hr : resets storage.inner.conn host with - | -
    · -- an address that is kept was in the catalog, and so in the cache
      have hsame := not_resets_iff h hget
      rw [hr] at hsame
      have hold : storage.hosts.containsKey id = true := by
        unfold sameAddress at hsame
        rcases ho : storage.hosts.get id with - | old
        · simp [ho] at hsame
        · simp [Catalog.containsKey, ho]
      rw [h.usage id hold]
    · simp

/-! ## Runs -/

theorem allWatched_append {host : Host} {snapshot : UsageSnapshot} {shouldInsertHistory : Bool}
    {usageSamples : Log UsageRow} (h : AllWatched db observed)
    (hincreasing : Increasing (observed ++ [⟨host, snapshot⟩]))
    (hidentity : (db.hostIdentity.find? host.id).map (·.address) = some host.address)
    (hvalid : snapshot.validate = .ok ())
    (hinsert : shouldInsertHistory =
      (db.latestUsage.find? host.id).all (snapshot.differsForHistory ·)) :
    AllWatched { db.putUsage host snapshot shouldInsertHistory now with usageSamples }
      (observed ++ [⟨host, snapshot⟩]) := by
  intro id
  obtain ⟨old, stretch, hsplit, hw⟩ := h id
  by_cases hid : host.id = id
  · subst hid
    have hall : ofHost host.id (observed ++ [⟨host, snapshot⟩]) =
        (old ++ stretch) ++ [⟨host, snapshot⟩] := by
      rw [← hsplit]
      simp [ofHost]
    refine ⟨old, stretch ++ [⟨host, snapshot⟩], by rw [hall, List.append_assoc],
      watched_putUsage hw (fun o ho => ?_) hidentity hvalid hinsert⟩
    have hlater := increasing_ofHost hincreasing host.id
    rw [hall] at hlater
    exact (List.pairwise_append.mp hlater).2.2 o ho _ (List.mem_singleton.mpr rfl)
  · refine ⟨old, stretch, ?_, watched_putUsage_of_ne hw (Ne.symm hid)⟩
    rw [← hsplit]
    simp [ofHost, hid]

/-- **What a call keeps.** -/
theorem observing_change {o : Option UsageObservation} (hc : Change storage o storage')
    (hincreasing : Increasing (observed ++ o.toList)) (h : Observing (.up storage) observed) :
    Observing (.up storage') (observed ++ o.toList) := by
  obtain ⟨hw, ha⟩ := h
  have hagrees := ha storage rfl
  have hw : AllWatched storage.inner.conn observed := hw
  suffices AllWatched storage'.inner.conn (observed ++ o.toList) ∧ Agrees storage' from
    ⟨this.1, fun _ he => Service.up.inj he ▸ this.2⟩
  cases hc with
  | settings hs =>
    rw [Option.toList_none, List.append_nil]
    refine ⟨by rw [hs.conn]; exact allWatched_congr hw rfl rfl rfl rfl rfl, ⟨fun id => ?_,
      fun id hkey => ?_⟩⟩
    · rw [hs.conn, hs.hosts]
      exact hagrees.identity id
    · rw [hs.conn, hs.usage]
      exact hagrees.usage id (by rwa [hs.hosts] at hkey)
  | checkResult state transition now hkey hcurrent =>
    rw [Option.toList_none, List.append_nil]
    exact ⟨allWatched_congr hw rfl rfl rfl rfl rfl, hagrees.identity, hagrees.usage⟩
  | tcp snapshot now hget hcheck hcurrent =>
    rw [Option.toList_none, List.append_nil]
    exact ⟨allWatched_congr hw rfl rfl rfl rfl rfl, hagrees.identity, hagrees.usage⟩
  -- only a collection is observed
  | @usage handle hostId host snapshot shouldInsertHistory usageSamples now hget hvalid hcurrent
      hinsert =>
    have hgetid : storage.hosts.get host.id = some host := by
      obtain ⟨hmem, rfl⟩ := Catalog.get_eq_some.mp hget
      exact hget
    have hkey : storage.hosts.containsKey host.id = true := by
      simp [Catalog.containsKey, hgetid]
    refine ⟨allWatched_append hw hincreasing ?_ hvalid ?_, hagrees.identity, fun id hkey' => ?_⟩
    · rw [hagrees.identity, hgetid]
      rfl
    · rw [← hagrees.usage host.id hkey]
      exact hinsert
    · show (storage.inner.usage.upsert host.id snapshot).find? id =
        (storage.inner.conn.latestUsage.upsert host.id snapshot).find? id
      by_cases hid : id = host.id
      · rw [hid, Table.find?_upsert_self, Table.find?_upsert_self]
      · rw [Table.find?_upsert_of_ne hid, Table.find?_upsert_of_ne hid]
        exact hagrees.usage id hkey'
  -- old rows go, and the stretches above the floor stay reported
  | pruned scan cutoff usageSamples =>
    rw [Option.toList_none, List.append_nil]
    refine ⟨fun id => ?_, hagrees.identity, hagrees.usage⟩
    obtain ⟨old, stretch, hsplit, hwatched⟩ := hw id
    exact ⟨old, stretch, hsplit, watched_putPruned hwatched scan cutoff usageSamples⟩
  | rolledUp config nowMs limit =>
    rw [Option.toList_none, List.append_nil]
    exact ⟨allWatched_congr hw rfl rfl rfl rfl rfl, hagrees.identity, hagrees.usage⟩
  | prunedHistory scan limit nowMs config usageRetention =>
    rw [Option.toList_none, List.append_nil]
    exact ⟨allWatched_congr hw rfl rfl rfl rfl rfl, hagrees.identity, hagrees.usage⟩
  | @published hosts now now' conn policies hnd hexec =>
    rw [Option.toList_none, List.append_nil]
    have hs := synced_of_reload hexec
    exact ⟨allWatched_congr (allWatched_synced hs hw) rfl rfl rfl rfl rfl, agrees_published hagrees hs⟩

/-- **Every run is observed**, where collections come in order. -/
theorem observing_run (ops : List ServiceOp) (h : Increasing (observations ops)) :
    Observing (Service.run ops) (observations ops) := by
  refine Service.run_observing (P := fun service observed =>
    Increasing observed → Observing service observed) (fun _ => ⟨fun id => ?_, ?_⟩)
    (fun op service observed ih hincreasing => ?_) ops h
  · exact ⟨[], [], rfl, watched_reset rfl rfl (by simp [Service.conn])⟩
  · rintro storage ⟨⟩
  · have hobserving := ih (List.pairwise_append.mp hincreasing).1
    cases op with
    | start faults readError now hosts =>
      rw [show ServiceOp.observed (.start faults readError now hosts) service = none from rfl,
        Option.toList_none, List.append_nil]
      rcases start_cases faults readError now hosts service with h | ⟨conn, hsync, h | h⟩ <;> rw [h]
      · exact ⟨hobserving.watched, by rintro storage ⟨⟩⟩
      · exact ⟨allWatched_synced hsync hobserving.watched, by rintro storage ⟨⟩⟩
      · exact ⟨allWatched_synced hsync hobserving.watched, fun _ he =>
          Service.up.inj he ▸ agrees_opened hsync⟩
    | call op =>
      cases service with
      | up storage => exact observing_change (op.change storage) hincreasing hobserving
      | down conn =>
        rw [show ServiceOp.observed (.call op) (.down conn) = none from rfl, Option.toList_none,
          List.append_nil]
        exact hobserving

end SimpleNetworkMonitor.Storage
