import SimpleNetworkMonitor.Storage.Model.Reload
/-!
# What a synchronization leaves

The transaction that aligns the database with an inventory, said once for
each table: which rows survive it, and what the others become. Every later
fact about a reload is read off here.
-/

namespace SimpleNetworkMonitor.Storage

/-! ## One host -/

/-- The ID of a host stands for another address than it did, or is new. -/
def resets (db : Database) (host : Host) : Bool :=
  (db.hostIdentity.find? host.id).all (·.address ≠ host.address)

/-- The coverage of a host does not go on: its usage is or was disabled, or
it is another target. -/
def uncovers (db : Database) (host : Host) : Bool :=
  resets db host || !host.modules.usage.enabled
    || (db.hostIdentity.find? host.id).any (!·.usageEnabled)

/-- What the inventory says an ID stands for. -/
def identityOf (host : Host) : Identity := ⟨host.address, host.modules.usage.enabled⟩

/-- The database after one host of an inventory. -/
def synced (db : Database) (host : Host) (h : host.id ∉ db.incomingHosts.keys) : Database :=
  { db with
    incomingHosts := db.incomingHosts.insertNew host.id () h
    latestStatus := if resets db host then db.latestStatus.erase host.id else db.latestStatus
    latestUsage := if resets db host then db.latestUsage.erase host.id else db.latestUsage
    usageCoverage := if uncovers db host then db.usageCoverage.erase host.id else db.usageCoverage
    hostIdentity := db.hostIdentity.upsert host.id (identityOf host) }

theorem orInvalidData_eq_ok {α : Type} {x : Except String α} {a : α} :
    orInvalidData x = .ok a ↔ x = .ok a := Except.mapError_eq_ok_iff

theorem exec_ofExcept_eq_ok {α : Type} {x : Except StorageError α} {db db' : Database} {a : α} :
    (Txn.ofExcept x : Sql α).exec db = .ok (a, db') ↔ x = .ok a ∧ db' = db := by
  rw [Txn.exec_ofExcept]
  cases x with
  | error e => simp [Except.map]
  | ok b => simp [Except.map, eq_comm]

theorem exec_insertIncomingHost {id : String} {db db' : Database} :
    (insertIncomingHost id).exec db = .ok ((), db') ↔ ∃ h : id ∉ db.incomingHosts.keys,
      db' = { db with incomingHosts := db.incomingHosts.insertNew id () h } := by
  rw [insertIncomingHost, Txn.exec_exec1]
  by_cases h : id ∈ db.incomingHosts.keys
  · simp [h]
  · simp [h, eq_comm]

variable {hosts : List Host} {host : Host} {db db' : Database} {now : ℤ} {id : String}

theorem exec_syncIdentity (h : (syncIdentity host).exec db = .ok ((), db')) :
    host.validate = .ok () ∧ ∃ hfresh, db' = synced db host hfresh := by
  obtain ⟨⟨⟩, db₁, hexec, h₁⟩ := Txn.exec_bind_eq_ok.mp h
  obtain ⟨hvalid, rfl⟩ := exec_ofExcept_eq_ok.mp hexec
  obtain ⟨⟨⟩, db₂, hincoming, h₂⟩ := Txn.exec_bind_eq_ok.mp h₁
  obtain ⟨hfresh, rfl⟩ := exec_insertIncomingHost.mp hincoming
  refine ⟨orInvalidData_eq_ok.mp hvalid, hfresh, ?_⟩
  obtain ⟨prior, db₃, hprior, h₃⟩ := Txn.exec_bind_eq_ok.mp h₂
  rw [Txn.exec_query] at hprior
  obtain ⟨rfl, rfl⟩ := Prod.mk.inj (Except.ok.inj hprior)
  have hresets : resets db₁ host = (db₁.hostIdentity.find? host.id).all (·.address ≠ host.address) :=
    rfl
  simp only [← hresets] at h₃
  by_cases hr : resets db₁ host = true
  · -- new or moved: nothing that was observed stays
    have hu : uncovers db₁ host = true := by simp [uncovers, hr]
    simp only [hr, if_true, deleteLatestStatus, deleteLatestUsage, deleteCoverage, upsertIdentity,
      Txn.exec_bind, Txn.exec_update] at h₃
    rw [synced, if_pos hr, if_pos hr, if_pos hu]
    exact (Prod.mk.inj (Except.ok.inj h₃)).2.symm
  · have hu : uncovers db₁ host = (!host.modules.usage.enabled
        || (db₁.hostIdentity.find? host.id).any (!·.usageEnabled)) := by simp [uncovers, hr]
    simp only [hr, ← hu] at h₃
    rw [synced, if_neg hr, if_neg hr]
    by_cases hcov : uncovers db₁ host = true
    · simp only [hcov, if_true, deleteCoverage, upsertIdentity] at h₃
      rw [if_pos hcov]
      exact (Prod.mk.inj (Except.ok.inj h₃)).2.symm
    · simp only [hcov, upsertIdentity] at h₃
      rw [if_neg hcov]
      exact (Prod.mk.inj (Except.ok.inj h₃)).2.symm

/-! ## The loop over an inventory -/

/-- The host of an ID in an inventory. -/
def listed (hosts : List Host) (id : String) : Option Host := hosts.find? fun host => host.id = id

theorem listed_cons_self (host : Host) (hosts : List Host) :
    listed (host :: hosts) host.id = some host := by
  simp [listed]

theorem listed_cons_of_ne (h : host.id ≠ id) (hosts : List Host) :
    listed (host :: hosts) id = listed hosts id := by
  simp [listed, h]

theorem listed_eq_none : listed hosts id = none ↔ ∀ host ∈ hosts, host.id ≠ id := by
  simp [listed]

theorem id_of_listed (h : listed hosts id = some host) : host.id = id := by
  simpa using List.find?_some h

theorem mem_of_listed (h : listed hosts id = some host) : host ∈ hosts :=
  List.mem_of_find?_eq_some h

theorem listed_of_mem (hnd : (hosts.map (·.id)).Nodup) (hmem : host ∈ hosts) :
    listed hosts host.id = some host := by
  rcases hl : listed hosts host.id with - | other
  · exact absurd rfl (listed_eq_none.mp hl host hmem)
  · rw [List.inj_on_of_nodup_map hnd (mem_of_listed hl) hmem (id_of_listed hl)]

/-- **What the loop leaves**, table by table. -/
structure SyncedHosts (hosts : List Host) (db db' : Database) : Prop where
  valid : ∀ host ∈ hosts, host.validate = .ok ()
  incoming : db'.incomingHosts.keys = db.incomingHosts.keys ++ hosts.map (·.id)
  latestStatus : ∀ id, db'.latestStatus.find? id =
    (db.latestStatus.find? id).filter fun _ => (listed hosts id).all (!resets db ·)
  latestUsage : ∀ id, db'.latestUsage.find? id =
    (db.latestUsage.find? id).filter fun _ => (listed hosts id).all (!resets db ·)
  usageCoverage : ∀ id, db'.usageCoverage.find? id =
    (db.usageCoverage.find? id).filter fun _ => (listed hosts id).all (!uncovers db ·)
  hostIdentity : ∀ id, db'.hostIdentity.find? id =
    ((listed hosts id).map identityOf).or (db.hostIdentity.find? id)
  frame : db' = { db with
    latestStatus := db'.latestStatus, latestUsage := db'.latestUsage
    usageCoverage := db'.usageCoverage, hostIdentity := db'.hostIdentity
    incomingHosts := db'.incomingHosts }

theorem filter_true {α : Type} (o : Option α) : o.filter (fun _ => true) = o := by
  cases o <;> rfl

/-- The row of a host goes where the host says so; the rows of the others
stay. -/
theorem find?_erase_if {α : Type} (t : Table String α) (p : Bool) :
    (if p then t.erase host.id else t).find? id =
      (t.find? id).filter fun _ => !(decide (host.id = id) && p) := by
  by_cases hid : host.id = id
  · subst hid
    cases p <;> simp [filter_true]
  · cases p
    · simp [filter_true]
    · simp [hid, filter_true, Table.find?_erase_of_ne (Ne.symm hid)]

/-- The verdicts of a list of hosts, one host after another. -/
theorem filter_listed_cons {α : Type} (o : Option α) (p q : Host → Bool)
    (hfresh : ∀ h ∈ hosts, h.id ≠ host.id) (hpq : ∀ h ∈ hosts, p h = q h) :
    ((o.filter fun _ => !(decide (host.id = id) && p host)).filter fun _ =>
        (listed hosts id).all (!q ·)) =
      o.filter fun _ => (listed (host :: hosts) id).all (!p ·) := by
  by_cases hid : host.id = id
  · subst hid
    rw [listed_cons_self, listed_eq_none.mpr hfresh]
    cases o <;> cases hp : p host <;> simp [hp]
  · rw [listed_cons_of_ne hid]
    rcases hl : listed hosts id with - | h
    · simp [hid]
    · rw [Option.all_some, Option.all_some, hpq h (mem_of_listed hl)]
      simp [hid]

theorem syncedHosts_of_exec :
    ∀ {hosts : List Host} {db : Database}, (hosts.forM syncIdentity).exec db = .ok (⟨⟩, db') →
      SyncedHosts hosts db db' := by
  intro hosts
  induction hosts with
  | nil =>
    intro db h
    rw [Txn.exec_forM_nil] at h
    obtain ⟨-, rfl⟩ := Prod.mk.inj (Except.ok.inj h)
    exact ⟨by simp, by simp, by simp [listed, filter_true], by simp [listed, filter_true],
      by simp [listed, filter_true], by simp [listed], rfl⟩
  | cons host hosts ih =>
    intro db h
    rw [Txn.exec_forM_cons] at h
    obtain ⟨⟨⟨⟩, db₁⟩, h₁, h₂⟩ := Except.bind_eq_ok_iff.mp h
    obtain ⟨hvalid, hfresh, rfl⟩ := exec_syncIdentity h₁
    have hrest := ih h₂
    have hincoming : db'.incomingHosts.keys
        = db.incomingHosts.keys ++ host.id :: hosts.map (·.id) := by
      rw [hrest.incoming]
      simp [synced, Table.keys, Table.insertNew]
    -- the primary key of the incoming hosts keeps IDs apart
    have hne : ∀ h ∈ hosts, h.id ≠ host.id := by
      have hnd := db'.incomingHosts.nodup
      rw [← Table.keys, hincoming] at hnd
      have hnot := (List.nodup_cons.mp (List.nodup_append.mp hnd).2.1).1
      exact fun h hh heq => hnot (heq ▸ List.mem_map_of_mem (f := fun h : Host => h.id) hh)
    -- so what this pass does is nothing to the hosts that follow
    have hidentity : ∀ h ∈ hosts, (synced db host hfresh).hostIdentity.find? h.id
        = db.hostIdentity.find? h.id := fun h hh => Table.find?_upsert_of_ne (hne h hh)
    have hresets : ∀ h ∈ hosts, resets db h = resets (synced db host hfresh) h := by
      intro h hh
      rw [resets, resets, hidentity h hh]
    have huncovers : ∀ h ∈ hosts, uncovers db h = uncovers (synced db host hfresh) h := by
      intro h hh
      rw [uncovers, uncovers, hresets h hh, hidentity h hh]
    refine ⟨?_, hincoming, fun id => ?_, fun id => ?_, fun id => ?_, fun id => ?_, ?_⟩
    · intro h hh
      rcases List.mem_cons.mp hh with rfl | hh
      · exact hvalid
      · exact hrest.valid h hh
    · rw [hrest.latestStatus, ← filter_listed_cons _ (resets db) _ hne hresets]
      exact congrArg (Option.filter _) (find?_erase_if db.latestStatus (resets db host))
    · rw [hrest.latestUsage, ← filter_listed_cons _ (resets db) _ hne hresets]
      exact congrArg (Option.filter _) (find?_erase_if db.latestUsage (resets db host))
    · rw [hrest.usageCoverage, ← filter_listed_cons _ (uncovers db) _ hne huncovers]
      exact congrArg (Option.filter _) (find?_erase_if db.usageCoverage (uncovers db host))
    · rw [hrest.hostIdentity]
      by_cases hid : host.id = id
      · subst hid
        rw [listed_cons_self, listed_eq_none.mpr hne]
        simp [synced]
      · rw [listed_cons_of_ne hid]
        exact congrArg (Option.or _) (Table.find?_upsert_of_ne (Ne.symm hid))
    · rw [hrest.frame]
      rfl

/-! ## The targets of TCP checks -/

/-- A row of `incoming_tcp` for a check of a host. -/
def targetRow (host : Host) (check : TcpCheckConfig) : (String × String) × String × ℕ :=
  ((host.id, check.id.value), host.address, check.port.get)

/-- Whether an inventory checks a port of an address under a key. -/
def isTarget (hosts : List Host) (key : String × String) (address : String) (port : ℕ) : Bool :=
  hosts.any fun host => host.modules.tcp.enabled &&
    host.modules.tcp.checks.any fun check => targetRow host check = (key, address, port)

theorem exec_insertIncomingTcp {check : TcpCheckConfig}
    (h : (insertIncomingTcp host check).exec db = .ok ((), db')) :
    (∀ r, r ∈ db'.incomingTcp.rows ↔ r ∈ db.incomingTcp.rows ∨ r = targetRow host check) ∧
      db' = { db with incomingTcp := db'.incomingTcp } := by
  rw [insertIncomingTcp, Txn.exec_exec1] at h
  by_cases hkey : (host.id, check.id.value) ∈ db.incomingTcp.keys
  · rw [dif_pos hkey] at h
    cases h
  · rw [dif_neg hkey] at h
    obtain ⟨-, rfl⟩ := Prod.mk.inj (Except.ok.inj h)
    exact ⟨fun r => Table.mem_insertNew (h := hkey), rfl⟩

theorem exec_incomingTcp
    (h : ((hosts.filter (·.modules.tcp.enabled)).forM fun host =>
      host.modules.tcp.checks.forM fun check => insertIncomingTcp host check).exec db =
        .ok (⟨⟩, db')) :
    (∀ r, r ∈ db'.incomingTcp.rows ↔ r ∈ db.incomingTcp.rows ∨
      ∃ host ∈ hosts.filter (·.modules.tcp.enabled), ∃ check ∈ host.modules.tcp.checks,
        r = targetRow host check) ∧
      db' = { db with incomingTcp := db'.incomingTcp } := by
  constructor
  · exact Txn.exec_forM_collects (R := fun db r => r ∈ db.incomingTcp.rows)
      (fun host _ _ _ h₁ => Txn.exec_forM_collects (R := fun db r => r ∈ db.incomingTcp.rows)
        (fun check _ _ _ h₂ => (exec_insertIncomingTcp h₂).1) h₁) h
  · have hframe : ∀ s s' : Database, s = { db with incomingTcp := s.incomingTcp } →
        s' = { s with incomingTcp := s'.incomingTcp } →
        s' = { db with incomingTcp := s'.incomingTcp } := by
      intro s s' hs hs'
      rw [hs', hs]
    exact Txn.exec_forM_induction (P := fun s => s = { db with incomingTcp := s.incomingTcp })
      (fun host _ s s' h₁ hs => Txn.exec_forM_induction
        (P := fun s => s = { db with incomingTcp := s.incomingTcp })
        (fun check _ s s' h₂ hs => hframe s s' hs (exec_insertIncomingTcp h₂).2) h₁ hs) h rfl

theorem exec_syncChecks (h : (syncChecks hosts).exec db = .ok ((), db')) :
    (∀ key, db'.latestTcp.find? key = (db.latestTcp.find? key).filter fun row =>
      isTarget hosts key row.address row.port) ∧
      db' = { db with incomingTcp := db'.incomingTcp, latestTcp := db'.latestTcp } := by
  obtain ⟨⟨⟩, db₁, hclear, h₁⟩ := Txn.exec_bind_eq_ok.mp h
  rw [Txn.exec_update] at hclear
  obtain ⟨-, rfl⟩ := Prod.mk.inj (Except.ok.inj hclear)
  obtain ⟨⟨⟩, db₂, hloop, hdelete⟩ := Txn.exec_bind_eq_ok.mp h₁
  obtain ⟨hrows, hframe⟩ := exec_incomingTcp hloop
  rw [Txn.exec_update] at hdelete
  obtain ⟨-, rfl⟩ := Prod.mk.inj (Except.ok.inj hdelete)
  refine ⟨fun key => ?_, ?_⟩
  · have htarget : ∀ row : LatestTcp,
        (!decide (db₂.incomingTcp.find? key ≠ some (row.address, row.port))) =
          isTarget hosts key row.address row.port := by
      intro row
      rw [Bool.eq_iff_iff, decide_not, Bool.not_not, decide_eq_true_eq, Table.find?_eq_some, hrows]
      simp only [isTarget, List.any_eq_true, Bool.and_eq_true, decide_eq_true_eq]
      constructor
      · rintro (hnil | ⟨host, hhost, check, hcheck, heq⟩)
        · cases hnil
        · obtain ⟨hmem, henabled⟩ := List.mem_filter.mp hhost
          exact ⟨host, hmem, henabled, check, hcheck, heq.symm⟩
      · rintro ⟨host, hmem, henabled, check, hcheck, heq⟩
        exact Or.inr ⟨host, List.mem_filter.mpr ⟨hmem, henabled⟩, check, hcheck, heq.symm⟩
    have htcp : db₂.latestTcp = db.latestTcp := by rw [hframe]
    show (db₂.latestTcp.deleteWhere _).find? key = _
    rw [Table.find?_deleteWhere, htcp]
    exact congrArg (fun p => Option.filter p (db.latestTcp.find? key)) (funext htarget)
  · rw [hframe]

/-! ## The whole synchronization -/

/-- **What a synchronization leaves**, table by table. -/
structure Synced (hosts : List Host) (now : ℤ) (db db' : Database) : Prop where
  valid : ∀ host ∈ hosts, host.validate = .ok ()
  nodup : (hosts.map (·.id)).Nodup
  latestStatus : ∀ id, db'.latestStatus.find? id =
    (db.latestStatus.find? id).filter fun _ => (listed hosts id).any (!resets db ·)
  latestUsage : ∀ id, db'.latestUsage.find? id =
    (db.latestUsage.find? id).filter fun _ => (listed hosts id).any (!resets db ·)
  usageCoverage : ∀ id, db'.usageCoverage.find? id =
    (db.usageCoverage.find? id).filter fun _ => (listed hosts id).any (!uncovers db ·)
  hostIdentity : ∀ id, db'.hostIdentity.find? id = (listed hosts id).map identityOf
  latestTcp : ∀ key, db'.latestTcp.find? key =
    (db.latestTcp.find? key).filter fun row => isTarget hosts key row.address row.port
  history : db'.history = History.syncEpochs db.history hosts (timestampMillis now)
  transitions : db'.transitions = db.transitions
  usageSamples : db'.usageSamples = db.usageSamples
  usageHistory : db'.usageHistory = db.usageHistory
  retentionFloor : db'.retentionFloor = db.retentionFloor
  maintenanceJobs : db'.maintenanceJobs = db.maintenanceJobs

theorem mem_ids {ids : List String} (hids : ids = hosts.map (·.id)) :
    id ∈ ids ↔ (listed hosts id).isSome := by
  rw [hids, ← Option.ne_none_iff_isSome, ne_eq, listed_eq_none]
  simp

/-- The rows of departed hosts go with those the loop erased. -/
theorem filter_departed {α : Type} (o : Option α) (ids : List String) (p : Host → Bool)
    (hids : ids = hosts.map (·.id)) :
    ((o.filter fun _ => (listed hosts id).all p).filter fun _ => !decide (id ∉ ids)) =
      o.filter fun _ => (listed hosts id).any p := by
  have hmem : id ∈ ids ↔ (listed hosts id).isSome := mem_ids hids
  rcases hl : listed hosts id with - | host
  · have hnot : id ∉ ids := by rw [hmem, hl]; simp
    cases o <;> simp [hnot]
  · have hin : id ∈ ids := by rw [hmem, hl]; simp
    simp [hin]

theorem synced_of_exec (h : (syncIdentitiesInTransaction hosts now).exec db = .ok ((), db')) :
    Synced hosts now db db' := by
  obtain ⟨⟨⟩, db₁, hclear, h₁⟩ := Txn.exec_bind_eq_ok.mp h
  rw [clearIncomingHosts, Txn.exec_update] at hclear
  obtain ⟨-, rfl⟩ := Prod.mk.inj (Except.ok.inj hclear)
  obtain ⟨⟨⟩, db₂, hloop, h₂⟩ := Txn.exec_bind_eq_ok.mp h₁
  have hs := syncedHosts_of_exec hloop
  obtain ⟨⟨⟩, db₃, hdeparted, h₃⟩ := Txn.exec_bind_eq_ok.mp h₂
  simp only [deleteDeparted, Txn.exec_bind, Txn.exec_update] at hdeparted
  obtain ⟨-, rfl⟩ := Prod.mk.inj (Except.ok.inj hdeparted)
  obtain ⟨⟨⟩, db₄, hchecks, hepochs⟩ := Txn.exec_bind_eq_ok.mp h₃
  obtain ⟨htcp, hframe⟩ := exec_syncChecks hchecks
  rw [syncEpochs, Txn.exec_update] at hepochs
  obtain ⟨-, rfl⟩ := Prod.mk.inj (Except.ok.inj hepochs)
  have hids : db₂.incomingHosts.keys = hosts.map (·.id) := by
    rw [hs.incoming]
    simp [Table.keys]
  -- the loop says what happens to each host, the delete that the others go
  refine ⟨hs.valid, hids ▸ db₂.incomingHosts.nodup, fun id => ?_, fun id => ?_, fun id => ?_,
    fun id => ?_, fun key => ?_, ?_, ?_, ?_, ?_, ?_, ?_⟩
  · rw [congrArg Database.latestStatus hframe, Table.find?_deleteWhere, hs.latestStatus]
    exact filter_departed _ _ _ hids
  · rw [congrArg Database.latestUsage hframe, Table.find?_deleteWhere, hs.latestUsage]
    exact filter_departed _ _ _ hids
  · rw [congrArg Database.usageCoverage hframe, Table.find?_deleteWhere, hs.usageCoverage]
    exact filter_departed _ _ _ hids
  · rw [congrArg Database.hostIdentity hframe, Table.find?_deleteWhere, hs.hostIdentity]
    have hmem : id ∈ db₂.incomingHosts.keys ↔ (listed hosts id).isSome := mem_ids hids
    rcases hl : listed hosts id with - | host
    · have hnot : id ∉ db₂.incomingHosts.keys := by rw [hmem, hl]; simp
      cases db.hostIdentity.find? id <;> simp [hnot]
    · have hin : id ∈ db₂.incomingHosts.keys := by rw [hmem, hl]; simp
      simp [hin]
  · rw [htcp key, hs.frame]
  · show History.syncEpochs db₄.history hosts _ = _
    rw [hframe, hs.frame]
  · show db₄.transitions = _
    rw [hframe, hs.frame]
  · show db₄.usageSamples = _
    rw [hframe, hs.frame]
  · show db₄.usageHistory = _
    rw [hframe, hs.frame]
  · show db₄.retentionFloor = _
    rw [hframe, hs.frame]
  · show db₄.maintenanceJobs = _
    rw [hframe, hs.frame]

end SimpleNetworkMonitor.Storage
