import SimpleNetworkMonitor.History.Helpers.Inventory
import SimpleNetworkMonitor.Storage.Helpers.Sync
/-!
# Synchronizing an inventory

What a reload or a start does to the observations in the database: it drops
those of another target and keeps all others, it closes the epochs of checks
that changed and opens one for every check that has none, and done again it
finds nothing to do.
-/

namespace SimpleNetworkMonitor.Storage

variable {hosts : List Host} {host : Host} {db db' : Database} {now now' : ℤ} {id : String}

/-! ## A valid inventory is synchronized -/

theorem exec_syncIdentity_of_valid (hvalid : host.validate = .ok ())
    (hfresh : host.id ∉ db.incomingHosts.keys) :
    ∃ db', (syncIdentity host).exec db = .ok ((), db') := by
  have hincoming := exec_insertIncomingHost.mpr ⟨hfresh, rfl⟩
  unfold syncIdentity
  simp only [Txn.exec_bind, Txn.exec_ofExcept, orInvalidData, hvalid, Except.mapError, Except.map,
    Except.ok_bind, hincoming, Txn.exec_query]
  split_ifs
  · exact ⟨_, rfl⟩
  · exact ⟨_, rfl⟩
  · exact ⟨_, rfl⟩

/-- The rows of `incoming_hosts` for an inventory. -/
def incomingHostRows (hosts : List Host) : List (String × Unit) := hosts.map fun host => (host.id, ())

/-- The rows of `incoming_tcp` for an inventory. -/
def incomingTcpRows (hosts : List Host) : List ((String × String) × String × ℕ) :=
  (hosts.filter (·.modules.tcp.enabled)).flatMap fun host =>
    host.modules.tcp.checks.map (targetRow host)

theorem exec_syncIdentities_of_valid (hvalid : ∀ host ∈ hosts, host.validate = .ok ())
    (hnd : (hosts.map (·.id)).Nodup) (hempty : db.incomingHosts = ∅) :
    ∃ db', (hosts.forM syncIdentity).exec db = .ok (⟨⟩, db') ∧
      db'.incomingHosts.rows = incomingHostRows hosts := by
  refine Txn.exec_forM_total
    (P := fun done db' => Table.rows (Database.incomingHosts db') = incomingHostRows done)
    (fun done host rest s hl hs => ?_) (by rw [hempty]; rfl)
  have hkeys : s.incomingHosts.keys = done.map (·.id) := by
    simp only [Table.keys, hs, incomingHostRows, List.map_map, Function.comp_def]
  have hfresh : host.id ∉ s.incomingHosts.keys := by
    rw [hl, List.map_append, List.map_cons] at hnd
    intro hmem
    rw [hkeys] at hmem
    exact (List.disjoint_of_nodup_append hnd) hmem List.mem_cons_self
  have hmem : host ∈ hosts := hl ▸ List.mem_append_right _ List.mem_cons_self
  obtain ⟨s', hexec⟩ := exec_syncIdentity_of_valid (hvalid host hmem) hfresh
  obtain ⟨-, hfresh', rfl⟩ := exec_syncIdentity hexec
  refine ⟨_, hexec, ?_⟩
  simp only [synced, Table.insertNew, hs, incomingHostRows, List.map_append, List.map_cons,
    List.map_nil]

/-- No check target is listed twice. -/
theorem nodup_incomingTcpRows (hvalid : ∀ host ∈ hosts, host.validate = .ok ())
    (hnd : (hosts.map (·.id)).Nodup) : ((incomingTcpRows hosts).map Prod.fst).Nodup := by
  unfold incomingTcpRows
  have hnd' : ((hosts.filter (·.modules.tcp.enabled)).map (·.id)).Nodup :=
    (List.filter_sublist.map _).nodup hnd
  have hvalid' : ∀ host ∈ hosts.filter (·.modules.tcp.enabled), host.validate = .ok () :=
    fun host hmem => hvalid host (List.mem_of_mem_filter hmem)
  generalize hosts.filter (·.modules.tcp.enabled) = hosts at hnd' hvalid'
  induction hosts with
  | nil => exact List.nodup_nil
  | cons host hosts ih =>
    obtain ⟨hfresh, hnd⟩ := List.nodup_cons.mp hnd'
    rw [List.flatMap_cons, List.map_append, List.map_map]
    refine List.Nodup.append ?_ (ih hnd fun h hh => hvalid' h (List.mem_cons_of_mem _ hh)) ?_
    · refine List.Nodup.of_map Prod.snd ?_
      rw [List.map_map]
      exact Host.nodup_checkIds (hvalid' host List.mem_cons_self)
    · intro key hkey hkey'
      obtain ⟨check, -, rfl⟩ := List.mem_map.mp hkey
      obtain ⟨row, hrow, hfst⟩ := List.mem_map.mp hkey'
      obtain ⟨other, hother, hrow⟩ := List.mem_flatMap.mp hrow
      obtain ⟨check', -, rfl⟩ := List.mem_map.mp hrow
      exact hfresh (List.mem_map.mpr ⟨other, hother, congrArg Prod.fst hfst⟩)

theorem exec_insertIncomingTcp_of_fresh {check : TcpCheckConfig}
    (hfresh : (host.id, check.id.value) ∉ db.incomingTcp.keys) :
    ∃ db', (insertIncomingTcp host check).exec db = .ok (⟨⟩, db') ∧
      db'.incomingTcp.rows = db.incomingTcp.rows ++ [targetRow host check] := by
  rw [insertIncomingTcp, Txn.exec_exec1, dif_neg hfresh]
  exact ⟨_, rfl, rfl⟩

/-- The keys that are still to come are not there yet. -/
theorem fresh_of_rows {l done rest : List ((String × String) × String × ℕ)}
    {row : (String × String) × String × ℕ} {table : Table (String × String) (String × ℕ)}
    (hnd : (l.map Prod.fst).Nodup) (hl : l = done ++ row :: rest) (htable : table.rows = done) :
    row.1 ∉ table.keys := by
  intro hmem
  rw [hl, List.map_append, List.map_cons] at hnd
  rw [Table.keys, htable] at hmem
  exact (List.disjoint_of_nodup_append hnd) hmem List.mem_cons_self

/-- **The targets of a valid inventory** all go in. -/
theorem exec_incomingTcp_of_valid (hvalid : ∀ host ∈ hosts, host.validate = .ok ())
    (hnd : (hosts.map (·.id)).Nodup) (hempty : db.incomingTcp = ∅) :
    ∃ db', ((hosts.filter (·.modules.tcp.enabled)).forM fun host =>
        host.modules.tcp.checks.forM fun check => insertIncomingTcp host check).exec db =
          .ok (⟨⟩, db') ∧ db'.incomingTcp.rows = incomingTcpRows hosts := by
  have hrows := nodup_incomingTcpRows hvalid hnd
  unfold incomingTcpRows at hrows ⊢
  generalize hosts.filter (·.modules.tcp.enabled) = hosts at hrows ⊢
  -- two loops, over the hosts and over the checks of one; what is in so far is the invariant
  refine Txn.exec_forM_total (l := hosts)
    (P := fun done db' => Table.rows (Database.incomingTcp db') =
      done.flatMap fun host => host.modules.tcp.checks.map (targetRow host))
    (fun done host rest s hl hs => ?_) (by rw [hempty]; rfl)
  have hloop := Txn.exec_forM_total (l := host.modules.tcp.checks)
    (f := fun check => insertIncomingTcp host check) (s := s)
    (P := fun checks db' => Table.rows (Database.incomingTcp db') =
      (done.flatMap fun host => host.modules.tcp.checks.map (targetRow host)) ++
        checks.map (targetRow host))
    (fun checks check rest' s' hl' hs' => ?_) (by rw [hs, List.map_nil, List.append_nil])
  · obtain ⟨s', hexec, hs'⟩ := hloop
    refine ⟨s', hexec, ?_⟩
    rw [hs', List.flatMap_append, List.flatMap_cons, List.flatMap_nil, List.append_nil]
  · have hsplit : (hosts.flatMap fun host => host.modules.tcp.checks.map (targetRow host)) =
        ((done.flatMap fun host => host.modules.tcp.checks.map (targetRow host)) ++
          checks.map (targetRow host)) ++ targetRow host check ::
          (rest'.map (targetRow host) ++
            rest.flatMap fun host => host.modules.tcp.checks.map (targetRow host)) := by
      rw [hl, List.flatMap_append, List.flatMap_cons, hl', List.map_append, List.map_cons]
      simp only [List.append_assoc, List.cons_append]
    obtain ⟨s₁, hexec, hs₁⟩ := exec_insertIncomingTcp_of_fresh (fresh_of_rows hrows hsplit hs')
    refine ⟨s₁, hexec, ?_⟩
    rw [hs₁, hs', List.append_assoc, List.map_append]
    rfl

/-- **A valid inventory is synchronized**, and its rows are those of the
temporary tables. -/
theorem exists_exec_of_valid (hvalid : ∀ host ∈ hosts, host.validate = .ok ())
    (hnd : (hosts.map (·.id)).Nodup) (db : Database) (now : ℤ) :
    ∃ db', (syncIdentitiesInTransaction hosts now).exec db = .ok ((), db') ∧
      db'.incomingHosts.rows = incomingHostRows hosts ∧
      db'.incomingTcp.rows = incomingTcpRows hosts := by
  obtain ⟨db₁, hexec₁, hrows₁⟩ := exec_syncIdentities_of_valid hvalid hnd
    (show ({ db with incomingHosts := ∅ } : Database).incomingHosts = ∅ from rfl)
  obtain ⟨db₂, hexec₂⟩ : ∃ db₂, deleteDeparted.exec db₁ = .ok ((), db₂) := ⟨_, rfl⟩
  have hincoming₂ : db₂.incomingHosts = db₁.incomingHosts := by
    obtain ⟨-, rfl⟩ := Prod.mk.inj (Except.ok.inj hexec₂)
    rfl
  obtain ⟨db₃, hexec₃, hrows₃⟩ := exec_incomingTcp_of_valid hvalid hnd
    (show ({ db₂ with incomingTcp := ∅ } : Database).incomingTcp = ∅ from rfl)
  have hframe := (exec_incomingTcp hexec₃).2
  refine ⟨_, Txn.exec_bind_eq_ok.mpr ⟨(), _, rfl, Txn.exec_bind_eq_ok.mpr ⟨⟨⟩, db₁, hexec₁,
    Txn.exec_bind_eq_ok.mpr ⟨(), db₂, hexec₂, Txn.exec_bind_eq_ok.mpr ⟨(), _,
      Txn.exec_bind_eq_ok.mpr ⟨(), _, rfl, Txn.exec_bind_eq_ok.mpr ⟨⟨⟩, db₃, hexec₃, rfl⟩⟩,
      rfl⟩⟩⟩⟩, ?_, hrows₃⟩
  show db₃.incomingHosts.rows = _
  rw [hframe]
  exact (congrArg Table.rows hincoming₂).trans hrows₁

/-! ## A synchronization that finds nothing to do -/

/-- **The database is that of the inventory**: every row is of a host or a
target that is listed, under the identity it is listed with. -/
structure Aligned (hosts : List Host) (db : Database) : Prop where
  identity : ∀ host ∈ hosts, db.hostIdentity.find? host.id = some (identityOf host)
  coverage : ∀ host ∈ hosts, host.modules.usage.enabled = false →
    db.usageCoverage.find? host.id = none
  latestStatus : ∀ id ∈ db.latestStatus.keys, (listed hosts id).isSome
  latestUsage : ∀ id ∈ db.latestUsage.keys, (listed hosts id).isSome
  usageCoverage : ∀ id ∈ db.usageCoverage.keys, (listed hosts id).isSome
  hostIdentity : ∀ id ∈ db.hostIdentity.keys, (listed hosts id).isSome
  latestTcp : ∀ key row, (key, row) ∈ db.latestTcp.rows →
    isTarget hosts key row.address row.port = true
  history : History.Serving db.history (History.targets hosts)

/-- The keys that a filtered lookup finds are those the filter lets through. -/
theorem isSome_of_mem_keys {α : Type} {t t' : Table String α} {p : Host → Bool}
    (h : ∀ id, t'.find? id = (t.find? id).filter fun _ => (listed hosts id).any p)
    (hmem : id ∈ t'.keys) : (listed hosts id).isSome := by
  obtain ⟨v, hfind⟩ := Table.exists_find?_of_mem_keys hmem
  rw [h] at hfind
  rcases hl : listed hosts id with - | host
  · rw [hl] at hfind
    simp at hfind
  · rfl

theorem aligned_of_synced (hs : Synced hosts now db db') : Aligned hosts db' := by
  refine ⟨fun host hmem => ?_, fun host hmem hdisabled => ?_, fun id hmem => ?_, fun id hmem => ?_,
    fun id hmem => ?_, fun id hmem => ?_, fun key row hmem => ?_, ?_⟩
  · rw [hs.hostIdentity, listed_of_mem hs.nodup hmem]
    rfl
  · have huncovers : uncovers db host = true := by simp [uncovers, hdisabled]
    rw [hs.usageCoverage, listed_of_mem hs.nodup hmem]
    simp [huncovers]
  · exact isSome_of_mem_keys hs.latestStatus hmem
  · exact isSome_of_mem_keys hs.latestUsage hmem
  · exact isSome_of_mem_keys hs.usageCoverage hmem
  · obtain ⟨identity, hfind⟩ := Table.exists_find?_of_mem_keys hmem
    rw [hs.hostIdentity] at hfind
    obtain ⟨host, hl, -⟩ := Option.map_eq_some_iff.mp hfind
    rw [hl]
    rfl
  · have hfind := Table.find?_eq_some.mpr hmem
    rw [hs.latestTcp] at hfind
    exact (Option.filter_eq_some_iff.mp hfind).2
  · rw [hs.history]
    exact History.serving_syncEpochs _ _ (History.nodup_targetKeys hs.nodup hs.valid)

/-- A host that is aligned only goes into the temporary table. -/
theorem synced_of_aligned (h : Aligned hosts db) (hmem : host ∈ hosts)
    (incomingHosts : Table String Unit) (hfresh : host.id ∉ incomingHosts.keys) :
    synced { db with incomingHosts } host hfresh =
      { db with incomingHosts := incomingHosts.insertNew host.id () hfresh } := by
  have hidentity := h.identity host hmem
  have hresets : resets { db with incomingHosts } host = false := by
    simp [resets, hidentity, identityOf]
  have huncovers : uncovers { db with incomingHosts } host = !host.modules.usage.enabled := by
    rw [uncovers, hresets]
    simp [hidentity, identityOf]
  unfold synced
  rw [hresets, huncovers]
  simp only [Bool.false_eq_true, if_false]
  rw [Table.upsert_eq_self hidentity]
  rcases husage : host.modules.usage.enabled with - | -
  · simp only [Bool.not_false, if_true, Table.erase_eq_self (h.coverage host hmem husage)]
  · rfl

/-- **A synchronization changes nothing but its temporary tables** where the
database is that of the inventory already. -/
theorem exec_of_aligned (h : Aligned hosts db)
    (hexec : (syncIdentitiesInTransaction hosts now).exec db = .ok ((), db')) :
    db' = { db with incomingHosts := db'.incomingHosts, incomingTcp := db'.incomingTcp } := by
  obtain ⟨⟨⟩, db₁, hclear, h₁⟩ := Txn.exec_bind_eq_ok.mp hexec
  rw [clearIncomingHosts, Txn.exec_update] at hclear
  obtain ⟨-, rfl⟩ := Prod.mk.inj (Except.ok.inj hclear)
  obtain ⟨⟨⟩, db₂, hloop, h₂⟩ := Txn.exec_bind_eq_ok.mp h₁
  -- the hosts, one by one: each is already what its identity says
  have hdb₂ : db₂ = { db with incomingHosts := db₂.incomingHosts } := by
    refine Txn.exec_forM_induction (P := fun s => s = { db with incomingHosts := s.incomingHosts })
      (fun host hmem s s' hstep hs => ?_) hloop rfl
    obtain ⟨-, hfresh, rfl⟩ := exec_syncIdentity hstep
    clear hstep
    revert hfresh
    rw [hs]
    intro hfresh
    rw [synced_of_aligned h hmem]
  have hids : ∀ id, (listed hosts id).isSome → id ∈ db₂.incomingHosts.keys := by
    intro id hsome
    have hincoming := (syncedHosts_of_exec hloop).incoming
    have hkeys : db₂.incomingHosts.keys = hosts.map (·.id) := by
      rw [hincoming]
      simp [Table.keys]
    exact (mem_ids hkeys).mpr hsome
  obtain ⟨⟨⟩, db₃, hdeparted, h₃⟩ := Txn.exec_bind_eq_ok.mp h₂
  -- nobody has departed
  have hdb₃ : db₃ = db₂ := by
    simp only [deleteDeparted, Txn.exec_bind, Txn.exec_update] at hdeparted
    obtain ⟨-, rfl⟩ := Prod.mk.inj (Except.ok.inj hdeparted)
    have hall : ∀ {α : Type} (t : Table String α), (∀ id ∈ t.keys, (listed hosts id).isSome) →
        t.deleteWhere (fun id _ => decide (id ∉ db₂.incomingHosts.keys)) = t := by
      intro α t ht
      refine Table.deleteWhere_eq_self fun id v hmem => ?_
      simpa using hids id (ht id (Table.mem_keys_of_mem hmem))
    have hstatus := hall db₂.latestStatus (by rw [hdb₂]; exact h.latestStatus)
    have husage := hall db₂.latestUsage (by rw [hdb₂]; exact h.latestUsage)
    have hcoverage := hall db₂.usageCoverage (by rw [hdb₂]; exact h.usageCoverage)
    have hidentity := hall db₂.hostIdentity (by rw [hdb₂]; exact h.hostIdentity)
    simp only [hstatus, husage, hcoverage, hidentity]
  subst hdb₃
  obtain ⟨⟨⟩, db₄, hchecks, hepochs⟩ := Txn.exec_bind_eq_ok.mp h₃
  obtain ⟨⟨⟩, db₅, hclear, h₅⟩ := Txn.exec_bind_eq_ok.mp hchecks
  rw [Txn.exec_update] at hclear
  obtain ⟨-, rfl⟩ := Prod.mk.inj (Except.ok.inj hclear)
  obtain ⟨⟨⟩, db₆, hincoming, hdelete⟩ := Txn.exec_bind_eq_ok.mp h₅
  obtain ⟨hrows, hdb₆⟩ := exec_incomingTcp hincoming
  rw [Txn.exec_update] at hdelete
  obtain ⟨-, rfl⟩ := Prod.mk.inj (Except.ok.inj hdelete)
  -- every attempt stored is on a target that is still checked
  have htcp : db₆.latestTcp.deleteWhere (fun key row =>
      decide (db₆.incomingTcp.find? key ≠ some (row.address, row.port))) = db.latestTcp := by
    have hlatest : db₆.latestTcp = db.latestTcp := by rw [hdb₆, hdb₂]
    rw [hlatest]
    refine Table.deleteWhere_eq_self fun key row hmem => ?_
    have htarget := h.latestTcp key row hmem
    simp only [isTarget, List.any_eq_true, Bool.and_eq_true, decide_eq_true_eq] at htarget
    obtain ⟨host, hmem', henabled, check, hcheck, heq⟩ := htarget
    have hfind : db₆.incomingTcp.find? key = some (row.address, row.port) :=
      Table.find?_eq_some.mpr ((hrows _).mpr (Or.inr
        ⟨host, List.mem_filter.mpr ⟨hmem', henabled⟩, check, hcheck, heq.symm⟩))
    simp [hfind]
  rw [syncEpochs, Txn.exec_update] at hepochs
  obtain ⟨-, rfl⟩ := Prod.mk.inj (Except.ok.inj hepochs)
  -- the open epochs are those of the inventory
  have hhistory : History.syncEpochs db₆.history hosts (timestampMillis now) = db.history := by
    have hsame : db₆.history = db.history := by rw [hdb₆, hdb₂]
    rw [hsame]
    exact History.syncEpochs_of_serving h.history
  simp only [htcp, hhistory]
  rw [hdb₆, hdb₂]

/-! ## Which rows survive -/

/-- An ID that stands for the address it stood for. -/
def SameTarget (hosts : List Host) (db : Database) (id : String) : Prop :=
  ∃ host ∈ hosts, host.id = id ∧
    ∃ identity, db.hostIdentity.find? id = some identity ∧ identity.address = host.address

/-- And whose usage was collected, and is. -/
def StillCollected (hosts : List Host) (db : Database) (id : String) : Prop :=
  ∃ host ∈ hosts, host.id = id ∧ host.modules.usage.enabled = true ∧
    ∃ identity, db.hostIdentity.find? id = some identity ∧ identity.address = host.address ∧
      identity.usageEnabled = true

/-- A target that is still checked. -/
def StillChecked (hosts : List Host) (hostId checkId : String) (row : LatestTcp) : Prop :=
  ∃ host ∈ hosts, host.id = hostId ∧ host.modules.tcp.enabled = true ∧ host.address = row.address ∧
    ∃ check ∈ host.modules.tcp.checks, check.id.value = checkId ∧ check.port.get = row.port

/-- **What a synchronization does**, and no more. -/
structure Effect (hosts : List Host) (now : ℤ) (db db' : Database) : Prop where
  latestStatus : ∀ id state, db'.latestStatus.find? id = some state ↔
    db.latestStatus.find? id = some state ∧ SameTarget hosts db id
  latestUsage : ∀ id snapshot, db'.latestUsage.find? id = some snapshot ↔
    db.latestUsage.find? id = some snapshot ∧ SameTarget hosts db id
  usageCoverage : ∀ id coverage, db'.usageCoverage.find? id = some coverage ↔
    db.usageCoverage.find? id = some coverage ∧ StillCollected hosts db id
  latestTcp : ∀ hostId checkId row, db'.latestTcp.find? (hostId, checkId) = some row ↔
    db.latestTcp.find? (hostId, checkId) = some row ∧ StillChecked hosts hostId checkId row
  /-- An open epoch stays as it is where its check goes on; otherwise it is
  closed. -/
  epochs : ∀ id row, (id, row) ∈ db.history.epochs.rows → row.isOpen = true →
    ((id, row) ∈ db'.history.epochs.rows ↔ History.Continues hosts row) ∧
      (¬ History.Continues hosts row →
        (id, row.close (timestampMillis now)) ∈ db'.history.epochs.rows)
  /-- A check that an epoch was opened for goes on where it is enabled with
  the same settings. -/
  continues : ∀ row t, row.signature = History.signature t.1 t.2 →
    (History.Continues hosts row ↔
      ∃ t' ∈ History.targets hosts, History.targetKey t' = row.key ∧ History.SameCheck t' t)
  /-- Every enabled check has one open epoch, and every open epoch is of one. -/
  served : ∀ t ∈ History.targets hosts,
    ∃! id, ∃ row, (id, row) ∈ db'.history.epochs.rows ∧ History.Serves row t
  serves : ∀ id row, (id, row) ∈ db'.history.epochs.rows → row.isOpen = true →
    ∃! t, t ∈ History.targets hosts ∧ History.Serves row t
  again : ∀ now', (syncIdentitiesInTransaction hosts now').exec db' = .ok ((), db')

theorem any_not_resets (hnd : (hosts.map (·.id)).Nodup) :
    (listed hosts id).any (!resets db ·) = true ↔ SameTarget hosts db id := by
  rw [Option.any_eq_true]
  constructor
  · rintro ⟨host, hl, hkept⟩
    have hid := id_of_listed hl
    subst hid
    simp only [resets, Bool.not_eq_true', Option.all_eq_false, decide_eq_false_iff_not,
      Decidable.not_not] at hkept
    exact ⟨host, mem_of_listed hl, rfl, hkept⟩
  · rintro ⟨host, hmem, rfl, identity, hidentity, haddress⟩
    exact ⟨host, listed_of_mem hnd hmem, by simp [resets, hidentity, haddress]⟩

theorem any_not_uncovers (hnd : (hosts.map (·.id)).Nodup) :
    (listed hosts id).any (!uncovers db ·) = true ↔ StillCollected hosts db id := by
  rw [Option.any_eq_true]
  constructor
  · rintro ⟨host, hl, hkept⟩
    have hid := id_of_listed hl
    subst hid
    simp only [uncovers, resets, Bool.not_eq_true', Bool.or_eq_false_iff, Option.all_eq_false,
      decide_eq_false_iff_not, Decidable.not_not, Bool.not_eq_false'] at hkept
    obtain ⟨⟨⟨identity, hidentity, haddress⟩, henabled⟩, hany⟩ := hkept
    rw [hidentity] at hany
    exact ⟨host, mem_of_listed hl, rfl, henabled, identity, hidentity, haddress,
      by simpa using hany⟩
  · rintro ⟨host, hmem, rfl, henabled, identity, hidentity, haddress, husage⟩
    exact ⟨host, listed_of_mem hnd hmem,
      by simp [uncovers, resets, hidentity, haddress, henabled, husage]⟩

theorem isTarget_iff {hostId checkId : String} {row : LatestTcp} :
    isTarget hosts (hostId, checkId) row.address row.port = true ↔
      StillChecked hosts hostId checkId row := by
  simp only [isTarget, targetRow, List.any_eq_true, Bool.and_eq_true, decide_eq_true_eq,
    Prod.mk.injEq]
  constructor
  · rintro ⟨host, hmem, henabled, check, hcheck, ⟨hid, hcheckId⟩, haddress, hport⟩
    exact ⟨host, hmem, hid, henabled, haddress, check, hcheck, hcheckId, hport⟩
  · rintro ⟨host, hmem, hid, henabled, haddress, check, hcheck, hcheckId, hport⟩
    exact ⟨host, hmem, henabled, check, hcheck, ⟨hid, hcheckId⟩, haddress, hport⟩

theorem filter_eq_some_iff {α : Type} {o : Option α} {a : α} {p : Bool} {P : Prop}
    (h : p = true ↔ P) : (o.filter fun _ => p) = some a ↔ o = some a ∧ P := by
  rw [Option.filter_eq_some_iff, h]

/-- **Every enabled check has one open epoch**, and every open epoch is of one. -/
theorem existsUnique_of_serving {history : History.HistoryDb}
    (h : History.Serving history (History.targets hosts))
    (hkeys : ((History.targets hosts).map History.targetKey).Nodup) :
    (∀ t ∈ History.targets hosts,
      ∃! id, ∃ row, (id, row) ∈ history.epochs.rows ∧ History.Serves row t) ∧
    ∀ id row, (id, row) ∈ history.epochs.rows → row.isOpen = true →
      ∃! t, t ∈ History.targets hosts ∧ History.Serves row t := by
  constructor
  · intro t ht
    obtain ⟨id, row, hmem, hserves⟩ := h.served t ht
    refine ⟨id, ⟨row, hmem, hserves⟩, ?_⟩
    rintro id' ⟨row', hmem', hserves'⟩
    exact h.one id' row' id row hmem' hmem hserves'.1 hserves.1
      (hserves'.2.1.trans hserves.2.1.symm)
  · intro id row hmem hopen
    obtain ⟨t, ht, hserves⟩ := h.only id row hmem hopen
    refine ⟨t, ⟨ht, hserves⟩, ?_⟩
    rintro t' ⟨ht', hserves'⟩
    exact List.inj_on_of_nodup_map hkeys ht' ht (hserves'.2.1.symm.trans hserves.2.1)

theorem continues_iff {row : History.EpochRow} {t : Host × History.EpochCheck}
    (h : row.signature = History.signature t.1 t.2) :
    History.Continues hosts row ↔
      ∃ t' ∈ History.targets hosts, History.targetKey t' = row.key ∧ History.SameCheck t' t := by
  unfold History.Continues
  simp only [h, History.signature_eq_iff]

/-! ## The result -/

/-- **A synchronization has exactly its effect.** For every inventory of valid
hosts with different IDs, on every database in which a check has at most one
open epoch (the tables have an index for it), it succeeds, and leaves what
`Effect` says. -/
theorem synchronization_effect (hosts : List Host) (now : ℤ) (db : Database)
    (hvalid : ∀ host ∈ hosts, host.validate = .ok ()) (hnd : (hosts.map (·.id)).Nodup)
    (hone : History.OneActive db.history) :
    ∃ db', (syncIdentitiesInTransaction hosts now).exec db = .ok ((), db') ∧
      Effect hosts now db db' := by
  obtain ⟨db', hexec, hincoming, htcp⟩ := exists_exec_of_valid hvalid hnd db now
  have hs := synced_of_exec hexec
  have haligned := aligned_of_synced hs
  have hkeys := History.nodup_targetKeys hnd hvalid
  obtain ⟨hserved, hserves⟩ := existsUnique_of_serving haligned.history hkeys
  refine ⟨db', hexec, fun id state => ?_, fun id snapshot => ?_, fun id coverage => ?_,
    fun hostId checkId row => ?_, fun id row hmem hopen => ?_, fun row t h => continues_iff h,
    hserved, hserves, fun now' => ?_⟩
  · rw [hs.latestStatus]
    exact filter_eq_some_iff (any_not_resets hnd)
  · rw [hs.latestUsage]
    exact filter_eq_some_iff (any_not_resets hnd)
  · rw [hs.usageCoverage]
    exact filter_eq_some_iff (any_not_uncovers hnd)
  · rw [hs.latestTcp, Option.filter_eq_some_iff, isTarget_iff]
  · rw [hs.history]
    exact ⟨History.mem_syncEpochs_iff hone hkeys hmem hopen,
      History.closed_syncEpochs hone hkeys hmem hopen⟩
  · obtain ⟨db'', hexec', hincoming', htcp'⟩ := exists_exec_of_valid hvalid hnd db' now'
    have hsame := exec_of_aligned haligned hexec'
    have hhosts : db''.incomingHosts = db'.incomingHosts := Table.ext (hincoming'.trans hincoming.symm)
    have htargets : db''.incomingTcp = db'.incomingTcp := Table.ext (htcp'.trans htcp.symm)
    rw [hhosts, htargets] at hsame
    rw [hexec', hsame]

/-! ## A sample -/

/-- A host that is pinged. -/
def samplePingedHost : Host where
  id := "node-d"
  address := "192.0.2.4"
  name := "Node D"
  groups := ["b", "a"]
  modules := { icmp := { enabled := true } }

/-- The database of the sample host, with a status of it. -/
def samplePinged : Database :=
  match (syncIdentitiesInTransaction [samplePingedHost] 0).exec {} with
  | .ok ((), db) => { db with latestStatus := (∅ : Table String HostRuntimeState).upsert "node-d" {} }
  | .error _ => {}

/-- The host gets its groups in another order, and its usage is collected. -/
theorem samplePinged_effect :
    ∃ db', (syncIdentitiesInTransaction
        [{ samplePingedHost with
            groups := ["a", "b"]
            modules := { samplePingedHost.modules with usage := { enabled := true } } }]
        1000000000).exec samplePinged = .ok ((), db') ∧
      Effect [{ samplePingedHost with
            groups := ["a", "b"]
            modules := { samplePingedHost.modules with usage := { enabled := true } } }]
        1000000000 samplePinged db' :=
  synchronization_effect _ 1000000000 samplePinged (by decide +kernel) (by decide +kernel) (by
    have hhistory : samplePinged.history = History.syncEpochs {} [samplePingedHost] 0 := by
      decide +kernel
    rw [hhistory]
    exact History.oneActive_syncEpochs (fun _ _ _ _ h => by cases h) _ _)

end SimpleNetworkMonitor.Storage
