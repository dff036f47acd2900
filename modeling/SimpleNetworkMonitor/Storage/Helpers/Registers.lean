import SimpleNetworkMonitor.Storage.Helpers.Observing
import SimpleNetworkMonitor.Storage.Model.Commits
/-!
# The current observations are registers

Over every run of the service, the tables of current observations hold what
the registers of the abstract service hold.
-/

namespace SimpleNetworkMonitor.Storage

variable {service : Service} {storage storage' : SqliteStorage} {db db' : Database}
variable {past : List Commit} {hosts : List Host} {now : ℤ} {id : String}

/-! ## The registers follow the inventory -/

section Declared

variable {τ α : Type} [DecidableEq τ] {event : Commit → Option (RegisterEvent τ α)}
variable {tagOf : List Host → Option τ}

/-- An inventory declares what a register stands for, and nothing else does. -/
structure Declares (event : Commit → Option (RegisterEvent τ α)) (tagOf : List Host → Option τ) :
    Prop where
  nil : tagOf [] = none
  inventory : ∀ hosts, event (.inventory hosts) = some (.stands (tagOf hosts))
  writes : ∀ commit tag, event commit = some (.stands tag) → ∃ hosts, commit = .inventory hosts

@[simp] theorem inventory_append_inventory (past : List Commit) (hosts : List Host) :
    inventory (past ++ [.inventory hosts]) = hosts := by
  simp [inventory]

/-- Any other commit leaves the inventory. -/
theorem inventory_append_of_ne {commit : Commit} (h : ∀ hosts, commit ≠ .inventory hosts) :
    inventory (past ++ [commit]) = inventory past := by
  rw [inventory, List.foldl_append]
  cases commit with
  | inventory hosts => exact absurd rfl (h hosts)
  | status hostId state => rfl
  | usage hostId snapshot => rfl
  | tcp hostId checkId snapshot => rfl

theorem run_filterMap_of_none {commit : Commit} (h : event commit = none) :
    Register.run ((past ++ [commit]).filterMap event) =
      Register.run (past.filterMap event) := by
  simp [List.filterMap_append, h]

theorem run_filterMap_of_some {commit : Commit} {e : RegisterEvent τ α} (h : event commit = some e) :
    Register.run ((past ++ [commit]).filterMap event) =
      (Register.run (past.filterMap event)).step e := by
  rw [List.filterMap_append, ← Register.run_append]
  simp [h]

/-- **What a register stands for** is what the inventory says. -/
theorem Declares.tag_eq (h : Declares event tagOf) (past : List Commit) :
    (Register.run (past.filterMap event)).tag = tagOf (Storage.inventory past) := by
  induction past using List.reverseRecOn with
  | nil => exact h.nil.symm
  | append_singleton past commit ih =>
    rcases hcommit : event commit with - | e
    · rw [run_filterMap_of_none hcommit, ih, inventory_append_of_ne]
      rintro hosts rfl
      rw [h.inventory] at hcommit
      cases hcommit
    · rw [run_filterMap_of_some hcommit]
      cases e with
      | write value =>
        rw [Register.tag_write, ih, inventory_append_of_ne]
        rintro hosts rfl
        rw [h.inventory] at hcommit
        cases hcommit
      | stands tag =>
        obtain ⟨hosts, rfl⟩ := h.writes commit tag hcommit
        rw [h.inventory] at hcommit
        obtain rfl := RegisterEvent.stands.inj (Option.some.inj hcommit)
        rw [Register.tag_stands, inventory_append_inventory]

end Declared

theorem declares_status (id : String) :
    Declares (statusEvent id) fun hosts => (listed hosts id).map (·.address) where
  nil := rfl
  inventory _ := rfl
  writes commit tag h := by
    cases commit with
    | inventory hosts => exact ⟨hosts, rfl⟩
    | status hostId state => simp [statusEvent] at h
    | usage hostId snapshot => simp [statusEvent] at h
    | tcp hostId checkId snapshot => simp [statusEvent] at h

theorem declares_usage (id : String) :
    Declares (usageEvent id) fun hosts => (listed hosts id).map (·.address) where
  nil := rfl
  inventory _ := rfl
  writes commit tag h := by
    cases commit with
    | inventory hosts => exact ⟨hosts, rfl⟩
    | status hostId state => simp [usageEvent] at h
    | usage hostId snapshot => simp [usageEvent] at h
    | tcp hostId checkId snapshot => simp [usageEvent] at h

theorem declares_tcp (key : String × String) : Declares (tcpEvent key) (targetOf · key) where
  nil := rfl
  inventory _ := rfl
  writes commit tag h := by
    cases commit with
    | inventory hosts => exact ⟨hosts, rfl⟩
    | status hostId state => simp [tcpEvent] at h
    | usage hostId snapshot => simp [tcpEvent] at h
    | tcp hostId checkId snapshot => simp [tcpEvent] at h

theorem statusRegister_tag (past : List Commit) (id : String) :
    (statusRegister past id).tag = (listed (inventory past) id).map (·.address) :=
  (declares_status id).tag_eq past

theorem usageRegister_tag (past : List Commit) (id : String) :
    (usageRegister past id).tag = (listed (inventory past) id).map (·.address) :=
  (declares_usage id).tag_eq past

theorem tcpRegister_tag (past : List Commit) (key : String × String) :
    (tcpRegister past key).tag = targetOf (inventory past) key :=
  (declares_tcp key).tag_eq past

/-! ## Targets -/

theorem listed_ofHosts (hnd : (hosts.map (·.id)).Nodup) (id : String) :
    listed (Catalog.ofHosts hosts).hosts id = listed hosts id := by
  refine Option.ext fun host => ?_
  rw [show listed (Catalog.ofHosts hosts).hosts id = (Catalog.ofHosts hosts).get id from rfl,
    Catalog.get_ofHosts hnd]
  constructor
  · rintro ⟨hmem, rfl⟩
    exact listed_of_mem hnd hmem
  · intro h
    exact ⟨mem_of_listed h, id_of_listed h⟩

/-- A check is where the inventory says, and its ID is of no other check. -/
theorem targetOf_eq_some (hvalid : ∀ host ∈ hosts, host.validate = .ok ())
    (hnd : (hosts.map (·.id)).Nodup) {key : String × String} {address : String} {port : ℕ} :
    targetOf hosts key = some (address, port) ↔ isTarget hosts key address port = true := by
  obtain ⟨hostId, checkId⟩ := key
  rw [targetOf, isTarget, Option.bind_eq_some_iff]
  simp only [List.any_eq_true, Bool.and_eq_true, decide_eq_true_eq, targetRow, Prod.mk.injEq]
  constructor
  · rintro ⟨host, hlisted, htarget⟩
    split_ifs at htarget with henabled
    obtain ⟨check, hcheck, heq⟩ := Option.map_eq_some_iff.mp htarget
    obtain ⟨rfl, rfl⟩ := Prod.mk.inj heq
    exact ⟨host, mem_of_listed hlisted, henabled, check, List.mem_of_find?_eq_some hcheck,
      ⟨id_of_listed hlisted, by simpa using List.find?_some hcheck⟩, rfl, rfl⟩
  · rintro ⟨host, hmem, henabled, check, hcheck, ⟨rfl, rfl⟩, rfl, rfl⟩
    refine ⟨host, listed_of_mem hnd hmem, ?_⟩
    have hfound : (host.modules.tcp.checks.find? fun c => c.id.value = check.id.value) = some check := by
      rcases hf : host.modules.tcp.checks.find? fun c => decide (c.id.value = check.id.value) with - | found
      · exact absurd (List.find?_eq_none.mp hf check hcheck) (by simp)
      · -- the IDs of a valid host's checks are different
        have heq : found = check := List.inj_on_of_nodup_map
          (Host.nodup_checkIds (hvalid host hmem)) (List.mem_of_find?_eq_some hf) hcheck
          (by simpa using List.find?_some hf)
        rw [hf, heq]
    rw [if_pos henabled, hfound]
    rfl

/-! ## The tables -/

/-- The row that a register of attempts is in the table. -/
def rowOf (r : Register (String × ℕ) TcpSnapshot) : Option LatestTcp :=
  r.tag.bind fun target => r.value.map fun snapshot => ⟨target.1, target.2, snapshot⟩

/-- **The tables hold what the registers hold**, and identities are what the
inventory says. -/
structure InRegisters (db : Database) (past : List Commit) : Prop where
  valid : ∀ host ∈ inventory past, host.validate = .ok ()
  nodup : ((inventory past).map (·.id)).Nodup
  identity : ∀ id, db.hostIdentity.find? id = (listed (inventory past) id).map identityOf
  status : ∀ id, db.latestStatus.find? id = (statusRegister past id).value
  usage : ∀ id, db.latestUsage.find? id = (usageRegister past id).value
  tcp : ∀ key, db.latestTcp.find? key = rowOf (tcpRegister past key)

/-- What touches none of the current observations. -/
theorem InRegisters.congr (h : InRegisters db past) (hidentity : db'.hostIdentity = db.hostIdentity)
    (hstatus : db'.latestStatus = db.latestStatus) (husage : db'.latestUsage = db.latestUsage)
    (htcp : db'.latestTcp = db.latestTcp) : InRegisters db' past where
  valid := h.valid
  nodup := h.nodup
  identity id := by rw [hidentity, h.identity]
  status id := by rw [hstatus, h.status]
  usage id := by rw [husage, h.usage]
  tcp key := by rw [htcp, h.tcp]

theorem inRegisters_status (h : InRegisters db past) {host : Host}
    (hlisted : listed (inventory past) id = some host) (state : HostRuntimeState)
    (hidentity : db'.hostIdentity = db.hostIdentity)
    (hstatus : db'.latestStatus = db.latestStatus.upsert id state)
    (husage : db'.latestUsage = db.latestUsage) (htcp : db'.latestTcp = db.latestTcp) :
    InRegisters db' (past ++ [.status id state]) := by
  have hinventory : inventory (past ++ [.status id state]) = inventory past :=
    inventory_append_of_ne fun _ h => (by cases h)
  refine ⟨hinventory ▸ h.valid, hinventory ▸ h.nodup, fun id' => ?_, fun id' => ?_, fun id' => ?_,
    fun key => ?_⟩
  · rw [hidentity, h.identity, hinventory]
  · rw [hstatus, statusRegister]
    by_cases hid : id' = id
    · subst hid
      have htag := statusRegister_tag past id'
      rw [hlisted, statusRegister] at htag
      rw [Table.find?_upsert_self, run_filterMap_of_some (e := .write state) (by simp [statusEvent]),
        Register.value_write htag]
    · rw [Table.find?_upsert_of_ne hid, h.status,
        run_filterMap_of_none (by simp [statusEvent, Ne.symm hid]), statusRegister]
  · rw [husage, h.usage, usageRegister, usageRegister, run_filterMap_of_none rfl]
  · rw [htcp, h.tcp, tcpRegister, tcpRegister, run_filterMap_of_none rfl]

theorem inRegisters_usage (h : InRegisters db past) {host : Host}
    (hlisted : listed (inventory past) id = some host) (snapshot : UsageSnapshot)
    (hidentity : db'.hostIdentity = db.hostIdentity) (hstatus : db'.latestStatus = db.latestStatus)
    (husage : db'.latestUsage = db.latestUsage.upsert id snapshot)
    (htcp : db'.latestTcp = db.latestTcp) :
    InRegisters db' (past ++ [.usage id snapshot]) := by
  have hinventory : inventory (past ++ [.usage id snapshot]) = inventory past :=
    inventory_append_of_ne fun _ h => (by cases h)
  refine ⟨hinventory ▸ h.valid, hinventory ▸ h.nodup, fun id' => ?_, fun id' => ?_, fun id' => ?_,
    fun key => ?_⟩
  · rw [hidentity, h.identity, hinventory]
  · rw [hstatus, h.status, statusRegister, statusRegister, run_filterMap_of_none rfl]
  · rw [husage, usageRegister]
    by_cases hid : id' = id
    · subst hid
      have htag := usageRegister_tag past id'
      rw [hlisted, usageRegister] at htag
      rw [Table.find?_upsert_self,
        run_filterMap_of_some (e := .write snapshot) (by simp [usageEvent]), Register.value_write htag]
    · rw [Table.find?_upsert_of_ne hid, h.usage,
        run_filterMap_of_none (by simp [usageEvent, Ne.symm hid]), usageRegister]
  · rw [htcp, h.tcp, tcpRegister, tcpRegister, run_filterMap_of_none rfl]

theorem inRegisters_tcp (h : InRegisters db past) {key : String × String} {address : String}
    {port : ℕ} (htarget : targetOf (inventory past) key = some (address, port))
    (snapshot : TcpSnapshot) (hidentity : db'.hostIdentity = db.hostIdentity)
    (hstatus : db'.latestStatus = db.latestStatus) (husage : db'.latestUsage = db.latestUsage)
    (htcp : db'.latestTcp = db.latestTcp.upsert key ⟨address, port, snapshot⟩) :
    InRegisters db' (past ++ [.tcp key.1 key.2 snapshot]) := by
  have hinventory : inventory (past ++ [.tcp key.1 key.2 snapshot]) = inventory past :=
    inventory_append_of_ne fun _ h => (by cases h)
  refine ⟨hinventory ▸ h.valid, hinventory ▸ h.nodup, fun id' => ?_, fun id' => ?_, fun id' => ?_,
    fun key' => ?_⟩
  · rw [hidentity, h.identity, hinventory]
  · rw [hstatus, h.status, statusRegister, statusRegister, run_filterMap_of_none rfl]
  · rw [husage, h.usage, usageRegister, usageRegister, run_filterMap_of_none rfl]
  · rw [htcp, tcpRegister]
    by_cases hkey : key' = key
    · subst hkey
      have htag := tcpRegister_tag past key'
      rw [htarget, tcpRegister] at htag
      rw [Table.find?_upsert_self,
        run_filterMap_of_some (e := .write snapshot) (by simp [tcpEvent]), rowOf, Register.value_write htag,
        Register.tag_write, htag]
      rfl
    · rw [Table.find?_upsert_of_ne hkey, h.tcp,
        run_filterMap_of_none (by simp [tcpEvent, Ne.symm hkey]), tcpRegister]

/-- An attempt stays where its check is still on its target. -/
theorem rowOf_stands (hvalid : ∀ host ∈ hosts, host.validate = .ok ())
    (hnd : (hosts.map (·.id)).Nodup) (key : String × String)
    (r : Register (String × ℕ) TcpSnapshot) :
    ((rowOf r).filter fun row => isTarget hosts key row.address row.port) =
      rowOf (r.step (.stands (targetOf hosts key))) := by
  obtain ⟨tag, value⟩ := r
  rw [Register.step, rowOf, rowOf]
  rcases tag with - | target
  · rcases targetOf hosts key with - | target' <;> rfl
  · rcases value with - | snapshot
    · rcases targetOf hosts key with - | target' <;> simp
    · by_cases htarget : targetOf hosts key = some target
      · rw [htarget]
        simp [(targetOf_eq_some hvalid hnd).mp htarget]
      · have hno : isTarget hosts key target.1 target.2 = false := by
          rw [Bool.eq_false_iff]
          exact fun h => htarget ((targetOf_eq_some hvalid hnd).mpr h)
        rcases hnone : targetOf hosts key with - | target'
        · simp [hno]
        · have hne : ¬ target = target' := fun heq => htarget (by rw [hnone, heq])
          simp [hno, hne]

/-- **A synchronization is a declaration**: a row stays where its register
stands for what it stood for. -/
theorem inRegisters_synced {hosts' : List Host} (hs : Synced hosts' now db db')
    (hnd : (hosts.map (·.id)).Nodup) (hlisted : ∀ id, listed hosts' id = listed hosts id)
    (h : InRegisters db past) : InRegisters db' (past ++ [.inventory hosts]) := by
  have hkept : ∀ id, (listed hosts id).any (!resets db ·) = true ↔
      (∃ host, listed hosts id = some host) ∧
        (listed (inventory past) id).map (·.address) = (listed hosts id).map (·.address) := by
    intro id
    rcases hl : listed hosts id with - | host
    · simp
    · rw [Option.any_some, resets, id_of_listed hl, h.identity]
      rcases listed (inventory past) id with - | old <;> simp [identityOf]
  have hrow : ∀ {α : Type} (id : String) (r : Register String α),
      r.tag = (listed (inventory past) id).map (·.address) → (r.tag = none → r.value = none) →
      (r.value.filter fun _ => (listed hosts' id).any (!resets db ·)) =
        (r.step (.stands ((listed hosts id).map (·.address)))).value := by
    intro α id r htag hnone
    rw [hlisted, Register.step]
    by_cases hk : (listed hosts id).any (!resets db ·) = true
    · rw [hk, filter_true, htag, if_pos ((hkept id).mp hk).2]
    · have hgone : (r.value.filter fun _ => (listed hosts id).any (!resets db ·)) = none := by
        rw [Bool.eq_false_iff.mpr hk]
        cases r.value <;> rfl
      rw [hgone]
      split_ifs with heq
      · -- the ID is not listed, and was not
        rcases hl : listed hosts id with - | host
        · exact (hnone (by rw [heq, hl]; rfl)).symm
        · exact absurd ((hkept id).mpr ⟨⟨host, hl⟩, htag ▸ heq⟩) hk
      · rfl
  refine ⟨?_, ?_, fun id => ?_, fun id => ?_, fun id => ?_, fun key => ?_⟩
  · rw [inventory_append_inventory]
    intro host hmem
    exact hs.valid host (mem_of_listed ((hlisted host.id).trans (listed_of_mem hnd hmem)))
  · rwa [inventory_append_inventory]
  · rw [inventory_append_inventory, hs.hostIdentity, hlisted]
  · rw [hs.latestStatus, h.status, hrow id _ (statusRegister_tag past id) Register.value_eq_none,
      statusRegister, statusRegister,
      run_filterMap_of_some (e := .stands ((listed hosts id).map (·.address))) rfl]
  · rw [hs.latestUsage, h.usage, hrow id _ (usageRegister_tag past id) Register.value_eq_none,
      usageRegister, usageRegister,
      run_filterMap_of_some (e := .stands ((listed hosts id).map (·.address))) rfl]
  · have htarget : targetOf hosts key = targetOf hosts' key := by
      rw [targetOf, targetOf, hlisted]
    rw [hs.latestTcp, h.tcp, tcpRegister, tcpRegister,
      run_filterMap_of_some (e := .stands (targetOf hosts' key)) (by rw [← htarget]; rfl)]
    exact rowOf_stands hs.valid hs.nodup key _

/-! ## Runs -/

/-- **The service is what it committed**: its tables hold what the registers
hold, and its process has the inventory for its catalog. -/
structure Committed (service : Service) (past : List Commit) : Prop where
  tables : InRegisters service.conn past
  catalog : ∀ storage, service = .up storage →
    ∀ id, storage.hosts.get id = listed (inventory past) id

theorem Committed.up (h : InRegisters storage.inner.conn past)
    (hcatalog : ∀ id, storage.hosts.get id = listed (inventory past) id) :
    Committed (.up storage) past :=
  ⟨h, fun _ he => Service.up.inj he ▸ hcatalog⟩

/-- A call that commits an observation leaves the catalog. -/
theorem Committed.observed (h : Committed (.up storage) past) {commit : Commit}
    (hne : ∀ hosts, commit ≠ .inventory hosts)
    (htables : InRegisters storage'.inner.conn (past ++ [commit]))
    (hhosts : storage'.hosts = storage.hosts) : Committed (.up storage') (past ++ [commit]) :=
  .up htables fun id => by rw [hhosts, h.catalog storage rfl, inventory_append_of_ne hne]

/-- A call that commits no current observation. -/
theorem Committed.congr (h : Committed (.up storage) past)
    (hhosts : storage'.hosts = storage.hosts)
    (hidentity : storage'.inner.conn.hostIdentity = storage.inner.conn.hostIdentity)
    (hstatus : storage'.inner.conn.latestStatus = storage.inner.conn.latestStatus)
    (husage : storage'.inner.conn.latestUsage = storage.inner.conn.latestUsage)
    (htcp : storage'.inner.conn.latestTcp = storage.inner.conn.latestTcp) :
    Committed (.up storage') past :=
  .up (h.tables.congr hidentity hstatus husage htcp) fun id => by rw [hhosts, h.catalog storage rfl]

theorem Committed.settings (h : Committed (.up storage) past) (hs : SameData storage storage') :
    Committed (.up storage') past :=
  h.congr hs.hosts (by rw [hs.conn]) (by rw [hs.conn]) (by rw [hs.conn]) (by rw [hs.conn])

theorem Committed.published (h : Committed (.up storage) past) {now' : ℤ} {conn : Database}
    (policies : Option StoragePolicies) (hnd : (hosts.map (·.id)).Nodup)
    (hexec : (reloadTransaction (Catalog.ofHosts hosts) policies now now').exec storage.inner.conn =
      .ok ((), conn)) :
    Committed (.up (published storage (Catalog.ofHosts hosts) policies conn))
      (past ++ [.inventory hosts]) := by
  refine .up ((inRegisters_synced (synced_of_reload hexec) hnd (listed_ofHosts hnd) h.tables).congr
    rfl rfl rfl rfl) fun id => ?_
  rw [inventory_append_inventory, ← listed_ofHosts hnd]
  rfl

/-- **A call keeps it**, with what the call commits. -/
theorem committed_call (op : StorageOp) (h : Committed (.up storage) past) :
    Committed (.up (op.apply storage)) (past ++ (op.commit storage).toList) := by
  have hquiet : ∀ {storage'}, SameData storage storage' →
      Committed (.up storage') (past ++ []) := fun hs => by
    rw [List.append_nil]
    exact h.settings hs
  cases op with
  | updateCheckResult handle faults now hostId state transition =>
    rcases updateCheckResult_cases handle faults now hostId state transition storage with
      ⟨e, hrun⟩ | ⟨hkey, -, hrun⟩ <;> simp only [StorageOp.apply, StorageOp.commit, hrun]
    · exact hquiet (.refl storage)
    · obtain ⟨host, hget⟩ := Option.isSome_iff_exists.mp hkey
      rw [h.catalog storage rfl] at hget
      exact h.observed (fun _ he => by cases he)
        (inRegisters_status h.tables hget state rfl rfl rfl rfl) rfl
  | updateUsage handle faults now now' hostId snapshot =>
    rcases updateUsage_cases handle faults now now' hostId snapshot storage with
      ⟨e, hrun⟩ | ⟨host, _, _, hget, -, -, -, -, hrun⟩ <;>
      simp only [StorageOp.apply, StorageOp.commit, hrun]
    · exact hquiet (.refl storage)
    · obtain ⟨-, rfl⟩ := Catalog.get_eq_some.mp hget
      rw [h.catalog storage rfl] at hget
      exact h.observed (fun _ he => by cases he)
        (inRegisters_usage h.tables hget snapshot rfl rfl rfl rfl) rfl
  | updateTcp handle faults now hostId checkId snapshot =>
    rcases updateTcp_cases handle faults now hostId checkId snapshot storage with
      ⟨e, hrun⟩ | ⟨host, check, hget, hcheck, -, hrun⟩ <;>
      simp only [StorageOp.apply, StorageOp.commit, hrun]
    · exact hquiet (.refl storage)
    · obtain ⟨-, rfl⟩ := Catalog.get_eq_some.mp hget
      obtain ⟨hmem, rfl, henabled⟩ := findCheck_eq_ok hcheck
      rw [h.catalog storage rfl] at hget
      have htarget : targetOf (inventory past) (host.id, check.id.value) =
          some (host.address, check.port.get) := by
        rw [targetOf_eq_some h.tables.valid h.tables.nodup, isTarget, List.any_eq_true]
        refine ⟨host, mem_of_listed hget, ?_⟩
        rw [Bool.and_eq_true, List.any_eq_true]
        exact ⟨henabled, check, hmem, by simp [targetRow]⟩
      exact h.observed (fun _ he => by cases he)
        (inRegisters_tcp h.tables htarget snapshot rfl rfl rfl rfl) rfl
  | updateHosts faults now now' hosts =>
    rcases replaceConfiguration_cases faults now now' hosts none storage with
      ⟨e, hrun⟩ | ⟨conn, hnd, hexec, hrun⟩ <;>
      simp only [StorageOp.apply, StorageOp.commit, updateHosts, hrun]
    · exact hquiet (.refl storage)
    · exact h.published none hnd hexec
  | updateConfiguration faults now now' hosts policies =>
    rcases updateConfiguration_cases faults now now' hosts policies storage with
      ⟨e, hrun⟩ | ⟨conn, hnd, hexec, hrun⟩ <;> simp only [StorageOp.apply, StorageOp.commit, hrun]
    · exact hquiet (.refl storage)
    · exact h.published (some policies) hnd hexec
  -- the other calls write other tables
  | pruneHistory scan faults now =>
    rcases pruneHistory_cases scan faults now storage with ⟨e, hrun⟩ | ⟨n, hrun⟩ <;>
      simp only [StorageOp.apply, StorageOp.commit, hrun]
    · exact hquiet (.refl storage)
    · rw [Option.toList_none, List.append_nil]
      exact h.congr rfl rfl rfl rfl rfl
  | rollup faults now =>
    rcases rollup_cases faults now storage with ⟨e, hrun⟩ | ⟨done, hrun⟩ <;>
      simp only [StorageOp.apply, StorageOp.commit, hrun]
    · exact hquiet (.refl storage)
    · rw [Option.toList_none, List.append_nil]
      exact h.congr rfl rfl rfl rfl rfl
  | prune scan faults now =>
    rcases prune_cases scan faults now storage with ⟨e, hrun⟩ | hrun <;>
      simp only [StorageOp.apply, StorageOp.commit, hrun]
    · exact hquiet (.refl storage)
    · rw [Option.toList_none, List.append_nil]
      exact h.congr rfl rfl rfl rfl rfl
  | setHistoryRetention faults duration => exact hquiet (sameData_setHistoryRetention faults duration)
  | setUsageSampleRetention faults retention =>
    exact hquiet (sameData_setUsageSampleRetention faults retention)
  | configureMaintenance faults now history maintenance =>
    exact hquiet (sameData_configureMaintenance faults now history maintenance)
  | scheduleJobs jobs => exact hquiet ⟨rfl, rfl, rfl, rfl⟩

/-- **A start keeps it**, whether the process comes up or not. -/
theorem committed_start (faults : Faults) (readError : Option StorageError) (now : ℤ)
    (hosts : List Host) (h : Committed service past) :
    Committed (ServiceOp.apply (.start faults readError now hosts) service)
      (past ++ (ServiceOp.commit (.start faults readError now hosts) service).toList) := by
  simp only [ServiceOp.apply, ServiceOp.commit, newInitialized]
  rcases (syncIdentitiesInTransaction hosts now).transact_cases faults.sql service.conn with
    ⟨e, htxn⟩ | ⟨⟨⟩, conn, hexec, htxn⟩ <;> rw [htxn]
  · rw [show (Except.toOption (Except.error e : Except StorageError Unit)).map
      (fun _ => Commit.inventory hosts) = none from rfl, Option.toList_none, List.append_nil]
    exact ⟨h.tables, by rintro storage ⟨⟩⟩
  · have hs := synced_of_exec hexec
    have htables : InRegisters conn (past ++ [.inventory hosts]) :=
      inRegisters_synced hs hs.nodup (fun _ => rfl) h.tables
    rcases readError with - | e
    · have hup : Committed (.up (opened hosts conn)) (past ++ [.inventory hosts]) :=
        .up htables fun id => by
          rw [inventory_append_inventory, ← listed_ofHosts hs.nodup]
          rfl
      exact hup
    · exact ⟨htables, by rintro storage ⟨⟩⟩

/-- **Every run is what it committed.** -/
theorem committed_run (ops : List ServiceOp) : Committed (Service.run ops) (commits ops) := by
  have hempty : Committed (.down {}) [] := by
    refine ⟨⟨?_, ?_, fun _ => rfl, fun _ => rfl, fun _ => rfl, fun _ => rfl⟩, ?_⟩
    · simp [inventory]
    · simp [inventory]
    · rintro storage ⟨⟩
  refine List.foldl_emitted hempty (fun service given op h => ?_) ops
  cases op with
  | start faults readError now hosts => exact committed_start faults readError now hosts h
  | call op =>
    cases service with
    | up storage => exact committed_call op h
    | down conn => simpa [ServiceOp.apply, ServiceOp.commit] using h

end SimpleNetworkMonitor.Storage
