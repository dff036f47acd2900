import SimpleNetworkMonitor.Storage.Attribution
import SimpleNetworkMonitor.Storage.Helpers.Registers
import SimpleNetworkMonitor.Storage.Inactivity
/-!
# Reading back what was committed

A read shows what was committed last of a host, on the targets that the
inventory gives the host now, and nothing else.
-/

namespace SimpleNetworkMonitor.Storage

variable {db : Database} {past : List Commit}

/-! ## The attempts of a host -/

section Attempts

variable {host : Host} {checkId : CheckId} {snapshot : TcpSnapshot}

/-- A row of another check changes nothing of this one. -/
theorem find?_attach_of_ne {row : (String × String) × LatestTcp} (h : row.1.2 ≠ checkId.value)
    (snapshots : Snapshots) :
    (attach host snapshots row).find? checkId = snapshots.find? checkId := by
  unfold attach
  split_ifs
  · rfl
  · split
    · rfl
    · rename_i check hcheck
      have hid := List.find?_some hcheck
      simp only [Bool.and_eq_true, decide_eq_true_eq] at hid
      exact Table.find?_upsert_of_ne fun heq => h (by rw [heq, hid.1])

/-- A row on the target of a check is attached to it. -/
theorem find?_attach_self (henabled : host.modules.tcp.enabled = true) {check : TcpCheckConfig}
    (hcheck : check ∈ host.modules.tcp.checks) (snapshots : Snapshots) :
    (attach host snapshots ((host.id, check.id.value), ⟨host.address, check.port.get, snapshot⟩)).find?
      check.id = some snapshot := by
  unfold attach
  rw [if_neg (by simp [henabled])]
  rcases hf : host.modules.tcp.checks.find? fun c =>
      decide (c.id.value = check.id.value) && decide (c.port.get = check.port.get) with - | found
  · exact absurd (List.find?_eq_none.mp hf check hcheck) (by simp)
  · have hfound := List.find?_some hf
    simp only [Bool.and_eq_true, decide_eq_true_eq] at hfound
    have hid : found.id = check.id := by
      obtain ⟨⟨_, _⟩, _⟩ := found
      obtain ⟨⟨_, _⟩, _⟩ := check
      simpa using hfound.1
    simp only [hf]
    rw [← hid, Table.find?_upsert_self]

theorem loadHost_of_disabled (h : host.modules.tcp.enabled = false) : loadHost db host = ∅ := by
  rw [loadHost_eq]
  refine List.foldl_invariant (P := fun _ snapshots => snapshots = ∅)
    (fun _ _ snapshots row _ hs => ?_) rfl
  rw [attach, if_pos (by simp [h]), hs]

/-- **An attempt is shown exactly for the check it was on.** -/
theorem find?_loadHost_iff : (loadHost db host).find? checkId = some snapshot ↔
    host.modules.tcp.enabled = true ∧ ∃ check ∈ host.modules.tcp.checks, check.id = checkId ∧
      db.latestTcp.find? (host.id, checkId.value) =
        some ⟨host.address, check.port.get, snapshot⟩ := by
  constructor
  · intro h
    refine ⟨?_, find?_loadHost h⟩
    by_contra hdisabled
    rw [loadHost_of_disabled (Bool.eq_false_iff.mpr hdisabled)] at h
    cases h
  · rintro ⟨henabled, check, hcheck, rfl, hrow⟩
    rw [loadHost_eq]
    -- the row is the only one of its key, so none of those after it writes over it
    have hmem := Table.find?_eq_some.mp hrow
    obtain ⟨before, after, hsplit⟩ := List.append_of_mem hmem
    have hnd := db.latestTcp.nodup
    rw [hsplit, List.map_append, List.map_cons, List.nodup_append, List.nodup_cons] at hnd
    have hafter : ∀ row ∈ after.filter fun row => decide (row.1.1 = host.id),
        row.1.2 ≠ check.id.value := by
      intro row hmem heq
      obtain ⟨hrow, hid⟩ := List.mem_filter.mp hmem
      refine hnd.2.1.1 (List.mem_map.mpr ⟨row, hrow, ?_⟩)
      rw [← heq, ← of_decide_eq_true hid]
    rw [hsplit, List.filter_append, List.filter_cons_of_pos (by simp), List.foldl_append,
      List.foldl_cons]
    have hlast : ∀ (rows : List ((String × String) × LatestTcp)) (snapshots : Snapshots),
        (∀ row ∈ rows, row.1.2 ≠ check.id.value) →
        (rows.foldl (attach host) snapshots).find? check.id = snapshots.find? check.id := by
      intro rows snapshots hrows
      refine List.foldl_invariant (l := rows)
        (P := fun _ (s : Snapshots) => s.find? check.id = snapshots.find? check.id)
        (fun done rest s row hl hs => ?_) rfl
      rw [find?_attach_of_ne (hrows row (by simp [hl])), hs]
    rw [hlast _ _ hafter, find?_attach_self henabled hcheck]

end Attempts

/-! ## Reads -/

/-- **A record shows what was committed last** of its host and is still of
its target: its state (the default one where there is none), its usage, and
the attempts on each of its checks. -/
structure HostRecord.Shows (past : List Commit) (record : HostRecord) : Prop where
  listed : listed (inventory past) record.host.id = some record.host
  state : ∀ state, Register.Holds (past.filterMap (statusEvent record.host.id)) state →
    record.state = state
  unknown : (∀ state, ¬ Register.Holds (past.filterMap (statusEvent record.host.id)) state) →
    record.state = {}
  usage : ∀ snapshot, record.usage = some snapshot ↔
    Register.Holds (past.filterMap (usageEvent record.host.id)) snapshot
  tcp : ∀ checkId snapshot, record.tcp.find? checkId = some snapshot ↔
    Register.Holds (past.filterMap (tcpEvent (record.host.id, checkId.value))) snapshot

def Item.Shows (past : List Commit) : Item → Prop
  | .record entry => HostRecord.Shows past entry
  | .usage entry => (∃ host, listed (inventory past) host.id = some host ∧
      entry = usageOf host entry.usage) ∧
    Register.Holds (past.filterMap (usageEvent entry.id)) entry.usage

theorem shows_hostRecord (h : InRegisters db past) {host : Host}
    (hlisted : listed (inventory past) host.id = some host) :
    HostRecord.Shows past (hostRecord db host) where
  listed := hlisted
  state state hholds := by
    have hvalue : (statusRegister past host.id).value = some state :=
      Register.run_value_eq_some.mpr hholds
    show (db.latestStatus.find? host.id).getD {} = state
    rw [h.status, hvalue, Option.getD_some]
  unknown hnone := by
    have hvalue : (statusRegister past host.id).value = none :=
      Option.eq_none_iff_forall_ne_some.mpr fun state hs =>
        hnone state (Register.run_value_eq_some.mp hs)
    show (db.latestStatus.find? host.id).getD {} = {}
    rw [h.status, hvalue, Option.getD_none]
  usage snapshot := by
    rw [← Register.run_value_eq_some]
    show db.latestUsage.find? host.id = some snapshot ↔ _
    rw [h.usage, usageRegister]
    rfl
  tcp checkId snapshot := by
    rw [← Register.run_value_eq_some]
    show (loadHost db host).find? checkId = some snapshot ↔
      (tcpRegister past (host.id, checkId.value)).value = some snapshot
    have htag := tcpRegister_tag past (host.id, checkId.value)
    rw [find?_loadHost_iff, h.tcp, rowOf]
    constructor
    · rintro ⟨-, check, -, -, hrow⟩
      obtain ⟨target, -, hvalue⟩ := Option.bind_eq_some_iff.mp hrow
      obtain ⟨found, hfound, heq⟩ := Option.map_eq_some_iff.mp hvalue
      rw [hfound, ← (LatestTcp.mk.inj heq).2.2]
    · intro hvalue
      -- what is held is of the target that the inventory gives the check
      obtain ⟨⟨address, port⟩, hsome⟩ :=
        Register.tag_of_holds (Register.run_value_eq_some.mp hvalue)
      have hsome : (tcpRegister past (host.id, checkId.value)).tag = some (address, port) := hsome
      rw [hsome] at htag
      obtain ⟨found, hfound, htarget⟩ := Option.bind_eq_some_iff.mp htag.symm
      obtain rfl : found = host := Option.some.inj (hfound.symm.trans hlisted)
      split_ifs at htarget with henabled
      obtain ⟨check, hcheck, heq⟩ := Option.map_eq_some_iff.mp htarget
      obtain ⟨rfl, rfl⟩ := Prod.mk.inj heq
      have hid : check.id.value = checkId.value := by simpa using List.find?_some hcheck
      refine ⟨henabled, check, List.mem_of_find?_eq_some hcheck, ?_, ?_⟩
      · obtain ⟨⟨_, _⟩, _⟩ := check
        obtain ⟨_, _⟩ := checkId
        simpa using hid
      · rw [hsome, hvalue]
        rfl

/-- **A read shows what was committed.** In every state of the service that
a run reaches, whatever it did and whatever went wrong in it: the hosts found
are those of the inventory committed last, and every entry of every read
shows the observations committed last on the targets the hosts have now. -/
theorem reads_show_commits (ops : List ServiceOp) (storage : SqliteStorage)
    (hrun : Service.run ops = .up storage) :
    (∀ id, (host storage.inner.conn storage.hosts id).map (·.host) =
      listed (inventory (commits ops)) id) ∧
    ∀ (read : Read) (items : List Item), read.items storage.inner.conn storage.hosts = .ok items →
      ∀ item ∈ items, item.Shows (commits ops) := by
  have h := committed_run ops
  rw [hrun] at h
  have hcatalog := h.catalog storage rfl
  refine ⟨fun id => ?_, fun read items hitems item hitem => ?_⟩
  · rw [host, hcatalog id, Option.map_map]
    exact Option.map_id'
  · obtain ⟨host, hof⟩ := exists_of_mem hitems hitem
    cases hof with
    | record hget =>
      rw [hcatalog] at hget
      exact shows_hostRecord h.tables hget
    | @usage hget snapshot hlatest =>
      rw [hcatalog] at hget
      refine ⟨⟨host, hget, rfl⟩, ?_⟩
      rw [← Register.run_value_eq_some]
      exact (h.tables.usage host.id).symm.trans hlatest

/-- The sample host is moved once its usage is known, and moves back. -/
def sampleMoves : List ServiceOp :=
  [.start {} none 0 [sampleWatchedHost], sampleCollection 0 1,
    .call (.updateHosts {} 1 1 [{ sampleWatchedHost with address := "192.0.2.3" }]),
    .call (.updateCheckResult none {} 2 "node-b" {} none),
    .call (.updateHosts {} 3 3 [sampleWatchedHost])]

theorem sampleMoves_show :
    (∀ id, (host (Service.run sampleMoves).storage.inner.conn
      (Service.run sampleMoves).storage.hosts id).map (·.host) =
        listed (inventory (commits sampleMoves)) id) ∧
    ∀ (read : Read) (items : List Item), read.items (Service.run sampleMoves).storage.inner.conn
      (Service.run sampleMoves).storage.hosts = .ok items →
        ∀ item ∈ items, item.Shows (commits sampleMoves) :=
  reads_show_commits sampleMoves (Service.run sampleMoves).storage (by decide +kernel)

end SimpleNetworkMonitor.Storage
