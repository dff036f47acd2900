import SimpleNetworkMonitor.Common.Chain
import SimpleNetworkMonitor.Icmp.Model.Jobs
import SimpleNetworkMonitor.Storage.Helpers.Steps
/-!
# What the storage has of an ID

The status that is stored for an ID and the rows of the log that are of it,
and what each write does to them.
-/

namespace SimpleNetworkMonitor.Icmp

open Storage

/-- The rows of the log that are of an ID. -/
def rowsOf (db : Database) (id : String) : List (ℕ × IcmpTransition) :=
  db.transitions.rows.filter fun row => row.2.hostId = id

/-- The transitions of an ID after a row of the log. -/
def transitionsSince (db : Database) (id : String) (n : ℕ) : List IcmpTransition :=
  ((rowsOf db id).filter fun row => n < row.1).map Prod.snd

/-- The status that is stored for an ID. -/
def storedStatus (db : Database) (id : String) : HostStatus :=
  ((db.latestStatus.find? id).map (·.status)).getD .unknown

/-- **The log of an ID and its status agree**: the transitions after a row are
a chain, from unknown to the status that is stored. -/
def ChainedSince (db : Database) (id : String) (n : ℕ) : Prop :=
  List.Chained IcmpTransition.previousStatus IcmpTransition.newStatus .unknown
    (transitionsSince db id n) (storedStatus db id)

variable {db db' : Database} {id : String} {n : ℕ} {event : IcmpTransition}
variable {made : List IcmpTransition}

theorem mem_rowsOf {row : ℕ × IcmpTransition} :
    row ∈ rowsOf db id ↔ row ∈ db.transitions.rows ∧ row.2.hostId = id := by
  simp [rowsOf]

theorem nodup_rowsOf (db : Database) (id : String) : (rowsOf db id).Nodup :=
  (List.Nodup.of_map _ db.transitions.nodup).filter _

theorem le_seq_of_mem_rowsOf {row : ℕ × IcmpTransition} (h : row ∈ rowsOf db id) :
    row.1 ≤ db.transitions.seq :=
  db.transitions.le_seq row.1 (Table.mem_keys_of_mem (mem_rowsOf.mp h).1)

/-- After its last row the log has nothing of an ID. -/
theorem transitionsSince_seq (db : Database) (id : String) :
    transitionsSince db id db.transitions.seq = [] := by
  rw [transitionsSince, List.map_eq_nil_iff, List.filter_eq_nil_iff]
  intro row hrow
  have hle := le_seq_of_mem_rowsOf hrow
  simpa using hle

/-- A job that loads the state of its host loads the status that is stored. -/
theorem status_getD (db : Database) (id : String) :
    ((db.latestStatus.find? id).getD {}).status = storedStatus db id := by
  rw [storedStatus]
  cases db.latestStatus.find? id <;> rfl

/-! ## What stays -/

/-- **Nothing differs for an ID.** -/
structure SameFor (id : String) (db db' : Database) : Prop where
  identity : db'.hostIdentity.find? id = db.hostIdentity.find? id
  status : db'.latestStatus.find? id = db.latestStatus.find? id
  rows : rowsOf db' id = rowsOf db id
  seq : db.transitions.seq ≤ db'.transitions.seq

theorem SameFor.refl (id : String) (db : Database) : SameFor id db db := ⟨rfl, rfl, rfl, le_rfl⟩

theorem SameFor.storedStatus_eq (h : SameFor id db db') : storedStatus db' id = storedStatus db id := by
  rw [storedStatus, storedStatus, h.status]

theorem SameFor.addressOf_eq (h : SameFor id db db') :
    Monitors.addressOf db' id = Monitors.addressOf db id := by
  rw [Monitors.addressOf, Monitors.addressOf, h.identity]

theorem SameFor.chainedSince (h : SameFor id db db') (hc : ChainedSince db id n) :
    ChainedSince db' id n := by
  rw [ChainedSince, transitionsSince, h.rows, h.storedStatus_eq]
  exact hc

/-- The columns that tell a transition include its host. -/
theorem hostId_of_sameTransition {row : IcmpTransition} (h : sameTransition event row = true) :
    row.hostId = event.hostId := by
  simp only [sameTransition, Bool.and_eq_true, decide_eq_true_eq] at h
  exact h.1.1.1

/-- The log has a transition. -/
def Logged (db : Database) (event : IcmpTransition) : Prop :=
  ∃ row ∈ rowsOf db event.hostId, sameTransition event row.2 = true

theorem logged_iff : Logged db event ↔ db.transitions.values.any (sameTransition event) = true := by
  simp only [Logged, mem_rowsOf, Log.values, List.any_map, List.any_eq_true, Function.comp_apply]
  constructor
  · rintro ⟨row, ⟨hrow, -⟩, hsame⟩
    exact ⟨row, hrow, hsame⟩
  · rintro ⟨row, hrow, hsame⟩
    exact ⟨row, ⟨hrow, hostId_of_sameTransition hsame⟩, hsame⟩

theorem SameFor.logged_iff (h : SameFor event.hostId db db') : Logged db' event ↔ Logged db event := by
  rw [Logged, Logged, h.rows]

/-! ## What the storage keeps -/

/-- **What the storage has of an ID**, since a row of the log. -/
structure Recorded (id : String) (db : Database) (n : ℕ) (made : List IcmpTransition) : Prop where
  chained : ChainedSince db id n
  le_seq : n ≤ db.transitions.seq
  known : db.hostIdentity.find? id = none → db.latestStatus.find? id = none
  made : ∀ row ∈ rowsOf db id, row.2 ∈ made

theorem Recorded.same (h : Recorded id db n made) (hs : SameFor id db db') :
    Recorded id db' n made := by
  refine ⟨hs.chainedSince h.chained, h.le_seq.trans hs.seq, fun hnone => ?_, ?_⟩
  · rw [hs.status]
    exact h.known (hs.identity ▸ hnone)
  · rw [hs.rows]
    exact h.made

/-- The last row of the log when an ID was last reset, after a step. -/
def resetSince (db db' : Database) (id : String) (n : ℕ) : ℕ :=
  if Monitors.addressOf db' id = Monitors.addressOf db id then n else db'.transitions.seq

theorem Recorded.same_reset (h : Recorded id db n made) (hs : SameFor id db db') :
    Recorded id db' (resetSince db db' id n) made := by
  rw [resetSince, if_pos hs.addressOf_eq]
  exact h.same hs

section Synced

variable {hosts : List Host} {now : ℤ}

/-- An ID that keeps its address, or stays absent, keeps what is stored. -/
theorem SameFor.of_synced (hs : Synced hosts now db db')
    (hknown : db.hostIdentity.find? id = none → db.latestStatus.find? id = none)
    (haddress : Monitors.addressOf db' id = Monitors.addressOf db id) :
    db'.latestStatus.find? id = db.latestStatus.find? id ∧
      (db'.hostIdentity.find? id = none → db.hostIdentity.find? id = none) := by
  rw [Monitors.addressOf, Monitors.addressOf, hs.hostIdentity] at haddress
  rw [hs.hostIdentity, hs.latestStatus]
  rcases hl : listed hosts id with - | host
  · rw [hl] at haddress
    have hnone : db.hostIdentity.find? id = none := by simpa using haddress.symm
    simp [hnone, hknown hnone]
  · rw [hl] at haddress
    obtain ⟨identity, hidentity, heq⟩ := Option.map_eq_some_iff.mp haddress.symm
    have hkeeps : resets db host = false := by
      rw [resets, id_of_listed hl, hidentity]
      simpa [identityOf] using heq
    simp [hkeeps, filter_true]

/-- An ID that is reset loses what is stored. -/
theorem status_of_reset (hs : Synced hosts now db db')
    (haddress : Monitors.addressOf db' id ≠ Monitors.addressOf db id) :
    db'.latestStatus.find? id = none := by
  rw [Monitors.addressOf, Monitors.addressOf, hs.hostIdentity] at haddress
  rw [hs.latestStatus]
  rcases hl : listed hosts id with - | host
  · simp
  · have hresets : resets db host = true := by
      rw [resets, id_of_listed hl, Option.all_eq_true]
      intro identity hidentity
      rw [hl, hidentity] at haddress
      have hne : host.address ≠ identity.address := by simpa [identityOf] using haddress
      simpa using hne.symm
    simp [hresets]

/-- **A synchronization** keeps what is stored of an ID, or begins anew. -/
theorem Recorded.synced (h : Recorded id db n made) (hs : Synced hosts now db db') :
    Recorded id db' (resetSince db db' id n) made := by
  have hrows : rowsOf db' id = rowsOf db id := by rw [rowsOf, rowsOf, hs.transitions]
  have hmade : ∀ row ∈ rowsOf db' id, row.2 ∈ made := hrows ▸ h.made
  unfold resetSince
  split_ifs with haddress
  · obtain ⟨hstatus, hidentity⟩ := SameFor.of_synced hs h.known haddress
    refine ⟨?_, by rw [hs.transitions]; exact h.le_seq, fun hnone => ?_, hmade⟩
    · have hchained := h.chained
      rwa [ChainedSince, transitionsSince, storedStatus, ← hrows, ← hstatus] at hchained
    · rw [hstatus]
      exact h.known (hidentity hnone)
  · have hnone := status_of_reset hs haddress
    refine ⟨?_, le_rfl, fun _ => hnone, hmade⟩
    rw [ChainedSince, transitionsSince_seq, storedStatus, hnone]
    exact List.chained_nil

end Synced

/-! ## Observations -/

/-- **An observation fits what is stored**: it is stored, as far as the status
and the log can tell, or it is what comes next. -/
inductive Fits (db : Database) (id : String) (observation : Observation) : Prop where
  | stored (hstatus : observation.state.status = storedStatus db id)
      (hlogged : ∀ event ∈ observation.transition, event.hostId = id ∧ Logged db event)
  | next {event : IcmpTransition} (htransition : observation.transition = some event)
      (hid : event.hostId = id) (hnew : ¬ Logged db event)
      (hsource : event.previousStatus = storedStatus db id)
      (htarget : event.newStatus = observation.state.status)
      (hproper : event.previousStatus ≠ event.newStatus)

theorem Fits.same {observation : Observation} (h : Fits db id observation) (hs : SameFor id db db') :
    Fits db' id observation := by
  cases h with
  | stored hstatus hlogged =>
    refine .stored (hs.storedStatus_eq ▸ hstatus) fun event hevent => ?_
    obtain ⟨rfl, hrow⟩ := hlogged event hevent
    exact ⟨rfl, hs.logged_iff.mpr hrow⟩
  | next htransition hid hnew hsource htarget hproper =>
    subst hid
    exact .next htransition rfl (fun h => hnew (hs.logged_iff.mp h))
      (hs.storedStatus_eq ▸ hsource) htarget hproper

/-! ## Writes -/

section Writes

variable {hostId : String} {state : HostRuntimeState} {transition : Option IcmpTransition}
variable {now : ℤ}

theorem storedStatus_put (db : Database) (id : String) (state : HostRuntimeState)
    (transition : Option IcmpTransition) (now : ℤ) :
    storedStatus (db.putCheckResult id state transition now) id = state.status := by
  have hrow : (db.putCheckResult id state transition now).latestStatus.find? id = some state :=
    Table.find?_upsert_self
  rw [storedStatus, hrow]
  rfl

/-- A result of another host makes no difference. -/
theorem SameFor.put (hne : id ≠ hostId) (hown : ∀ event ∈ transition, event.hostId = hostId) :
    SameFor id db (db.putCheckResult hostId state transition now) := by
  refine ⟨rfl, Table.find?_upsert_of_ne hne, ?_, ?_⟩
  · rcases transition with - | event
    · rfl
    · have hother : event.hostId ≠ id := fun heq => hne (heq ▸ hown event rfl)
      show (logTransition db.transitions event).rows.filter _ = _
      rw [logTransition]
      split_ifs
      · rfl
      · simp [rowsOf, hother]
  · rcases transition with - | event
    · exact le_rfl
    · show db.transitions.seq ≤ (logTransition db.transitions event).seq
      rw [logTransition]
      split_ifs
      · exact le_rfl
      · exact Nat.le_succ _

/-- A result whose transition is logged leaves the log as it is. -/
theorem transitions_put_of_logged (id : String) (state : HostRuntimeState) (now : ℤ)
    (hlogged : ∀ event ∈ transition, Logged db event) :
    (db.putCheckResult id state transition now).transitions = db.transitions := by
  rcases transition with - | event
  · rfl
  · exact logTransition_of_any (logged_iff.mp (hlogged event rfl))

/-- A transition that is not logged is appended. -/
theorem transitions_put_of_new (id : String) (state : HostRuntimeState) (now : ℤ)
    (hnew : ¬ Logged db event) :
    (db.putCheckResult id state (some event) now).transitions = db.transitions.append event :=
  if_neg fun h => hnew (logged_iff.mpr h)

theorem logged_put : Logged (db.putCheckResult id state (some event) now) event :=
  logged_iff.mpr any_logTransition

/-- An observation that is written is stored. -/
theorem Fits.put {observation : Observation}
    (hown : ∀ event ∈ observation.transition, event.hostId = id) :
    Fits (db.putCheckResult id observation.state observation.transition now) id observation := by
  refine .stored (storedStatus_put db id _ _ now).symm fun event hevent => ⟨hown event hevent, ?_⟩
  rw [hevent]
  exact logged_put

/-- **A write of an observation that fits** keeps the log and the status in
agreement. -/
theorem Recorded.put {observation : Observation} (h : Recorded id db n made)
    (hfits : Fits db id observation) (hidentity : db.hostIdentity.find? id ≠ none)
    (hmade : ∀ event ∈ observation.transition, event ∈ made) :
    Recorded id (db.putCheckResult id observation.state observation.transition now) n made := by
  cases hfits with
  | stored hstatus hlogged =>
    have hlog := transitions_put_of_logged id observation.state now fun event hevent =>
      (hlogged event hevent).2
    refine ⟨?_, by rw [hlog]; exact h.le_seq, fun hnone => absurd hnone hidentity, fun row hrow => ?_⟩
    · have hchained := h.chained
      rw [ChainedSince, transitionsSince, rowsOf] at hchained ⊢
      rwa [hlog, storedStatus_put, hstatus]
    · rw [rowsOf, hlog] at hrow
      exact h.made row hrow
  | @next event htransition hid hnew hsource htarget hproper =>
    subst hid
    have hlog := transitions_put_of_new event.hostId observation.state now hnew
    rw [htransition]
    refine ⟨?_, ?_, fun hnone => absurd hnone hidentity, fun row hrow => ?_⟩
    · have hlt : n < db.transitions.seq + 1 := Nat.lt_succ_of_le h.le_seq
      rw [ChainedSince, storedStatus_put, ← htarget, transitionsSince, rowsOf, hlog]
      have hconcat := h.chained.concat hsource hproper
      simpa [transitionsSince, rowsOf, List.filter_append, hlt] using hconcat
    · rw [hlog]
      exact h.le_seq.trans (Nat.le_succ _)
    · rw [rowsOf, hlog, Log.rows_append, List.filter_append, List.mem_append] at hrow
      rcases hrow with hrow | hrow
      · exact h.made row hrow
      · obtain rfl := List.mem_singleton.mp (List.mem_filter.mp hrow).1
        exact hmade event htransition

end Writes

/-! ## Other calls -/

/-- **A call that makes no difference for an ID**, nor for the handles of its
jobs. -/
structure Undisturbed (id : String) (storage storage' : SqliteStorage) : Prop where
  same : SameFor id storage.inner.conn storage'.inner.conn
  generation : storage'.inner.generation = storage.inner.generation

theorem Undisturbed.refl (id : String) (storage : SqliteStorage) : Undisturbed id storage storage :=
  ⟨.refl id _, rfl⟩

theorem Undisturbed.of_sameData {storage storage' : SqliteStorage} (h : SameData storage storage') :
    Undisturbed id storage storage' := by
  refine ⟨?_, h.generation⟩
  rw [h.conn]
  exact ⟨rfl, rfl, rfl, le_rfl⟩

/-- Pruning that takes no row of an ID makes no difference for it. -/
theorem SameFor.pruned {scan : Table.LimitScan} {cutoff : ℤ} {usageSamples : Log UsageRow}
    (hkept : rowsOf db id ⊆ rowsOf { db.putPruned scan cutoff with usageSamples } id) :
    SameFor id db { db.putPruned scan cutoff with usageSamples } := by
  refine ⟨rfl, rfl, ?_, le_rfl⟩
  have hsub : (rowsOf { db.putPruned scan cutoff with usageSamples } id).Sublist
      (rowsOf db id) :=
    List.filter_sublist.filter _
  exact hsub.eq_of_length_le ((nodup_rowsOf db id).subperm hkept).length_le

/-- **What the other tasks call** makes no difference for an ID, where it
prunes no transition of it. -/
theorem undisturbed_other {op : StorageOp} (h : isOther op = true) (storage : SqliteStorage)
    (hkept : rowsOf storage.inner.conn id ⊆ rowsOf (op.apply storage).inner.conn id) :
    Undisturbed id storage (op.apply storage) := by
  cases op with
  | updateCheckResult handle faults now hostId state transition => cases h
  | updateUsage handle faults now now' hostId snapshot =>
    rcases updateUsage_cases handle faults now now' hostId snapshot storage with
      ⟨e, hrun⟩ | ⟨host, inserted, usageSamples, -, -, -, -, -, hrun⟩ <;>
      simp only [StorageOp.apply, hrun]
    · exact .refl id storage
    · exact ⟨⟨rfl, rfl, rfl, le_rfl⟩, rfl⟩
  | updateTcp handle faults now hostId checkId snapshot =>
    rcases updateTcp_cases handle faults now hostId checkId snapshot storage with
      ⟨e, hrun⟩ | ⟨host, check, -, -, -, hrun⟩ <;> simp only [StorageOp.apply, hrun]
    · exact .refl id storage
    · exact ⟨⟨rfl, rfl, rfl, le_rfl⟩, rfl⟩
  | pruneHistory scan faults now =>
    rcases pruneHistory_cases scan faults now storage with ⟨e, hrun⟩ | ⟨n, hrun⟩ <;>
      simp only [StorageOp.apply, hrun] at hkept ⊢
    · exact .refl id storage
    · exact ⟨.pruned hkept, rfl⟩
  | rollup faults now =>
    rcases rollup_cases faults now storage with ⟨e, hrun⟩ | ⟨done, hrun⟩ <;>
      simp only [StorageOp.apply, hrun]
    · exact .refl id storage
    · exact ⟨⟨rfl, rfl, rfl, le_rfl⟩, rfl⟩
  | prune scan faults now =>
    rcases prune_cases scan faults now storage with ⟨e, hrun⟩ | hrun <;>
      simp only [StorageOp.apply, hrun]
    · exact .refl id storage
    · exact ⟨⟨rfl, rfl, rfl, le_rfl⟩, rfl⟩
  | updateHosts faults now now' hosts => cases h
  | updateConfiguration faults now now' hosts policies => cases h
  | setHistoryRetention faults duration =>
    exact .of_sameData (sameData_setHistoryRetention faults duration)
  | setUsageSampleRetention faults retention =>
    exact .of_sameData (sameData_setUsageSampleRetention faults retention)
  | configureMaintenance faults now history maintenance =>
    exact .of_sameData (sameData_configureMaintenance faults now history maintenance)
  | scheduleJobs jobs => exact .of_sameData ⟨rfl, rfl, rfl, rfl⟩

end SimpleNetworkMonitor.Icmp
