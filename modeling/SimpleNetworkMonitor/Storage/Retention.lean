import Mathlib.Data.Int.ConditionallyCompleteOrder
import Mathlib.Order.ConditionallyCompleteLattice.Basic
import SimpleNetworkMonitor.Storage.Helpers.Watched
import SimpleNetworkMonitor.Storage.Model.Read
/-!
# What retention may not change

A retention batch takes old rows of the usage history, a bounded number at a
time, and raises a floor. Above the floor the two questions that inactivity
asks of the history have the answers they had; below it nobody is inactive.
-/

namespace SimpleNetworkMonitor.Storage

/-- The retention floor; nothing was ever pruned where there is none. -/
def Database.floor (db : Database) : WithBot ℤ := db.retentionFloor

/-- **The cutoffs that retention still allows**: those not below the floor. -/
def Database.Allows (db : Database) (cutoff : ℤ) : Prop := db.floor ≤ cutoff

theorem Database.allows_iff {db : Database} {cutoff : ℤ} :
    db.Allows cutoff ↔ ∀ floor ∈ db.retentionFloor, floor ≤ cutoff := by
  unfold Database.Allows Database.floor
  rcases db.retentionFloor with - | floor
  · exact ⟨fun _ _ h => absurd h (Option.not_mem_none _), fun _ => bot_le⟩
  · simp only [Option.mem_def, Option.some.injEq, forall_eq']
    exact WithBot.coe_le_coe

instance (db : Database) (cutoff : ℤ) : Decidable (db.Allows cutoff) :=
  decidable_of_iff _ Database.allows_iff.symm

/-- How far a filter looks back: its longer condition. -/
def window (filter : UsageFilter) : ℕ :=
  max (filter.inactiveConsoleFor.getD 0) (filter.noUsersFor.getD 0)

variable {db db' : Database} {storage storage' : SqliteStorage} {cutoff t : ℤ} {hostId : String}

theorem floor_putPruned (scan : Table.LimitScan) (cutoff : ℤ) (usageSamples : Log UsageRow) :
    ({ db.putPruned scan cutoff with usageSamples } : Database).floor = max db.floor cutoff := by
  show (some (db.retentionFloor.elim cutoff (max · cutoff)) : WithBot ℤ) = max db.floor cutoff
  unfold Database.floor
  rcases db.retentionFloor with - | floor
  · exact (max_eq_right (bot_le : (⊥ : WithBot ℤ) ≤ cutoff)).symm
  · exact WithBot.coe_max floor cutoff

/-- A floor is known, and above the cutoffs that are not allowed. -/
theorem exists_of_not_allows (h : ¬ db.Allows cutoff) :
    ∃ floor, db.retentionFloor = some floor ∧ cutoff < floor := by
  simpa only [Database.allows_iff, not_forall, not_le, exists_prop, Option.mem_def] using h

/-! ## The two questions -/

/-- **The row in force at an allowed instant is kept**: it is the anchor of
its host, or too new to go. -/
theorem rowAt_putPruned (scan : Table.LimitScan) (hlatest : hostId ∈ db.latestUsage.keys)
    (ht : cutoff ≤ t) : rowAt (db.putPruned scan cutoff) hostId t = rowAt db hostId t := by
  have hsub : ∀ r ∈ (db.putPruned scan cutoff).usageHistory.rows, r ∈ db.usageHistory.rows :=
    fun r hr => Log.mem_of_mem_deleteLimit hr
  rcases hrow : rowAt db hostId t with - | r
  · have hnone := Log.latest?_eq_none.mp hrow
    exact Log.latest?_eq_none.mpr fun r hr => hnone r (hsub r hr)
  · have hkept := not_isOutdated_rowAt hrow ht hlatest
    exact Log.latest?_of_subset hrow (Log.mem_deleteLimit_of_not (mem_rowAt hrow).1 hkept) hsub

/-- A row past the cutoff does not go. -/
theorem any_usageHistory_putPruned (scan : Table.LimitScan) {p : UsageRow → Bool}
    (hp : ∀ row, p row = true → cutoff ≤ row.snapshot.collectedAt) :
    (db.putPruned scan cutoff).usageHistory.values.any p = db.usageHistory.values.any p := by
  rw [Bool.eq_iff_iff, List.any_eq_true, List.any_eq_true]
  constructor
  · rintro ⟨row, hrow, hpr⟩
    obtain ⟨r, hr, rfl⟩ := List.mem_map.mp hrow
    exact ⟨r.2, List.mem_map_of_mem (Log.mem_of_mem_deleteLimit hr), hpr⟩
  · rintro ⟨row, hrow, hpr⟩
    obtain ⟨r, hr, rfl⟩ := List.mem_map.mp hrow
    have hnew : isOutdated db cutoff r.1 r.2 = false := by
      have hle := hp r.2 hpr
      simp [isOutdated, not_lt.mpr hle]
    exact ⟨r.2, List.mem_map_of_mem (Log.mem_deleteLimit_of_not hr hnew), hpr⟩

/-- The two histories tell the same at an instant. -/
def SameAnswers (db db' : Database) (hostId : String) (cutoff : ℤ) : Prop :=
  ∀ predicate,
    (sqliteInactivityHistory db' hostId).stateAtOrBefore cutoff predicate =
        (sqliteInactivityHistory db hostId).stateAtOrBefore cutoff predicate ∧
      (sqliteInactivityHistory db' hostId).windowBreaksInactivity cutoff predicate =
        (sqliteInactivityHistory db hostId).windowBreaksInactivity cutoff predicate

theorem sameAnswers_putPruned (scan : Table.LimitScan) (usageSamples : Log UsageRow)
    (hlatest : hostId ∈ db.latestUsage.keys) (ht : cutoff ≤ t) :
    SameAnswers db { db.putPruned scan cutoff with usageSamples } hostId t := by
  intro predicate
  have hrow := rowAt_putPruned scan hlatest ht
  refine ⟨?_, ?_⟩
  · simp only [sqliteInactivityHistory]
    exact congrArg (fun row : Option (ℕ × UsageRow) => Except.ok (row.map fun row =>
      if row.2.snapshot.status = .ok then StateAtCutoff.ok (predicate.matchesCounts row.2.snapshot)
      else .unknown)) hrow
  · simp only [sqliteInactivityHistory]
    refine congrArg Except.ok (any_usageHistory_putPruned scan fun row hp => ?_)
    simp only [Bool.and_eq_true, decide_eq_true_eq] at hp
    omega

/-! ## The filter -/

theorem isCovered_of_not_allows (h : ¬ db.Allows cutoff) : isCovered db hostId cutoff = false := by
  obtain ⟨floor, hfloor, hlt⟩ := exists_of_not_allows h
  simp [isCovered, hfloor, hlt]

/-- **Below the floor nobody is inactive.** -/
theorem matchesUsageFilter_of_not_allows {host : Host} {snapshot : UsageSnapshot}
    {filter : UsageFilter} (hsome : (filter.inactiveConsoleFor.isSome || filter.noUsersFor.isSome) = true)
    (hcutoff : checkedCutoff filter.now (window filter) = .ok cutoff) (h : ¬ db.Allows cutoff) :
    matchesUsageFilter db host snapshot filter = .ok false := by
  unfold window at hcutoff
  unfold matchesUsageFilter
  simp only [hsome, hcutoff, Except.ok_bind, isCovered_of_not_allows h, Bool.not_false, if_true]
  split_ifs <;> rfl

/-! ## Runs -/

/-- **No call lowers the floor.** -/
theorem floor_le_of_change {o : Option UsageObservation} (h : Change storage o storage') :
    storage.inner.conn.floor ≤ storage'.inner.conn.floor := by
  cases h with
  | settings hs => exact le_of_eq (by rw [hs.conn]; rfl)
  | pruned scan cutoff usageSamples =>
    show _ ≤ ({ storage.inner.conn.putPruned scan cutoff with usageSamples } : Database).floor
    rw [floor_putPruned]
    exact le_max_left _ _
  | @published hosts now now' conn policies hnd hexec =>
    have hs := synced_of_reload hexec
    exact le_of_eq (congrArg (fun floor : Option ℤ => (floor : WithBot ℤ)) hs.retentionFloor.symm)
  | _ => exact le_rfl

theorem floor_le_apply (op : ServiceOp) (service : Service) :
    service.conn.floor ≤ (ServiceOp.apply op service).conn.floor := by
  cases op with
  | start faults readError now hosts =>
    rcases start_cases faults readError now hosts service with h | ⟨conn, hsync, h | h⟩ <;> rw [h]
    · exact le_rfl
    · exact le_of_eq (congrArg (fun floor : Option ℤ => (floor : WithBot ℤ)) hsync.retentionFloor.symm)
    · exact le_of_eq (congrArg (fun floor : Option ℤ => (floor : WithBot ℤ)) hsync.retentionFloor.symm)
  | call op =>
    cases service with
    | up storage => exact floor_le_of_change (op.change storage)
    | down conn => exact le_rfl

theorem floor_le_foldl (ops : List ServiceOp) (service : Service) :
    service.conn.floor ≤
      (ops.foldl (fun service op => ServiceOp.apply op service) service).conn.floor := by
  refine List.foldl_invariant (P := fun _ (later : Service) => service.conn.floor ≤ later.conn.floor)
    (fun done rest later op _ hle => ?_) le_rfl
  exact le_trans hle (floor_le_apply op later)

/-! ## The result -/

/-- **Retention changes no answer that it still allows.** Whatever the database
holds and whatever goes wrong in the batch: at a cutoff that is not below the
floor afterwards, a host with a usage row gets both answers it got before; a
filter one of whose cutoffs is below the floor is false; and nothing that
happens later, batches under other settings among it, lowers the floor. -/
theorem retention_keeps_answers (storage : SqliteStorage) (scan : Table.LimitScan) (faults : Faults)
    (now : ℤ) :
    let storage' := (Program.run (pruneHistory scan faults now) storage).2
    (∀ hostId ∈ storage.inner.conn.latestUsage.keys, ∀ cutoff, storage'.inner.conn.Allows cutoff →
      SameAnswers storage.inner.conn storage'.inner.conn hostId cutoff) ∧
    (∀ host snapshot filter duration cutoff,
      (filter.inactiveConsoleFor = some duration ∨ filter.noUsersFor = some duration) →
      checkedCutoff filter.now (window filter) = .ok cutoff →
      ¬ storage'.inner.conn.Allows (filter.now - duration) →
      matchesUsageFilter storage'.inner.conn host snapshot filter = .ok false) ∧
    storage.inner.conn.floor ≤ storage'.inner.conn.floor ∧
    ∀ ops : List ServiceOp, storage'.inner.conn.floor ≤
      (ops.foldl (fun service op => ServiceOp.apply op service) (.up storage')).conn.floor := by
  intro storage'
  have hchange : Change storage none storage' :=
    StorageOp.change (.pruneHistory scan faults now) storage
  refine ⟨fun hostId hlatest cutoff hallows => ?_, fun host snapshot filter duration cutoff hsome
    hcutoff hbelow => ?_, floor_le_of_change hchange, fun ops => floor_le_foldl ops (.up storage')⟩
  · rcases pruneHistory_cases scan faults now storage with ⟨e, h⟩ | ⟨n, h⟩
    · have heq : storage' = storage := congrArg Prod.snd h
      rw [heq]
      exact fun predicate => ⟨rfl, rfl⟩
    · have heq : storage'.inner.conn =
          { storage.inner.conn.putPruned scan (now - storage.inner.historyRetention) with
            usageSamples := storage.inner.keptSamples scan now } :=
        congrArg (fun r => r.2.inner.conn) h
      rw [Database.Allows, heq, floor_putPruned] at hallows
      rw [heq]
      have hle := le_trans (le_max_right _ _) hallows
      exact sameAnswers_putPruned scan _ hlatest (WithBot.coe_le_coe.mp hle)
  · have hwindow : duration ≤ window filter := by
      unfold window
      rcases hsome with h | h <;> rw [h, Option.getD_some] <;> omega
    have hle : cutoff ≤ filter.now - duration := by
      have := checkedCutoff_eq_ok hcutoff
      omega
    refine matchesUsageFilter_of_not_allows ?_ hcutoff fun hallows => hbelow ?_
    · rcases hsome with h | h <;> simp [h]
    · exact le_trans hallows (WithBot.coe_le_coe.mpr hle)

/-! ## A sample -/

/-- Somebody is at the console at first, and nobody after five minutes; the
history is kept for ten. -/
def sampleHistory : SqliteStorage where
  inner :=
    { historyRetention := fromSecs 600
      conn :=
        { latestUsage := (∅ : Table String UsageSnapshot).upsert "node-b" (.success (fromSecs 900) 0 0)
          usageHistory := ((∅ : Log UsageRow).append ⟨"node-b", .success 0 1 0⟩).append
            ⟨"node-b", .success (fromSecs 300) 0 0⟩ } }

/-- A batch takes the first row, and the answers from its cutoff on stay. -/
theorem sampleHistory_retained :
    let storage' := (Program.run (pruneHistory .inOrder {} (fromSecs 1000)) sampleHistory).2
    storage'.inner.conn.usageHistory.rows.length = 1 ∧
      SameAnswers sampleHistory.inner.conn storage'.inner.conn "node-b" (fromSecs 400) :=
  ⟨by decide +kernel, (retention_keeps_answers sampleHistory .inOrder {} (fromSecs 1000)).1 "node-b"
    (by decide +kernel) (fromSecs 400) (by decide +kernel)⟩

end SimpleNetworkMonitor.Storage
