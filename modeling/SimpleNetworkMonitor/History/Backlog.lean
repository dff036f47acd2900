import SimpleNetworkMonitor.History.Pruning
/-!
# How much a batch finds

The backlog counts what batches at an instant have to delete: the rows past
their retention, and the epochs that nothing else is left of. A batch
deletes no more than that, and all of it where it deletes less than its
limit. So it says that there may be more exactly where the backlog reaches
the limit.
-/

namespace SimpleNetworkMonitor.History

section Backlog

variable (config : HistoryConfig) (usageRetention : ℕ) (now : ℤ) (db : HistoryDb)

/-- A closed epoch past its retention, where all the rows that refer to it
are expired and no span does. -/
def epochExpired (id : ℕ) (row : EpochRow) : Bool :=
  row.endedMs.any (· < epochCutoff config now)
    && db.raw.rows.all (fun r => r.2.epochId ≠ id || rawExpired config usageRetention now db r.2)
    && db.buckets.rows.all (fun r => r.1.epochId ≠ id || bucketExpired config now r.1)
    && db.spans.rows.all (·.2.epochId ≠ id)
    && db.events.rows.all fun r => r.2.epochId ≠ id || eventExpired config now r.2

/-- **The backlog**: what there is to delete. -/
def pruneBacklog : ℕ :=
  (db.raw.rows.countP fun r => rawExpired config usageRetention now db r.2) +
    (db.buckets.rows.countP fun r => bucketExpired config now r.1) +
    (db.events.rows.countP fun r => eventExpired config now r.2) +
    db.epochs.rows.countP fun r => epochExpired config usageRetention now db r.1 r.2

end Backlog

variable {config : HistoryConfig} {usageRetention : ℕ} {now : ℤ} {db : HistoryDb}

theorem epochExpired_eq_true {id : ℕ} {row : EpochRow} :
    epochExpired config usageRetention now db id row = true ↔
      (∃ ended, row.endedMs = some ended ∧ ended < epochCutoff config now) ∧
      (∀ r ∈ db.raw.rows, r.2.epochId = id → rawExpired config usageRetention now db r.2 = true) ∧
      (∀ r ∈ db.buckets.rows, r.1.epochId = id → bucketExpired config now r.1 = true) ∧
      (∀ r ∈ db.spans.rows, r.2.epochId ≠ id) ∧
      ∀ r ∈ db.events.rows, r.2.epochId = id → eventExpired config now r.2 = true := by
  have hended : (row.endedMs.any fun ended => decide (ended < epochCutoff config now)) = true ↔
      ∃ ended, row.endedMs = some ended ∧ ended < epochCutoff config now := by
    rcases row.endedMs with - | ended
    · simp
    · simp
  unfold epochExpired
  simp only [Bool.and_eq_true, List.all_eq_true, Bool.or_eq_true, decide_eq_true_eq, hended,
    ne_eq, ← imp_iff_not_or, and_assoc]

/-! ## What a batch leaves of it -/

section Batch

variable {scan : Table.LimitScan} {limit : ℕ}

/-- An epoch that nothing is left of is expired. -/
theorem epochExpired_of_isSpent {next : HistoryDb} {id : ℕ} {row : EpochRow}
    (only : OnlyExpired config usageRetention now db next)
    (h : isSpent next (epochCutoff config now) id row = true) :
    epochExpired config usageRetention now db id row = true := by
  obtain ⟨hended, hfree⟩ := isSpent_iff.mp h
  refine epochExpired_eq_true.mpr ⟨hended, fun r hr hid => ?_, fun r hr hid => ?_,
    fun r hr => ?_, fun r hr hid => ?_⟩
  · exact rawExpired_eq_true.mpr (only.raw r hr fun hmem => hfree.raw r hmem hid)
  · exact decide_eq_true (only.buckets r hr fun hmem => hfree.buckets r hmem hid)
  · exact hfree.spans r (only.spans ▸ hr)
  · exact decide_eq_true (only.events r hr fun hmem => hfree.events r hmem hid)

/-- An expired epoch is spent once none of the rows that refer to it is left. -/
theorem isSpent_of_epochExpired {next : HistoryDb} {id : ℕ} {row : EpochRow}
    (only : OnlyExpired config usageRetention now db next)
    (hraw : ∀ r ∈ next.raw.rows, rawExpired config usageRetention now db r.2 = false)
    (hbuckets : ∀ r ∈ next.buckets.rows, bucketExpired config now r.1 = false)
    (hevents : ∀ r ∈ next.events.rows, eventExpired config now r.2 = false)
    (h : epochExpired config usageRetention now db id row = true) :
    isSpent next (epochCutoff config now) id row = true := by
  obtain ⟨hended, hraw', hbuckets', hspans', hevents'⟩ := epochExpired_eq_true.mp h
  refine isSpent_iff.mpr ⟨hended, fun r hr hid => ?_, fun r hr hid => ?_, fun r hr => ?_,
    fun r hr hid => ?_⟩
  · exact absurd (hraw' r (only.raw_subset r hr) hid) (by simp [hraw r hr])
  · exact absurd (hbuckets' r (only.buckets_subset r hr) hid) (by simp [hbuckets r hr])
  · exact hspans' r (only.spans ▸ hr)
  · exact absurd (hevents' r (only.events_subset r hr) hid) (by simp [hevents r hr])

/-- **A batch deletes from the backlog**, and all of it where it deletes less
than its limit. -/
theorem lost_prune :
    let lost := db.size - (prune scan limit db now config usageRetention).1.size
    lost ≤ pruneBacklog config usageRetention now db ∧
      (lost < limit → lost = pruneBacklog config usageRetention now db) := by
  intro lost
  have tables : PrunedTables config usageRetention now limit db
    (prune scan limit db now config usageRetention).1 := prunedTables_prune
  have hlost := tables.lost
  rw [show db.size - (prune scan limit db now config usageRetention).1.size = lost from rfl] at hlost
  generalize (prune scan limit db now config usageRetention).1 = next at tables hlost
  refine ⟨?_, fun hlimit => ?_⟩
  · have hspent : (db.epochs.rows.countP fun r => isSpent next (epochCutoff config now) r.1 r.2) ≤
        db.epochs.rows.countP fun r => epochExpired config usageRetention now db r.1 r.2 :=
      List.countP_mono_left fun r _ hr => epochExpired_of_isSpent tables.onlyExpired hr
    have hraw := tables.raw.lost_le
    have hbuckets := tables.buckets.lost_le
    have hevents := tables.events.lost_le
    have hepochs := tables.epochs.lost_le
    simp only [pruneBacklog]
    omega
  · -- nothing is left that could hold an expired epoch back
    have hspent : (db.epochs.rows.countP fun r => isSpent next (epochCutoff config now) r.1 r.2) =
        db.epochs.rows.countP fun r => epochExpired config usageRetention now db r.1 r.2 := by
      refine List.countP_congr fun r _ => ⟨epochExpired_of_isSpent tables.onlyExpired, ?_⟩
      exact isSpent_of_epochExpired tables.onlyExpired (tables.raw.none_left (by omega))
        (tables.buckets.none_left (by omega)) (tables.events.none_left (by omega))
    rw [hlost, tables.raw.lost_eq (by omega), tables.buckets.lost_eq (by omega),
      tables.events.lost_eq (by omega), tables.epochs.lost_eq (by omega), hspent]
    rfl

/-- **When a batch says that there may be more**: where the backlog reaches
its limit. -/
theorem prune_more_iff : (prune scan limit db now config usageRetention).2.2 = true ↔
    limit ≤ pruneBacklog config usageRetention now db := by
  obtain ⟨hle, heq⟩ := @lost_prune config usageRetention now db scan limit
  rw [prune_more, decide_eq_true_eq]
  constructor
  · exact fun h => Nat.le_trans h hle
  · intro h
    by_contra hlt
    rw [heq (Nat.lt_of_not_le hlt)] at hlt
    exact hlt h

end Batch

end SimpleNetworkMonitor.History
