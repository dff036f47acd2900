import SimpleNetworkMonitor.History.Backlog
import SimpleNetworkMonitor.Storage.Helpers.Effects
import SimpleNetworkMonitor.Storage.Model.Perform
/-!
# When the retention job is done

The retention job prunes two sets of tables and answers for one of them: a
batch of the older tables is bounded too, and what it left is not told. So
the job may say that it is done while rows past their retention are left;
it does so exactly where a batch does not cover the older tables and the
backlog of the history is below the batch size.
-/

namespace SimpleNetworkMonitor.Storage

/-! ## What is to be done -/

/-- The retention of the usage rows of the history. -/
def Inner.rawUsageRetention (inner : Inner) : ℕ :=
  inner.usageSampleRetention.getD (fromSecs (30 * 86400))

/-- **None of the older tables** holds a row past its retention, the anchors
of the usage history apart. -/
structure LegacyComplete (inner : Inner) (now : ℤ) : Prop where
  samples : ∀ retention, inner.usageSampleRetention = some retention →
    ∀ r ∈ inner.conn.usageSamples.rows, now - retention ≤ r.2.snapshot.collectedAt
  transitions : ∀ r ∈ inner.conn.transitions.rows, now - inner.historyRetention ≤ r.2.changedAt
  usageHistory : ∀ r ∈ inner.conn.usageHistory.rows,
    isOutdated inner.conn (now - inner.historyRetention) r.1 r.2 = false

/-- **Retention is complete**: no table holds a row past its retention. The
two batches are each at an instant of their own. -/
structure RetentionComplete (inner : Inner) (now now' : ℤ) : Prop where
  legacy : LegacyComplete inner now
  history : History.NoneExpired inner.historyConfig inner.rawUsageRetention (timestampMillis now')
    inner.conn.history

/-- **One batch covers the older tables.** -/
structure LegacyCovered (inner : Inner) (now : ℤ) : Prop where
  samples : ∀ retention, inner.usageSampleRetention = some retention →
    (inner.conn.usageSamples.rows.countP fun r => r.2.snapshot.collectedAt < now - retention) ≤
      PRUNE_LIMIT
  transitions : (inner.conn.transitions.rows.countP fun r =>
    r.2.changedAt < now - inner.historyRetention) ≤ PRUNE_LIMIT
  usageHistory : (inner.conn.usageHistory.rows.countP fun r =>
    isOutdated inner.conn (now - inner.historyRetention) r.1 r.2) ≤ PRUNE_LIMIT

/-- What the history has to delete at an instant. -/
def Inner.pruneBacklog (inner : Inner) (now : ℤ) : ℕ :=
  History.pruneBacklog inner.historyConfig inner.rawUsageRetention (timestampMillis now)
    inner.conn.history

/-- **What the answer of the job promises**: that retention is complete where
there is no more, and that the next batch follows in a second where it is not. -/
structure Truthful (inner : Inner) (now now' : ℤ) (answer : ℕ × Bool × Option String) : Prop where
  complete : answer.2.1 = false → RetentionComplete inner now now'
  resumed : ¬ RetentionComplete inner now now' → ∀ intervalMs nowMs durationMs db db',
    (completeTransaction .retention intervalMs nowMs durationMs (.ok answer)).exec db =
        .ok ((), db') →
      ∀ row, db'.maintenanceJobs.find? JobKind.retention.id = some row →
        row.nextRunMs = nowMs + 1000

/-- A job that says that there is more is due in a second. -/
theorem nextRunMs_of_more {kind : JobKind} {intervalMs : ℕ} {nowMs : ℤ} {durationMs work : ℕ}
    {message : Option String} {db db' : Database} {row : JobRow}
    (h : (completeTransaction kind intervalMs nowMs durationMs (.ok (work, true, message))).exec db =
      .ok ((), db'))
    (hrow : db'.maintenanceJobs.find? kind.id = some row) : row.nextRunMs = nowMs + 1000 := by
  unfold completeTransaction jobCompletion at h
  simp only [Txn.exec_bind, Txn.exec_pure, if_true] at h
  rw [Except.ok_bind, Txn.exec_update] at h
  obtain ⟨-, rfl⟩ := Prod.mk.inj (Except.ok.inj h)
  rw [Table.find?_modify_self, Option.map_eq_some_iff] at hrow
  obtain ⟨old, -, rfl⟩ := hrow
  rfl

/-! ## What the job leaves -/

/-- The storage after the two batches of the job. -/
def SqliteStorage.retained (storage : SqliteStorage) (scan scan' : Table.LimitScan)
    (now now' : ℤ) : SqliteStorage :=
  storage.withConn
    { storage.inner.conn.putPruned scan (now - storage.inner.historyRetention) with
      usageSamples := storage.inner.keptSamples scan now
      history := (storage.inner.prunedHistory scan' now').1 }

section Job

variable {engine : Engine} {scan scan' : Table.LimitScan} {faults faults' : Faults}
variable {now now' : ℤ} {storage storage' : SqliteStorage}

theorem run_performJob_retention :
    Program.run (performJob engine scan scan' faults faults' now now' .retention) storage =
      match Program.run (pruneHistory scan faults now) storage with
      | (.error e, middle) => (.error e, middle)
      | (.ok _, middle) =>
        match Program.run (prune scan' faults' now') middle with
        | (.error e, last) => (.error e, last)
        | (.ok (work, more), last) => (.ok (work, more, none), last) := by
  unfold performJob
  simp only [if_true, Program.run_bind]
  rcases Program.run (pruneHistory scan faults now) storage with ⟨_ | _, middle⟩
  · rfl
  · simp only [Program.run_pure]
    rcases Program.run (prune scan' faults' now') middle with ⟨_ | ⟨work, more⟩, last⟩ <;> rfl

/-- **What the job answers is what its second batch does.** -/
theorem of_performJob_retention {work : ℕ} {more : Bool} {message : Option String}
    (h : Program.run (performJob engine scan scan' faults faults' now now' .retention) storage =
      (.ok (work, more, message), storage')) :
    (work, more) = (storage.inner.prunedHistory scan' now').2 ∧
      storage' = storage.retained scan scan' now now' := by
  rw [run_performJob_retention] at h
  rcases pruneHistory_cases scan faults now storage with ⟨e, hfirst⟩ | ⟨n, hfirst⟩
  · simp only [hfirst] at h
    cases h
  · simp only [hfirst] at h
    rcases prune_cases scan' faults' now' (storage.withConn
        { storage.inner.conn.putPruned scan (now - storage.inner.historyRetention) with
          usageSamples := storage.inner.keptSamples scan now }) with ⟨e, hsecond⟩ | hsecond
    · simp only [hsecond] at h
      cases h
    · simp only [hsecond] at h
      obtain ⟨hanswer, rfl⟩ := Prod.mk.inj h
      obtain ⟨rfl, hrest⟩ := Prod.mk.inj (Except.ok.inj hanswer)
      obtain ⟨rfl, -⟩ := Prod.mk.inj hrest
      exact ⟨rfl, rfl⟩

/-- The anchor of an observed host is kept, and stays its anchor. -/
theorem anchor_putPruned {cutoff : ℤ} {hostId : String} {db : Database}
    (hlatest : hostId ∈ db.latestUsage.keys) :
    anchor (db.putPruned scan cutoff) hostId cutoff = anchor db hostId cutoff := by
  have hsub : ∀ r ∈ (db.putPruned scan cutoff).usageHistory.rows, r ∈ db.usageHistory.rows :=
    fun r hr => Log.mem_of_mem_deleteLimit hr
  unfold anchor
  rcases hrow : db.usageHistory.latest? (·.snapshot.collectedAt) (fun row =>
      row.hostId = hostId && row.snapshot.collectedAt < cutoff) with - | r
  · have hnone := Log.latest?_eq_none.mp hrow
    exact congrArg (Option.map Prod.fst) (Log.latest?_eq_none.mpr fun r hr => hnone r (hsub r hr))
  · obtain ⟨hmem, haccepted⟩ := Log.mem_of_latest? hrow
    rw [Bool.and_eq_true, decide_eq_true_eq] at haccepted
    have hkept : isOutdated db cutoff r.1 r.2 = false := by
      simp [isOutdated, haccepted.1, hlatest, anchor, hrow]
    exact congrArg (Option.map Prod.fst)
      (Log.latest?_of_subset hrow (Log.mem_deleteLimit_of_not hmem hkept) hsub)

/-- **What is outdated does not change** in a batch. -/
theorem isOutdated_putPruned {cutoff : ℤ} {db : Database} (id : ℕ) (row : UsageRow) :
    isOutdated (db.putPruned scan cutoff) cutoff id row = isOutdated db cutoff id row := by
  have hlatest : (db.putPruned scan cutoff).latestUsage = db.latestUsage := rfl
  unfold isOutdated
  by_cases hhost : row.hostId ∈ db.latestUsage.keys
  · rw [anchor_putPruned hhost, hlatest]
  · simp [hlatest, hhost]

theorem isOutdated_retained (id : ℕ) (row : UsageRow) :
    isOutdated (storage.retained scan scan' now now').inner.conn
        (now - storage.inner.historyRetention) id row =
      isOutdated storage.inner.conn (now - storage.inner.historyRetention) id row := by
  have hkept := @isOutdated_putPruned scan (now - storage.inner.historyRetention)
    storage.inner.conn id row
  exact hkept

/-- A bounded delete of what is before a cutoff leaves none of it exactly
where it covers all of it. -/
theorem forall_le_deleteLimit {α : Type} (log : Log α) (instant : α → ℤ) (cutoff : ℤ) :
    (∀ r ∈ (log.deleteLimit scan PRUNE_LIMIT fun _ row => instant row < cutoff).rows,
      cutoff ≤ instant r.2) ↔
      (log.rows.countP fun r => instant r.2 < cutoff) ≤ PRUNE_LIMIT := by
  refine Iff.trans ?_ (@Table.forall_deleteLimit _ _ log.toTable scan PRUNE_LIMIT
    (fun _ row => instant row < cutoff) _)
  exact forall₂_congr fun r _ => by simp

/-- **The older tables are done exactly where one batch covers them.** -/
theorem legacyComplete_retained :
    LegacyComplete (storage.retained scan scan' now now').inner now ↔
      LegacyCovered storage.inner now := by
  have hsamples : ∀ retention, storage.inner.usageSampleRetention = some retention →
      ((∀ r ∈ (storage.inner.keptSamples scan now).rows,
        now - retention ≤ r.2.snapshot.collectedAt) ↔
      (storage.inner.conn.usageSamples.rows.countP fun r =>
        r.2.snapshot.collectedAt < now - retention) ≤ PRUNE_LIMIT) := by
    intro retention hretention
    rw [Inner.keptSamples, hretention, Option.elim_some]
    exact forall_le_deleteLimit storage.inner.conn.usageSamples (fun row => row.snapshot.collectedAt)
      (now - retention)
  have htransitions := @forall_le_deleteLimit scan _ storage.inner.conn.transitions
    IcmpTransition.changedAt (now - storage.inner.historyRetention)
  have hhistory : (∀ r ∈ (storage.retained scan scan' now now').inner.conn.usageHistory.rows,
      isOutdated (storage.retained scan scan' now now').inner.conn
        (now - storage.inner.historyRetention) r.1 r.2 = false) ↔
      (storage.inner.conn.usageHistory.rows.countP fun r =>
        isOutdated storage.inner.conn (now - storage.inner.historyRetention) r.1 r.2) ≤
          PRUNE_LIMIT := by
    refine Iff.trans (forall₂_congr fun r _ => ?_) Table.forall_deleteLimit
    rw [isOutdated_retained]
  constructor
  · intro h
    exact ⟨fun retention hretention => (hsamples retention hretention).mp (h.samples retention hretention),
      htransitions.mp h.transitions, hhistory.mp h.usageHistory⟩
  · intro h
    exact ⟨fun retention hretention => (hsamples retention hretention).mpr
      (h.samples retention hretention), htransitions.mpr h.transitions, hhistory.mpr h.usageHistory⟩

/-- **The job is truthful exactly where** one batch covers the older tables,
or the backlog of the history reaches the batch size. -/
theorem retention_truthful_iff {work : ℕ} {more : Bool} {message : Option String}
    (h : Program.run (performJob engine scan scan' faults faults' now now' .retention) storage =
      (.ok (work, more, message), storage')) :
    Truthful storage'.inner now now' (work, more, message) ↔
      LegacyCovered storage.inner now ∨
        storage.inner.maintenanceConfig.batchSize ≤ storage.inner.pruneBacklog now' := by
  obtain ⟨hanswer, rfl⟩ := of_performJob_retention h
  have hmore : more = (storage.inner.prunedHistory scan' now').2.2 := congrArg Prod.snd hanswer
  have hbacklog : more = true ↔
      storage.inner.maintenanceConfig.batchSize ≤ storage.inner.pruneBacklog now' := by
    rw [hmore]
    exact History.prune_more_iff
  constructor
  · intro htruthful
    by_cases hlimit : storage.inner.maintenanceConfig.batchSize ≤ storage.inner.pruneBacklog now'
    · exact Or.inr hlimit
    · have hdone : more = false := by simpa using mt hbacklog.mp hlimit
      exact Or.inl (legacyComplete_retained.mp (htruthful.complete hdone).legacy)
  · intro hcondition
    have hcomplete : more = false →
        RetentionComplete (storage.retained scan scan' now now').inner now now' := by
      intro hdone
      rcases hcondition with hcovered | hlimit
      · exact ⟨legacyComplete_retained.mpr hcovered,
          History.noneExpired_prune (hmore.symm.trans hdone)⟩
      · rw [hbacklog.mpr hlimit] at hdone
        cases hdone
    refine ⟨hcomplete, fun hleft intervalMs nowMs durationMs db db' hexec row hrow => ?_⟩
    have hmore : more = true := by simpa using mt hcomplete hleft
    rw [hmore] at hexec
    exact nextRunMs_of_more hexec hrow

end Job

/-! ## Samples -/

/-- A host that came up `n` times, at the epoch. -/
def sampleTransitions : ℕ → Log IcmpTransition
  | 0 => ∅
  | n + 1 => (sampleTransitions n).append
    { hostId := "node-a"
      previousStatus := .unknown
      newStatus := .up
      changedAt := 0
      latencyMs := none
      error := none
      backend := "system"
      reason := "success threshold reached" }

theorem countP_sampleTransitions {cutoff : ℤ} (hcutoff : 0 < cutoff) (n : ℕ) :
    ((sampleTransitions n).rows.countP fun r => r.2.changedAt < cutoff) = n := by
  induction n with
  | zero => rfl
  | succ n ih =>
    rw [sampleTransitions, Log.rows_append, List.countP_append, ih]
    simp [hcutoff]

def sampleOverdue (n : ℕ) : SqliteStorage where
  inner := { conn := { transitions := sampleTransitions n } }

def sampleEngine : Engine where
  autoVacuum := .ok 2
  freelistCount := .ok 0
  pageCount := .ok 1
  pageSize := .ok 4096
  incrementalVacuum _ := .ok 0
  optimize := .ok ()
  walCheckpoint := .ok (0, 0)
  deleteRuns _ _ := .ok 0

/-- The retention job on `n` transitions a year and a day later. -/
def sampleRetention (n : ℕ) : Except StorageError (ℕ × Bool × Option String) × SqliteStorage :=
  Program.run (performJob sampleEngine .inOrder .inOrder {} {} (fromSecs (366 * 86400))
    (fromSecs (366 * 86400)) .retention) (sampleOverdue n)

/-- Two transitions are covered by a batch. -/
theorem sampleRetention_truthful :
    Truthful (sampleRetention 2).2.inner (fromSecs (366 * 86400)) (fromSecs (366 * 86400))
      (0, false, none) := by
  have hrun : sampleRetention 2 = (.ok (0, false, none), (sampleRetention 2).2) :=
    Prod.ext (by decide +kernel) rfl
  refine (retention_truthful_iff hrun).mpr (Or.inl ⟨fun _ h => (by cases h), ?_, ?_⟩)
  · decide +kernel
  · decide +kernel

/-- **One transition too many**: a batch leaves it, and the job says that it
is done. -/
theorem sampleRetention_not_truthful :
    (sampleRetention 5001).1 = .ok (0, false, none) ∧
      ¬ Truthful (sampleRetention 5001).2.inner (fromSecs (366 * 86400)) (fromSecs (366 * 86400))
        (0, false, none) := by
  have hrun : (sampleRetention 5001).1 = .ok (0, false, none) := by decide +kernel
  refine ⟨hrun, fun htruthful => ?_⟩
  obtain ⟨-, hretained⟩ := of_performJob_retention (Prod.ext hrun rfl : sampleRetention 5001 =
    (.ok (0, false, none), (sampleRetention 5001).2))
  have hcomplete := (htruthful.complete rfl).legacy
  rw [hretained, legacyComplete_retained] at hcomplete
  have hcount : ((sampleTransitions 5001).rows.countP fun r => r.2.changedAt <
      (fromSecs (366 * 86400) : ℤ) - (fromSecs (365 * 86400) : ℤ)) ≤ PRUNE_LIMIT :=
    hcomplete.transitions
  rw [countP_sampleTransitions (by decide)] at hcount
  exact absurd hcount (by decide)

end SimpleNetworkMonitor.Storage
