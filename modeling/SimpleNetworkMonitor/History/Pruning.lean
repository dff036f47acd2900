import SimpleNetworkMonitor.Common.Draining
import SimpleNetworkMonitor.Common.Trimming
import SimpleNetworkMonitor.History.Helpers.Sound
/-!
# Pruning deletes exactly what has expired

A batch deletes rows past their retention and nothing else, a bounded
number of each class. What it answers tells whether it may have left some:
where it says that there is no more, none is left.
-/

namespace SimpleNetworkMonitor.History

/-! ## What is to be deleted -/

/-- The instant up to which the raw rows of a module are expired. -/
def rawCutoff (config : HistoryConfig) (usageRetention : ℕ) (now : ℤ) : Module → ℤ
  | .usage => cutoff now usageRetention
  | .icmp | .tcp => cutoff now config.rawRetention

/-- The instant up to which closed epochs are expired. -/
def epochCutoff (config : HistoryConfig) (now : ℤ) : ℤ :=
  cutoff now (max config.dailyRetention config.eventRetention)

/-- No row is of an epoch. -/
structure Unreferenced (db : HistoryDb) (id : ℕ) : Prop where
  raw : ∀ r ∈ db.raw.rows, r.2.epochId ≠ id
  buckets : ∀ r ∈ db.buckets.rows, r.1.epochId ≠ id
  spans : ∀ r ∈ db.spans.rows, r.2.epochId ≠ id
  events : ∀ r ∈ db.events.rows, r.2.epochId ≠ id

/-- **Only expired rows are gone** from `next`, and no span, and none is new. -/
structure OnlyExpired (config : HistoryConfig) (usageRetention : ℕ) (now : ℤ)
    (db next : HistoryDb) : Prop where
  raw : ∀ r ∈ db.raw.rows, r ∉ next.raw.rows → ∃ module,
    moduleOf db r.2.epochId = some module ∧ r.2.atMs < rawCutoff config usageRetention now module
  events : ∀ r ∈ db.events.rows, r ∉ next.events.rows → r.2.atMs < cutoff now config.eventRetention
  buckets : ∀ r ∈ db.buckets.rows, r ∉ next.buckets.rows →
    r.1.startMs < boundary config now r.1.resolution
  epochs : ∀ r ∈ db.epochs.rows, r ∉ next.epochs.rows →
    (∃ ended, r.2.endedMs = some ended ∧ ended < epochCutoff config now) ∧ Unreferenced next r.1
  spans : next.spans = db.spans
  raw_subset : ∀ r ∈ next.raw.rows, r ∈ db.raw.rows
  events_subset : ∀ r ∈ next.events.rows, r ∈ db.events.rows
  buckets_subset : ∀ r ∈ next.buckets.rows, r ∈ db.buckets.rows
  epochs_subset : ∀ r ∈ next.epochs.rows, r ∈ db.epochs.rows

/-- **No expired row is left.** -/
structure NoneExpired (config : HistoryConfig) (usageRetention : ℕ) (now : ℤ)
    (db : HistoryDb) : Prop where
  raw : ∀ r ∈ db.raw.rows, ∀ module, moduleOf db r.2.epochId = some module →
    rawCutoff config usageRetention now module ≤ r.2.atMs
  events : ∀ r ∈ db.events.rows, cutoff now config.eventRetention ≤ r.2.atMs
  buckets : ∀ r ∈ db.buckets.rows, boundary config now r.1.resolution ≤ r.1.startMs
  epochs : ∀ r ∈ db.epochs.rows, ∀ ended, r.2.endedMs = some ended → Unreferenced db r.1 →
    epochCutoff config now ≤ ended

/-- The classes of rows, each deleted by a statement of its own. -/
inductive RowClass where
  | rawUsage
  | rawOther
  | event
  | bucket (resolution : Tier)
  | epoch

/-- How many rows of a class are in `db` with a key that `next` does not have. -/
def RowClass.gone (db next : HistoryDb) : RowClass → ℕ
  | .rawUsage => db.raw.rows.countP fun r =>
    next.raw.find? r.1 = none ∧ moduleOf db r.2.epochId = some .usage
  | .rawOther => db.raw.rows.countP fun r =>
    next.raw.find? r.1 = none ∧ moduleOf db r.2.epochId ≠ some .usage
  | .event => db.events.rows.countP fun r => next.events.find? r.1 = none
  | .bucket resolution => db.buckets.rows.countP fun r =>
    next.buckets.find? r.1 = none ∧ r.1.resolution = resolution
  | .epoch => db.epochs.rows.countP fun r => next.epochs.find? r.1 = none

/-! ## The statements -/

section Statements

variable (config : HistoryConfig) (usageRetention : ℕ) (now : ℤ) (db : HistoryDb)

def rawExpired (row : RawRow) : Bool :=
  (moduleOf db row.epochId).any fun module => row.atMs < rawCutoff config usageRetention now module

def eventExpired (row : EventRow) : Bool := row.atMs < cutoff now config.eventRetention

def bucketExpired (key : BucketKey) : Bool := key.startMs < boundary config now key.resolution

/-- What the two statements on raw rows accept. -/
def rawStatements : List (ℕ → RawRow → Bool) :=
  [rawBefore db (cutoff now config.rawRetention) (· ≠ .usage),
    rawBefore db (cutoff now usageRetention) (· = .usage)]

/-- What the three statements on buckets accept. -/
def bucketStatements : List (BucketKey → HistoryStats → Bool) :=
  TIERS.map fun resolution key _ =>
    key.resolution = resolution ∧ key.startMs < boundary config now resolution

/-- **A batch, table by table.** -/
theorem prune_tables (scan : Table.LimitScan) (limit : ℕ) :
    let next := (prune scan limit db now config usageRetention).1
    next.raw = Table.trim scan limit db.raw (rawStatements config usageRetention now db) ∧
      next.events = Table.trim scan limit db.events
        [fun _ row => row.atMs < cutoff now config.eventRetention] ∧
      next.buckets = Table.trim scan limit db.buckets (bucketStatements config now) ∧
      next.spans = db.spans ∧
      next.epochs = Table.trim scan limit db.epochs [isSpent next (epochCutoff config now)] :=
  ⟨rfl, rfl, rfl, rfl, rfl⟩

variable {config usageRetention now db}

theorem rawExpired_eq_true {row : RawRow} : rawExpired config usageRetention now db row = true ↔
    ∃ module, moduleOf db row.epochId = some module ∧
      row.atMs < rawCutoff config usageRetention now module := by
  unfold rawExpired
  rcases moduleOf db row.epochId with - | module
  · simp
  · simp

theorem accepted_rawStatements :
    Table.accepted (rawStatements config usageRetention now db) =
      fun r => rawExpired config usageRetention now db r.2 := by
  funext r
  rw [Bool.eq_iff_iff, rawExpired_eq_true]
  simp only [Table.accepted, rawStatements, List.any_cons, List.any_nil, Bool.or_false,
    rawBefore, Bool.or_eq_true, Bool.and_eq_true, decide_eq_true_eq]
  rcases moduleOf db r.2.epochId with - | module
  · simp
  · cases module <;> simp [rawCutoff]

theorem rawStatements_disjoint : (rawStatements config usageRetention now db).Pairwise
    fun p q => ∀ k v, p k v = true → q k v = false := by
  simp only [rawStatements, List.pairwise_cons, List.mem_singleton, forall_eq,
    List.not_mem_nil, false_imp_iff, implies_true, List.Pairwise.nil, and_true]
  intro k row h
  simp only [rawBefore, Bool.and_eq_true] at h ⊢
  rcases hmodule : moduleOf db row.epochId with - | module
  · simp
  · rw [hmodule] at h
    have hne : module ≠ .usage := by simpa using h.1
    simp [hne]

theorem accepted_bucketStatements :
    Table.accepted (bucketStatements config now) = fun r => bucketExpired config now r.1 := by
  funext r
  rw [Bool.eq_iff_iff]
  simp [Table.accepted, bucketStatements, bucketExpired]

theorem bucketStatements_disjoint : (bucketStatements config now).Pairwise
    fun p q => ∀ k v, p k v = true → q k v = false := by
  refine List.pairwise_map.mpr (List.Pairwise.imp_of_mem (R := (· ≠ ·)) ?_ (by decide))
  intro tier tier' _ _ hne key _ h
  obtain ⟨rfl, -⟩ := of_decide_eq_true h
  exact decide_eq_false fun h' => hne h'.1

theorem isSpent_iff {at_ : ℤ} {id : ℕ} {row : EpochRow} : isSpent db at_ id row = true ↔
    (∃ ended, row.endedMs = some ended ∧ ended < at_) ∧ Unreferenced db id :=
  isSpent_eq_true.trans
    ⟨fun ⟨h, hraw, hbuckets, hspans, hevents⟩ => ⟨h, hraw, hbuckets, hspans, hevents⟩,
      fun ⟨h, hraw, hbuckets, hspans, hevents⟩ => ⟨h, hraw, hbuckets, hspans, hevents⟩⟩

end Statements

/-! ## A batch -/

section Batch

variable {config : HistoryConfig} {usageRetention : ℕ} {now : ℤ} {db : HistoryDb}
variable {scan : Table.LimitScan} {limit : ℕ}

/-- **What a batch leaves of each table.** -/
structure PrunedTables (config : HistoryConfig) (usageRetention : ℕ) (now : ℤ) (limit : ℕ)
    (db next : HistoryDb) : Prop where
  raw : Table.Trimmed limit db.raw next.raw fun r => rawExpired config usageRetention now db r.2
  events : Table.Trimmed limit db.events next.events fun r => eventExpired config now r.2
  buckets : Table.Trimmed limit db.buckets next.buckets fun r => bucketExpired config now r.1
  spans : next.spans = db.spans
  epochs : Table.Trimmed limit db.epochs next.epochs fun r =>
    isSpent next (epochCutoff config now) r.1 r.2

theorem prunedTables_prune : PrunedTables config usageRetention now limit db
    (prune scan limit db now config usageRetention).1 := by
  obtain ⟨hraw, hevents, hbuckets, hspans, hepochs⟩ :=
    prune_tables config usageRetention now db scan limit
  generalize (prune scan limit db now config usageRetention).1 = next at *
  constructor
  case raw =>
    rw [hraw, ← accepted_rawStatements]
    exact Table.trimmed_trim
  case events =>
    rw [hevents, ← Table.accepted_singleton fun _ row => eventExpired config now row]
    exact Table.trimmed_trim
  case buckets =>
    rw [hbuckets, ← accepted_bucketStatements]
    exact Table.trimmed_trim
  case spans => exact hspans
  case epochs =>
    rw [← Table.accepted_singleton, hepochs]
    exact Table.trimmed_trim

/-- What a batch deletes, table by table. -/
theorem PrunedTables.lost {next : HistoryDb}
    (tables : PrunedTables config usageRetention now limit db next) :
    db.size - next.size = (db.raw.rows.length - next.raw.rows.length) +
      (db.buckets.rows.length - next.buckets.rows.length) +
      (db.events.rows.length - next.events.rows.length) +
      (db.epochs.rows.length - next.epochs.rows.length) := by
  have hspans : next.spans.rows.length = db.spans.rows.length := by rw [tables.spans]
  have hraw := tables.raw.sublist.length_le
  have hbuckets := tables.buckets.sublist.length_le
  have hevents := tables.events.sublist.length_le
  have hepochs := tables.epochs.sublist.length_le
  simp only [HistoryDb.size]
  omega

theorem PrunedTables.onlyExpired {next : HistoryDb}
    (tables : PrunedTables config usageRetention now limit db next) :
    OnlyExpired config usageRetention now db next where
  raw r hr hgone := rawExpired_eq_true.mp (tables.raw.of_gone r hr hgone)
  events r hr hgone := of_decide_eq_true (tables.events.of_gone r hr hgone)
  buckets r hr hgone := of_decide_eq_true (tables.buckets.of_gone r hr hgone)
  epochs r hr hgone := isSpent_iff.mp (tables.epochs.of_gone r hr hgone)
  spans := tables.spans
  raw_subset := tables.raw.sublist.subset
  events_subset := tables.events.sublist.subset
  buckets_subset := tables.buckets.sublist.subset
  epochs_subset := tables.epochs.sublist.subset

theorem onlyExpired_prune : OnlyExpired config usageRetention now db
    (prune scan limit db now config usageRetention).1 := prunedTables_prune.onlyExpired

/-- **At most `limit` rows of each class.** -/
theorem gone_prune_le (c : RowClass) :
    c.gone db (prune scan limit db now config usageRetention).1 ≤ limit := by
  have only : OnlyExpired config usageRetention now db
    (prune scan limit db now config usageRetention).1 := onlyExpired_prune
  obtain ⟨hraw, hevents, hbuckets, -, hepochs⟩ :=
    prune_tables config usageRetention now db scan limit
  generalize (prune scan limit db now config usageRetention).1 = next at *
  cases c with
  -- what is gone was expired, and so accepted by the statement for its class
  | rawUsage =>
    have hmem : rawBefore db (cutoff now usageRetention) (· = .usage) ∈
        rawStatements config usageRetention now db := List.mem_cons_of_mem _ List.mem_cons_self
    refine Nat.le_trans (List.countP_mono_left fun r hr hgone => ?_)
      (hraw ▸ Table.countP_trim_le rawStatements_disjoint hmem)
    obtain ⟨hnone, hmodule⟩ := of_decide_eq_true hgone
    have hgone := Table.notMem_of_find?_eq_none hnone
    obtain ⟨module, hm, hlt⟩ := only.raw r hr hgone
    obtain rfl := Option.some.inj (hm.symm.trans hmodule)
    refine decide_eq_true ⟨hgone, ?_⟩
    simpa [rawBefore, hm, rawCutoff] using hlt
  | rawOther =>
    have hmem : rawBefore db (cutoff now config.rawRetention) (· ≠ .usage) ∈
        rawStatements config usageRetention now db := List.mem_cons_self
    refine Nat.le_trans (List.countP_mono_left fun r hr hgone => ?_)
      (hraw ▸ Table.countP_trim_le rawStatements_disjoint hmem)
    obtain ⟨hnone, hmodule⟩ := of_decide_eq_true hgone
    have hgone := Table.notMem_of_find?_eq_none hnone
    obtain ⟨module, hm, hlt⟩ := only.raw r hr hgone
    rw [hm] at hmodule
    refine decide_eq_true ⟨hgone, ?_⟩
    cases module with
    | usage => exact absurd rfl hmodule
    | icmp => simpa [rawBefore, hm, rawCutoff] using hlt
    | tcp => simpa [rawBefore, hm, rawCutoff] using hlt
  | event =>
    refine Nat.le_trans (List.countP_mono_left fun r hr hgone => ?_)
      (hevents ▸ Table.countP_trim_le (List.pairwise_singleton _ _) List.mem_cons_self)
    have hgone := Table.notMem_of_find?_eq_none (of_decide_eq_true hgone)
    exact decide_eq_true ⟨hgone, decide_eq_true (only.events r hr hgone)⟩
  | bucket resolution =>
    have hmem : (fun (key : BucketKey) (_ : HistoryStats) => decide (key.resolution = resolution ∧
        key.startMs < boundary config now resolution)) ∈ bucketStatements config now :=
      List.mem_map.mpr ⟨resolution, mem_TIERS resolution, rfl⟩
    refine Nat.le_trans (List.countP_mono_left fun r hr hgone => ?_)
      (hbuckets ▸ Table.countP_trim_le bucketStatements_disjoint hmem)
    obtain ⟨hnone, hresolution⟩ := of_decide_eq_true hgone
    have hgone := Table.notMem_of_find?_eq_none hnone
    have hlt := only.buckets r hr hgone
    exact decide_eq_true ⟨hgone, decide_eq_true ⟨hresolution, hresolution ▸ hlt⟩⟩
  -- the epochs' statement looks at the other tables as they are left
  | epoch =>
    have hle : (db.epochs.rows.countP fun r => r ∉ (Table.trim scan limit db.epochs
        [isSpent next (epochCutoff config now)]).rows ∧
          isSpent next (epochCutoff config now) r.1 r.2 = true) ≤ limit :=
      Table.countP_trim_le (List.pairwise_singleton _ _) List.mem_cons_self
    rw [RowClass.gone, hepochs]
    refine Nat.le_trans (List.countP_mono_left fun r hr hgone => ?_) hle
    have hgone := Table.notMem_of_find?_eq_none (of_decide_eq_true hgone)
    obtain ⟨p, hp, hpr⟩ := Table.exists_of_notMem_trim hr hgone
    exact decide_eq_true ⟨hgone, List.mem_singleton.mp hp ▸ hpr⟩

theorem prune_more : (prune scan limit db now config usageRetention).2.2 =
    decide (limit ≤ db.size - (prune scan limit db now config usageRetention).1.size) := rfl

/-- **Where a batch says that there is no more, none is left.** -/
theorem noneExpired_prune (hmore : (prune scan limit db now config usageRetention).2.2 = false) :
    NoneExpired config usageRetention now (prune scan limit db now config usageRetention).1 := by
  have tables : PrunedTables config usageRetention now limit db
    (prune scan limit db now config usageRetention).1 := prunedTables_prune
  rw [prune_more, decide_eq_false_iff_not, not_le] at hmore
  generalize (prune scan limit db now config usageRetention).1 = next at *
  -- no table lost as many rows as one statement may delete
  rw [tables.lost] at hmore
  constructor
  case raw =>
    intro r hr module hmodule
    by_contra hlt
    -- an epoch that is left was there before
    have hmodule' : moduleOf db r.2.epochId = some module := by
      obtain ⟨row, hrow, hm⟩ := Option.map_eq_some_iff.mp hmodule
      have hmem := tables.epochs.sublist.subset (Table.find?_eq_some.mp hrow)
      exact Option.map_eq_some_iff.mpr ⟨row, Table.find?_eq_some.mpr hmem, hm⟩
    have hexpired := rawExpired_eq_true.mpr ⟨module, hmodule', not_le.mp hlt⟩
    rw [tables.raw.none_left (by omega) r hr] at hexpired
    cases hexpired
  case events =>
    intro r hr
    exact not_lt.mp (of_decide_eq_false (tables.events.none_left (by omega) r hr))
  case buckets =>
    intro r hr
    exact not_lt.mp (of_decide_eq_false (tables.buckets.none_left (by omega) r hr))
  case epochs =>
    intro r hr ended hended hunreferenced
    by_contra hlt
    have hspent := isSpent_iff.mpr ⟨⟨ended, hended, not_le.mp hlt⟩, hunreferenced⟩
    rw [tables.epochs.none_left (by omega) r hr] at hspent
    cases hspent

/-- Where there is more, the tables have got smaller. -/
theorem size_prune_lt (hlimit : 0 < limit)
    (hmore : (prune scan limit db now config usageRetention).2.2 = true) :
    (prune scan limit db now config usageRetention).1.size < db.size := by
  rw [prune_more, decide_eq_true_eq] at hmore
  omega

/-- Batch after batch at one instant, each with rows of its own choice. -/
def prunes (config : HistoryConfig) (usageRetention : ℕ) (now : ℤ) (limit : ℕ)
    (scans : ℕ → Table.LimitScan) : ℕ → HistoryDb → HistoryDb :=
  Draining.calls fun n db => ((prune (scans n) limit db now config usageRetention).1,
    (prune (scans n) limit db now config usageRetention).2.2)

/-- **Pruning deletes exactly what has expired.** A batch deletes expired rows
only, no span, and at most `limit` rows of each class; where it says that
there is no more, no expired row is left; and batches repeated at the same
instant get there, whichever rows they pick. -/
theorem prune_exact (config : HistoryConfig) (usageRetention : ℕ) (now : ℤ) (db : HistoryDb)
    (scan : Table.LimitScan) (scans : ℕ → Table.LimitScan) {limit : ℕ} (hlimit : 0 < limit) :
    OnlyExpired config usageRetention now db
      (prune scan limit db now config usageRetention).1 ∧
    (∀ c : RowClass, c.gone db (prune scan limit db now config usageRetention).1 ≤ limit) ∧
    ((prune scan limit db now config usageRetention).2.2 = false →
      NoneExpired config usageRetention now (prune scan limit db now config usageRetention).1) ∧
    ∃ n, (prune (scans n) limit (prunes config usageRetention now limit scans n db) now config
      usageRetention).2.2 = false := by
  refine ⟨onlyExpired_prune, gone_prune_le, noneExpired_prune, ?_⟩
  obtain ⟨n, -, hdone⟩ := @Draining.exists_done _ (fun n db =>
    ((prune (scans n) limit db now config usageRetention).1,
      (prune (scans n) limit db now config usageRetention).2.2)) HistoryDb.size
    (fun n db hmore => size_prune_lt hlimit hmore) db
  exact ⟨n, hdone⟩

end Batch

/-- The sample run, long after everything in it has expired: the span keeps
its epoch, and all the other rows go. -/
theorem prune_exact_sample :
    let db := run {} (sampleSteps.take 3)
    (prune .inOrder 10 db 1000000000000 {} 0).2.2 = false ∧
      NoneExpired {} 0 1000000000000 (prune .inOrder 10 db 1000000000000 {} 0).1 := by
  have exact_ := prune_exact {} 0 1000000000000 (run {} (sampleSteps.take 3)) .inOrder
    (fun _ => .inOrder) (show 0 < 10 by decide)
  have hdone : (prune .inOrder 10 (run {} (sampleSteps.take 3)) 1000000000000 {} 0).2.2 = false := by
    decide +kernel
  exact ⟨hdone, exact_.2.2.1 hdone⟩

end SimpleNetworkMonitor.History
