import SimpleNetworkMonitor.History.Helpers.Answer
import SimpleNetworkMonitor.History.Helpers.Bounded
import Mathlib.Data.Set.Lattice
import Mathlib.Order.CompletePartialOrder
/-!
# Known time and eligible time

The epochs of a check are disjoint, what is stored of an epoch lies in it,
and a chart never knows more of a bucket than was eligible in it: all as
long as the clock of a synchronization has not been set back before what
the synchronization closes or reopens. Set back, a closed epoch ends
before its last span.
-/

namespace SimpleNetworkMonitor.History

open HalfOpen

/-- The time of an epoch, up to `now` while it is open. -/
def EpochInfo.interval (info : EpochInfo) (now : ℤ) : Set ℤ :=
  {t | info.startedMs ≤ t ∧ t < info.endedMs.getD now}

/-- **What the epochs promise** to a query at `now`. -/
structure Confined (db : HistoryDb) (now : ℤ) : Prop where
  disjoint : ∀ id row id' row', (id, row) ∈ db.epochs.rows → (id', row') ∈ db.epochs.rows →
    id ≠ id' → row.key = row'.key → Disjoint (row.interval now) (row'.interval now)
  /-- What is stored of an epoch lies in it, be it a span or a bucket. -/
  spans : ∀ sid span, (sid, span) ∈ db.spans.rows → ∀ row, (span.epochId, row) ∈ db.epochs.rows →
    row.startedMs ≤ span.cursorMs ∧ span.endMs ≤ row.endedMs.getD now
  buckets : ∀ key stats, (key, stats) ∈ db.buckets.rows →
    ∀ row, (key.epochId, row) ∈ db.epochs.rows →
      let share := overlap row.startedMs (row.endedMs.getD now) key.startMs
        (key.startMs + key.resolution.width)
      stats.upMs + stats.downMs ≤ share ∧ stats.usageObservedMs ≤ share
  answers : ∀ request config response, query db request config now = .ok response →
    ∀ series ∈ response.series, ∀ bucket ∈ series.buckets,
      bucket.stats.upMs + bucket.stats.downMs ≤ bucket.eligibleMs ∧
        bucket.stats.usageObservedMs ≤ bucket.eligibleMs

/-- **Time is stored of an epoch**: in a span, or in a bucket that knows some. -/
def HasTime (db : HistoryDb) (id : ℕ) : Prop :=
  (∃ sid span, (sid, span) ∈ db.spans.rows ∧ span.epochId = id) ∨
    ∃ key stats, (key, stats) ∈ db.buckets.rows ∧ key.epochId = id ∧
      0 < stats.upMs + stats.downMs + stats.usageObservedMs

/-- A query's clock has caught up with every epoch that time is stored of. -/
def CaughtUp (db : HistoryDb) (now : ℤ) : Prop :=
  ∀ id row, (id, row) ∈ db.epochs.rows → HasTime db id → row.bound ≤ now

/-- The clock of a step is not set back before what the step closes or
reopens. Only a synchronization can be. -/
def GoesForward (now : ℤ) (step : HistoryConfig × HistoryOp) (db : HistoryDb) : Prop :=
  match step.2 with
  | .syncEpochs hosts => Forward db hosts now
  | _ => True

variable {db : HistoryDb} {now : ℤ} {request : HistoryRequest} {config : HistoryConfig}
variable {φ : HistoryStats → ℕ}

/-! ## One state -/

theorem Apart.disjoint {a b : EpochInfo} (h : Apart a b) :
    Disjoint (a.interval now) (b.interval now) := by
  refine Set.disjoint_left.mpr fun x hx hx' => ?_
  obtain ⟨h₁, h₂⟩ := hx
  obtain ⟨h₃, h₄⟩ := hx'
  rcases h with ⟨e, he, hle⟩ | ⟨e, he, hle⟩
  · rw [he, Option.getD_some] at h₂
    omega
  · rw [he, Option.getD_some] at h₄
    omega

theorem CaughtUp.endsBy (h : CaughtUp db now) (hb : Bounded db) : EndsBy db now := by
  intro sid span hs
  obtain ⟨row, hrow⟩ := Table.mem_keys.mp (hb.sound.spans sid span hs)
  obtain ⟨-, -, hend⟩ := hb.spans sid span hs row hrow
  exact le_trans hend (h _ row hrow (Or.inl ⟨sid, span, hs, rfl⟩))

/-- An epoch that time is stored of shares with a window what it shared up to
its bound, and what follows. -/
theorem CaughtUp.overlap_le (h : CaughtUp db now) {id : ℕ} {row : EpochRow}
    (hmem : (id, row) ∈ db.epochs.rows) (htime : HasTime db id) (lo hi : ℤ) :
    overlap row.startedMs row.bound lo hi ≤
      overlap row.startedMs (row.endedMs.getD now) lo hi := by
  have hbound := h id row hmem htime
  rcases he : row.endedMs with - | ended
  · exact overlap_mono le_rfl hbound
  · rw [EpochRow.bound, he]
    rfl

theorem Counts.bucket_eq_zero (hφ : Counts φ) {key : BucketKey} {stats : HistoryStats}
    (htime : ¬ HasTime db key.epochId) (hmem : (key, stats) ∈ db.buckets.rows) : φ stats = 0 := by
  have hknown := hφ.known stats
  have hnone : ¬ 0 < stats.upMs + stats.downMs + stats.usageObservedMs := fun hpos =>
    htime (Or.inr ⟨key, stats, hmem, rfl, hpos⟩)
  omega

/-- An epoch that no time is stored of holds none. -/
theorem Counts.content_eq_zero (hφ : Counts φ) {id : ℕ} (htime : ¬ HasTime db id) (tier : Tier)
    (lo hi : ℤ) : φ (content db id tier lo hi) = 0 := by
  have hbuckets : φ (bucketTotal db id tier lo hi) = 0 := by
    refine (hφ.sum _ _).trans (Table.sum_eq_zero fun key stats hmem => ?_)
    split_ifs with hkey
    · obtain ⟨rfl, -⟩ := hkey
      exact hφ.bucket_eq_zero htime hmem
    · exact hφ.zero
  have hspans : φ (spanTotal db id lo hi) = 0 := by
    refine (hφ.sum _ _).trans (Table.sum_eq_zero fun sid span hmem => ?_)
    rw [SpanRow.stats, if_neg fun heq => htime (Or.inl ⟨sid, span, hmem, heq⟩)]
    exact hφ.zero
  rw [content, hφ.add, hbuckets, hspans]

/-- **What a query finds of an epoch** is no more than the time it makes
eligible. -/
theorem Bounded.found_le (hb : Bounded db) (h : CaughtUp db now) (hφ : Counts φ) {id n : ℕ}
    {row : EpochRow} (hmem : (id, row) ∈ db.epochs.rows) (i : ℕ) :
    let p := plan (clamp request now) config now n
    φ (content db id p.source (p.windowStart i) (p.windowEnd i) +
        (Epoch.ofRow now id row).tail (p.windowStart i) (p.windowEnd i)) ≤
      (Epoch.ofRow now id row).eligible p i := by
  intro p
  have hend : p.windowEnd i = min (windowEdge (clamp request now) p i) now := windowEnd_eq i
  have hstart : p.cell i ≤ p.windowStart i := le_max_left _ _
  have hrow := hb.started id row hmem
  -- what is stored lies in the epoch up to its bound, which the clock has passed
  have hheld : φ (content db id p.source (p.windowStart i) (p.windowEnd i)) ≤
      overlap row.startedMs (min row.bound now) (p.windowStart i)
        (windowEdge (clamp request now) p i) := by
    by_cases htime : HasTime db id
    · rw [min_eq_left (h id row hmem htime),
        content_windowEnd hb.sound.aligned (h.endsBy hb) (min_le_right _ _) id i]
      exact hb.held id row hmem φ hφ p.source (p.windowStart i)
        (windowEdge (clamp request now) p i) (width_dvd_windowStart i) (width_dvd_windowEdge i)
    · rw [hφ.content_eq_zero htime]
      exact Nat.zero_le _
  rw [hφ.add, Epoch.tail_ofRow, Epoch.eligible, bucketAt_startMs, bucketAt_endMs]
  rcases he : row.endedMs with - | ended
  · have hopen : row.isOpen = true := by simp [EpochInfo.isOpen, he]
    have htail := hφ.tail_le hopen now (p.windowStart i) (p.windowEnd i)
    simp only [Epoch.ofRow, he, Option.getD_none, min_self]
    unfold overlap at *
    omega
  · have hclosed : row.isOpen = false := by simp [EpochInfo.isOpen, he]
    have hbound : row.bound = ended := by rw [EpochRow.bound, he, Option.getD_some]
    have htail : tailTotal row (min ended now) (p.windowStart i) (p.windowEnd i) = 0 := by
      rw [tailTotal, hb.sound.closed id row hmem hclosed]
    rw [hbound] at hheld
    simp only [Epoch.ofRow, he, Option.getD_some, htail, hφ.zero, add_zero]
    unfold overlap at *
    omega

/-- **A chart knows no more than was eligible.** -/
theorem Bounded.known_le_eligible (hb : Bounded db) (h : CaughtUp db now) (hφ : Counts φ)
    {response : HistoryResponse} (hquery : query db request config now = .ok response) :
    ∀ series ∈ response.series, ∀ bucket ∈ series.buckets, φ bucket.stats ≤ bucket.eligibleMs := by
  obtain ⟨candidates, hepochs, -, -, -, hseries⟩ := series_of_query hquery
  intro series hs bucket hmem
  rw [hseries series hs] at hmem
  obtain ⟨i, -, rfl⟩ := List.mem_map.mp hmem
  set p := plan (clamp request now) config now candidates.length
  have hsum : ∀ selected : List Epoch, (∀ epoch ∈ selected, ∃ id row,
      (id, row) ∈ db.epochs.rows ∧ epoch = Epoch.ofRow now id row) →
        φ (total p (clamp request now) db selected series.id i) ≤
          eligible p (clamp request now) selected series.id i := by
    intro selected hrows
    induction selected with
    | nil => rw [show total p (clamp request now) db [] series.id i = 0 from rfl, hφ.zero]; rfl
    | cons epoch selected ih =>
      obtain ⟨id, row, hr, rfl⟩ := hrows epoch List.mem_cons_self
      have hfound : φ _ ≤ (Epoch.ofRow now id row).eligible p i := hb.found_le h hφ hr i
      have hrest := ih fun e he => hrows e (List.mem_cons_of_mem _ he)
      simp only [total, eligible, List.map_cons, List.sum_cons, hφ.add, hφ.nsmul] at hrest ⊢
      rw [hφ.add] at hfound
      exact Nat.add_le_add (Nat.mul_le_mul_left _ hfound) hrest
  rw [finishBucket_stats]
  refine hsum _ fun epoch he => ?_
  rw [selectedFor_eq _ hepochs] at he
  obtain ⟨r, hr, rfl⟩ := List.mem_map.mp he
  exact ⟨r.1, r.2, List.mem_of_mem_filter hr, rfl⟩

/-- A bucket holds no more than its epoch shares with it. -/
theorem Bounded.bucket_le (hb : Bounded db) (h : CaughtUp db now) (hφ : Counts φ)
    {key : BucketKey} {stats : HistoryStats} (hmem : (key, stats) ∈ db.buckets.rows)
    {row : EpochRow} (hrow : (key.epochId, row) ∈ db.epochs.rows) :
    φ stats ≤ overlap row.startedMs (row.endedMs.getD now) key.startMs
      (key.startMs + key.resolution.width) := by
  by_cases htime : HasTime db key.epochId
  swap
  · rw [hφ.bucket_eq_zero htime hmem]
    exact Nat.zero_le _
  have hdvd := hb.sound.aligned key stats hmem
  have hcell : bucketTotal db key.epochId key.resolution key.startMs
      (key.startMs + key.resolution.width) = bucket db key.epochId key.resolution key.startMs :=
    bucketTotal_cell hb.sound.aligned hdvd
  have hbucket : bucket db key.epochId key.resolution key.startMs = stats := by
    rw [bucket, Table.find?_eq_some.mpr hmem, Option.getD_some]
  have hheld := hb.held _ row hrow φ hφ key.resolution key.startMs _ hdvd
    (Int.dvd_add hdvd dvd_rfl)
  rw [content, hcell, hbucket, hφ.add] at hheld
  exact le_trans (le_trans (Nat.le_add_right _ _) hheld) (h.overlap_le hrow htime _ _)

theorem Bounded.confined (hb : Bounded db) (h : CaughtUp db now) : Confined db now where
  disjoint id row id' row' h₁ h₂ hne hkey := (hb.apart id row id' row' h₁ h₂ hne hkey).disjoint
  spans sid span hs row hrow := by
    obtain ⟨hstart, -, hend⟩ := hb.spans sid span hs row hrow
    have hcaught := h _ row hrow (Or.inl ⟨sid, span, hs, rfl⟩)
    refine ⟨hstart, le_trans hend ?_⟩
    rcases he : row.endedMs with - | ended
    · exact hcaught
    · rw [EpochRow.bound, he, Option.getD_some, Option.getD_some]
  buckets key stats hs row hrow :=
    ⟨hb.bucket_le h counts_upMs_add_downMs hs hrow, hb.bucket_le h counts_usageObservedMs hs hrow⟩
  answers request config response hquery series hs bucket hbucket :=
    ⟨hb.known_le_eligible h counts_upMs_add_downMs hquery series hs bucket hbucket,
      hb.known_le_eligible h counts_usageObservedMs hquery series hs bucket hbucket⟩

/-! ## Runs -/

/-- **Known time never exceeds eligible time**, in every run whose
synchronizations go forward, for every query whose clock has caught up with
the epochs that time is stored of: whatever the clocks of the other calls,
and whatever their configurations. -/
theorem confined_of_forward {steps : List (ℤ × HistoryConfig × HistoryOp)}
    (hforward : Clocked.Along (fun now (step : HistoryConfig × HistoryOp) =>
      step.2.apply step.1 now) GoesForward steps {})
    (hnow : CaughtUp (runWith steps) now) : Confined (runWith steps) now := by
  have hempty : Bounded {} :=
    ⟨sound_empty, by simp, by simp, by simp, by simp⟩
  refine Bounded.confined (hforward.run_induction (fun now step db hstep hb => ?_) hempty) hnow
  obtain ⟨config, op⟩ := step
  cases op with
  | syncEpochs hosts => exact bounded_syncEpochs hb hstep
  | record host module check at_ observation => exact bounded_record hb host module check observation
  | rollup limit => exact bounded_rollup hb limit
  | prune scan usageRetention limit => exact bounded_prune hb scan usageRetention limit

/-- The sample run goes forward. -/
theorem confined_of_forward_sample :
    Confined (runWith (sampleSteps.map fun step => (step.1, {}, step.2))) 400000 := by
  refine confined_of_forward ⟨⟨by simp, by simp⟩, trivial, trivial, trivial, trivial⟩ ?_
  have hbound : ∀ r ∈ (runWith (sampleSteps.map fun step => (step.1, {}, step.2))).epochs.rows,
      r.2.bound ≤ 400000 := by decide +kernel
  exact fun id row hmem _ => hbound (id, row) hmem

/-! ## A clock set back -/

/-- The clock is set back by two seconds before the host is removed. -/
def setBack : List (ℤ × HistoryConfig × HistoryOp) :=
  [(1000, {}, .syncEpochs [{ id := "h1", address := "10.0.0.1", name := "H", groups := [] }]),
    (2000, {}, .record "h1" .icmp "" 2000 ⟨"up", true, some 4, none, none, none⟩),
    (5000, {}, .record "h1" .icmp "" 5000 ⟨"up", true, some 4, none, none, none⟩),
    (3000, {}, .syncEpochs [])]

/-- The clock is set back before the host is added again. -/
def setBackAgain : List (ℤ × HistoryConfig × HistoryOp) :=
  [(1000, {}, .syncEpochs [{ id := "h1", address := "10.0.0.1", name := "H", groups := [] }]),
    (5000, {}, .syncEpochs []),
    (3000, {}, .syncEpochs [{ id := "h1", address := "10.0.0.1", name := "H", groups := [] }])]

/-- In the one, the epoch ends before its span does, and its chart knows three
seconds of the two that were eligible; in the other, two epochs meet. -/
theorem not_confined_setBack :
    ¬ Confined (runWith setBack) 400000 ∧ ¬ Confined (runWith setBackAgain) 400000 := by
  refine ⟨fun h => ?_, fun h => ?_⟩
  · have hexceeds : ((query (runWith setBack) sampleRequest {} 400000).toOption.any fun response =>
        response.series.any fun series => series.buckets.any fun bucket =>
          bucket.eligibleMs < bucket.stats.upMs + bucket.stats.downMs) = true := by decide +kernel
    rcases hquery : query (runWith setBack) sampleRequest {} 400000 with e | response
    · rw [hquery] at hexceeds
      cases hexceeds
    · rw [hquery] at hexceeds
      obtain ⟨series, hs, hany⟩ := List.any_eq_true.mp hexceeds
      obtain ⟨bucket, hb, hlt⟩ := List.any_eq_true.mp hany
      have hle := (h.answers _ _ _ hquery series hs bucket hb).1
      exact absurd (of_decide_eq_true hlt) (not_lt.mpr hle)
  · obtain ⟨r, hr, r', hr', hne, hkey, hmeet, hmeet'⟩ : ∃ r ∈ (runWith setBackAgain).epochs.rows,
        ∃ r' ∈ (runWith setBackAgain).epochs.rows, r.1 ≠ r'.1 ∧ r.2.key = r'.2.key ∧
          (r.2.startedMs ≤ 4000 ∧ 4000 < r.2.endedMs.getD 400000) ∧
          (r'.2.startedMs ≤ 4000 ∧ 4000 < r'.2.endedMs.getD 400000) := by decide +kernel
    exact Set.disjoint_left.mp (h.disjoint r.1 r.2 r'.1 r'.2 hr hr' hne hkey) hmeet hmeet'

end SimpleNetworkMonitor.History
