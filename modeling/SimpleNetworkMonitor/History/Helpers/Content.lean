import SimpleNetworkMonitor.Common.HalfOpen
import SimpleNetworkMonitor.History.Model.Ingest
import SimpleNetworkMonitor.History.Model.Rollup
/-!
# What the tables hold of an epoch

The **content** of an epoch in a window is what its buckets of one
resolution and its spans hold there. It is what a query adds up, and each
operation changes it in one way: a span adds the time it stretches over,
a sample adds itself, rolling up and pruning change nothing after the
boundary of the resolution.
-/

namespace SimpleNetworkMonitor.History

open HalfOpen

/-! ## Boundaries -/

section Boundary

variable {config : HistoryConfig} {now now' x start end_ cursor : ℤ} {tier : Tier}

theorem floor_eq_cell : floor x tier.seconds = cell tier.width x := rfl

theorem width_dvd_floor : tier.width ∣ floor x tier.seconds := dvd_cell

theorem floor_le : floor x tier.seconds ≤ x := cell_le tier.width_pos

theorem lt_floor_add : x < floor x tier.seconds + tier.width := lt_cell_add tier.width_pos

theorem width_dvd_boundary : tier.width ∣ boundary config now tier := width_dvd_floor

theorem boundary_mono (h : now ≤ now') : boundary config now tier ≤ boundary config now' tier :=
  cell_mono tier.width_pos (cutoff_mono h _)

/-- A coarser resolution is kept further back. -/
theorem boundary_le_boundary {fine coarse : Tier}
    (hdvd : fine.width ∣ coarse.width) (hret : retention config fine ≤ retention config coarse) :
    boundary config now coarse ≤ boundary config now fine :=
  le_trans (cell_mono coarse.width_pos (cutoff_anti hret now))
    (cell_le_cell_of_dvd fine.width_pos coarse.width_pos hdvd)

theorem boundary_daily_le (h : config.Valid) (tier : Tier) :
    boundary config now .daily ≤ boundary config now tier := by
  refine boundary_le_boundary (Tier.width_dvd_daily tier) ?_
  have := h.fiveMinute_le
  have := h.hourly_le
  cases tier <;> simp only [retention] <;> omega

/-! ## Pieces of a span -/

variable (config now)

theorem smallest_of_le (h : boundary config now tier ≤ start) :
    (smallest config now start).width ∣ tier.width := by
  unfold smallest
  split_ifs with h₅ h₁
  · exact Tier.fiveMinute_width_dvd tier
  · cases tier with
    | fiveMinute => exact absurd h (by omega)
    | hourly => exact dvd_rfl
    | daily => exact Tier.width_dvd_daily _
  · cases tier with
    | fiveMinute => exact absurd h (by omega)
    | hourly => exact absurd h (by omega)
    | daily => exact dvd_rfl

theorem chunkEnd_eq : chunkEnd config now start end_ =
    let edge := floor start (smallest config now start).seconds + (smallest config now start).width
    let past tier until_ := if boundary config now tier > start then
      min until_ (boundary config now tier) else until_
    past .daily (past .hourly (past .fiveMinute (min end_ edge))) := rfl

theorem chunkEnd_le : chunkEnd config now start end_ ≤ end_ := by
  rw [chunkEnd_eq]
  simp only
  split_ifs <;> omega

/-- A piece of a span is not empty. -/
theorem lt_chunkEnd (h : start < end_) : start < chunkEnd config now start end_ := by
  have : start < floor start (smallest config now start).seconds +
      (smallest config now start).width := lt_floor_add
  rw [chunkEnd_eq]
  simp only
  split_ifs <;> omega

/-- It straddles no boundary. -/
theorem chunkEnd_le_boundary (h : start < boundary config now tier) :
    chunkEnd config now start end_ ≤ boundary config now tier := by
  rw [chunkEnd_eq]
  simp only
  cases tier <;> split_ifs <;> omega

/-- It lies in one bucket of every resolution that keeps it. -/
theorem chunkEnd_le_floor_add (h : boundary config now tier ≤ start) :
    chunkEnd config now start end_ ≤ floor start tier.seconds + tier.width := by
  have hcell := cell_add_le_cell_add (x := start) (Tier.width_pos _) tier.width_pos
    (smallest_of_le config now h)
  simp only [← floor_eq_cell] at hcell
  rw [chunkEnd_eq]
  simp only
  split_ifs <;> omega

end Boundary

/-! ## Content -/

/-- What the buckets of a resolution hold of an epoch, those that start in
a window. -/
def bucketTotal (db : HistoryDb) (epoch : ℕ) (tier : Tier) (lo hi : ℤ) : HistoryStats :=
  db.buckets.sum fun key stats =>
    if key.epochId = epoch ∧ key.resolution = tier ∧ lo ≤ key.startMs ∧ key.startMs < hi then stats
    else 0

/-- What `n` milliseconds of a span count for an epoch. -/
def SpanRow.stats (span : SpanRow) (epoch n : ℕ) : HistoryStats :=
  if span.epochId = epoch then span.observation.durationStats n else 0

@[simp] theorem SpanRow.stats_zero (span : SpanRow) (epoch : ℕ) : span.stats epoch 0 = 0 := by
  simp [SpanRow.stats]

theorem SpanRow.stats_add (span : SpanRow) (epoch m n : ℕ) :
    span.stats epoch (m + n) = span.stats epoch m + span.stats epoch n := by
  unfold SpanRow.stats
  split_ifs
  · exact span.observation.durationStats_add m n
  · simp

/-- What the spans of an epoch hold in a window. -/
def spanTotal (db : HistoryDb) (epoch : ℕ) (lo hi : ℤ) : HistoryStats :=
  db.spans.sum fun _ span => span.stats epoch (overlap span.cursorMs span.endMs lo hi)

/-- **The content of an epoch in a window**, at one resolution. -/
def content (db : HistoryDb) (epoch : ℕ) (tier : Tier) (lo hi : ℤ) : HistoryStats :=
  bucketTotal db epoch tier lo hi + spanTotal db epoch lo hi

/-- An empty window holds nothing. -/
theorem content_of_empty {db : HistoryDb} {epoch : ℕ} {tier : Tier} {lo hi : ℤ} (h : hi ≤ lo) :
    content db epoch tier lo hi = 0 := by
  have hb : bucketTotal db epoch tier lo hi = 0 :=
    Table.sum_eq_zero fun key stats _ => if_neg fun hc => by omega
  have hs : spanTotal db epoch lo hi = 0 := Table.sum_eq_zero fun _ span _ => by
    rw [overlap_comm, overlap_eq_zero_of_empty h, SpanRow.stats_zero]
  rw [content, hb, hs, add_zero]

/-- What the last observation of an epoch holds in a window, in force up to
`end_` at the latest. -/
def tailTotal (row : EpochRow) (end_ lo hi : ℤ) : HistoryStats :=
  match row.lastMs, row.lastJson with
  | some last, some observation =>
    observation.durationStats (overlap last (min end_ (last + row.freshnessMs)) lo hi)
  | _, _ => 0

section Totals

variable (db : HistoryDb) (epoch id : ℕ) (tier : Tier) (lo hi start : ℤ) (stats : HistoryStats)

theorem bucketTotal_addStats (resolution : Tier) :
    bucketTotal (addStats db id resolution start stats) epoch tier lo hi =
      bucketTotal db epoch tier lo hi +
        if id = epoch ∧ resolution = tier ∧ lo ≤ start ∧ start < hi then stats else 0 := by
  unfold bucketTotal addStats
  exact Table.sum_upsert_add (by split_ifs <;> rfl) fun a b => by split_ifs <;> simp

/-- Adding to one bucket of every resolution that keeps it. -/
theorem bucketTotal_addTiers (keeps : Tier → Prop) [DecidablePred keeps] (at_ : Tier → ℤ) :
    bucketTotal (TIERS.foldl (fun db res =>
        if keeps res then addStats db id res (at_ res) stats else db) db) epoch tier lo hi =
      bucketTotal db epoch tier lo hi +
        if id = epoch ∧ keeps tier ∧ lo ≤ at_ tier ∧ at_ tier < hi then stats else 0 := by
  have step : ∀ (db : HistoryDb) (res : Tier),
      bucketTotal (if keeps res then addStats db id res (at_ res) stats else db) epoch tier lo hi =
        bucketTotal db epoch tier lo hi +
          if res = tier then
            if id = epoch ∧ keeps tier ∧ lo ≤ at_ tier ∧ at_ tier < hi then stats else 0
          else 0 := by
    intro db res
    by_cases hres : res = tier
    · subst hres
      by_cases hk : keeps res
      · rw [if_pos hk, bucketTotal_addStats]
        simp [hk]
      · simp [hk]
    · split_ifs with hk
      · rw [bucketTotal_addStats]
        simp [hres]
      · simp
  simp only [TIERS, List.foldl_cons, List.foldl_nil, step]
  cases tier <;> simp

theorem addTiers_spans (keeps : Tier → Prop) [DecidablePred keeps] (at_ : Tier → ℤ) :
    (TIERS.foldl (fun db res => if keeps res then addStats db id res (at_ res) stats else db)
      db).spans = db.spans := by
  simp only [TIERS, List.foldl_cons, List.foldl_nil]
  split_ifs <;> rfl

theorem addTiers_epochs (keeps : Tier → Prop) [DecidablePred keeps] (at_ : Tier → ℤ) :
    (TIERS.foldl (fun db res => if keeps res then addStats db id res (at_ res) stats else db)
      db).epochs = db.epochs := by
  simp only [TIERS, List.foldl_cons, List.foldl_nil]
  split_ifs <;> rfl

end Totals

/-- The content depends on the buckets and the spans only. -/
theorem content_congr {db db' : HistoryDb} (hb : db'.buckets = db.buckets)
    (hs : db'.spans = db.spans) (epoch : ℕ) (tier : Tier) (lo hi : ℤ) :
    content db' epoch tier lo hi = content db epoch tier lo hi := by
  unfold content bucketTotal spanTotal
  rw [hb, hs]

/-! ## Shape -/

/-- Every bucket starts on the grid of its resolution. -/
def Aligned (db : HistoryDb) : Prop :=
  ∀ key stats, (key, stats) ∈ db.buckets.rows → key.resolution.width ∣ key.startMs

/-- No span ends past an instant. -/
def EndsBy (db : HistoryDb) (now : ℤ) : Prop :=
  ∀ id span, (id, span) ∈ db.spans.rows → span.endMs ≤ now

theorem aligned_congr {db db' : HistoryDb} (hb : db'.buckets = db.buckets) (h : Aligned db) :
    Aligned db' := by
  unfold Aligned
  rwa [hb]

theorem aligned_addStats {db : HistoryDb} (h : Aligned db) (epoch : ℕ) (resolution : Tier)
    (start : ℤ) (stats : HistoryStats) (hdvd : resolution.width ∣ start) :
    Aligned (addStats db epoch resolution start stats) := by
  intro key value hk
  rcases Table.mem_upsert.mp hk with ⟨hk, -⟩ | heq
  · exact h key value hk
  · obtain ⟨rfl, -⟩ := Prod.mk.inj heq
    exact hdvd

theorem aligned_addTiers {db : HistoryDb} (h : Aligned db) (id : ℕ) (stats : HistoryStats)
    (keeps : Tier → Prop) [DecidablePred keeps] {at_ : Tier → ℤ}
    (hdvd : ∀ tier, tier.width ∣ at_ tier) :
    Aligned (TIERS.foldl (fun db res =>
      if keeps res then addStats db id res (at_ res) stats else db) db) := by
  have step : ∀ (db : HistoryDb) (res : Tier), Aligned db →
      Aligned (if keeps res then addStats db id res (at_ res) stats else db) := by
    intro db res h
    split_ifs
    · exact aligned_addStats h id res _ stats (hdvd res)
    · exact h
  exact step _ _ (step _ _ (step _ _ h))

/-! ## One bucket -/

/-- The statistics of a bucket; a missing one is empty. -/
def bucket (db : HistoryDb) (epoch : ℕ) (tier : Tier) (start : ℤ) : HistoryStats :=
  (db.buckets.find? ⟨epoch, tier, start⟩).getD {}

/-- A window of one cell holds one bucket. -/
theorem bucketTotal_cell {db : HistoryDb} {epoch : ℕ} {tier : Tier} (h : Aligned db) {start : ℤ}
    (hdvd : tier.width ∣ start) :
    bucketTotal db epoch tier start (start + tier.width) = bucket db epoch tier start := by
  have hone : bucketTotal db epoch tier start (start + tier.width) =
      db.buckets.sum fun key stats => if key = ⟨epoch, tier, start⟩ then stats else 0 := by
    refine Table.sum_congr fun key stats hmem => if_congr ?_ rfl rfl
    constructor
    · rintro ⟨rfl, rfl, hlo, hhi⟩
      have hgrid := h key stats hmem
      rcases lt_or_eq_of_le hlo with hlt | heq
      · have := add_le_of_lt_of_dvd hdvd hgrid hlt
        omega
      · rw [heq]
    · rintro rfl
      have := tier.width_pos
      exact ⟨rfl, rfl, le_rfl, by simp only; omega⟩
  have hkey := Table.sum_ite_key (t := db.buckets) (k := ⟨epoch, tier, start⟩)
    fun stats : HistoryStats => stats
  rw [hone, hkey, bucket]
  cases db.buckets.find? ⟨epoch, tier, start⟩ <;> rfl

end SimpleNetworkMonitor.History
