import SimpleNetworkMonitor.History.Helpers.Sound
import Mathlib.Algebra.BigOperators.Group.Finset.Basic
/-!
# The tiers agree

Samples go into the buckets of every resolution at once, and a piece of a
span into those of every resolution that keeps it. After the boundary of
the finer of two resolutions, both have therefore taken in the same, and
a coarse bucket is the merge of the fine buckets in it.
-/

namespace SimpleNetworkMonitor.History

open HalfOpen Finset

/-! ## Windows as buckets -/

section Windows

variable {db : HistoryDb} {epoch : ℕ} {tier : Tier} {lo m hi : ℤ}

theorem bucketTotal_split (hlm : lo ≤ m) (hmh : m ≤ hi) :
    bucketTotal db epoch tier lo hi =
      bucketTotal db epoch tier lo m + bucketTotal db epoch tier m hi := by
  rw [bucketTotal, bucketTotal, bucketTotal, ← Table.sum_add]
  refine Table.sum_congr fun key stats _ => ?_
  by_cases hkey : key.epochId = epoch ∧ key.resolution = tier
  · rcases lt_or_ge key.startMs m with hlt | hge
    · have h₁ : key.startMs < hi := by omega
      have h₂ : ¬ m ≤ key.startMs := by omega
      simp [hkey, hlt, h₁, h₂]
    · have h₁ : lo ≤ key.startMs := by omega
      have h₂ : ¬ key.startMs < m := by omega
      simp [hkey, hge, h₁, h₂]
  · have hfalse : ∀ x y, ¬ (key.epochId = epoch ∧ key.resolution = tier ∧ x ≤ key.startMs ∧
        key.startMs < y) := fun x y h => hkey ⟨h.1, h.2.1⟩
    simp [hfalse]

/-- A window of `n` cells holds `n` buckets. -/
theorem bucketTotal_cells (h : Aligned db) (hdvd : tier.width ∣ lo) (n : ℕ) :
    bucketTotal db epoch tier lo (lo + n * tier.width) =
      ∑ i ∈ range n, bucket db epoch tier (lo + i * tier.width) := by
  have hw := tier.width_pos
  induction n with
  | zero =>
    refine Table.sum_eq_zero fun key stats _ => if_neg ?_
    rintro ⟨-, -, hlo, hhi⟩
    simp only [Nat.cast_zero, zero_mul, add_zero] at hhi
    omega
  | succ n ih =>
    have hn : 0 ≤ (n : ℤ) * tier.width := Int.mul_nonneg (by omega) hw.le
    have hsucc : lo + ((n + 1 : ℕ) : ℤ) * tier.width = lo + n * tier.width + tier.width := by
      push_cast
      rw [add_mul, one_mul, add_assoc]
    rw [sum_range_succ, ← ih, hsucc, bucketTotal_split (m := lo + n * tier.width) (by omega)
      (by omega), bucketTotal_cell h (Int.dvd_add hdvd (Dvd.intro_left _ rfl))]

end Windows

/-! ## Two resolutions side by side -/

/-- **Two resolutions agree** where the finer is kept. -/
def Coherent (config : HistoryConfig) (fine coarse : Tier) (now : ℤ) (db : HistoryDb) : Prop :=
  ∀ epoch lo hi, coarse.width ∣ lo → coarse.width ∣ hi → boundary config now fine ≤ lo →
    bucketTotal db epoch fine lo hi = bucketTotal db epoch coarse lo hi

section Coherent

variable {config : HistoryConfig} {fine coarse : Tier} {now : ℤ} {db : HistoryDb}

theorem coherent_congr {db' : HistoryDb} (hb : db'.buckets = db.buckets)
    (h : Coherent config fine coarse now db) : Coherent config fine coarse now db' := by
  intro epoch lo hi hlo hhi hle
  have := h epoch lo hi hlo hhi hle
  rwa [bucketTotal, bucketTotal, hb]

theorem coherent_mono {now' : ℤ} (hle : now ≤ now') (h : Coherent config fine coarse now db) :
    Coherent config fine coarse now' db := fun epoch lo hi hlo hhi hb =>
  h epoch lo hi hlo hhi (le_trans (boundary_mono hle) hb)

/-- **One piece, both resolutions.** What is added to the buckets of an
instant stays coherent where both resolutions keep the instants after
the boundary of the finer. -/
theorem coherent_addTiers (hdvd : fine.width ∣ coarse.width)
    (h : Coherent config fine coarse now db) (id : ℕ) (at_ : ℤ) (stats : HistoryStats)
    (keeps : Tier → Prop) [DecidablePred keeps]
    (hkeeps : boundary config now fine ≤ at_ → keeps fine ∧ keeps coarse) :
    Coherent config fine coarse now (TIERS.foldl (fun db res =>
      if keeps res then addStats db id res (floor at_ res.seconds) stats else db) db) := by
  intro epoch lo hi hlo hhi hle
  rw [bucketTotal_addTiers _ _ _ _ _ _ _ _ (fun res => floor at_ res.seconds),
    bucketTotal_addTiers _ _ _ _ _ _ _ _ (fun res => floor at_ res.seconds),
    h epoch lo hi hlo hhi hle]
  refine congrArg _ (if_congr ?_ rfl rfl)
  simp only [floor_eq_cell, le_cell_iff fine.width_pos (hdvd.trans hlo),
    cell_lt_iff fine.width_pos (hdvd.trans hhi), le_cell_iff coarse.width_pos hlo,
    cell_lt_iff coarse.width_pos hhi]
  constructor
  · rintro ⟨he, -, h₁, h₂⟩
    exact ⟨he, (hkeeps (le_trans hle h₁)).2, h₁, h₂⟩
  · rintro ⟨he, -, h₁, h₂⟩
    exact ⟨he, (hkeeps (le_trans hle h₁)).1, h₁, h₂⟩

theorem coherent_rollup (hdvd : fine.width ∣ coarse.width)
    (hret : retention config fine ≤ retention config coarse) (limit : ℕ)
    (h : Coherent config fine coarse now db) :
    Coherent config fine coarse now (rollup config now db limit).1 := by
  refine rollup_induction limit (fun db id span _ h => ?_) h
  rcases materialize_cases config now db id span with
    ⟨-, hbuckets, -⟩ | ⟨-, hbuckets, -⟩
  · exact coherent_congr hbuckets h
  · refine coherent_congr hbuckets (coherent_addTiers hdvd h span.epochId _ _ _ fun hle => ?_)
    exact ⟨hle, le_trans (boundary_le_boundary hdvd hret) hle⟩

theorem coherent_prune (hdvd : fine.width ∣ coarse.width)
    (hret : retention config fine ≤ retention config coarse) (scan : Table.LimitScan)
    (usageRetention limit : ℕ) (h : Coherent config fine coarse now db) :
    Coherent config fine coarse now (prune scan limit db now config usageRetention).1 := by
  intro epoch lo hi hlo hhi hle
  rw [bucketTotal_prune usageRetention epoch hle, bucketTotal_prune usageRetention epoch
    (le_trans (boundary_le_boundary hdvd hret) hle)]
  exact h epoch lo hi hlo hhi hle

/-- **One step.** Every call of the history component keeps two resolutions
coherent. -/
theorem coherent_apply (hdvd : fine.width ∣ coarse.width)
    (hret : retention config fine ≤ retention config coarse) (op : HistoryOp)
    (hone : OneActive db) (h : Coherent config fine coarse now db) :
    Coherent config fine coarse now (op.apply config now db) := by
  cases op with
  | syncEpochs hosts => exact coherent_congr (syncEpochs_frame hone hosts now).2.2 h
  | record host module check at_ observation =>
    simp only [HistoryOp.apply]
    rcases record_cases db host module check at_ observation now with heq | ⟨id, row, -, -, heq⟩
    · rwa [heq]
    · rw [heq]
      have hsample : Coherent config fine coarse now (addSample db id at_ observation) := by
        rw [addSample_eq]
        exact coherent_addTiers hdvd h id at_ _ _ fun _ => ⟨trivial, trivial⟩
      exact coherent_congr accept_buckets hsample
  | rollup limit => exact coherent_rollup hdvd hret limit h
  | prune scan usageRetention limit => exact coherent_prune hdvd hret scan usageRetention limit h

end Coherent

/-! ## Runs -/

section Run

variable {config : HistoryConfig} {now : ℤ}

/-- **Coherent in every state of a run.** -/
theorem coherent_run (config : HistoryConfig) (fine coarse : Tier) (hdvd : fine.width ∣ coarse.width)
    (hret : retention config fine ≤ retention config coarse) {steps : List (ℤ × HistoryOp)}
    (hclock : Clocked.Steady steps now) :
    Sound (run config steps) ∧ Coherent config fine coarse now (run config steps) :=
  Clocked.run_induction (P := fun now db => Sound db ∧ Coherent config fine coarse now db)
    (fun hle h => ⟨h.1, coherent_mono hle h.2⟩)
    (fun h => ⟨sound_apply _ h.1, coherent_apply hdvd hret _ h.1.one h.2⟩)
    hclock fun _ => ⟨sound_empty, fun _ _ _ _ _ _ => rfl⟩

/-- **The three tiers agree.** In every run with a clock that never goes
back, an hour's bucket is the merge of its twelve five-minute buckets
where those are kept, a day's the merge of its hours, and a whole range
holds the same read from either of two tiers. -/
theorem tiers_agree (hconfig : config.validate = .ok ()) {steps : List (ℤ × HistoryOp)}
    (hclock : Clocked.Steady steps now) (epoch : ℕ) :
    (∀ hour, Tier.hourly.width ∣ hour → boundary config now .fiveMinute ≤ hour →
      bucket (run config steps) epoch .hourly hour =
        ∑ i ∈ range 12, bucket (run config steps) epoch .fiveMinute (hour + i * 300000)) ∧
    (∀ day, Tier.daily.width ∣ day → boundary config now .hourly ≤ day →
      bucket (run config steps) epoch .daily day =
        ∑ i ∈ range 24, bucket (run config steps) epoch .hourly (day + i * 3600000)) ∧
    ∀ fine coarse : Tier, fine.seconds ≤ coarse.seconds → ∀ lo hi, coarse.width ∣ lo →
      coarse.width ∣ hi → boundary config now fine ≤ lo →
        content (run config steps) epoch fine lo hi =
          content (run config steps) epoch coarse lo hi := by
  have hvalid := HistoryConfig.valid_of_validate hconfig
  obtain ⟨hsound, hhour⟩ := coherent_run config .fiveMinute .hourly (by decide) hvalid.fiveMinute_le hclock
  obtain ⟨-, hday⟩ := coherent_run config .hourly .daily (by decide)
    hvalid.hourly_le hclock
  obtain ⟨-, hboth⟩ := coherent_run config .fiveMinute .daily (by decide)
    (le_trans hvalid.fiveMinute_le hvalid.hourly_le) hclock
  refine ⟨fun hour hdvd hle => ?_, fun day hdvd hle => ?_, ?_⟩
  · rw [← bucketTotal_cell hsound.aligned hdvd, ← hhour epoch hour _ hdvd (Int.dvd_add hdvd dvd_rfl) hle]
    exact bucketTotal_cells hsound.aligned ((by decide : Tier.fiveMinute.width ∣ Tier.hourly.width).trans
      hdvd) 12
  · rw [← bucketTotal_cell hsound.aligned hdvd, ← hday epoch day _ hdvd (Int.dvd_add hdvd dvd_rfl) hle]
    exact bucketTotal_cells hsound.aligned ((by decide : Tier.hourly.width ∣ Tier.daily.width).trans
      hdvd) 24
  · -- the spans are counted alike on every tier, so the buckets decide
    intro fine coarse hfiner lo hi hlo hhi hle
    refine congrArg (· + _) ?_
    cases fine <;> cases coarse <;> first
      | rfl
      | exact absurd hfiner (by decide)
      | exact hhour epoch lo hi hlo hhi hle
      | exact hday epoch lo hi hlo hhi hle
      | exact hboth epoch lo hi hlo hhi hle

/-- The first hour and the first day of the sample run. -/
theorem tiers_agree_sample :
    bucket (run {} sampleSteps) 1 .hourly 0 =
        ∑ i ∈ range 12, bucket (run {} sampleSteps) 1 .fiveMinute (0 + i * 300000) ∧
      bucket (run {} sampleSteps) 1 .daily 0 =
        ∑ i ∈ range 24, bucket (run {} sampleSteps) 1 .hourly (0 + i * 3600000) := by
  have hclock : Clocked.Steady sampleSteps 40000 := by decide
  obtain ⟨hhour, hday, -⟩ := tiers_agree (show HistoryConfig.validate {} = .ok () by decide) hclock 1
  exact ⟨hhour 0 (by decide) (by decide), hday 0 (by decide) (by decide)⟩

end Run

end SimpleNetworkMonitor.History
