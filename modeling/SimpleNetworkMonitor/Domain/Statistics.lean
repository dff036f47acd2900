import SimpleNetworkMonitor.Common.Merging
import SimpleNetworkMonitor.Domain.History
import Mathlib.Data.List.MinMax
/-!
# What merged statistics tell

Statistics of samples and of durations are merged in any order: by
maintenance, a bucket at a time, and by a request, an epoch and then a
host at a time. The result is the same, and of the latencies that went
into it the histogram, the extremes and the estimated 95th percentile
are true.
-/

namespace SimpleNetworkMonitor

/-- What an observation brings into the statistics: itself as a sample, or
itself in force for a while. -/
inductive Contribution where
  | sample (observation : HistoryObservation)
  | duration (observation : HistoryObservation) (durationMs : ℕ)

namespace Contribution

def stats : Contribution → HistoryStats
  | .sample observation => observation.sampleStats
  | .duration observation durationMs => observation.durationStats durationMs

/-- The latency a contribution records: a sample's, where it succeeded and is
not negative. -/
def latency : Contribution → Option ℚ
  | .sample observation => observation.latencyMs.filter fun v => observation.success && 0 ≤ v
  | .duration .. => none

end Contribution

/-- The latencies recorded by a list of contributions. -/
def latencies (l : List Contribution) : List ℚ := l.filterMap Contribution.latency

/-! ## Bins -/

namespace HistoryObservation

/-- The bounds grow. -/
theorem bounds_strictMono : LATENCY_BOUNDS.Pairwise (· < ·) := by decide +kernel

theorem latencyBin_lt (v : ℚ) : latencyBin v < 17 := by
  unfold latencyBin
  rcases h : LATENCY_BOUNDS.findIdx? (v ≤ ·) with - | i
  · decide
  · obtain ⟨hi, -⟩ := List.findIdx?_eq_some_iff_getElem.mp h
    have : LATENCY_BOUNDS.length = 16 := rfl
    simp only [Option.getD_some]
    omega

/-- **A bin holds what its bound admits** and no lower bound does. -/
theorem latencyBin_le_iff {v bound : ℚ} {k : ℕ} (hk : LATENCY_BOUNDS[k]? = some bound) :
    latencyBin v < k + 1 ↔ v ≤ bound := by
  obtain ⟨hlt, rfl⟩ := List.getElem?_eq_some_iff.mp hk
  have hlength : LATENCY_BOUNDS.length = 16 := rfl
  unfold latencyBin
  rcases h : LATENCY_BOUNDS.findIdx? (v ≤ ·) with - | i
  · have hnone := List.findIdx?_eq_none_iff.mp h _ (List.getElem_mem hlt)
    simp only [decide_eq_false_iff_not] at hnone
    simp only [Option.getD_none, hnone, iff_false]
    omega
  · obtain ⟨hi, hle, hlower⟩ := List.findIdx?_eq_some_iff_getElem.mp h
    simp only [decide_eq_true_eq] at hle
    simp only [Option.getD_some]
    constructor
    · intro hik
      rcases Nat.lt_or_eq_of_le (Nat.le_of_lt_succ hik) with hlt' | rfl
      · exact hle.trans (List.pairwise_iff_getElem.mp bounds_strictMono i k hi hlt hlt').le
      · exact hle
    · intro hvk
      by_contra hki
      exact hlower k (by omega) (by simpa using hvk)

end HistoryObservation

/-! ## What is merged -/

section Extremes

variable (l l' : List ℚ)

theorem min?_append : (l ++ l').min? = Option.merge min l.min? l'.min? := by
  induction l with
  | nil => simp
  | cons v l ih =>
    rw [List.cons_append, List.min?_cons, List.min?_cons, ih]
    cases l.min? <;> cases l'.min? <;> simp [min_assoc]

theorem max?_append : (l ++ l').max? = Option.merge max l.max? l'.max? := by
  induction l with
  | nil => simp
  | cons v l ih =>
    rw [List.cons_append, List.max?_cons, List.max?_cons, ih]
    cases l.max? <;> cases l'.max? <;> simp [max_assoc]

end Extremes

namespace HistoryStats

/-- **Statistics that tell the truth** about what was merged into them. -/
structure Summarizes (s : HistoryStats) (l : List Contribution) : Prop where
  latencyCount : s.latencyCount = (latencies l).length
  histogram :
    s.latencyHistogram = List.histogram 17 HistoryObservation.latencyBin (latencies l)
  minimum : s.latencyMinMs = (latencies l).min?
  maximum : s.latencyMaxMs = (latencies l).max?
  latencyCount_le : s.latencyCount ≤ s.successfulSamples
  successfulSamples_le : s.successfulSamples ≤ s.samples

theorem summarizes_zero : Summarizes 0 [] where
  latencyCount := rfl
  histogram := rfl
  minimum := rfl
  maximum := rfl
  latencyCount_le := Nat.le_refl 0
  successfulSamples_le := Nat.le_refl 0

theorem summarizes_contribution (c : Contribution) : Summarizes c.stats [c] := by
  cases c with
  | duration observation durationMs =>
    exact ⟨rfl, rfl, rfl, rfl, Nat.le_refl 0, Nat.le_refl 0⟩
  | sample observation =>
    have hlatencies : latencies [.sample observation] =
        (observation.latencyMs.filter fun v => observation.success && 0 ≤ v).toList := by
      simp only [latencies, Contribution.latency, List.filterMap_cons, List.filterMap_nil]
      cases observation.latencyMs.filter fun v => observation.success && 0 ≤ v <;> rfl
    have hsuccess : (if observation.success then 1 else 0) ≤ 1 := by split_ifs <;> omega
    rcases hv : observation.latencyMs.filter fun v => observation.success && 0 ≤ v with - | v
    · have hstats : observation.sampleStats =
          { samples := 1, successfulSamples := if observation.success then 1 else 0 } := by
        rw [HistoryObservation.sampleStats, hv]
      rw [hv] at hlatencies
      rw [Contribution.stats, hstats]
      constructor <;> simp [hlatencies, hsuccess]
      rfl
    · have hsucceeded : observation.success = true := by
        have := Option.filter_eq_some_iff.mp hv
        simp_all
      rw [hv] at hlatencies
      rw [Contribution.stats, HistoryObservation.sampleStats, hv]
      constructor <;> simp [hlatencies, hsucceeded]
      funext bin
      simp [List.histogram, List.countP_cons, eq_comm]

/-- **Merging keeps the truth.** -/
theorem Summarizes.merge {s s' : HistoryStats} {l l' : List Contribution} (h : s.Summarizes l)
    (h' : s'.Summarizes l') : (s + s').Summarizes (l ++ l') := by
  have happend : latencies (l ++ l') = latencies l ++ latencies l' := List.filterMap_append
  rw [← merge_eq_add]
  constructor
  · rw [happend, List.length_append, ← h.latencyCount, ← h'.latencyCount]
    rfl
  · funext bin
    rw [happend, List.histogram_append, ← h.histogram, ← h'.histogram]
    rfl
  · rw [happend, min?_append, ← h.minimum, ← h'.minimum]
    rfl
  · rw [happend, max?_append, ← h.maximum, ← h'.maximum]
    rfl
  · exact Nat.add_le_add h.latencyCount_le h'.latencyCount_le
  · exact Nat.add_le_add h.successfulSamples_le h'.successfulSamples_le

theorem summarizes_whole (t : Merging Contribution) :
    (t.whole Contribution.stats).Summarizes t.parts :=
  Merging.whole_induction (P := fun l s => Summarizes s l) summarizes_zero
    summarizes_contribution Summarizes.merge t

/-! ## The 95th percentile -/

/-- **The scan** stops in the first bin at which the target is met. -/
theorem percentileBin_spec {target : ℕ} {latencyMaxMs : Option ℚ} (bins : List ℕ) (count i : ℕ)
    (hcount : count < target) (htarget : target ≤ count + bins.sum) :
    ∃ k < bins.length, count + (bins.take k).sum < target ∧
      target ≤ count + (bins.take (k + 1)).sum ∧
      percentileBin target latencyMaxMs count i bins = LATENCY_BOUNDS[i + k]?.or latencyMaxMs := by
  induction bins generalizing count i with
  | nil => simp only [List.sum_nil] at htarget; omega
  | cons n rest ih =>
    rw [percentileBin]
    split_ifs with hmet
    · exact ⟨0, by simp, by simpa using hcount, by simpa using hmet, rfl⟩
    · have hrest : target ≤ count + n + rest.sum := by
        rw [List.sum_cons] at htarget; omega
      obtain ⟨k, hk, hbelow, hreached, hscan⟩ := ih (count + n) (i + 1) (by omega) hrest
      refine ⟨k + 1, by simpa using hk, ?_, ?_, ?_⟩
      · rw [List.take_succ_cons, List.sum_cons]; omega
      · rw [List.take_succ_cons, List.sum_cons]; omega
      · rw [hscan, Nat.add_right_comm, Nat.add_assoc]

section Percentile

variable {s : HistoryStats} {l : List Contribution} (h : s.Summarizes l)

include h

theorem Summarizes.sum_histogram : (List.ofFn s.latencyHistogram).sum = s.latencyCount := by
  rw [h.histogram, h.latencyCount,
    List.sum_histogram _ _ fun v _ => HistoryObservation.latencyBin_lt v]

/-- Where the estimate comes from: bin `k` is the first at which 95 percent
of the latencies are counted. -/
theorem Summarizes.latencyP95_eq (hcount : 0 < s.latencyCount) :
    ∃ k < 17, s.latencyP95 = LATENCY_BOUNDS[k]?.or s.latencyMaxMs ∧
      20 * (latencies l).countP (HistoryObservation.latencyBin · < k) <
        19 * (latencies l).length ∧
      19 * (latencies l).length ≤
        20 * (latencies l).countP (HistoryObservation.latencyBin · < k + 1) := by
  have hsum := h.sum_histogram
  obtain ⟨k, hk, hbelow, hreached, hscan⟩ :=
    @percentileBin_spec ((s.latencyCount * 19 + 19) / 20) s.latencyMaxMs
      (List.ofFn s.latencyHistogram) 0 0 (by omega) (by omega)
  rw [List.length_ofFn] at hk
  rw [h.histogram, List.sum_take_histogram _ _ (by omega), h.latencyCount] at hbelow hreached
  refine ⟨k, hk, ?_, by omega, by omega⟩
  rw [latencyP95, if_neg (by omega), hscan, Nat.zero_add]

theorem Summarizes.isSome_latencyP95 : s.latencyP95.isSome ↔ 0 < s.latencyCount := by
  constructor
  · intro hsome
    by_contra hzero
    rw [latencyP95, if_pos (by omega)] at hsome
    exact absurd hsome (by simp)
  · intro hcount
    obtain ⟨k, hk, heq, -, -⟩ := h.latencyP95_eq hcount
    have hne : latencies l ≠ [] := List.ne_nil_of_length_pos (h.latencyCount ▸ hcount)
    rw [heq, h.maximum, Option.isSome_or, List.isSome_max?_of_ne_nil hne, Bool.or_true]

/-- **The extremes** are latencies, and all the latencies lie between them. -/
theorem Summarizes.extremes (hcount : 0 < s.latencyCount) :
    ∃ lo ∈ latencies l, ∃ hi ∈ latencies l, s.latencyMinMs = some lo ∧
      s.latencyMaxMs = some hi ∧ ∀ v ∈ latencies l, lo ≤ v ∧ v ≤ hi := by
  have hne : latencies l ≠ [] := List.ne_nil_of_length_pos (h.latencyCount ▸ hcount)
  obtain ⟨lo, hlo⟩ := Option.isSome_iff_exists.mp (List.isSome_min?_of_ne_nil hne)
  obtain ⟨hi, hhi⟩ := Option.isSome_iff_exists.mp (List.isSome_max?_of_ne_nil hne)
  obtain ⟨hlomem, hlower⟩ := List.min?_eq_some_iff.mp hlo
  obtain ⟨hhimem, hupper⟩ := List.max?_eq_some_iff.mp hhi
  exact ⟨lo, hlomem, hi, hhimem, h.minimum.trans hlo, h.maximum.trans hhi,
    fun v hv => ⟨hlower v hv, hupper v hv⟩⟩

/-- **The estimate** is a bound of the histogram, or the maximum where the
percentile lies beyond the last bound. -/
theorem Summarizes.latencyP95_honest {v : ℚ} (hv : s.latencyP95 = some v) :
    95 * (latencies l).length ≤ 100 * (latencies l).countP (· ≤ v) ∧
      ∀ (i : ℕ) (bound : ℚ), LATENCY_BOUNDS[i + 1]? = some v → LATENCY_BOUNDS[i]? = some bound →
        100 * (latencies l).countP (· ≤ bound) < 95 * (latencies l).length := by
  have hcount : 0 < s.latencyCount := h.isSome_latencyP95.mp (by rw [hv]; rfl)
  obtain ⟨k, hk, heq, hbelow, hreached⟩ := h.latencyP95_eq hcount
  rw [hv] at heq
  rcases hbound : LATENCY_BOUNDS[k]? with - | bound
  · -- the overflow bin: the answer is the maximum, which is beyond all bounds
    rw [hbound, Option.none_or, h.maximum] at heq
    obtain ⟨-, hupper⟩ := List.max?_eq_some_iff.mp heq.symm
    have hall : (latencies l).countP (· ≤ v) = (latencies l).length := by
      rw [List.countP_eq_length]
      exact fun w hw => by simpa using hupper w hw
    refine ⟨by omega, fun i bound hi _ => ?_⟩
    have hik : i + 1 < k := by
      obtain ⟨hlt, -⟩ := List.getElem?_eq_some_iff.mp hi
      exact hlt.trans_le (List.getElem?_eq_none_iff.mp hbound)
    have hsub : (latencies l).countP (HistoryObservation.latencyBin · < k) =
        (latencies l).length := by
      rw [List.countP_eq_length]
      intro w hw
      have := (HistoryObservation.latencyBin_le_iff hi).mpr (hupper w hw)
      exact decide_eq_true (by omega)
    omega
  · rw [hbound, Option.some_or, Option.some_inj] at heq
    subst heq
    -- a bound's bin: being in it or below is being at most the bound
    have hcongr {j : ℕ} {b : ℚ} (hj : LATENCY_BOUNDS[j]? = some b) :
        (latencies l).countP (HistoryObservation.latencyBin · < j + 1) =
          (latencies l).countP (· ≤ b) :=
      List.countP_congr fun w _ => by
        simp only [decide_eq_true_eq, HistoryObservation.latencyBin_le_iff hj]
    rw [hcongr hbound] at hreached
    refine ⟨by omega, fun i bound hi hprevious => ?_⟩
    -- the bounds are distinct, so the one before is that of the bin before
    have hik : i + 1 = k := by
      obtain ⟨hlt, hget⟩ := List.getElem?_eq_some_iff.mp hi
      obtain ⟨hlt', hget'⟩ := List.getElem?_eq_some_iff.mp hbound
      have hnodup : LATENCY_BOUNDS.Nodup :=
        HistoryObservation.bounds_strictMono.imp fun hlt => hlt.ne
      exact (hnodup.getElem_inj_iff).mp (hget.trans hget'.symm)
    rw [← hik, hcongr hprevious] at hbelow
    omega

end Percentile

/-- **Statistics are mergeable and their estimate is honest.** Whatever the
order and the grouping in which the contributions of `l` are merged, the
result is the same, and what it says of the latencies is true. -/
theorem merged_honest (l : List Contribution) (t t' : Merging Contribution)
    (ht : t.parts.Perm l) (ht' : t'.parts.Perm l) :
    let s := t.whole Contribution.stats
    t'.whole Contribution.stats = s ∧
      (List.ofFn s.latencyHistogram).sum = s.latencyCount ∧
      s.latencyCount = (latencies l).length ∧
      s.latencyCount ≤ s.successfulSamples ∧ s.successfulSamples ≤ s.samples ∧
      (0 < s.latencyCount → ∃ lo ∈ latencies l, ∃ hi ∈ latencies l,
        s.latencyMinMs = some lo ∧ s.latencyMaxMs = some hi ∧ lo ≤ hi ∧
          ∀ v ∈ latencies l, lo ≤ v ∧ v ≤ hi) ∧
      (s.latencyP95.isSome ↔ 0 < s.latencyCount) ∧
      ∀ v, s.latencyP95 = some v →
        95 * (latencies l).length ≤ 100 * (latencies l).countP (· ≤ v) ∧
          ∀ (i : ℕ) (bound : ℚ), LATENCY_BOUNDS[i + 1]? = some v →
            LATENCY_BOUNDS[i]? = some bound →
            100 * (latencies l).countP (· ≤ bound) < 95 * (latencies l).length := by
  intro s
  have hs := summarizes_whole t
  have hperm : (latencies t.parts).Perm (latencies l) := ht.filterMap _
  refine ⟨Merging.whole_eq_of_perm _ (ht'.trans ht.symm), hs.sum_histogram,
    hs.latencyCount.trans hperm.length_eq, hs.latencyCount_le, hs.successfulSamples_le,
    fun hcount => ?_, hs.isSome_latencyP95, fun v hv => ?_⟩
  · obtain ⟨lo, hlo, hi, hhi, hmin, hmax, hbetween⟩ := hs.extremes hcount
    exact ⟨lo, hperm.mem_iff.mp hlo, hi, hperm.mem_iff.mp hhi, hmin, hmax, (hbetween lo hlo).2,
      fun v hv => hbetween v (hperm.mem_iff.mpr hv)⟩
  · have honest := hs.latencyP95_honest hv
    simp only [hperm.length_eq, hperm.countP_eq] at honest
    exact honest

/-- Twenty samples, one of them slow and one that failed, and a duration. -/
def sampleContributions : List Contribution :=
  .duration ⟨"up", true, some 3, some 1, some 0, none⟩ 500 ::
    .sample ⟨"down", false, some 3, none, none, some "timeout"⟩ ::
    .sample ⟨"up", true, some 20000, none, none, none⟩ ::
    List.replicate 18 (.sample ⟨"up", true, some 3, none, none, none⟩)

/-- The same, merged one at a time from either end. -/
def sampleMergings : Merging Contribution × Merging Contribution :=
  (sampleContributions.foldr (fun c t => .join (.part c) t) .empty,
    sampleContributions.foldl (fun t c => .join t (.part c)) .empty)

theorem sampleMergings_parts :
    sampleMergings.1.parts = sampleContributions ∧ sampleMergings.2.parts = sampleContributions := by
  constructor <;> simp [sampleMergings, sampleContributions, Merging.parts, List.replicate]

theorem sampleMergings_honest :
    (sampleMergings.1.whole Contribution.stats).latencyP95 = some 20000 ∧
      95 * (latencies sampleContributions).length ≤
        100 * (latencies sampleContributions).countP (· ≤ 20000) := by
  have honest := merged_honest sampleContributions sampleMergings.1 sampleMergings.2
    (List.Perm.of_eq sampleMergings_parts.1) (List.Perm.of_eq sampleMergings_parts.2)
  have hp95 : (sampleMergings.1.whole Contribution.stats).latencyP95 = some 20000 := by
    decide +kernel
  exact ⟨hp95, (honest.2.2.2.2.2.2.2 20000 hp95).1⟩

end HistoryStats

end SimpleNetworkMonitor
