import SimpleNetworkMonitor.Common.Fallible
import SimpleNetworkMonitor.History.Helpers.Content
import SimpleNetworkMonitor.History.Model.Query
import Mathlib.Algebra.Group.Basic
import Mathlib.Tactic.Abel
/-!
# What a query adds up

Every merge a query makes adds something to the statistics of some
buckets of some series. Adding is an action of a commutative monoid, so
the loops of a query come to one sum: for each selected epoch, its
content and its tail in each window of the grid, once for every label of
the epoch.
-/

namespace SimpleNetworkMonitor.History

open HalfOpen

/-! ## The action -/

/-- Add to the statistics of every bucket of a series, by index. -/
def addBy (F : ℕ → HistoryStats) (series : HistorySeries) : HistorySeries :=
  { series with
    buckets := series.buckets.mapIdx fun i bucket => { bucket with stats := bucket.stats + F i } }

theorem addBy_zero (series : HistorySeries) : addBy (fun _ => 0) series = series := by
  obtain ⟨id, label, buckets⟩ := series
  refine congrArg (HistorySeries.mk id label) (List.ext_getElem? fun i => ?_)
  rw [List.getElem?_mapIdx]
  cases buckets[i]? <;> simp

theorem addBy_addBy (F G : ℕ → HistoryStats) (series : HistorySeries) :
    addBy G (addBy F series) = addBy (fun i => F i + G i) series := by
  simp [addBy, List.mapIdx_mapIdx, Function.comp_def, add_assoc]

/-- **Add** to the statistics of every bucket, by series key and index. -/
def addAt (F : String → ℕ → HistoryStats) (output : SeriesMap) : SeriesMap :=
  output.mapVals fun key series => addBy (F key) series

theorem addAt_zero (output : SeriesMap) : addAt (fun _ _ => 0) output = output := by
  ext1
  simp [addAt, Table.mapVals, addBy_zero]

/-- Adding twice is adding the sum. -/
theorem addAt_addAt (F G : String → ℕ → HistoryStats) (output : SeriesMap) :
    addAt G (addAt F output) = addAt (fun k i => F k i + G k i) output := by
  ext1
  simp [addAt, Table.mapVals, addBy_addBy]

/-- **A loop of additions** is one addition. -/
theorem foldl_addAt {α : Type} (f : SeriesMap → α → SeriesMap)
    (F : α → String → ℕ → HistoryStats) (l : List α)
    (h : ∀ a ∈ l, ∀ output, f output a = addAt (F a) output) (output : SeriesMap) :
    l.foldl f output = addAt (fun k i => (l.map fun a => F a k i).sum) output := by
  induction l generalizing output with
  | nil => simp [addAt_zero]
  | cons a l ih =>
    rw [List.foldl_cons, h a List.mem_cons_self,
      ih fun b hb => h b (List.mem_cons_of_mem _ hb), addAt_addAt]
    simp

theorem mergeAt_eq (output : SeriesMap) (key : String) (index : ℕ) (stats : HistoryStats) :
    mergeAt output key index stats =
      addAt (fun k i => if k = key ∧ i = index then stats else 0) output := by
  ext1
  refine List.map_congr_left fun r _ => ?_
  obtain ⟨k, id, label, buckets⟩ := r
  by_cases hk : k = key
  · have hbuckets : (buckets.modify index fun bucket =>
        { bucket with stats := bucket.stats.merge stats }) =
          buckets.mapIdx fun i bucket =>
            { bucket with stats := bucket.stats + if i = index then stats else 0 } := by
      refine List.ext_getElem? fun i => ?_
      rw [List.getElem?_modify, List.getElem?_mapIdx]
      by_cases hi : i = index
      · simp [hi, HistoryStats.merge_eq_add]
      · cases buckets[i]? <;> simp [hi, Ne.symm hi]
    simp only [hk, if_true, true_and, addBy, hbuckets]
  · simp only [hk, if_false, false_and, addBy_zero]

theorem mergeKeys_eq (output : SeriesMap) (keys : List String) (index : ℕ)
    (stats : HistoryStats) :
    mergeKeys output keys index stats =
      addAt (fun k i => if i = index then keys.count k • stats else 0) output := by
  rw [mergeKeys, foldl_addAt _ (fun key k i => if k = key ∧ i = index then stats else 0) keys
    fun key _ output => mergeAt_eq output key index stats]
  congr 1
  funext k i
  by_cases hi : i = index
  · simp only [hi, and_true, if_true]
    induction keys with
    | nil => simp
    | cons key keys ih =>
      rw [List.map_cons, List.sum_cons, ih, List.count_cons]
      by_cases hk : k = key
      · simp [hk, succ_nsmul, add_comm stats]
      · simp [hk, Ne.symm hk]
  · simp [hi]

/-! ## The grid -/

namespace Plan

variable (plan : Plan)

/-- Where a grid cell starts. -/
def cell (i : ℕ) : ℤ := plan.fromMs + i * (plan.step * 1000)

/-- Where the window of a bucket starts: nothing before the boundary counts. -/
def windowStart (i : ℕ) : ℤ := max (plan.cell i) plan.retainedFrom

/-- Where the window of a bucket ends. -/
def windowEnd (i : ℕ) : ℤ := min (plan.cell (i + 1)) plan.toMs

variable {plan} {at_ : ℤ}

theorem cell_succ (i : ℕ) : plan.cell (i + 1) = plan.cell i + plan.step * 1000 := by
  simp only [cell, Nat.cast_add, Nat.cast_one]
  rw [add_mul, one_mul, add_assoc]

theorem le_cell (hstep : 0 < plan.step) (i : ℕ) : plan.fromMs ≤ plan.cell i := by
  have : 0 ≤ (i : ℤ) * (plan.step * 1000) := Int.mul_nonneg (by omega) (by omega)
  unfold cell
  omega

theorem cell_mono (hstep : 0 < plan.step) {i j : ℕ} (h : i ≤ j) : plan.cell i ≤ plan.cell j := by
  have : (i : ℤ) * (plan.step * 1000) ≤ j * (plan.step * 1000) :=
    Int.mul_le_mul_of_nonneg_right (by omega) (by omega)
  unfold cell
  omega

/-- **The cell of an instant** is the one it lies in. -/
theorem index_eq_iff (hstep : 0 < plan.step) (h : plan.fromMs ≤ at_) (i : ℕ) :
    i = index plan at_ ↔ plan.cell i ≤ at_ ∧ at_ < plan.cell (i + 1) := by
  have hw : 0 < plan.step * 1000 := by omega
  have hlo := HalfOpen.cell_le (x := at_ - plan.fromMs) hw
  have hhi := lt_cell_add (x := at_ - plan.fromMs) hw
  have hq : ((index plan at_ : ℕ) : ℤ) = (at_ - plan.fromMs) / (plan.step * 1000) :=
    Int.toNat_of_nonneg (Int.ediv_nonneg (by omega) (by omega))
  rw [HalfOpen.cell, ← hq] at hlo hhi
  have hself : plan.cell (index plan at_) ≤ at_ ∧ at_ < plan.cell (index plan at_ + 1) := by
    rw [cell_succ]
    unfold cell
    omega
  constructor
  · rintro rfl
    exact hself
  · rintro ⟨h₁, h₂⟩
    by_contra hne
    rcases Nat.lt_or_gt_of_ne hne with hlt | hgt
    · have := cell_mono hstep (Nat.succ_le_of_lt hlt)
      simp only [Nat.succ_eq_add_one] at this
      omega
    · have := cell_mono hstep (Nat.succ_le_of_lt hgt)
      simp only [Nat.succ_eq_add_one] at this
      omega

end Plan

section Fill

variable {plan : Plan} {request : HistoryRequest}

theorem applyFrom_eq (hstep : 0 < plan.step) (keys : List String) (end_ : ℤ)
    (observation : HistoryObservation) (fuel : ℕ) :
    ∀ (cursor : ℤ) (output : SeriesMap), plan.fromMs ≤ cursor → (end_ - cursor).toNat ≤ fuel →
      applyFrom plan keys end_ observation fuel cursor output =
        addAt (fun k i => keys.count k • observation.durationStats
          (overlap cursor end_ (plan.cell i) (plan.cell (i + 1)))) output := by
  -- past the end nothing is left to share
  have hdone : ∀ cursor : ℤ, end_ ≤ cursor → ∀ output, output =
      addAt (fun k i => keys.count k • observation.durationStats
        (overlap cursor end_ (plan.cell i) (plan.cell (i + 1)))) output := by
    intro cursor hle output
    simp [overlap_eq_zero_of_empty hle, addAt_zero]
  induction fuel with
  | zero => exact fun cursor output _ hfuel => hdone cursor (by omega) output
  | succ fuel ih =>
    intro cursor output hfrom hfuel
    rw [applyFrom]
    split_ifs with hlt
    · -- one step of the loop, to the end of the cell the cursor is in
      have hcell := (Plan.index_eq_iff hstep hfrom _).mp rfl
      have hnext : plan.fromMs + ((index plan cursor : ℕ) + 1) * (plan.step * 1000) =
          plan.cell (index plan cursor + 1) := by simp [Plan.cell]
      simp only [hnext]
      generalize hu : min end_ (plan.cell (index plan cursor + 1)) = until_
      have hcu : cursor < until_ := by omega
      rw [ih until_ _ (by omega) (by omega), mergeKeys_eq, addAt_addAt]
      congr 1
      funext k i
      -- a cell shares with the step all of it, or nothing
      have hsplit : overlap cursor end_ (plan.cell i) (plan.cell (i + 1)) =
          (if i = index plan cursor then (until_ - cursor).toNat else 0) +
            overlap until_ end_ (plan.cell i) (plan.cell (i + 1)) := by
        rw [overlap_split hcu.le (show until_ ≤ end_ by omega)]
        congr 1
        split_ifs with hi
        · subst hi
          exact overlap_of_subset hcell.1 (by omega)
        · rcases Nat.lt_or_gt_of_ne hi with hlt' | hgt
          · have := Plan.cell_mono hstep (Nat.succ_le_of_lt hlt')
            simp only [Nat.succ_eq_add_one] at this
            exact overlap_eq_zero_of_ge (by omega)
          · have := Plan.cell_mono hstep (Nat.succ_le_of_lt hgt)
            simp only [Nat.succ_eq_add_one] at this
            exact overlap_eq_zero_of_le (by omega)
      rw [hsplit, HistoryObservation.durationStats_add, nsmul_add]
      split_ifs <;> simp
    · exact hdone cursor (by omega) output

/-- **A span on the grid**: each cell takes what it shares with it. -/
theorem applySpan_eq (hstep : 0 < plan.step) (keys : List String) (output : SeriesMap)
    (start end_ : ℤ) (observation : HistoryObservation) :
    applySpan plan keys output start end_ observation =
      addAt (fun k i => keys.count k • observation.durationStats
        (overlap (max start plan.fromMs) end_ (plan.cell i) (plan.cell (i + 1)))) output :=
  applyFrom_eq hstep keys end_ observation _ _ _ (le_max_right _ _) le_rfl

/-! ## The sum over the epochs -/

/-- What the observation in force at an epoch's end holds in a window. -/
def Epoch.tail (epoch : Epoch) (lo hi : ℤ) : HistoryStats :=
  match epoch.last, epoch.body with
  | some last, some observation =>
    observation.durationStats (overlap last (min epoch.end_ (last + epoch.fresh)) lo hi)
  | _, _ => 0

theorem Epoch.tail_ofRow (now lo hi : ℤ) (id : ℕ) (row : EpochRow) :
    (Epoch.ofRow now id row).tail lo hi = tailTotal row (min (row.endedMs.getD now) now) lo hi :=
  rfl

theorem Epoch.tail_of_empty {epoch : Epoch} {lo hi : ℤ} (h : hi ≤ lo) : epoch.tail lo hi = 0 := by
  unfold Epoch.tail
  split
  · rw [overlap_comm, overlap_eq_zero_of_empty h, HistoryObservation.durationStats_zero]
  · rfl

/-- How often an epoch counts in a series. -/
def Epoch.weight (epoch : Epoch) (request : HistoryRequest) (key : String) : ℕ :=
  ((labels epoch request).map Prod.fst).count key

/-- **What a query finds** for a bucket of a series. -/
def total (plan : Plan) (request : HistoryRequest) (db : HistoryDb) (selected : List Epoch)
    (key : String) (i : ℕ) : HistoryStats :=
  (selected.map fun epoch => epoch.weight request key •
    (content db epoch.id plan.source (plan.windowStart i) (plan.windowEnd i) +
      epoch.tail (plan.windowStart i) (plan.windowEnd i))).sum

/-- A row is of one epoch, so its series are those of one of the selected. -/
theorem count_epochKeys_nsmul (request : HistoryRequest) {selected : List Epoch}
    (hnodup : (selected.map (·.id)).Nodup) (id : ℕ) (x : HistoryStats) (key : String) :
    (if id ∈ selected.map (·.id) then (epochKeys request selected id).count key • x else 0) =
      (selected.map fun epoch =>
        epoch.weight request key • if id = epoch.id then x else 0).sum := by
  induction selected with
  | nil => simp
  | cons e es ih =>
    rw [List.map_cons, List.nodup_cons] at hnodup
    rw [List.map_cons, List.map_cons, List.sum_cons, ← ih hnodup.2, epochKeys]
    by_cases he : id = e.id
    · have hnot : id ∉ es.map (·.id) := he ▸ hnodup.1
      simp only [List.mem_cons, he, true_or, if_true, List.find?_cons_of_pos, decide_true]
      rw [if_neg (he ▸ hnot), add_zero]
      rfl
    · have he' : ¬ e.id = id := Ne.symm he
      simp [he, he', epochKeys]

/-- A sum over the rows of the selected epochs, epoch by epoch. -/
theorem sum_selected (request : HistoryRequest) {κ α : Type} (t : Table κ α) (of : κ → α → ℕ) (p : κ → α → Bool)
    (selected : List Epoch) (hnodup : (selected.map (·.id)).Nodup)
    (f : κ → α → HistoryStats) (key : String) :
    ((t.rows.filter fun r => of r.1 r.2 ∈ selected.map (·.id) ∧ p r.1 r.2).map fun r =>
        (epochKeys request selected (of r.1 r.2)).count key • f r.1 r.2).sum =
      (selected.map fun epoch => epoch.weight request key •
        t.sum fun k v => if of k v = epoch.id ∧ p k v then f k v else 0).sum := by
  unfold Table.sum
  induction t.rows with
  | nil => simp
  | cons r rows ih =>
    have hrow := count_epochKeys_nsmul request hnodup (of r.1 r.2)
      (if p r.1 r.2 then f r.1 r.2 else 0) key
    simp only [List.map_cons, List.sum_cons, nsmul_add, List.sum_map_add, ← ih]
    simp only [ite_and]
    rw [← hrow]
    by_cases hm : of r.1 r.2 ∈ selected.map (·.id)
    · by_cases hp : p r.1 r.2 = true
      · rw [List.filter_cons_of_pos (by simp only [hm, hp, and_self, decide_true])]
        simp [hm, hp]
      · rw [List.filter_cons_of_neg (by simp [hp])]
        simp [hp]
    · rw [List.filter_cons_of_neg (by simp only [hm, false_and, decide_false]; simp)]
      simp [hm]

variable {db : HistoryDb} {selected : List Epoch} {output output' : SeriesMap}

/-- A window of a bucket, of an interval clipped as the query clips it. -/
theorem overlap_window (hstep : 0 < plan.step) (i : ℕ) (a b : ℤ) :
    overlap (max (max a plan.retainedFrom) plan.fromMs) (min b plan.toMs) (plan.cell i)
      (plan.cell (i + 1)) = overlap a b (plan.windowStart i) (plan.windowEnd i) := by
  -- the cell begins in the range, so the range clips nothing below it
  have hlo : max (max (max a plan.retainedFrom) plan.fromMs) (plan.cell i) =
      max a (plan.windowStart i) := by
    rw [max_assoc, max_eq_right (Plan.le_cell hstep i), max_assoc, max_comm plan.retainedFrom]
    rfl
  have hhi : min (min b plan.toMs) (plan.cell (i + 1)) = min b (plan.windowEnd i) := by
    rw [min_assoc, min_comm plan.toMs]
    rfl
  unfold overlap
  rw [hlo, hhi]

/-- The materialized buckets. -/
theorem addBuckets_eq (hstep : 0 < plan.step) (hnodup : (selected.map (·.id)).Nodup)
    (h : addBuckets plan request db selected output = .ok output') :
    output' = addAt (fun k i => (selected.map fun epoch => epoch.weight request k •
      bucketTotal db epoch.id plan.source (plan.windowStart i) (plan.windowEnd i)).sum) output := by
  simp only [addBuckets] at h
  split_ifs at h
  obtain rfl := Except.ok.inj h
  rw [foldl_addAt _ (fun r k i => (epochKeys request selected r.1.epochId).count k •
    if i = index plan r.1.startMs then r.2 else 0) _ fun r _ output => by
      rw [mergeKeys_eq]; congr 1; funext k i; split_ifs <;> simp]
  congr 1
  funext k i
  -- from row by row to epoch by epoch
  have hsum := sum_selected request db.buckets (fun key _ => key.epochId)
    (fun key _ => key.resolution = plan.source ∧ key.startMs ≥ max plan.fromMs plan.retainedFrom ∧
      key.startMs < plan.toMs) selected hnodup
    (fun key stats => if i = index plan key.startMs then stats else 0) k
  simp only [decide_eq_true_eq] at hsum
  rw [bucketRows, hsum]
  refine congrArg List.sum (List.map_congr_left fun epoch _ => congrArg _ ?_)
  refine Table.sum_congr fun key stats _ => ?_
  rw [← ite_and]
  refine if_congr ?_ rfl rfl
  -- a bucket read for a cell is one that starts in the cell's window
  have hfrom := Plan.le_cell hstep i
  constructor
  · rintro ⟨⟨he, hres, hlo, hhi⟩, hi⟩
    obtain ⟨h₁, h₂⟩ := (Plan.index_eq_iff hstep (by omega) i).mp hi
    exact ⟨he, hres, by unfold Plan.windowStart; omega, by unfold Plan.windowEnd; omega⟩
  · rintro ⟨he, hres, hlo, hhi⟩
    unfold Plan.windowStart at hlo
    unfold Plan.windowEnd at hhi
    exact ⟨⟨he, hres, by omega, by omega⟩,
      (Plan.index_eq_iff hstep (by omega) i).mpr ⟨by omega, by omega⟩⟩

/-- The spans. -/
theorem addSpans_eq (hstep : 0 < plan.step) (hnodup : (selected.map (·.id)).Nodup)
    (h : addSpans plan request db selected output = .ok output') :
    output' = addAt (fun k i => (selected.map fun epoch => epoch.weight request k •
      spanTotal db epoch.id (plan.windowStart i) (plan.windowEnd i)).sum) output := by
  simp only [addSpans] at h
  split_ifs at h
  obtain rfl := Except.ok.inj h
  rw [foldl_addAt _ (fun r k i => (epochKeys request selected r.2.epochId).count k •
    r.2.observation.durationStats (overlap r.2.cursorMs r.2.endMs (plan.windowStart i)
      (plan.windowEnd i))) _ fun r _ output => by
      rw [applySpan_eq hstep]; simp only [overlap_window hstep]]
  congr 1
  funext k i
  have hsum := sum_selected request db.spans (fun _ span => span.epochId)
    (fun _ span => span.cursorMs < plan.toMs ∧ span.endMs > plan.fromMs) selected hnodup
    (fun _ span => span.observation.durationStats (overlap span.cursorMs span.endMs
      (plan.windowStart i) (plan.windowEnd i))) k
  simp only [decide_eq_true_eq] at hsum
  rw [spanRows, hsum]
  refine congrArg List.sum (List.map_congr_left fun epoch _ => congrArg _ ?_)
  refine Table.sum_congr fun _ span _ => ?_
  rw [SpanRow.stats]
  by_cases hin : span.cursorMs < plan.toMs ∧ span.endMs > plan.fromMs
  · simp [hin]
  · -- a span that does not meet the range shares nothing with a window of it
    have hstart : plan.fromMs ≤ plan.windowStart i := le_max_of_le_left (Plan.le_cell hstep i)
    have hend : plan.windowEnd i ≤ plan.toMs := min_le_right _ _
    have hz : overlap span.cursorMs span.endMs (plan.windowStart i) (plan.windowEnd i) = 0 := by
      rcases not_and_or.mp hin with hlate | hearly
      · exact overlap_eq_zero_of_ge (hend.trans (not_lt.mp hlate))
      · exact overlap_eq_zero_of_le ((not_lt.mp hearly).trans hstart)
    simp [hz]

/-- The observations in force at the end of an epoch. -/
theorem addTail_eq (hstep : 0 < plan.step) (epoch : Epoch) (output : SeriesMap) :
    addTail plan request output epoch = addAt (fun k i => epoch.weight request k •
      epoch.tail (plan.windowStart i) (plan.windowEnd i)) output := by
  unfold addTail Epoch.tail
  rcases epoch.last with - | last
  · simp [addAt_zero]
  · rcases epoch.body with - | observation
    · simp [addAt_zero]
    · simp only
      rw [applySpan_eq hstep]
      congr 1
      funext k i
      rw [min_right_comm, overlap_window hstep]
      rfl

/-- **The loops of a query come to one sum.** -/
theorem fillSeries_eq (hstep : 0 < plan.step) (hnodup : (selected.map (·.id)).Nodup)
    (h : fillSeries plan request db selected output = .ok output') :
    output' = addAt (total plan request db selected) output := by
  unfold fillSeries at h
  split_ifs at h with hnil
  · obtain rfl := Except.ok.inj h
    subst hnil
    exact (addAt_zero output).symm
  · obtain ⟨out₁, hb, h⟩ := Except.bind_eq_ok_iff.mp h
    obtain ⟨out₂, hs, h⟩ := Except.bind_eq_ok_iff.mp h
    obtain rfl := Except.ok.inj h
    rw [addBuckets_eq hstep hnodup hb] at hs
    rw [addSpans_eq hstep hnodup hs, foldl_addAt _ (fun epoch k i => epoch.weight request k •
      epoch.tail (plan.windowStart i) (plan.windowEnd i)) selected
      fun epoch _ output => addTail_eq hstep epoch output, addAt_addAt, addAt_addAt]
    congr 1
    funext k i
    simp only [total, content, nsmul_add, List.sum_map_add, add_assoc]

end Fill

end SimpleNetworkMonitor.History
