import SimpleNetworkMonitor.History.Helpers.Answer
import SimpleNetworkMonitor.History.Helpers.TrackingSteps
/-!
# Charts report the timeline

After any run, under a clock that does not go back, each bucket of each
series a query returns has for how long the observations of the timeline
were in force, up, down or with both user counts, in the part of the
bucket that the source resolution still keeps.
-/

namespace SimpleNetworkMonitor.History

open HalfOpen

variable {config : HistoryConfig} {now lo hi : ℤ} {db : HistoryDb} {timeline pruned : Timeline}
variable {acc : ℕ → List (ℤ × HistoryObservation)} {id : ℕ} {row : EpochRow} {tier : Tier}
variable {φ : HistoryStats → ℕ} {p : HistoryObservation → Bool} {request : HistoryRequest}

/-! ## One epoch -/

/-- How often an epoch counts in a series: once, where it carries it. -/
theorem weight_ofRow (hgroups : row.groups.Nodup) (key : String) :
    (Epoch.ofRow now id row).weight request key =
      if carries request key row.toEpochInfo then 1 else 0 := by
  unfold Epoch.weight labels carries
  by_cases hhost : request.breakdown = "host"
  · simp only [hhost, if_true, List.map_cons, List.map_nil, List.count_singleton, beq_iff_eq,
      decide_eq_true_eq]
    rfl
  · by_cases hgroup : request.breakdown = "group"
    · rw [if_neg hhost, if_pos hgroup, if_neg hhost, if_pos hgroup, List.map_map]
      have hmap : ((Epoch.ofRow now id row).groups.filter fun g =>
          request.groups = [] ∨ g ∈ request.groups).map (Prod.fst ∘ fun g => (g, g)) =
            row.groups.filter fun g => request.groups = [] ∨ g ∈ request.groups := List.map_id _
      rw [hmap, (hgroups.filter _).count]
      simp only [List.mem_filter, decide_eq_true_eq]
    · rw [if_neg hhost, if_neg hgroup, if_neg hhost, if_neg hgroup]
      simp only [List.map_cons, List.map_nil, List.count_singleton, beq_iff_eq, decide_eq_true_eq]
      exact if_congr eq_comm rfl rfl

/-- What is over of a stint is over by the clock. -/
theorem flushed_le {info : EpochInfo} {accepted : List (ℤ × HistoryObservation)}
    (h : Ordered info accepted now) : ∀ x ∈ flushed info accepted, x.2.1 ≤ now := by
  intro x hx
  unfold flushed at hx
  split at hx
  · next ended he => exact le_trans (mem_inForce hx).1 (h.ended ended he).1
  · cases hx
  · exact le_trans (mem_inForce hx).1 (h.le_now _ List.mem_cons_self)

/-- **What a query finds of an epoch** is the time its stint was in force: its
content, and the tail of the last observation. -/
theorem Kept.found (h : Kept config now db id row (acc id)) (hsound : Sound db)
    (hmem : (id, row) ∈ db.epochs.rows) (hφ : Measures φ p) (hlo : tier.width ∣ lo)
    (hhi : tier.width ∣ hi) (hb : boundary config now tier ≤ lo) :
    φ (content db id tier lo hi + (Epoch.ofRow now id row).tail lo (min hi now)) =
      timeOf p ((⟨row.toEpochInfo, acc id⟩ : Stint).inForce now) lo (min hi now) := by
  rw [hφ.add, h.held φ p hφ tier lo hi hlo hhi hb, timeOf_min _ (flushed_le h.ordered),
    Epoch.tail_ofRow]
  rcases he : row.endedMs with - | ended
  · have hopen : row.isOpen = true := isOpen_iff.mpr he
    simp only [Stint.inForce, he, Option.getD_none, min_self]
    rw [h.measure_tailTotal hopen hφ]
    exact (timeOf_inForce h.ordered.sorted h.ordered.le_now row.toEpochInfo he).symm
  · have hclosed : row.isOpen = false := by simp [EpochInfo.isOpen, he]
    have hended := (h.ordered.ended ended he).1
    simp only [Stint.inForce, he, Option.getD_some, min_eq_left hended, tailTotal,
      hsound.closed id row hmem hclosed, hφ.zero, add_zero, flushed]

/-- A stint that does not meet a range was not in force in it. -/
theorem timeOf_inForce_eq_zero {stint : Stint} (h : Ordered stint.toEpochInfo stint.accepted now)
    (hout : ¬ (stint.startedMs < hi ∧ lo < min (stint.endedMs.getD now) now)) :
    timeOf p (stint.inForce now) lo hi = 0 := by
  refine timeOf_eq_zero _ fun x hx => ?_
  obtain ⟨hle, a, ha, heq⟩ := mem_inForce hx
  have := h.started a ha
  omega

/-! ## One bucket -/

/-- A sum of terms that vanish where the predicate fails. -/
theorem sum_map_filter {α : Type} (l : List α) (q : α → Bool) (f : α → ℕ)
    (h : ∀ a ∈ l, q a = false → f a = 0) : ((l.filter q).map f).sum = (l.map f).sum := by
  induction l with
  | nil => rfl
  | cons a l ih =>
    have hl := ih fun b hb => h b (List.mem_cons_of_mem _ hb)
    by_cases hq : q a = true
    · rw [List.filter_cons_of_pos hq, List.map_cons, List.map_cons, List.sum_cons, List.sum_cons, hl]
    · rw [List.filter_cons_of_neg hq, hl, List.map_cons, List.sum_cons,
        h a List.mem_cons_self (by simpa using hq), zero_add]

/-- The time of the stints of a timeline, after the boundary: those that were
pruned add nothing. -/
theorem Tracks.reference_eq (h : Tracks config now db timeline acc pruned) (hφ : Measures φ p)
    (key : String) (hb : boundary config now .daily ≤ lo) :
    reference timeline request now p key lo hi = (db.epochs.rows.map fun r =>
      if inScope request r.2.toEpochInfo ∧ carries request key r.2.toEpochInfo then
        timeOf p ((⟨r.2.toEpochInfo, acc r.1⟩ : Stint).inForce now) lo hi else 0).sum := by
  have hpruned : ((pruned.filter fun stint => inScope request stint.toEpochInfo ∧
      carries request key stint.toEpochInfo).map fun stint =>
        timeOf p (stint.inForce now) lo hi).sum = 0 := by
    refine Multiset.sum_eq_zero fun n hn => ?_
    obtain ⟨stint, hs, rfl⟩ := Multiset.mem_map.mp hn
    obtain ⟨ended, he, hle, hzero⟩ := h.silent stint (Multiset.mem_of_mem_filter hs)
    simp only [Stint.inForce, he, Option.getD_some, min_eq_left hle]
    exact hzero φ p hφ lo hi hb
  rw [reference, h.split, Multiset.filter_add, Multiset.map_add, Multiset.sum_add, hpruned, zero_add,
    live, Multiset.filter_coe, Multiset.map_coe, Multiset.sum_coe, List.filter_map, List.map_map]
  rw [← sum_map_filter db.epochs.rows (fun r => decide (inScope request r.2.toEpochInfo ∧
    carries request key r.2.toEpochInfo)) _ fun r _ hq => if_neg (of_decide_eq_false hq)]
  refine congrArg List.sum (List.map_congr_left fun r hr => ?_)
  exact (if_pos (of_decide_eq_true (List.mem_filter.mp hr).2)).symm

/-- **What a query finds for a bucket** is what its series should say. -/
theorem Tracks.total_eq (h : Tracks config now db timeline acc pruned) (hφ : Measures φ p)
    (hconfig : config.Valid) {candidates : List Epoch}
    (hepochs : epochs db (aligned (clamp request now) now) now = .ok candidates) (key : String)
    (i : ℕ) :
    let p' := plan (clamp request now) config now candidates.length
    φ (total p' (clamp request now) db (selectedFor p' candidates) key i) =
      reference timeline request now p key (p'.windowStart i) (p'.windowEnd i) := by
  intro p'
  have hfrom : p'.fromMs ≤ p'.windowStart i :=
    le_trans (Plan.le_cell plan_step_pos i) (le_max_left _ _)
  have hto : p'.windowEnd i ≤ p'.toMs := min_le_right _ _
  rw [h.reference_eq hφ key (le_trans (boundary_daily_le hconfig _) (boundary_le_windowStart i)),
    total, hφ.sum, List.map_map, selectedFor_eq _ hepochs, List.map_map,
    ← sum_map_filter db.epochs.rows (fun r => decide (inScope request r.2.toEpochInfo ∧
      r.2.startedMs < p'.toMs ∧ p'.fromMs < min (r.2.endedMs.getD now) now))]
  · refine congrArg List.sum (List.map_congr_left fun r hr => ?_)
    -- a selected epoch brings what its stint has in the window
    obtain ⟨hmem, hin⟩ := List.mem_filter.mp hr
    obtain ⟨hscope, -⟩ := of_decide_eq_true hin
    have hk := h.kept r.1 r.2 hmem
    have hweight : (Epoch.ofRow now r.1 r.2).weight (clamp request now) key =
        if carries request key r.2.toEpochInfo then 1 else 0 :=
      weight_ofRow hk.ordered.groups key
    have hcontent : content db (Epoch.ofRow now r.1 r.2).id p'.source (p'.windowStart i)
        (p'.windowEnd i) = _ := content_windowEnd h.sound.aligned h.ends (min_le_right _ _) r.1 i
    have hend : p'.windowEnd i = min (windowEdge (clamp request now) p' i) now := windowEnd_eq i
    simp only [Function.comp_apply, hφ.nsmul, hweight, hscope, true_and, hcontent]
    rw [hend, hk.found h.sound hmem hφ (width_dvd_windowStart i) (width_dvd_windowEdge i)
      (boundary_le_windowStart i), ite_mul, one_mul, zero_mul]
  · -- an epoch in scope that the query does not read was not in force in the window
    intro r hmem hout
    have hk := h.kept r.1 r.2 hmem
    refine ite_eq_right_iff.mpr fun hin => timeOf_inForce_eq_zero hk.ordered fun hmeet => ?_
    have hmeet' : r.2.startedMs < p'.windowEnd i ∧
      p'.windowStart i < min (r.2.endedMs.getD now) now := hmeet
    exact of_decide_eq_false hout ⟨hin.1, by omega, by omega⟩

/-- The window of a bucket, from the bucket and the range of the answer. -/
theorem finishBucket_window (plan : Plan) (hstep : 0 < plan.step) (eligibleMs : ℕ)
    (stats : HistoryStats) (i : ℕ) :
    max (finishBucket plan (bucketAt plan eligibleMs stats i)).startMs
        (max plan.fromMs plan.retainedFrom) = plan.windowStart i ∧
      min (finishBucket plan (bucketAt plan eligibleMs stats i)).endMs plan.toMs =
        plan.windowEnd i := by
  constructor
  · change max (bucketAt plan eligibleMs stats i).startMs _ = _
    rw [bucketAt_startMs, ← max_assoc, max_eq_left (Plan.le_cell hstep i)]
    rfl
  · change min (bucketAt plan eligibleMs stats i).endMs _ = _
    rw [bucketAt_endMs]
    exact min_eq_left (min_le_right _ _)

/-! ## The answer -/

/-- **Charts report the timeline.** After every run under a clock that does
not go back, whatever the batches of maintenance in it, each bucket of
each series of a query that succeeds counts for how long the accepted
observations of the epochs in scope that carry the series were in force,
in the part of the bucket the source resolution still keeps. -/
theorem query_eq_reference {steps : List (ℤ × HistoryOp)} {response : HistoryResponse}
    (hconfig : config.validate = .ok ()) (hclock : Clocked.Steady steps now)
    (hquery : query (run config steps) request config now = .ok response) :
    ∃ source : Tier, source.seconds = response.sourceResolutionSeconds ∧
      ∀ series ∈ response.series, ∀ bucket ∈ series.buckets,
        let lo := max bucket.startMs (max response.fromMs (boundary config now source))
        let hi := min bucket.endMs response.toMs
        bucket.stats.upMs =
            reference (History.timeline steps) request now (·.state = "up") series.id lo hi ∧
          bucket.stats.downMs =
            reference (History.timeline steps) request now (·.state = "down") series.id lo hi ∧
          bucket.stats.usageObservedMs = reference (History.timeline steps) request now
            HistoryObservation.countsUsers series.id lo hi := by
  have hv := HistoryConfig.valid_of_validate hconfig
  obtain ⟨acc, pruned, htracks⟩ := tracks_run hv hclock
  obtain ⟨candidates, hepochs, hfrom, hto, hsource, hseries⟩ := series_of_query hquery
  refine ⟨_, hsource.symm, fun series hs bucket hb => ?_⟩
  rw [hseries series hs] at hb
  obtain ⟨i, -, rfl⟩ := List.mem_map.mp hb
  set p := plan (clamp request now) config now candidates.length
  obtain ⟨hstart, hend⟩ := finishBucket_window p plan_step_pos
    (eligible p (clamp request now) (selectedFor p candidates) series.id i)
    (total p (clamp request now) (run config steps) (selectedFor p candidates) series.id i) i
  rw [finishBucket_stats, hfrom, hto]
  change max _ (max p.fromMs (boundary config now p.source)) = _ at hstart
  rw [hstart, hend]
  exact ⟨htracks.total_eq measures_upMs hv hepochs _ i,
    htracks.total_eq measures_downMs hv hepochs _ i,
    htracks.total_eq measures_usageObservedMs hv hepochs _ i⟩

/-- The chart of the sample run: the second observation went stale. -/
theorem query_eq_reference_sample : ∃ response,
    query (run {} sampleSteps) sampleRequest {} 400000 = .ok response ∧
      ∃ source : Tier, source.seconds = response.sourceResolutionSeconds ∧
        ∀ series ∈ response.series, ∀ bucket ∈ series.buckets,
          bucket.stats.downMs = reference (History.timeline sampleSteps) sampleRequest 400000
            (·.state = "down") series.id
            (max bucket.startMs (max response.fromMs (boundary {} 400000 source)))
            (min bucket.endMs response.toMs) := by
  obtain ⟨response, hquery⟩ := Except.exists_of_isOk
    (x := query (run {} sampleSteps) sampleRequest {} 400000) (by decide +kernel)
  obtain ⟨source, hsource, hseries⟩ := query_eq_reference (by decide) (by decide) hquery
  exact ⟨response, hquery, source, hsource, fun series hs bucket hb =>
    (hseries series hs bucket hb).2.1⟩

end SimpleNetworkMonitor.History
