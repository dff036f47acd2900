import SimpleNetworkMonitor.History.Helpers.Answer
import SimpleNetworkMonitor.History.Helpers.Steps
import SimpleNetworkMonitor.History.Model.Run
/-!
# Maintenance is invisible to queries

Rolling up moves what the tables hold from spans into buckets, and a
query adds up both. So a query that succeeds before a batch and after it
gives the same answer, whichever resolution it reads.
-/

namespace SimpleNetworkMonitor.History

variable {db db' : HistoryDb} {request : HistoryRequest} {config : HistoryConfig}

/-- Two states with the same epochs, and the same totals under every plan
of the request, give the same answer. -/
theorem query_congr {now : ℤ} (hepochs : db'.epochs = db.epochs)
    (htotal : ∀ candidates selected, total (plan (clamp request now) config now candidates)
      (clamp request now) db' selected =
        total (plan (clamp request now) config now candidates) (clamp request now) db selected)
    {before after : HistoryResponse} (hb : query db request config now = .ok before)
    (ha : query db' request config now = .ok after) : after = before := by
  obtain ⟨-, candidates, output, filled, he, ho, hf, rfl⟩ := query_eq_ok hb
  obtain ⟨-, candidates', output', filled', he', ho', hf', rfl⟩ := query_eq_ok ha
  have hcand : candidates' = candidates := by
    rw [epochs_eq_ok he', epochs_eq_ok he, hepochs]
  subst hcand
  obtain rfl := Except.ok.inj (ho'.symm.trans ho)
  have hfill := fillSeries_eq plan_step_pos (nodup_selectedFor _ he) hf
  have hfill' := fillSeries_eq plan_step_pos (nodup_selectedFor _ he') hf'
  rw [htotal] at hfill'
  rw [hfill', hfill]

/-- **Maintenance progress is invisible to charts.** Whatever the state, as
long as its buckets are on their grids and no span ends past the clock of
the batch, and whatever the batch, a query that succeeds before it and
after it gives the same answer. -/
theorem query_rollup (hconfig : config.validate = .ok ()) (haligned : Aligned db)
    {now₁ now₂ : ℤ} (hspans : ∀ id span, (id, span) ∈ db.spans.rows →
      span.cursorMs < span.endMs ∧ span.endMs ≤ now₁)
    (hnow : now₁ ≤ now₂) (limit : ℕ) {before after : HistoryResponse}
    (hbefore : query db request config now₂ = .ok before)
    (hafter : query (rollup config now₁ db limit).1 request config now₂ = .ok after) :
    after = before := by
  have hends : EndsBy db now₂ := fun id span hs => le_trans (hspans id span hs).2 hnow
  have hto : (clamp request now₂).toMs ≤ now₂ := min_le_right _ _
  refine query_congr (rollup_frame config now₁ db limit).1 (fun candidates selected => ?_) hbefore hafter
  funext key i
  refine congrArg List.sum (List.map_congr_left fun epoch _ => congrArg _ (congrArg₂ _ ?_ rfl))
  -- both windows end on the grid of the source, where rollup changes nothing
  rw [content_windowEnd haligned hends hto,
    content_windowEnd (aligned_rollup haligned limit) (endsBy_rollup hends limit) hto]
  exact content_rollup (HistoryConfig.valid_of_validate hconfig) limit epoch.id
    (width_dvd_windowStart i) (width_dvd_windowEdge i)
    (le_trans (boundary_mono hnow) (boundary_le_windowStart i))

/-- A batch over the span of the sample run. -/
theorem query_rollup_sample : ∃ before after,
    query (run {} (sampleSteps.take 3)) sampleRequest {} 400000 = .ok before ∧
      query (rollup {} 40000 (run {} (sampleSteps.take 3)) 5).1 sampleRequest {} 400000 =
        .ok after ∧ after = before := by
  obtain ⟨before, hbefore⟩ := Except.exists_of_isOk
    (x := query (run {} (sampleSteps.take 3)) sampleRequest {} 400000) (by decide +kernel)
  obtain ⟨after, hafter⟩ := Except.exists_of_isOk
    (x := query (rollup {} 40000 (run {} (sampleSteps.take 3)) 5).1 sampleRequest {} 400000)
    (by decide +kernel)
  have haligned : ∀ r ∈ (run {} (sampleSteps.take 3)).buckets.rows,
      r.1.resolution.width ∣ r.1.startMs := by decide +kernel
  have hspans : ∀ r ∈ (run {} (sampleSteps.take 3)).spans.rows,
      r.2.cursorMs < r.2.endMs ∧ r.2.endMs ≤ 40000 := by decide +kernel
  exact ⟨before, after, hbefore, hafter, query_rollup (by decide)
    (fun key stats h => haligned (key, stats) h) (fun id span h => hspans (id, span) h)
    (by decide) 5 hbefore hafter⟩

end SimpleNetworkMonitor.History
