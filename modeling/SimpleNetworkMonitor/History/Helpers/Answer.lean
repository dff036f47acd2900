import SimpleNetworkMonitor.History.Helpers.Series
import Mathlib.Tactic.Ring
/-!
# The answer of a query

A query that succeeds has a plan, and each bucket of each series it
returns is what the plan's windows say: the time the selected epochs make
eligible in it, and the total of their content and tails.
-/

namespace SimpleNetworkMonitor.History

open HalfOpen

/-! ## The plan's grid -/

section Plan

variable {request : HistoryRequest} {config : HistoryConfig} {now : ℤ} {n : ℕ}

theorem plan_step_pos : 0 < (plan request config now n).step := by
  have hw := (plan request config now n).source.width_pos
  have hmax : ∀ x : ℤ, 0 < max x 1 := fun x => by omega
  simp only [Tier.width] at hw
  exact Int.mul_pos (hmax _) (by simp only [plan] at hw; omega)

theorem width_dvd_fromMs :
    (plan request config now n).source.width ∣ (plan request config now n).fromMs :=
  width_dvd_floor

theorem width_dvd_step :
    (plan request config now n).source.width ∣ (plan request config now n).step * 1000 := by
  unfold plan Tier.width
  simp only
  exact ⟨_, by ring⟩

theorem width_dvd_cell (i : ℕ) :
    (plan request config now n).source.width ∣ (plan request config now n).cell i :=
  Int.dvd_add width_dvd_fromMs (Dvd.dvd.mul_left width_dvd_step _)

theorem width_dvd_windowStart (i : ℕ) :
    (plan request config now n).source.width ∣ (plan request config now n).windowStart i := by
  unfold Plan.windowStart
  rcases max_choice ((plan request config now n).cell i)
    (plan request config now n).retainedFrom with h | h <;> rw [h]
  · exact width_dvd_cell i
  · exact width_dvd_boundary

theorem boundary_le_windowStart (i : ℕ) :
    boundary config now (plan request config now n).source ≤
      (plan request config now n).windowStart i := le_max_right _ _

/-- The end of the last source bucket a query reads. -/
def lastEdge (request : HistoryRequest) (source : Tier) : ℤ :=
  floor (request.toMs - 1) source.seconds + source.width

theorem width_dvd_lastEdge (source : Tier) : source.width ∣ lastEdge request source :=
  Int.dvd_add width_dvd_floor dvd_rfl

/-- The end of a bucket's window, on the grid of the source. -/
def windowEdge (request : HistoryRequest) (plan : Plan) (i : ℕ) : ℤ :=
  min (plan.cell (i + 1)) (lastEdge request plan.source)

theorem width_dvd_windowEdge (i : ℕ) : (plan request config now n).source.width ∣
    windowEdge request (plan request config now n) i := by
  unfold windowEdge
  rcases min_choice ((plan request config now n).cell (i + 1))
    (lastEdge request (plan request config now n).source) with h | h <;> rw [h]
  · exact width_dvd_cell (i + 1)
  · exact width_dvd_lastEdge _

theorem windowEnd_eq (i : ℕ) : (plan request config now n).windowEnd i =
    min (windowEdge request (plan request config now n) i) now := by
  rw [windowEdge, min_assoc]
  rfl

/-- **Rounding a window up.** A query stops at the clock; nothing is stored
past it, so its windows may as well end on the grid. -/
theorem content_windowEnd {db : HistoryDb} (haligned : Aligned db) (hends : EndsBy db now)
    (hto : request.toMs ≤ now) (epoch i : ℕ) :
    content db epoch (plan request config now n).source
        ((plan request config now n).windowStart i) ((plan request config now n).windowEnd i) =
      content db epoch (plan request config now n).source
        ((plan request config now n).windowStart i)
        (windowEdge request (plan request config now n) i) := by
  have hend : (plan request config now n).windowEnd i =
      min (windowEdge request (plan request config now n) i) now := windowEnd_eq i
  set source := (plan request config now n).source with hsource
  set edge := windowEdge request (plan request config now n) i with hedge
  have hlast : edge ≤ lastEdge request source := min_le_right _ _
  have hnow : lastEdge request source - source.width < now := by
    have : floor (request.toMs - 1) source.seconds ≤ request.toMs - 1 := floor_le
    unfold lastEdge
    omega
  rw [hend]
  refine congrArg₂ (· + ·) ?_ ?_
  · -- the last bucket starts a whole width before the edge, and so before the clock
    refine Table.sum_congr fun key stats hmem => if_congr ?_ rfl rfl
    constructor
    · rintro ⟨he, hres, hlo, hhi⟩
      exact ⟨he, hres, hlo, by omega⟩
    · rintro ⟨he, hres, hlo, hhi⟩
      have hdvd : source.width ∣ key.startMs := by
        have := haligned key stats hmem
        rwa [hres] at this
      have : key.startMs + source.width ≤ lastEdge request source :=
        add_le_of_lt_of_dvd hdvd (width_dvd_lastEdge source) (lt_of_lt_of_le hhi hlast)
      exact ⟨he, hres, hlo, by omega⟩
  · -- no span reaches past the clock
    refine Table.sum_congr fun id span hmem => congrArg _ ?_
    have := hends id span hmem
    unfold overlap
    omega

end Plan

/-! ## The series before anything is counted -/

/-- A bucket of the grid. -/
def bucketAt (plan : Plan) (eligibleMs : ℕ) (stats : HistoryStats) (i : ℕ) : HistoryBucket where
  startMs := plan.fromMs + i * plan.step * 1000
  endMs := min (plan.fromMs + (i + 1) * plan.step * 1000) plan.toMs
  eligibleMs := eligibleMs
  stats := stats
  latencyP95Ms := none

theorem bucketAt_startMs (plan : Plan) (eligibleMs : ℕ) (stats : HistoryStats) (i : ℕ) :
    (bucketAt plan eligibleMs stats i).startMs = plan.cell i := by
  rw [bucketAt, Plan.cell, mul_assoc]

theorem bucketAt_endMs (plan : Plan) (eligibleMs : ℕ) (stats : HistoryStats) (i : ℕ) :
    (bucketAt plan eligibleMs stats i).endMs = plan.windowEnd i := by
  rw [bucketAt, Plan.windowEnd, Plan.cell]
  push_cast
  rw [mul_assoc]

/-- The time an epoch makes eligible in a bucket of the grid. -/
def Epoch.eligible (plan : Plan) (epoch : Epoch) (i : ℕ) : ℕ :=
  overlap epoch.start epoch.end_ (bucketAt plan 0 0 i).startMs (bucketAt plan 0 0 i).endMs

/-- **The time the selected epochs make eligible** in a bucket of a series. -/
def eligible (plan : Plan) (request : HistoryRequest) (selected : List Epoch) (key : String)
    (i : ℕ) : ℕ :=
  (selected.map fun epoch => epoch.weight request key * epoch.eligible plan i).sum

/-- Every open series has its buckets, with the eligible time `E` says, and
a series not yet open has none. -/
structure Opened (plan : Plan) (E : String → ℕ → ℕ) (output : SeriesMap) : Prop where
  series : ∀ key series, (key, series) ∈ output.rows → series.id = key ∧
    series.buckets = (List.range plan.count).map fun i => bucketAt plan (E key i) 0 i
  closed : ∀ key, key ∉ output.keys → ∀ i, E key i = 0

theorem mapIdx_map_range {α β : Type} (n : ℕ) (f : ℕ → α) (g : ℕ → α → β) :
    ((List.range n).map f).mapIdx g = (List.range n).map fun i => g i (f i) := by
  refine List.ext_getElem? fun i => ?_
  rw [List.getElem?_mapIdx, List.getElem?_map, List.getElem?_map, Option.map_map]
  rcases h : (List.range n)[i]? with - | j
  · rfl
  · obtain ⟨-, rfl⟩ := List.getElem?_eq_some_iff.mp h
    simp

section Open

variable {plan : Plan} {request : HistoryRequest} {E : String → ℕ → ℕ}
variable {output output' : SeriesMap}

theorem opened_openKey (epoch : Epoch) (label : String × String) (h : Opened plan E output)
    (hok : openKey plan epoch output label = .ok output') :
    Opened plan (fun key i => E key i + if key = label.1 then epoch.eligible plan i else 0)
      output' := by
  obtain ⟨name, text⟩ := label
  -- the series is there, with nothing more eligible than before
  obtain ⟨mid, hmid, hname, hout⟩ : ∃ mid, Opened plan E mid ∧ name ∈ mid.keys ∧
      output' = mid.modify name fun series =>
        { series with buckets := series.buckets.map (addEligible epoch) } := by
    simp only [openKey] at hok
    split_ifs at hok with hmem
    · exact ⟨output, h, hmem, (Except.ok.inj hok).symm⟩
    · refine ⟨output.insertNew name ⟨name, text, emptyBuckets plan⟩ hmem, ⟨?_, ?_⟩,
        Table.mem_keys.mpr ⟨_, Table.mem_insertNew.mpr (Or.inr rfl)⟩, (Except.ok.inj hok).symm⟩
      · intro key series hs
        rcases Table.mem_insertNew.mp hs with hs | hs
        · exact h.series key series hs
        · obtain ⟨rfl, rfl⟩ := Prod.mk.inj hs
          refine ⟨rfl, ?_⟩
          simp [h.closed _ hmem, emptyBuckets, bucketAt, HistoryStats.default_eq_zero]
      · intro key hkey i
        refine h.closed key (fun hk => hkey ?_) i
        obtain ⟨v, hv⟩ := Table.mem_keys.mp hk
        exact Table.mem_keys.mpr ⟨v, Table.mem_insertNew.mpr (Or.inl hv)⟩
  subst hout
  refine ⟨fun key series hs => ?_, fun key hkey i => ?_⟩
  · obtain ⟨w, hw, hval⟩ := Table.mem_modify.mp hs
    obtain ⟨hid, hbuckets⟩ := hmid.series key w hw
    by_cases hk : key = name
    · rw [if_pos hk] at hval
      subst hval
      refine ⟨hid, ?_⟩
      simp only [hbuckets, List.map_map]
      refine List.map_congr_left fun i _ => ?_
      simp only [Function.comp_apply, addEligible, bucketAt, hk, if_true]
      rfl
    · rw [if_neg hk] at hval
      subst hval
      exact ⟨hid, by simpa [hk] using hbuckets⟩
  · have hkeys : key ∉ mid.keys := by rwa [Table.modify, Table.keys_mapVals] at hkey
    have hne : key ≠ name := fun heq => hkeys (heq ▸ hname)
    simp [hmid.closed key hkeys i, hne]

theorem opened_foldlM_openKey (epoch : Epoch) (keys : List (String × String)) :
    ∀ {E : String → ℕ → ℕ} {output : SeriesMap}, Opened plan E output →
      keys.foldlM (openKey plan epoch) output = .ok output' →
      Opened plan (fun key i => E key i + (keys.map Prod.fst).count key * epoch.eligible plan i)
        output' := by
  induction keys with
  | nil =>
    intro E output h hok
    obtain rfl := Except.ok.inj hok
    simpa using h
  | cons label keys ih =>
    intro E output h hok
    rw [List.foldlM_cons] at hok
    obtain ⟨mid, hmid, hok⟩ := Except.bind_eq_ok_iff.mp hok
    have hsum : ∀ key i, (E key i + if key = label.1 then epoch.eligible plan i else 0) +
        (keys.map Prod.fst).count key * epoch.eligible plan i =
          E key i + ((label :: keys).map Prod.fst).count key * epoch.eligible plan i := by
      intro key i
      rw [List.map_cons, List.count_cons]
      by_cases hk : key = label.1
      · simp only [hk, if_true, beq_self_eq_true]
        ring
      · have hne : (label.1 == key) = false := by simp [Ne.symm hk]
        simp [hk, hne]
    simpa only [hsum] using ih (opened_openKey epoch label h hmid) hok

/-- **The series a query opens.** -/
theorem opened_openSeries (selected : List Epoch)
    (hok : openSeries plan request selected = .ok output) :
    Opened plan (eligible plan request selected) output := by
  have key : ∀ (selected : List Epoch) {E : String → ℕ → ℕ} {start : SeriesMap},
      Opened plan E start →
      selected.foldlM (fun output epoch =>
        (labels epoch request).foldlM (openKey plan epoch) output) start = .ok output →
      Opened plan (fun key i => E key i + eligible plan request selected key i) output := by
    intro selected
    induction selected with
    | nil =>
      intro E start h hok
      obtain rfl := Except.ok.inj hok
      simpa [eligible] using h
    | cons epoch es ih =>
      intro E start h hok
      rw [List.foldlM_cons] at hok
      obtain ⟨mid, hmid, hok⟩ := Except.bind_eq_ok_iff.mp hok
      have := ih (opened_foldlM_openKey epoch _ h hmid) hok
      simpa [eligible, Epoch.weight, add_assoc] using this
  have h0 : Opened plan (fun _ _ => 0) ∅ :=
    ⟨fun _ _ hs => absurd hs (by simp), fun _ _ _ => rfl⟩
  simpa using key selected h0 hok

end Open

/-! ## The answer -/

section Answer

variable {db : HistoryDb} {request : HistoryRequest} {config : HistoryConfig} {now : ℤ}
variable {response : HistoryResponse}

/-- A bucket that ends by the boundary had nothing to reset. -/
theorem finishBucket_stats {plan : Plan} {selected : List Epoch} (eligibleMs : ℕ) (key : String)
    (i : ℕ) : (finishBucket plan (bucketAt plan eligibleMs (total plan request db selected key i)
      i)).stats = total plan request db selected key i := by
  simp only [finishBucket]
  split_ifs with hle
  · rw [bucketAt_endMs] at hle
    have hempty : plan.windowEnd i ≤ plan.windowStart i := le_trans hle (le_max_right _ _)
    symm
    refine List.sum_eq_zero fun s hs => ?_
    obtain ⟨epoch, -, rfl⟩ := List.mem_map.mp hs
    rw [content_of_empty hempty, Epoch.tail_of_empty hempty, add_zero, nsmul_zero]
  · rfl

/-- **What a query that succeeds went through.** -/
theorem query_eq_ok (h : query db request config now = .ok response) :
    request.validate now = .ok () ∧ ∃ candidates output filled,
      epochs db (aligned (clamp request now) now) now = .ok candidates ∧
      openSeries (plan (clamp request now) config now candidates.length) (clamp request now)
        (selectedFor (plan (clamp request now) config now candidates.length) candidates)
          = .ok output ∧
      fillSeries (plan (clamp request now) config now candidates.length) (clamp request now) db
        (selectedFor (plan (clamp request now) config now candidates.length) candidates) output
          = .ok filled ∧
      response =
        { fromMs := (plan (clamp request now) config now candidates.length).fromMs
          toMs := (plan (clamp request now) config now candidates.length).toMs
          resolutionSeconds := (plan (clamp request now) config now candidates.length).step
          sourceResolutionSeconds :=
            (plan (clamp request now) config now candidates.length).source.seconds
          availableFromMs :=
            ((selectedFor (plan (clamp request now) config now candidates.length) candidates).map
              fun e => max e.start
                (plan (clamp request now) config now candidates.length).retainedFrom).min?
          membership := "at_observation_time"
          series := finish (plan (clamp request now) config now candidates.length) filled } := by
  obtain ⟨⟨⟩, hvalid, h⟩ := Except.bind_eq_ok_iff.mp h
  obtain ⟨candidates, hepochs, h⟩ := Except.bind_eq_ok_iff.mp h
  obtain ⟨output, hopen, h⟩ := Except.bind_eq_ok_iff.mp h
  obtain ⟨filled, hfill, h⟩ := Except.bind_eq_ok_iff.mp h
  exact ⟨Except.mapError_eq_ok_iff.mp hvalid, candidates, output, filled, hepochs, hopen, hfill,
    (Except.ok.inj h).symm⟩

/-- The rows a query's candidates come from. -/
theorem epochs_eq_ok {candidates : List Epoch} {range : HistoryRequest}
    (h : epochs db range now = .ok candidates) :
    candidates = (db.epochs.rows.filter fun r => inScope range r.2.toEpochInfo ∧ r.2.startedMs < range.toMs ∧
      r.2.endedMs.all (· > range.fromMs)).map fun r => Epoch.ofRow now r.1 r.2 := by
  simp only [epochs] at h
  split_ifs at h
  exact (Except.ok.inj h).symm

/-- No epoch is a candidate twice. -/
theorem nodup_selectedFor {candidates : List Epoch} {range : HistoryRequest} (p : Plan)
    (h : epochs db range now = .ok candidates) :
    ((selectedFor p candidates).map (·.id)).Nodup := by
  rw [epochs_eq_ok h]
  refine (List.Sublist.map _ List.filter_sublist).nodup ?_
  rw [List.map_map]
  exact (List.Sublist.map _ List.filter_sublist).nodup db.epochs.nodup

/-- **The rows a query reads** are those in scope that meet the range of its
plan: the wider range of the candidates loses none. -/
theorem selectedFor_eq {candidates : List Epoch} (n : ℕ)
    (h : epochs db (aligned (clamp request now) now) now = .ok candidates) :
    selectedFor (plan (clamp request now) config now n) candidates =
      (db.epochs.rows.filter fun r => inScope request r.2.toEpochInfo ∧
        r.2.startedMs < (plan (clamp request now) config now n).toMs ∧
        (plan (clamp request now) config now n).fromMs < min (r.2.endedMs.getD now) now).map
          fun r => Epoch.ofRow now r.1 r.2 := by
  set p := plan (clamp request now) config now n with hp
  have hto : p.toMs ≤ (aligned (clamp request now) now).toMs :=
    min_le_min_right _ (cell_add_le_cell_add p.source.width_pos Tier.daily.width_pos
      (Tier.width_dvd_daily p.source))
  have hfrom : (aligned (clamp request now) now).fromMs ≤ p.fromMs :=
    cell_le_cell_of_dvd p.source.width_pos Tier.daily.width_pos (Tier.width_dvd_daily p.source)
  rw [epochs_eq_ok h, selectedFor, List.filter_map, List.filter_filter]
  refine congrArg _ (List.filter_congr fun r _ => ?_)
  simp only [Function.comp_apply, Epoch.ofRow, ← Bool.decide_and]
  refine decide_eq_decide.mpr ?_
  constructor
  · rintro ⟨⟨hstart, hend⟩, hscope, -⟩
    exact ⟨hscope, hstart, hend⟩
  · rintro ⟨hscope, hstart, hend⟩
    refine ⟨⟨hstart, hend⟩, hscope, by omega, ?_⟩
    rcases he : r.2.endedMs with - | ended
    · rfl
    · rw [he] at hend
      have : (aligned (clamp request now) now).fromMs < ended :=
        lt_of_le_of_lt hfrom (lt_of_lt_of_le hend (min_le_left _ _))
      simpa using this

/-- **The answer of a query**: its plan, and each bucket of a series it
returns. -/
theorem series_of_query (h : query db request config now = .ok response) :
    ∃ candidates, epochs db (aligned (clamp request now) now) now = .ok candidates ∧
      let p := plan (clamp request now) config now candidates.length
      let selected := selectedFor p candidates
      response.fromMs = p.fromMs ∧ response.toMs = p.toMs ∧
      response.sourceResolutionSeconds = p.source.seconds ∧
      ∀ series ∈ response.series, series.buckets = (List.range p.count).map fun i =>
        finishBucket p (bucketAt p (eligible p (clamp request now) selected series.id i)
          (total p (clamp request now) db selected series.id i) i) := by
  obtain ⟨-, candidates, output, filled, hepochs, hopen, hfill, rfl⟩ := query_eq_ok h
  refine ⟨candidates, hepochs, rfl, rfl, rfl, ?_⟩
  intro series hs
  set p := plan (clamp request now) config now candidates.length
  set selected := selectedFor p candidates
  have hopened := opened_openSeries selected hopen
  have hfilled := fillSeries_eq plan_step_pos (nodup_selectedFor p hepochs) hfill
  simp only [finish, List.mem_map, List.mem_insertionSort] at hs
  obtain ⟨⟨key, s⟩, hs, rfl⟩ := hs
  obtain ⟨w, hw, rfl⟩ := Table.mem_mapVals.mp hs
  rw [hfilled, addAt] at hw
  obtain ⟨v, hv, rfl⟩ := Table.mem_mapVals.mp hw
  obtain ⟨hid, hbuckets⟩ := hopened.series key v hv
  subst hid
  simp only [addBy, hbuckets, mapIdx_map_range, List.map_map]
  refine List.map_congr_left fun i _ => ?_
  simp only [Function.comp_apply, bucketAt, zero_add]
  rfl

end Answer

end SimpleNetworkMonitor.History
