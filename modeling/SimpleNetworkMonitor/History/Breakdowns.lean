import SimpleNetworkMonitor.Common.Merging
import SimpleNetworkMonitor.History.Helpers.Answer
import SimpleNetworkMonitor.History.Helpers.Tracking
/-!
# Breakdowns partition the combined series

A request may ask for one series of all it selects, or for one of every
host or group. Which epochs are selected, and into which buckets, does not
depend on that. An epoch counts once in the combined series, once in its
host's, and once in that of each of its groups that is asked for.
-/

namespace SimpleNetworkMonitor.History

variable {db : HistoryDb} {request : HistoryRequest} {config : HistoryConfig} {now : ℤ}
variable {response : HistoryResponse} {p : Plan} {selected : List Epoch}
variable {output output' : SeriesMap}

/-! ## The series that are opened -/

theorem keys_openKey {epoch : Epoch} {label : String × String}
    (h : openKey p epoch output label = .ok output') (key : String) :
    key ∈ output'.keys ↔ key ∈ output.keys ∨ key = label.1 := by
  simp only [openKey] at h
  split_ifs at h with hmem
  · obtain rfl := Except.ok.inj h
    rw [Table.keys_modify]
    exact ⟨Or.inl, fun hk => hk.elim id fun heq => heq ▸ hmem⟩
  · obtain rfl := Except.ok.inj h
    rw [Table.keys_modify]
    simp [Table.keys, Table.insertNew]

theorem keys_foldlM_openKey {epoch : Epoch} (labels : List (String × String))
    (h : labels.foldlM (openKey p epoch) output = .ok output') (key : String) :
    key ∈ output'.keys ↔ key ∈ output.keys ∨ key ∈ labels.map Prod.fst := by
  induction labels generalizing output with
  | nil =>
    obtain rfl := Except.ok.inj h
    simp
  | cons label labels ih =>
    rw [List.foldlM_cons] at h
    obtain ⟨mid, hmid, h⟩ := Except.bind_eq_ok_iff.mp h
    rw [ih h, keys_openKey hmid, List.map_cons, List.mem_cons, or_assoc]

/-- **The series that are opened** are those of the labels. -/
theorem keys_openSeries (h : openSeries p request selected = .ok output) (key : String) :
    key ∈ output.keys ↔ ∃ epoch ∈ selected, key ∈ (labels epoch request).map Prod.fst := by
  have loop : ∀ (selected : List Epoch) (start : SeriesMap),
      selected.foldlM (fun output epoch =>
        (labels epoch request).foldlM (openKey p epoch) output) start = .ok output →
      (key ∈ output.keys ↔ key ∈ start.keys ∨
        ∃ epoch ∈ selected, key ∈ (labels epoch request).map Prod.fst) := by
    intro selected
    induction selected with
    | nil =>
      intro start h
      obtain rfl := Except.ok.inj h
      simp
    | cons epoch es ih =>
      intro start h
      rw [List.foldlM_cons] at h
      obtain ⟨mid, hmid, h⟩ := Except.bind_eq_ok_iff.mp h
      rw [ih mid h, keys_foldlM_openKey _ hmid, or_assoc]
      simp only [List.mem_cons, exists_eq_or_imp]
  have hempty : key ∉ (∅ : SeriesMap).keys := List.not_mem_nil
  rw [loop selected ∅ h]
  simp [hempty]

/-! ## The answer, series by series -/

/-- What a query finds of an epoch for a bucket. -/
def Epoch.found (db : HistoryDb) (p : Plan) (epoch : Epoch) (i : ℕ) : HistoryStats :=
  content db epoch.id p.source (p.windowStart i) (p.windowEnd i) +
    epoch.tail (p.windowStart i) (p.windowEnd i)

/-- **What a response says**: one series for every label of the selected
epochs, in which an epoch counts as often as it has the label. -/
structure Answers (db : HistoryDb) (p : Plan) (request : HistoryRequest) (selected : List Epoch)
    (response : HistoryResponse) : Prop where
  ids : (response.series.map (·.id)).Nodup
  keys : ∀ key, key ∈ response.series.map (·.id) ↔
    ∃ epoch ∈ selected, key ∈ (labels epoch request).map Prod.fst
  length : ∀ series ∈ response.series, series.buckets.length = p.count
  bucket : ∀ series ∈ response.series, ∀ i b, series.buckets[i]? = some b →
    b.startMs = p.cell i ∧ b.endMs = p.windowEnd i ∧
      b.stats = (selected.map fun epoch => epoch.weight request series.id • epoch.found db p i).sum ∧
      b.eligibleMs =
        (selected.map fun epoch => epoch.weight request series.id * epoch.eligible p i).sum

theorem ids_finish (p : Plan) (h : ∀ key series, (key, series) ∈ output.rows → series.id = key) :
    ((finish p output).map (·.id)).Perm output.keys := by
  have hids : ∀ rows : List (String × HistorySeries), (∀ r ∈ rows, r.2.id = r.1) →
      (rows.map Prod.snd).map (·.id) = rows.map Prod.fst := by
    intro rows hrows
    rw [List.map_map]
    exact List.map_congr_left hrows
  have hrow : ∀ r ∈ ((output.mapVals fun _ series =>
      { series with buckets := series.buckets.map (finishBucket p) }).rows.insertionSort
        (·.1 ≤ ·.1)), r.2.id = r.1 := by
    intro r hr
    rw [List.mem_insertionSort] at hr
    obtain ⟨series, hs, heq⟩ := Table.mem_mapVals.mp hr
    rw [← heq]
    exact h r.1 series hs
  rw [finish, hids _ hrow]
  refine ((List.perm_insertionSort _ _).map Prod.fst).trans ?_
  exact List.Perm.of_eq (Table.keys_mapVals _ _)

theorem answers_of_query (h : query db request config now = .ok response) :
    ∃ candidates, epochs db (aligned (clamp request now) now) now = .ok candidates ∧
      Answers db (plan (clamp request now) config now candidates.length) (clamp request now)
        (selectedFor (plan (clamp request now) config now candidates.length) candidates) response := by
  obtain ⟨-, candidates, output, filled, hepochs, hopen, hfill, hresponse⟩ := query_eq_ok h
  refine ⟨candidates, hepochs, ?_⟩
  set p := plan (clamp request now) config now candidates.length with hp
  -- filling adds to the series that were opened, and opens none
  have hfilled := fillSeries_eq plan_step_pos (nodup_selectedFor p hepochs) hfill
  have hids : ∀ key series, (key, series) ∈ filled.rows → series.id = key := by
    intro key series hs
    rw [hfilled, addAt] at hs
    obtain ⟨v, hv, rfl⟩ := Table.mem_mapVals.mp hs
    exact ((opened_openSeries _ hopen).series key v hv).1
  have hkeys : filled.keys = output.keys := by
    rw [hfilled, addAt, Table.keys_mapVals]
  have hperm : (response.series.map (·.id)).Perm output.keys := by
    rw [hresponse, ← hkeys]
    exact ids_finish p hids
  obtain ⟨candidates', hepochs', -, -, -, hbuckets⟩ := series_of_query h
  obtain rfl := Except.ok.inj (hepochs'.symm.trans hepochs)
  constructor
  case ids => exact hperm.nodup_iff.mpr output.nodup
  case keys => exact fun key => hperm.mem_iff.trans (keys_openSeries hopen key)
  case length =>
    intro series hs
    rw [hbuckets series hs, List.length_map, List.length_range]
  case bucket =>
    intro series hs i b hb
    rw [hbuckets series hs, List.getElem?_map] at hb
    obtain ⟨j, hj, rfl⟩ := Option.map_eq_some_iff.mp hb
    obtain ⟨-, rfl⟩ := List.getElem?_eq_some_iff.mp hj
    rw [List.getElem_range]
    exact ⟨bucketAt_startMs p 0 0 i, bucketAt_endMs p 0 0 i, finishBucket_stats _ series.id i, rfl⟩

/-! ## The three breakdowns -/

/-- The same request with another breakdown. -/
def brokenDown (request : HistoryRequest) (breakdown : String) : HistoryRequest :=
  { request with breakdown }

theorem weight_of_labels {epoch : Epoch} {keys : List String} (hnodup : keys.Nodup)
    (h : (labels epoch request).map Prod.fst = keys) (key : String) :
    epoch.weight request key = if key ∈ keys then 1 else 0 := by
  rw [Epoch.weight, h, hnodup.count]

theorem labels_all (h : request.breakdown = "all") (epoch : Epoch) :
    (labels epoch request).map Prod.fst = ["all"] := by
  simp [labels, h]

theorem labels_host (h : request.breakdown = "host") (epoch : Epoch) :
    (labels epoch request).map Prod.fst = [epoch.host] := by
  simp [labels, h]

theorem labels_group (h : request.breakdown = "group") (epoch : Epoch) :
    (labels epoch request).map Prod.fst =
      epoch.groups.filter fun g => request.groups = [] ∨ g ∈ request.groups := by
  simp [labels, h, List.map_map, Function.comp_def]

/-- **The combined series** counts every selected epoch once. -/
structure Combined (db : HistoryDb) (p : Plan) (selected : List Epoch) (all : HistoryResponse) :
    Prop where
  series : all.series = [] ∧ selected = [] ∨ selected ≠ [] ∧ ∃ s, all.series = [s] ∧ s.id = "all"
  bucket : ∀ s ∈ all.series, ∀ i b, s.buckets[i]? = some b →
    b.stats = (selected.map (·.found db p i)).sum ∧
      b.eligibleMs = (selected.map (·.eligible p i)).sum

/-- The statistics of all series at one place of the grid, merged. -/
def mergedStats (series : List HistorySeries) (i : ℕ) : HistoryStats :=
  (series.map fun s => (s.buckets[i]?.map (·.stats)).getD {}).sum

/-- The eligible time of all series at one place of the grid. -/
def mergedEligible (series : List HistorySeries) (i : ℕ) : ℕ :=
  (series.map fun s => (s.buckets[i]?.map (·.eligibleMs)).getD 0).sum

/-- Where the buckets of a series are. -/
def HistorySeries.grid (s : HistorySeries) : List (ℤ × ℤ) := s.buckets.map fun b => (b.startMs, b.endMs)

/-- **The series of one response merge to those of another**, bucket by bucket
on the same grid. -/
structure MergesTo (parts all : HistoryResponse) : Prop where
  empty : parts.series = [] ↔ all.series = []
  grid : ∀ s ∈ all.series, ∀ part ∈ parts.series, HistorySeries.grid part = HistorySeries.grid s
  bucket : ∀ s ∈ all.series, ∀ i b, s.buckets[i]? = some b →
    b.stats = mergedStats parts.series i ∧ b.eligibleMs = mergedEligible parts.series i

/-- **The series of groups**: an epoch counts once in that of each of its
groups that is asked for, and in no other. -/
structure ByGroup (db : HistoryDb) (p : Plan) (asked : List String) (selected : List Epoch)
    (response : HistoryResponse) : Prop where
  ids : (response.series.map (·.id)).Nodup
  series : ∀ group, group ∈ response.series.map (·.id) ↔
    ∃ epoch ∈ selected, group ∈ epoch.groups ∧ (asked = [] ∨ group ∈ asked)
  bucket : ∀ s ∈ response.series, ∀ i b, s.buckets[i]? = some b →
    b.stats = ((selected.filter (s.id ∈ ·.groups)).map (·.found db p i)).sum ∧
      b.eligibleMs = ((selected.filter (s.id ∈ ·.groups)).map (·.eligible p i)).sum

theorem sum_weight {M : Type} [AddCommMonoid M] (carried : Epoch → Bool) (f : Epoch → M)
    {weight : Epoch → ℕ} (h : ∀ epoch ∈ selected, weight epoch = if carried epoch then 1 else 0) :
    (selected.map fun epoch => weight epoch • f epoch).sum =
      ((selected.filter carried).map f).sum := by
  induction selected with
  | nil => rfl
  | cons epoch es ih =>
    rw [List.map_cons, List.sum_cons, h epoch List.mem_cons_self,
      ih fun e he => h e (List.mem_cons_of_mem epoch he)]
    by_cases hc : carried epoch = true
    · rw [if_pos hc, one_nsmul, List.filter_cons_of_pos hc, List.map_cons, List.sum_cons]
    · simp [hc]

theorem Answers.combined (h : Answers db p request selected response)
    (hall : request.breakdown = "all") : Combined db p selected response := by
  have hkey : ∀ s ∈ response.series, s.id = "all" := by
    intro s hs
    obtain ⟨epoch, -, hid⟩ := (h.keys s.id).mp (List.mem_map_of_mem hs)
    rw [labels_all hall] at hid
    exact List.mem_singleton.mp hid
  constructor
  case series =>
    rcases hseries : response.series with - | ⟨s, rest⟩
    · refine Or.inl ⟨rfl, List.eq_nil_iff_forall_not_mem.mpr fun epoch hepoch => ?_⟩
      have hmem := (h.keys "all").mpr ⟨epoch, hepoch, by rw [labels_all hall]; simp⟩
      rw [hseries] at hmem
      exact List.not_mem_nil hmem
    · have hs : s ∈ response.series := hseries ▸ List.mem_cons_self
      obtain ⟨epoch, hepoch, -⟩ := (h.keys s.id).mp (List.mem_map_of_mem hs)
      refine Or.inr ⟨List.ne_nil_of_mem hepoch, s, ?_, hkey s hs⟩
      -- a second series would have the same key
      rcases rest with - | ⟨s', rest⟩
      · rfl
      · have hs' : s' ∈ response.series := hseries ▸ List.mem_cons_of_mem s List.mem_cons_self
        have hids := h.ids
        rw [hseries, List.map_cons, List.map_cons, List.nodup_cons] at hids
        exact absurd (List.mem_cons.mpr (Or.inl ((hkey s hs).trans (hkey s' hs').symm))) hids.1
  case bucket =>
    intro s hs i b hb
    obtain ⟨-, -, hstats, heligible⟩ := h.bucket s hs i b hb
    have hweight : ∀ epoch ∈ selected, epoch.weight request s.id = if true then 1 else 0 := by
      intro epoch _
      rw [weight_of_labels (List.nodup_singleton _) (labels_all hall epoch), hkey s hs]
      simp
    have hselected : selected.filter (fun _ => true) = selected := List.filter_true selected
    constructor
    · rw [hstats, sum_weight (fun _ => true) (·.found db p i) hweight, hselected]
    · rw [heligible, ← hselected, ← sum_weight (fun _ => true) (·.eligible p i) hweight, hselected]
      rfl

theorem Answers.grid (h : Answers db p request selected response) {s : HistorySeries}
    (hs : s ∈ response.series) :
    HistorySeries.grid s = (List.range p.count).map fun i => (p.cell i, p.windowEnd i) := by
  refine List.ext_getElem? fun i => ?_
  rw [HistorySeries.grid, List.getElem?_map, List.getElem?_map]
  have hlength := h.length s hs
  rcases hb : s.buckets[i]? with - | b
  · have hle := List.getElem?_eq_none_iff.mp hb
    rw [List.getElem?_eq_none_iff.mpr (by rw [List.length_range]; omega)]
    rfl
  · obtain ⟨hstart, hend, -⟩ := h.bucket s hs i b hb
    obtain ⟨hlt, -⟩ := List.getElem?_eq_some_iff.mp hb
    rw [List.getElem?_range (by omega), Option.map_some, Option.map_some, hstart, hend]

/-- **The host series merge to the combined one.** -/
theorem Answers.mergesTo {request' : HistoryRequest} {host all : HistoryResponse}
    (h : Answers db p request selected all) (hall : request.breakdown = "all")
    (h' : Answers db p request' selected host) (hhost : request'.breakdown = "host") :
    MergesTo host all := by
  -- an epoch counts for its host, once
  have hweight : ∀ (epoch : Epoch) (key : String),
      epoch.weight request' key = if epoch.host = key then 1 else 0 := by
    intro epoch key
    rw [weight_of_labels (List.nodup_singleton _) (labels_host hhost epoch)]
    simp [eq_comm]
  have hkeys : ∀ epoch ∈ selected, epoch.host ∈ host.series.map (·.id) := fun epoch hepoch =>
    (h'.keys _).mpr ⟨epoch, hepoch, by rw [labels_host hhost]; simp⟩
  have hcombined := h.combined hall
  constructor
  -- both answers are empty where no epoch is selected
  case empty =>
    rcases hcombined.series with ⟨hnone, hselected⟩ | ⟨hselected, s, hone, -⟩
    · refine iff_of_true ?_ hnone
      by_contra hne
      obtain ⟨s, hs⟩ := List.exists_mem_of_ne_nil _ hne
      obtain ⟨epoch, hepoch, -⟩ := (h'.keys s.id).mp (List.mem_map_of_mem hs)
      rw [hselected] at hepoch
      exact List.not_mem_nil hepoch
    · refine iff_of_false (fun hnone => ?_) (by simp [hone])
      obtain ⟨epoch, hepoch⟩ := List.exists_mem_of_ne_nil _ hselected
      have hmem := hkeys epoch hepoch
      rw [hnone] at hmem
      exact List.not_mem_nil hmem
  case grid => exact fun s hs part hpart => (h'.grid hpart).trans (h.grid hs).symm
  case bucket =>
    intro s hs i b hb
    obtain ⟨hstats, heligible⟩ := hcombined.bucket s hs i b hb
    obtain ⟨hlt, -⟩ := List.getElem?_eq_some_iff.mp hb
    have hi : i < p.count := (h.length s hs) ▸ hlt
    -- every part has a bucket there, with what the selected epochs of its host bring
    have hpart : ∀ part ∈ host.series, ∃ b, part.buckets[i]? = some b ∧
        b.stats = (selected.map fun epoch =>
          if epoch.host = part.id then epoch.found db p i else 0).sum ∧
        b.eligibleMs = (selected.map fun epoch =>
          if epoch.host = part.id then epoch.eligible p i else 0).sum := by
      intro part hpart
      have hget : i < part.buckets.length := by rw [h'.length part hpart]; exact hi
      obtain ⟨-, -, hstats, heligible⟩ :=
        h'.bucket part hpart i _ (List.getElem?_eq_getElem hget)
      refine ⟨_, List.getElem?_eq_getElem hget, ?_, ?_⟩
      · rw [hstats]
        refine congrArg List.sum (List.map_congr_left fun epoch _ => ?_)
        rw [hweight]
        split_ifs
        · exact one_nsmul _
        · exact zero_nsmul _
      · rw [heligible]
        refine congrArg List.sum (List.map_congr_left fun epoch _ => ?_)
        rw [hweight]
        split_ifs <;> simp
    constructor
    · rw [hstats, ← List.sum_map_key h'.ids (·.host) _ hkeys, mergedStats, List.map_map]
      refine congrArg List.sum (List.map_congr_left fun part hmem => ?_)
      obtain ⟨b, hb, hstats, -⟩ := hpart part hmem
      rw [hb, Function.comp_apply, ← hstats]
      rfl
    · rw [heligible, ← List.sum_map_key h'.ids (·.host) _ hkeys, mergedEligible, List.map_map]
      refine congrArg List.sum (List.map_congr_left fun part hmem => ?_)
      obtain ⟨b, hb, -, heligible⟩ := hpart part hmem
      rw [hb, Function.comp_apply, ← heligible]
      rfl

theorem Answers.byGroup (h : Answers db p request selected response)
    (hgroup : request.breakdown = "group") (hnodup : ∀ epoch ∈ selected, epoch.groups.Nodup) :
    ByGroup db p request.groups selected response := by
  have hkeys : ∀ group, group ∈ response.series.map (·.id) ↔ ∃ epoch ∈ selected,
      group ∈ epoch.groups ∧ (request.groups = [] ∨ group ∈ request.groups) := by
    intro group
    rw [h.keys]
    simp only [labels_group hgroup, List.mem_filter, decide_eq_true_eq]
  refine ⟨h.ids, hkeys, fun s hs i b hb => ?_⟩
  obtain ⟨-, -, hstats, heligible⟩ := h.bucket s hs i b hb
  obtain ⟨-, -, -, hasked⟩ := (hkeys s.id).mp (List.mem_map_of_mem hs)
  have hweight : ∀ epoch ∈ selected, epoch.weight request s.id =
      if decide (s.id ∈ epoch.groups) then 1 else 0 := by
    intro epoch hepoch
    rw [weight_of_labels ((hnodup epoch hepoch).filter _) (labels_group hgroup epoch)]
    simp [hasked]
  constructor
  · rw [hstats, sum_weight (fun epoch => decide (s.id ∈ epoch.groups)) (·.found db p i) hweight]
  · rw [heligible, ← sum_weight (fun epoch => decide (s.id ∈ epoch.groups)) (·.eligible p i) hweight]
    rfl

/-! ## Groups in the tables -/

/-- No epoch lists a group twice. -/
def DistinctGroups (db : HistoryDb) : Prop := ∀ id row, (id, row) ∈ db.epochs.rows → row.groups.Nodup

theorem distinctGroups_apply (hs : Sound db) (h : DistinctGroups db) (op : HistoryOp) :
    DistinctGroups (op.apply config now db) := by
  cases op with
  | syncEpochs hosts =>
    refine syncEpochs_induction (P := DistinctGroups) hs.one (fun db id row _ _ _ _ _ h => ?_)
      (fun db t _ _ _ h => ?_) h
    · intro id' row' hmem
      obtain ⟨w, hw, rfl⟩ := mem_closeEpoch.mp hmem
      split_ifs
      · exact h id' w hw
      · exact h id' w hw
    · intro id' row' hmem
      rcases mem_openEpoch.mp hmem with hmem | ⟨-, rfl⟩
      · exact h id' row' hmem
      · exact nodup_normalizedGroups _
  | record host module check at_ observation =>
    simp only [HistoryOp.apply]
    rcases record_cases db host module check at_ observation now with
      heq | ⟨id, row, -, -, heq⟩ <;> rw [heq]
    · exact h
    · intro id' row' hmem
      obtain ⟨w, hw, hinfo⟩ := info_of_mem_accept hmem
      rw [← hinfo]
      exact h id' w hw
  | rollup limit =>
    intro id row hmem
    simp only [HistoryOp.apply, (rollup_frame config now db limit).1] at hmem
    exact h id row hmem
  | prune scan usageRetention limit => exact fun id row hmem => h id row (prune_epochs _ hmem)

theorem distinctGroups_runWith (steps : List (ℤ × HistoryConfig × HistoryOp)) :
    DistinctGroups (runWith steps) := by
  have key : Sound (runWith steps) ∧ DistinctGroups (runWith steps) :=
    List.foldl_invariant (P := fun _ db => Sound db ∧ DistinctGroups db)
      (fun _ _ _ step _ h =>
        ⟨sound_apply step.2.2 h.1, distinctGroups_apply h.1 h.2 step.2.2⟩)
      ⟨sound_empty, fun _ _ h => absurd h (by simp)⟩
  exact key.2

/-! ## The partition -/

/-- **Breakdowns partition the combined series.** The three requests select the
same epochs, each of them once. The combined series counts every one of them
once; the series of the hosts merge to it; and where no epoch lists a group
twice, as in all tables that a run leaves, the series of a group counts those
of the group once. -/
theorem breakdowns_partition {all : HistoryResponse}
    (hall : query db (brokenDown request "all") config now = .ok all) :
    ∃ (p : Plan) (selected : List Epoch), (selected.map (·.id)).Nodup ∧
      (∀ epoch, epoch ∈ selected ↔ ∃ r ∈ db.epochs.rows, inScope request r.2.toEpochInfo = true ∧
        r.2.startedMs < p.toMs ∧ p.fromMs < min (r.2.endedMs.getD now) now ∧
          Epoch.ofRow now r.1 r.2 = epoch) ∧
      Combined db p selected all ∧
      (∀ host, query db (brokenDown request "host") config now = .ok host → MergesTo host all) ∧
      (DistinctGroups db → ∀ group, query db (brokenDown request "group") config now = .ok group →
        ByGroup db p request.groups selected group) ∧
      ∀ steps, DistinctGroups (runWith steps) := by
  obtain ⟨candidates, hepochs, hanswers⟩ := answers_of_query hall
  -- neither the plan nor the epochs depend on the breakdown
  have hsame : ∀ {b : String} {other : HistoryResponse},
      query db (brokenDown request b) config now = .ok other →
      Answers db (plan (clamp request now) config now candidates.length)
        (clamp (brokenDown request b) now)
        (selectedFor (plan (clamp request now) config now candidates.length) candidates) other := by
    intro b other h
    obtain ⟨candidates', hepochs', h⟩ := answers_of_query h
    obtain rfl : candidates = candidates' := Except.ok.inj (hepochs.symm.trans hepochs')
    exact h
  have hmem := @selectedFor_eq db request config now candidates candidates.length hepochs
  refine ⟨plan (clamp request now) config now candidates.length,
    selectedFor (plan (clamp request now) config now candidates.length) candidates,
    nodup_selectedFor _ hepochs, fun epoch => ?_, hanswers.combined rfl,
    fun host hhost => hanswers.mergesTo rfl (hsame hhost) rfl, fun hgroups group hgroup => ?_,
    distinctGroups_runWith⟩
  · rw [hmem]
    simp only [List.mem_map, List.mem_filter, decide_eq_true_eq, and_assoc]
  · refine (hsame hgroup).byGroup rfl fun epoch hepoch => ?_
    rw [hmem] at hepoch
    obtain ⟨r, hr, rfl⟩ := List.mem_map.mp hepoch
    exact hgroups r.1 r.2 (List.mem_filter.mp hr).1

/-- Two hosts, one of them in two groups. -/
def sampleHosts : List (ℤ × HistoryConfig × HistoryOp) :=
  [(1000, {}, .syncEpochs [{ id := "h1", address := "10.0.0.1", name := "H", groups := ["a", "b"] },
      { id := "h2", address := "10.0.0.2", name := "I", groups := ["b"] }]),
    (2000, {}, .record "h1" .icmp "" 2000 ⟨"up", true, some 4, none, none, none⟩),
    (2000, {}, .record "h2" .icmp "" 2000 ⟨"down", false, none, none, none, none⟩)]

theorem breakdowns_partition_sample : ∃ all host group,
    query (runWith sampleHosts) (brokenDown sampleRequest "all") {} 400000 = .ok all ∧
      query (runWith sampleHosts) (brokenDown sampleRequest "host") {} 400000 = .ok host ∧
      query (runWith sampleHosts) (brokenDown sampleRequest "group") {} 400000 = .ok group ∧
      MergesTo host all ∧ ∃ p selected, ByGroup (runWith sampleHosts) p [] selected group := by
  obtain ⟨all, hall⟩ := Except.exists_of_isOk
    (x := query (runWith sampleHosts) (brokenDown sampleRequest "all") {} 400000) (by decide +kernel)
  obtain ⟨host, hhost⟩ := Except.exists_of_isOk
    (x := query (runWith sampleHosts) (brokenDown sampleRequest "host") {} 400000) (by decide +kernel)
  obtain ⟨group, hgroup⟩ := Except.exists_of_isOk
    (x := query (runWith sampleHosts) (brokenDown sampleRequest "group") {} 400000)
    (by decide +kernel)
  obtain ⟨p, selected, -, -, -, hmerges, hby, hdistinct⟩ := breakdowns_partition hall
  exact ⟨all, host, group, hall, hhost, hgroup, hmerges host hhost, p, selected,
    hby (hdistinct _) group hgroup⟩

end SimpleNetworkMonitor.History
