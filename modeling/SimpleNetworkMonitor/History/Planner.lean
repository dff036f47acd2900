import SimpleNetworkMonitor.History.Helpers.Answer
import SimpleNetworkMonitor.Storage.Helpers.Steps
/-!
# The chart planner

The grid a query plans: its buckets tile the range it returns, every instant
of the range lies in one of them, and what it reads to fill them is bounded.
-/

namespace SimpleNetworkMonitor.History

variable {request : HistoryRequest} {config : HistoryConfig} {now : ℤ} {n : ℕ}

/-! ## The grid -/

/-- **A grid for a request**: it covers the range that is asked for, up to the
clock, in at most as many buckets as there may be points, each of a whole
number of source buckets; the buckets follow one another from the start of
the range to its end, and an instant lies in the one that its index says. -/
structure Grid (request : HistoryRequest) (now : ℤ) (p : Plan) : Prop where
  covers : p.fromMs ≤ request.fromMs ∧ min request.toMs now ≤ p.toMs
  nonempty : p.fromMs < p.toMs
  points : p.count ≤ request.maxPoints
  multiple : ∃ k, 0 < k ∧ p.step = k * p.source.seconds
  starts : 0 < p.count ∧ p.cell 0 = p.fromMs
  follows : ∀ i, i + 1 < p.count → p.windowEnd i = p.cell (i + 1)
  ends : p.windowEnd (p.count - 1) = p.toMs
  bucket : ∀ i < p.count, p.cell i < p.windowEnd i
  index : ∀ t, p.fromMs ≤ t → t < p.toMs → index p t < p.count ∧
    ∀ i < p.count, p.cell i ≤ t ∧ t < p.windowEnd i ↔ i = index p t

section Plan

/-- A quotient rounded up. -/
theorem le_ceil_mul {a b : ℤ} (hb : 0 < b) : a ≤ (a + b - 1) / b * b := by
  have h := Int.emod_lt_of_pos (a + b - 1) hb
  have hdiv := Int.emod_add_mul_ediv (a + b - 1) b
  rw [Int.mul_comm] at hdiv
  omega

theorem ceil_mul_lt {a b : ℤ} (hb : 0 < b) : ((a + b - 1) / b - 1) * b < a := by
  have h := Int.emod_nonneg (a + b - 1) (ne_of_gt hb)
  have hdiv := Int.emod_add_mul_ediv (a + b - 1) b
  rw [Int.mul_comm] at hdiv
  rw [Int.sub_mul]
  omega

theorem plan_fromMs_le : (plan request config now n).fromMs ≤ request.fromMs := floor_le

theorem plan_toMs_eq :
    (plan request config now n).toMs = min (lastEdge request (plan request config now n).source) now :=
  rfl

theorem le_lastEdge (source : Tier) : request.toMs ≤ lastEdge request source := by
  have : request.toMs - 1 < floor (request.toMs - 1) source.seconds + source.width := lt_floor_add
  unfold lastEdge
  omega

theorem min_le_plan_toMs : min request.toMs now ≤ (plan request config now n).toMs := by
  have : request.toMs ≤ lastEdge request (plan request config now n).source := le_lastEdge _
  rw [plan_toMs_eq]
  omega

/-- **The step** is a whole number of source buckets, and leaves as few buckets
as there may be points. -/
theorem plan_step (hpoints : 0 < request.maxPoints) :
    ∃ k, 0 < k ∧ (plan request config now n).step = k * (plan request config now n).source.seconds ∧
      (plan request config now n).toMs - (plan request config now n).fromMs ≤
        request.maxPoints * ((plan request config now n).step * 1000) := by
  set p := plan request config now n with hp
  have hwidth : 0 < p.source.seconds * 1000 := p.source.width_pos
  have hperPoint : 0 < (request.maxPoints : ℤ) * p.source.seconds * 1000 := by
    rw [mul_assoc]
    exact Int.mul_pos (by omega) hwidth
  refine ⟨max ((p.toMs - p.fromMs + request.maxPoints * p.source.seconds * 1000 - 1)
    / (request.maxPoints * p.source.seconds * 1000)) 1, by omega, rfl, ?_⟩
  calc p.toMs - p.fromMs
      ≤ (p.toMs - p.fromMs + request.maxPoints * p.source.seconds * 1000 - 1)
          / (request.maxPoints * p.source.seconds * 1000)
          * (request.maxPoints * p.source.seconds * 1000) := le_ceil_mul hperPoint
    _ ≤ max ((p.toMs - p.fromMs + request.maxPoints * p.source.seconds * 1000 - 1)
          / (request.maxPoints * p.source.seconds * 1000)) 1
          * (request.maxPoints * p.source.seconds * 1000) :=
        Int.mul_le_mul_of_nonneg_right (le_max_left _ _) hperPoint.le
    _ = request.maxPoints * (p.step * 1000) := by
        rw [show p.step = max ((p.toMs - p.fromMs + request.maxPoints * p.source.seconds * 1000 - 1)
          / (request.maxPoints * p.source.seconds * 1000)) 1 * p.source.seconds from rfl]
        ring

variable {p : Plan}

/-- **The last bucket** starts in the range, and none starts after it. -/
theorem cell_count (hp : p = plan request config now n) (hne : p.fromMs < p.toMs) :
    0 < p.count ∧ p.cell (p.count - 1) < p.toMs ∧ p.toMs ≤ p.cell p.count := by
  have hstep : 0 < p.step * 1000 := by
    have : 0 < p.step := hp ▸ plan_step_pos
    omega
  have hle := le_ceil_mul (a := p.toMs - p.fromMs) hstep
  have hlt := ceil_mul_lt (a := p.toMs - p.fromMs) hstep
  have hcount : p.count = ((p.toMs - p.fromMs + p.step * 1000 - 1) / (p.step * 1000)).toNat := by
    rw [hp]
    rfl
  generalize (p.toMs - p.fromMs + p.step * 1000 - 1) / (p.step * 1000) = q at hle hlt hcount
  have hq : 0 < q := by
    by_contra h
    have : q * (p.step * 1000) ≤ 0 := Int.mul_nonpos_of_nonpos_of_nonneg (by omega) hstep.le
    omega
  have hcast : ((p.count : ℕ) : ℤ) = q := by omega
  have hpred : ((p.count - 1 : ℕ) : ℤ) = q - 1 := by omega
  refine ⟨by omega, ?_, ?_⟩
  · rw [Plan.cell, hpred]
    omega
  · rw [Plan.cell, hcast]
    omega

/-- **Every plan is a grid** for its request. -/
theorem grid_plan (hpoints : 0 < request.maxPoints) (hrange : request.fromMs < request.toMs)
    (hnow : request.fromMs < now) : Grid request now (plan request config now n) := by
  have hfrom : (plan request config now n).fromMs ≤ request.fromMs := plan_fromMs_le
  have hto : min request.toMs now ≤ (plan request config now n).toMs := min_le_plan_toMs
  have hpos : 0 < (plan request config now n).step := plan_step_pos
  obtain ⟨k, hk, hstep, hbudget⟩ : ∃ k, 0 < k ∧
      (plan request config now n).step = k * (plan request config now n).source.seconds ∧
      (plan request config now n).toMs - (plan request config now n).fromMs ≤
        request.maxPoints * ((plan request config now n).step * 1000) := plan_step hpoints
  have hne : (plan request config now n).fromMs < (plan request config now n).toMs := by omega
  obtain ⟨hcount, hlast, hend⟩ := cell_count rfl hne
  generalize plan request config now n = p at *
  have hmono : ∀ {i j : ℕ}, i ≤ j → p.cell i ≤ p.cell j := Plan.cell_mono hpos
  -- every bucket starts before the range ends, so none is empty
  have hbucket : ∀ i < p.count, p.cell i < p.windowEnd i := by
    intro i hi
    have hsucc := @Plan.cell_succ p i
    have := hmono (show i ≤ p.count - 1 by omega)
    rw [Plan.windowEnd]
    omega
  refine ⟨⟨hfrom, hto⟩, hne, ?_, ⟨k, hk, hstep⟩, ⟨hcount, by simp [Plan.cell]⟩, fun i hi => ?_, ?_,
    hbucket, fun t hlo hhi => ⟨?_, fun i hi => ⟨?_, ?_⟩⟩⟩
  · -- one bucket more would start past the range
    by_contra hgt
    have hcell := hmono (show request.maxPoints ≤ p.count - 1 by omega)
    rw [Plan.cell] at hcell
    omega
  · have := hmono (show i + 1 ≤ p.count - 1 by omega)
    rw [Plan.windowEnd]
    omega
  · rw [Plan.windowEnd, Nat.sub_add_cancel hcount]
    omega
  · have hself := (Plan.index_eq_iff hpos hlo _).mp rfl
    by_contra hge
    have := hmono (not_lt.mp hge)
    omega
  · rintro ⟨hle, hlt⟩
    refine (Plan.index_eq_iff hpos hlo i).mpr ⟨hle, lt_of_lt_of_le hlt (min_le_left _ _)⟩
  · intro h
    obtain ⟨hle, hlt⟩ := (Plan.index_eq_iff hpos hlo i).mp h
    exact ⟨hle, lt_min hlt hhi⟩

end Plan

/-! ## Spans on the grid -/

/-- A piece of a span: the bucket it counts in, and where it starts and ends. -/
structure Cut where
  index : ℕ
  start : ℤ
  end_ : ℤ

def Cut.Covers (cut : Cut) (t : ℤ) : Prop := cut.start ≤ t ∧ t < cut.end_

/-- The pieces that the loop over a span makes. -/
def cutsFrom (plan : Plan) (end_ : ℤ) : ℕ → ℤ → List Cut
  | 0, _ => []
  | fuel + 1, cursor =>
    if cursor < end_ then
      let i := index plan cursor
      let until_ := min end_ (plan.fromMs + (i + 1) * (plan.step * 1000))
      ⟨i, cursor, until_⟩ :: cutsFrom plan end_ fuel until_
    else []

def cuts (plan : Plan) (start end_ : ℤ) : List Cut :=
  cutsFrom plan end_ (end_ - max start plan.fromMs).toNat (max start plan.fromMs)

section Cuts

variable {p : Plan} {start end_ cursor : ℤ}

theorem applyFrom_eq_foldl (keys : List String) (observation : HistoryObservation) (fuel : ℕ)
    (cursor : ℤ) (output : SeriesMap) :
    applyFrom p keys end_ observation fuel cursor output =
      (cutsFrom p end_ fuel cursor).foldl (fun output cut =>
        mergeKeys output keys cut.index
          (observation.durationStats (cut.end_ - cut.start).toNat)) output := by
  induction fuel generalizing cursor output with
  | zero => rfl
  | succ fuel ih =>
    rw [applyFrom, cutsFrom]
    split_ifs
    · simp only [List.foldl_cons]
      exact ih _ _
    · rfl

/-- **A span is merged piece by piece.** -/
theorem applySpan_eq_foldl (keys : List String) (output : SeriesMap)
    (observation : HistoryObservation) :
    applySpan p keys output start end_ observation =
      (cuts p start end_).foldl (fun output cut =>
        mergeKeys output keys cut.index
          (observation.durationStats (cut.end_ - cut.start).toNat)) output :=
  applyFrom_eq_foldl keys observation _ _ _

/-- Each step goes on to the end of the bucket it is in, or of the span. -/
theorem cutsFrom_spec (hstep : 0 < p.step) (fuel : ℕ) (hfrom : p.fromMs ≤ cursor)
    (hfuel : (end_ - cursor).toNat ≤ fuel) :
    (∀ cut ∈ cutsFrom p end_ fuel cursor, cursor ≤ cut.start ∧ cut.start < cut.end_ ∧
      cut.end_ ≤ end_ ∧ p.cell cut.index ≤ cut.start ∧ cut.end_ ≤ p.cell (cut.index + 1)) ∧
    ∀ t, cursor ≤ t → t < end_ → ∃! cut, cut ∈ cutsFrom p end_ fuel cursor ∧ cut.Covers t := by
  induction fuel generalizing cursor with
  | zero => exact ⟨fun _ h => absurd h List.not_mem_nil, fun t _ _ => by omega⟩
  | succ fuel ih =>
    rw [cutsFrom]
    split_ifs with hlt
    · have hcell := (Plan.index_eq_iff hstep hfrom _).mp rfl
      have hnext : p.fromMs + ((index p cursor : ℕ) + 1) * (p.step * 1000) =
          p.cell (index p cursor + 1) := by simp [Plan.cell]
      simp only [hnext]
      generalize hu : min end_ (p.cell (index p cursor + 1)) = until_
      obtain ⟨hpieces, hcovered⟩ := @ih until_ (by omega) (by omega)
      refine ⟨fun cut hcut => ?_, fun t hlo hhi => ?_⟩
      · rcases List.mem_cons.mp hcut with rfl | hcut
        · exact ⟨le_rfl, by simp only; omega, by simp only; omega, hcell.1, by simp only; omega⟩
        · have := hpieces cut hcut
          exact ⟨by omega, this.2⟩
      · -- the first piece, or one of those that follow, which start where it ends
        by_cases hfirst : t < until_
        · refine ⟨⟨_, cursor, until_⟩, ⟨List.mem_cons_self, hlo, hfirst⟩, ?_⟩
          rintro cut ⟨hcut, hcovers⟩
          rcases List.mem_cons.mp hcut with rfl | hcut
          · rfl
          · have := (hpieces cut hcut).1
            exact absurd hcovers.1 (by omega)
        · obtain ⟨cut, ⟨hcut, hcovers⟩, hunique⟩ := hcovered t (by omega) hhi
          refine ⟨cut, ⟨List.mem_cons_of_mem _ hcut, hcovers⟩, ?_⟩
          rintro other ⟨hother, hcovers'⟩
          rcases List.mem_cons.mp hother with rfl | hother
          · exact absurd hcovers'.2 hfirst
          · exact hunique other ⟨hother, hcovers'⟩
    · exact ⟨fun _ h => absurd h List.not_mem_nil, fun t _ _ => by omega⟩

/-- **A span is cut at the edges of the buckets**: each piece is not empty and
lies in the bucket it counts in, which is there; and each instant of the span
past the start of the range is in one piece. -/
theorem cuts_spec (hgrid : Grid request now p) (hstep : 0 < p.step) (start : ℤ)
    (hend : end_ ≤ p.toMs) :
    (∀ cut ∈ cuts p start end_, cut.start < cut.end_ ∧ cut.index < p.count ∧
      p.cell cut.index ≤ cut.start ∧ cut.end_ ≤ p.windowEnd cut.index) ∧
    ∀ t, p.fromMs ≤ t → start ≤ t → t < end_ → ∃! cut, cut ∈ cuts p start end_ ∧ cut.Covers t := by
  obtain ⟨hpieces, hcovered⟩ := cutsFrom_spec hstep (end_ - max start p.fromMs).toNat
    (le_max_right start p.fromMs) le_rfl
  refine ⟨fun cut hcut => ?_, fun t hfrom hstart hlt => hcovered t (max_le hstart hfrom) hlt⟩
  obtain ⟨hcursor, hne, hle, hcell, hnext⟩ := hpieces cut hcut
  have hfrom : p.fromMs ≤ cut.start := le_trans (le_max_right _ _) hcursor
  obtain ⟨hindex, -⟩ := hgrid.index cut.start hfrom (by omega)
  have heq : cut.index = index p cut.start :=
    (Plan.index_eq_iff hstep hfrom _).mpr ⟨hcell, by omega⟩
  exact ⟨hne, heq ▸ hindex, hcell, le_min hnext (by omega)⟩

end Cuts

/-! ## How much is read -/

section Work

variable {p : Plan} {db : HistoryDb} {selected candidates : List Epoch}

/-- A resolution finer than a day is chosen where it has few enough buckets. -/
theorem tooMany_coarsen {source : Tier} (h : coarsen request n source ≠ .daily) :
    tooMany request n (coarsen request n source) = false := by
  unfold coarsen at h ⊢
  by_cases hsource : tooMany request n source = true
  · simp only [hsource, if_true] at h ⊢
    cases source with
    | fiveMinute =>
      by_cases hhourly : tooMany request n .hourly = true
      · simp [hhourly] at h
      · simp [hhourly]
    | hourly => exact absurd rfl h
    | daily => exact absurd rfl h
  · simp [hsource]

/-- How many buckets of the source the range has. -/
def sourceBuckets (request : HistoryRequest) (p : Plan) : ℕ :=
  ((lastEdge request p.source - p.fromMs) / p.source.width).toNat

/-- The range has at most two buckets more than the width of the request. -/
theorem sourceBuckets_le (hp : p = plan request config now n) (hrange : request.fromMs < request.toMs) :
    (sourceBuckets request p : ℤ) ≤
      (request.toMs - request.fromMs) / (p.source.seconds * 1000) + 2 := by
  have hwidth : 0 < p.source.width := p.source.width_pos
  have hfrom : p.fromMs = floor request.fromMs p.source.seconds := hp ▸ rfl
  have hlow : request.fromMs < floor request.fromMs p.source.seconds + p.source.width :=
    lt_floor_add
  have hedge : floor (request.toMs - 1) p.source.seconds ≤ request.toMs - 1 := floor_le
  have hle : lastEdge request p.source - p.fromMs ≤
      (request.toMs - request.fromMs) + 2 * p.source.width := by
    unfold lastEdge
    omega
  have hdiv := Int.ediv_le_ediv hwidth hle
  rw [Int.add_mul_ediv_right _ _ (ne_of_gt hwidth)] at hdiv
  have hnonneg : 0 ≤ (request.toMs - request.fromMs) / p.source.width :=
    Int.ediv_nonneg (by omega) hwidth.le
  show _ ≤ (request.toMs - request.fromMs) / p.source.width + 2
  unfold sourceBuckets
  omega

theorem key_ext {key key' : BucketKey} (hepoch : key.epochId = key'.epochId)
    (hres : key.resolution = key'.resolution) (hstart : key.startMs = key'.startMs) : key = key' := by
  cases key
  cases key'
  simp_all

/-- The start of a bucket, counted in buckets of the source. -/
def slotOf (p : Plan) (key : BucketKey) : ℕ × ℕ :=
  (key.epochId, ((key.startMs - p.fromMs) / p.source.width).toNat)

/-- **The rows a query reads** are at most one for each selected epoch and
bucket of the range. -/
theorem length_bucketRows_le (hp : p = plan request config now n) (haligned : Aligned db) :
    (bucketRows p db selected).length ≤ selected.length * sourceBuckets request p := by
  have hwidth : 0 < p.source.width := p.source.width_pos
  have hfrom : p.source.width ∣ p.fromMs := hp ▸ width_dvd_fromMs
  have hto : p.toMs ≤ lastEdge request p.source := hp ▸ min_le_left _ _
  have hrow : ∀ r ∈ bucketRows p db selected, r ∈ db.buckets.rows ∧
      r.1.epochId ∈ selected.map (·.id) ∧ r.1.resolution = p.source ∧ p.fromMs ≤ r.1.startMs ∧
      r.1.startMs < p.toMs := by
    intro r hr
    obtain ⟨hmem, hcond⟩ := List.mem_filter.mp hr
    simp only [decide_eq_true_eq] at hcond
    exact ⟨hmem, hcond.1, hcond.2.1, le_trans (le_max_left _ _) hcond.2.2.1, hcond.2.2.2⟩
  -- a row starts a whole number of buckets after the range does
  have hslot : ∀ r ∈ bucketRows p db selected, ∃ a : ℕ, r.1.startMs = p.fromMs + a * p.source.width ∧
      slotOf p r.1 = (r.1.epochId, a) := by
    intro r hr
    obtain ⟨hmem, -, hres, hlo, -⟩ := hrow r hr
    have hdvd : p.source.width ∣ r.1.startMs - p.fromMs :=
      Int.dvd_sub (hres ▸ haligned r.1 r.2 hmem) hfrom
    have hcancel := Int.ediv_mul_cancel hdvd
    have hnonneg : 0 ≤ (r.1.startMs - p.fromMs) / p.source.width :=
      Int.ediv_nonneg (by omega) hwidth.le
    refine ⟨((r.1.startMs - p.fromMs) / p.source.width).toNat, ?_, rfl⟩
    rw [Int.toNat_of_nonneg hnonneg]
    omega
  -- so epoch and slot tell the rows of one resolution apart
  have hnodup : ((bucketRows p db selected).map fun r => slotOf p r.1).Nodup := by
    have hkeys : ((bucketRows p db selected).map Prod.fst).Nodup :=
      (List.Sublist.map _ List.filter_sublist).nodup db.buckets.nodup
    have hmap : (bucketRows p db selected).map (fun r => slotOf p r.1) =
        ((bucketRows p db selected).map Prod.fst).map (slotOf p) := by
      rw [List.map_map]
      rfl
    rw [hmap]
    refine hkeys.map_on fun key hkey key' hkey' heq => ?_
    obtain ⟨r, hr, rfl⟩ := List.mem_map.mp hkey
    obtain ⟨r', hr', rfl⟩ := List.mem_map.mp hkey'
    obtain ⟨a, hstart, hs⟩ := hslot r hr
    obtain ⟨a', hstart', hs'⟩ := hslot r' hr'
    rw [hs, hs', Prod.mk.injEq] at heq
    obtain ⟨hepoch, rfl⟩ := heq
    have hres : r.1.resolution = r'.1.resolution := by
      rw [(hrow r hr).2.2.1, (hrow r' hr').2.2.1]
    exact key_ext hepoch hres (hstart.trans hstart'.symm)
  -- and the slots are those of the range
  have hsubset : (bucketRows p db selected).map (fun r => slotOf p r.1) ⊆
      (selected.map (·.id)) ×ˢ List.range (sourceBuckets request p) := by
    intro slot hslot'
    obtain ⟨r, hr, rfl⟩ := List.mem_map.mp hslot'
    obtain ⟨a, hstart, hs⟩ := hslot r hr
    obtain ⟨-, hepoch, -, -, hhi⟩ := hrow r hr
    have hbuckets : (a : ℤ) + 1 ≤ (lastEdge request p.source - p.fromMs) / p.source.width := by
      have hdvd : p.source.width ∣ lastEdge request p.source - p.fromMs :=
        Int.dvd_sub (width_dvd_lastEdge _) hfrom
      refine Int.add_one_le_of_lt (Int.lt_of_mul_lt_mul_right (a := p.source.width) ?_ hwidth.le)
      rw [Int.ediv_mul_cancel hdvd]
      omega
    rw [hs]
    refine List.mem_product.mpr ⟨hepoch, List.mem_range.mpr ?_⟩
    unfold sourceBuckets
    omega
  have hlen := (hnodup.subperm hsubset).length_le
  rwa [List.length_map, List.length_product, List.length_map, List.length_range] at hlen

/-- **Below a resolution of a day the rows are few**: as many as the estimate
allows, and one more for each epoch. -/
theorem length_bucketRows_le_budget (hp : p = plan request config now n)
    (hrange : request.fromMs < request.toMs) (haligned : Aligned db) (hn : n ≤ 10000)
    (hselected : selected.length ≤ n) (hsource : p.source ≠ .daily) :
    (bucketRows p db selected).length ≤ 160000 := by
  have hlen : (bucketRows p db selected).length ≤ _ := length_bucketRows_le hp haligned
  have hbuckets := sourceBuckets_le hp hrange
  have htooMany : tooMany request n p.source = false := by
    have hchosen : p.source = coarsen request n (wanted request config now) := hp ▸ rfl
    rw [hchosen] at hsource ⊢
    exact tooMany_coarsen hsource
  rw [tooMany, decide_eq_false_iff_not, not_lt] at htooMany
  have hle : ((selected.length * sourceBuckets request p : ℕ) : ℤ) ≤ 160000 := by
    calc ((selected.length * sourceBuckets request p : ℕ) : ℤ)
        = selected.length * sourceBuckets request p := by push_cast; rfl
      _ ≤ n * sourceBuckets request p :=
          Int.mul_le_mul_of_nonneg_right (by omega) (by omega)
      _ ≤ n * ((request.toMs - request.fromMs) / (p.source.seconds * 1000) + 2) :=
          Int.mul_le_mul_of_nonneg_left hbuckets (by omega)
      _ = n * ((request.toMs - request.fromMs) / (p.source.seconds * 1000) + 1) + n := by ring
      _ ≤ 160000 := by omega
  omega

end Work

/-! ## The result -/

theorem length_selectedFor_le (p : Plan) (candidates : List Epoch) :
    (selectedFor p candidates).length ≤ candidates.length := List.length_filter_le _ _

/-- A query has at most ten thousand candidates. -/
theorem length_candidates_le {db : HistoryDb} {range : HistoryRequest} {candidates : List Epoch}
    (h : epochs db range now = .ok candidates) : candidates.length ≤ 10000 := by
  have heq := epochs_eq_ok h
  simp only [epochs] at h
  split_ifs at h with hlen
  rw [heq, List.length_map]
  omega

/-- **The planner is sound and within budget**, in every state that a run of
the service reaches. For a valid request whose candidates can be listed: the
plan is a grid for the request up to the clock; a materialized bucket that is
read has its instant in one bucket of the grid, and a span is merged in pieces
that are cut at their edges; each series that is returned has exactly the
buckets of the grid; and below a resolution of a day there are too few
materialized buckets for the query to be refused for them. -/
theorem planner_sound (ops : List Storage.ServiceOp) (request : HistoryRequest)
    (config : HistoryConfig) (now : ℤ) (candidates : List Epoch)
    (hrequest : request.validate now = .ok ())
    (hcandidates : epochs (Storage.Service.run ops).conn.history (aligned (clamp request now) now) now =
      .ok candidates) :
    let db := (Storage.Service.run ops).conn.history
    let p := plan (clamp request now) config now candidates.length
    let selected := selectedFor p candidates
    Grid request now p ∧
      (∀ r ∈ bucketRows p db selected, index p r.1.startMs < p.count ∧
        p.cell (index p r.1.startMs) ≤ r.1.startMs ∧
        min (r.1.startMs + p.source.width) p.toMs ≤ p.windowEnd (index p r.1.startMs)) ∧
      (∀ start end_, end_ ≤ p.toMs →
        (∀ keys output observation, applySpan p keys output start end_ observation =
          (cuts p start end_).foldl (fun output cut => mergeKeys output keys cut.index
            (observation.durationStats (cut.end_ - cut.start).toNat)) output) ∧
        (∀ cut ∈ cuts p start end_, cut.start < cut.end_ ∧ cut.index < p.count ∧
          p.cell cut.index ≤ cut.start ∧ cut.end_ ≤ p.windowEnd cut.index) ∧
        ∀ t, p.fromMs ≤ t → start ≤ t → t < end_ →
          ∃! cut, cut ∈ cuts p start end_ ∧ cut.Covers t) ∧
      (∀ response, query db request config now = .ok response →
        response.fromMs = p.fromMs ∧ response.toMs = p.toMs ∧ response.resolutionSeconds = p.step ∧
        response.sourceResolutionSeconds = p.source.seconds ∧
        ∀ series ∈ response.series, series.buckets.map (fun b => (b.startMs, b.endMs)) =
          (List.range p.count).map fun i => (p.cell i, p.windowEnd i)) ∧
      (p.source ≠ .daily → (bucketRows p db selected).length ≤ 160000 ∧
        ∀ output, addBuckets p (clamp request now) db selected output ≠ .error .busy) := by
  intro db p selected
  have hvalid := HistoryRequest.valid_of_validate hrequest
  have haligned : Aligned db := (Storage.Service.sound ops).aligned
  have hpoints := hvalid.maxPoints_ge
  have hstart := hvalid.fromMs_lt
  have hrange : (clamp request now).fromMs < (clamp request now).toMs :=
    lt_min hvalid.fromMs_lt_toMs hstart
  have hpos : 0 < p.step := plan_step_pos
  have hgrid : Grid (clamp request now) now p := grid_plan (by simp only [clamp]; omega) hrange hstart
  refine ⟨?_, fun r hr => ?_,
    fun start end_ hend => ⟨applySpan_eq_foldl, cuts_spec hgrid hpos start hend⟩,
    fun response hresponse => ?_, fun hsource => ?_⟩
  · have hcovers : min (min request.toMs now) now ≤ p.toMs := hgrid.covers.2
    exact { hgrid with covers := ⟨hgrid.covers.1, by omega⟩ }
  · obtain ⟨hmem, hcond⟩ := List.mem_filter.mp hr
    simp only [decide_eq_true_eq] at hcond
    obtain ⟨-, hres, hlo, hhi⟩ := hcond
    have hfrom : p.fromMs ≤ r.1.startMs := le_trans (le_max_left _ _) hlo
    obtain ⟨hcell, hnext⟩ := (Plan.index_eq_iff hpos hfrom _).mp rfl
    refine ⟨(hgrid.index _ hfrom hhi).1, hcell, ?_⟩
    -- a bucket of the source does not reach past the edge of one of the grid
    have hedge : r.1.startMs + p.source.width ≤ p.cell (index p r.1.startMs + 1) := by
      have hdvd : p.source.width ∣ p.cell (index p r.1.startMs + 1) - r.1.startMs :=
        Int.dvd_sub (width_dvd_cell _) (hres ▸ haligned r.1 r.2 hmem)
      have := Int.le_of_dvd (by omega) hdvd
      omega
    exact min_le_min_right _ hedge
  · -- an answer is on the grid of the plan, whatever was merged into it
    obtain ⟨candidates', hcandidates', hfrom, hto, hsource, hseries⟩ := series_of_query hresponse
    obtain rfl := Except.ok.inj (hcandidates'.symm.trans hcandidates)
    have hstep : response.resolutionSeconds = p.step := by
      obtain ⟨-, candidates'', -, -, hcandidates'', -, -, rfl⟩ := query_eq_ok hresponse
      obtain rfl := Except.ok.inj (hcandidates''.symm.trans hcandidates)
      rfl
    refine ⟨hfrom, hto, hstep, hsource, fun series hs => ?_⟩
    rw [hseries series hs, List.map_map]
    refine List.map_congr_left fun i _ => ?_
    simp only [Function.comp_apply, finishBucket, bucketAt_startMs, bucketAt_endMs]
    rfl
  · -- the plan has chosen the source so that its rows fit the budget
    have hlen : (bucketRows p db selected).length ≤ 160000 :=
      length_bucketRows_le_budget rfl hrange haligned (length_candidates_le hcandidates)
        (length_selectedFor_le p candidates) hsource
    refine ⟨hlen, fun output h => ?_⟩
    simp only [addBuckets] at h
    rw [if_neg (by omega)] at h
    cases h

/-! ## A sample -/

def sampleChartedHost : Host where
  id := "r1"
  address := "192.0.2.1"
  name := "r1"
  groups := []
  modules := { icmp := { enabled := true } }

/-- A host is up, two seconds after the service has started. -/
def sampleCharted : List Storage.ServiceOp :=
  [.start {} none 0 [sampleChartedHost],
    .call (.updateCheckResult (some 0) {} 2000000000 "r1"
      { status := .up, lastCheckedAt := some 2000000000, consecutiveSuccesses := 1 } none)]

/-- The ten minutes after it, in ten points. -/
def sampleTenMinutes : HistoryRequest where
  fromMs := 0
  toMs := 600000
  module := "icmp"
  check := none
  hosts := []
  groups := []
  breakdown := "all"
  maxPoints := 10

theorem sampleCharted_planned :
    ∃ candidates, epochs (Storage.Service.run sampleCharted).conn.history
        (aligned (clamp sampleTenMinutes 600000) 600000) 600000 = .ok candidates ∧
      Grid sampleTenMinutes 600000 (plan (clamp sampleTenMinutes 600000) {} 600000 candidates.length) ∧
      ∃ response, query (Storage.Service.run sampleCharted).conn.history sampleTenMinutes {} 600000 =
          .ok response ∧
        response.toMs = (plan (clamp sampleTenMinutes 600000) {} 600000 candidates.length).toMs := by
  obtain ⟨candidates, hcandidates⟩ := Except.exists_of_isOk
    (x := epochs (Storage.Service.run sampleCharted).conn.history
      (aligned (clamp sampleTenMinutes 600000) 600000) 600000) (by decide +kernel)
  obtain ⟨response, hresponse⟩ := Except.exists_of_isOk
    (x := query (Storage.Service.run sampleCharted).conn.history sampleTenMinutes {} 600000)
    (by decide +kernel)
  obtain ⟨hgrid, -, -, hseries, -⟩ := planner_sound sampleCharted sampleTenMinutes {} 600000 candidates
    (by decide +kernel) hcandidates
  exact ⟨candidates, hcandidates, hgrid, response, hresponse, (hseries response hresponse).2.1⟩

end SimpleNetworkMonitor.History
