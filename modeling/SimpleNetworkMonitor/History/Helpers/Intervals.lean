import SimpleNetworkMonitor.History.Helpers.Content
import SimpleNetworkMonitor.History.Model.Timeline
/-!
# Measuring intervals

Three counters of the statistics measure time by the kind of observation
in force. The intervals of a stint are those already over and the one of
the last observation, which the next observation or the end of the stint
closes.
-/

namespace SimpleNetworkMonitor.History

open HalfOpen

/-! ## Measures -/

/-- **A measure** of statistics: additive, and for a stretch its length where
the observation is of a kind. -/
structure Measures (φ : HistoryStats → ℕ) (p : HistoryObservation → Bool) : Prop where
  zero : φ 0 = 0
  add : ∀ a b, φ (a + b) = φ a + φ b
  duration : ∀ (o : HistoryObservation) n, φ (o.durationStats n) = if p o then n else 0
  sample : ∀ o : HistoryObservation, φ o.sampleStats = 0

theorem measures_upMs : Measures (·.upMs) (·.state = "up") where
  zero := rfl
  add _ _ := rfl
  duration o n := by simp [HistoryObservation.durationStats]
  sample := HistoryObservation.sampleStats_upMs

theorem measures_downMs : Measures (·.downMs) (·.state = "down") where
  zero := rfl
  add _ _ := rfl
  duration o n := by simp [HistoryObservation.durationStats]
  sample := HistoryObservation.sampleStats_downMs

theorem measures_usageObservedMs :
    Measures (·.usageObservedMs) HistoryObservation.countsUsers where
  zero := rfl
  add _ _ := rfl
  duration _ _ := rfl
  sample := HistoryObservation.sampleStats_usageObservedMs

section Measures

variable {φ : HistoryStats → ℕ} {p : HistoryObservation → Bool}

theorem Measures.nsmul (h : Measures φ p) (n : ℕ) (s : HistoryStats) : φ (n • s) = n * φ s := by
  induction n with
  | zero => simp [h.zero]
  | succ n ih => rw [succ_nsmul, h.add, ih, Nat.succ_mul]

theorem Measures.sum (h : Measures φ p) (l : List HistoryStats) : φ l.sum = (l.map φ).sum := by
  induction l with
  | nil => simpa using h.zero
  | cons a l ih => rw [List.sum_cons, h.add, ih, List.map_cons, List.sum_cons]

end Measures

/-! ## Intervals -/

section Intervals

variable {p : HistoryObservation → Bool} {fresh limit limit' next lo hi at_ now : ℤ}
variable {accepted : List (ℤ × HistoryObservation)} {observation : HistoryObservation}

@[simp] theorem timeOf_nil : timeOf p [] lo hi = 0 := rfl

theorem timeOf_cons (x : ℤ × ℤ × HistoryObservation) (l : List (ℤ × ℤ × HistoryObservation)) :
    timeOf p (x :: l) lo hi =
      (if p x.2.2 then overlap x.1 x.2.1 lo hi else 0) + timeOf p l lo hi := by
  simp [timeOf]

/-- A larger window shares more. -/
theorem timeOf_mono (l : List (ℤ × ℤ × HistoryObservation)) {lo' hi' : ℤ} (hlo : lo' ≤ lo)
    (hhi : hi ≤ hi') : timeOf p l lo hi ≤ timeOf p l lo' hi' := by
  induction l with
  | nil => simp
  | cons x l ih =>
    rw [timeOf_cons, timeOf_cons]
    refine Nat.add_le_add ?_ ih
    split_ifs
    · unfold overlap; omega
    · exact le_rfl

/-- Intervals outside a window share nothing with it. -/
theorem timeOf_eq_zero (l : List (ℤ × ℤ × HistoryObservation))
    (h : ∀ x ∈ l, x.2.1 ≤ lo ∨ hi ≤ x.1 ∨ hi ≤ lo) : timeOf p l lo hi = 0 := by
  induction l with
  | nil => rfl
  | cons x l ih =>
    have hx := h x List.mem_cons_self
    have hzero : overlap x.1 x.2.1 lo hi = 0 := by unfold overlap; omega
    rw [timeOf_cons, hzero, ite_self, ih fun y hy => h y (List.mem_cons_of_mem _ hy)]

/-- A window may stop at an instant the intervals do not go past. -/
theorem timeOf_min (l : List (ℤ × ℤ × HistoryObservation)) (h : ∀ x ∈ l, x.2.1 ≤ limit) :
    timeOf p l lo hi = timeOf p l lo (min hi limit) := by
  refine congrArg List.sum (List.map_congr_left fun x hx => if_congr Iff.rfl ?_ rfl)
  have := h x hx
  unfold overlap
  omega

/-- No interval goes past the limit or starts but at an observation. -/
theorem mem_inForce {x : ℤ × ℤ × HistoryObservation} :
    ∀ {next : Option ℤ} {accepted : List (ℤ × HistoryObservation)},
      x ∈ inForce fresh limit next accepted → x.2.1 ≤ limit ∧ ∃ a ∈ accepted, a.1 = x.1
  | _, [], h => absurd h List.not_mem_nil
  | _, (at_, observation) :: older, h => by
    rcases List.mem_cons.mp h with rfl | h
    · exact ⟨min_le_right _ _, _, List.mem_cons_self, rfl⟩
    · obtain ⟨hle, a, ha, heq⟩ := mem_inForce h
      exact ⟨hle, a, List.mem_cons_of_mem _ ha, heq⟩

/-- Intervals that end by the next observation do not depend on the limit. -/
theorem inForce_limit (hsorted : (accepted.map Prod.fst).Pairwise (· > ·)) :
    ∀ {next : ℤ}, next ≤ limit → next ≤ limit' → (∀ x ∈ accepted, x.1 ≤ next) →
      inForce fresh limit (some next) accepted = inForce fresh limit' (some next) accepted := by
  induction accepted with
  | nil => intros; rfl
  | cons x older ih =>
    intro next h h' hle
    obtain ⟨a, o⟩ := x
    rw [List.map_cons, List.pairwise_cons] at hsorted
    have ha : a ≤ next := hle _ List.mem_cons_self
    have hrest := ih hsorted.2 (le_trans ha h) (le_trans ha h') fun x hx =>
      le_of_lt (hsorted.1 x.1 (List.mem_map_of_mem hx))
    simp only [inForce, hrest, Option.getD_some]
    rw [min_eq_left (le_trans (min_le_left _ _) h), min_eq_left (le_trans (min_le_left _ _) h')]

/-- The intervals already over: those of a closed epoch, and all but the last
of an open one. -/
def flushed (info : EpochInfo) (accepted : List (ℤ × HistoryObservation)) :
    List (ℤ × ℤ × HistoryObservation) :=
  match info.endedMs, accepted with
  | some ended, accepted => inForce info.freshnessMs ended none accepted
  | none, [] => []
  | none, (last, _) :: older => inForce info.freshnessMs last (some last) older

/-- The time of the last observation, in force up to `end_`. -/
def tailTime (p : HistoryObservation → Bool) (fresh : ℤ)
    (accepted : List (ℤ × HistoryObservation)) (end_ lo hi : ℤ) : ℕ :=
  match accepted with
  | [] => 0
  | (last, observation) :: _ =>
    if p observation then overlap last (min end_ (last + fresh)) lo hi else 0

/-- The intervals up to `now`: those over, and the last one. -/
theorem timeOf_inForce (hsorted : (accepted.map Prod.fst).Pairwise (· > ·))
    (hle : ∀ x ∈ accepted, x.1 ≤ now) (info : EpochInfo) (hopen : info.endedMs = none) :
    timeOf p (inForce info.freshnessMs now none accepted) lo hi =
      timeOf p (flushed info accepted) lo hi + tailTime p info.freshnessMs accepted now lo hi := by
  rcases accepted with - | ⟨⟨a, o⟩, older⟩
  · simp [flushed, hopen, inForce, tailTime]
  · rw [List.map_cons, List.pairwise_cons] at hsorted
    have ha : a ≤ now := hle _ List.mem_cons_self
    have hlimit : inForce info.freshnessMs now (some a) older =
        inForce info.freshnessMs a (some a) older :=
      inForce_limit hsorted.2 ha le_rfl fun x hx =>
        le_of_lt (hsorted.1 x.1 (List.mem_map_of_mem hx))
    simp only [flushed, hopen, inForce, tailTime, hlimit, Option.getD_none]
    rw [timeOf_cons, min_eq_left (min_le_left _ _), add_comm]

/-- The next observation ends the interval of the last one. -/
theorem timeOf_flushed_take (hsorted : (accepted.map Prod.fst).Pairwise (· > ·))
    (hlt : ∀ x ∈ accepted, x.1 < at_) (info : EpochInfo) (hopen : info.endedMs = none) :
    timeOf p (flushed info ((at_, observation) :: accepted)) lo hi =
      timeOf p (flushed info accepted) lo hi + tailTime p info.freshnessMs accepted at_ lo hi := by
  rw [← timeOf_inForce hsorted (fun x hx => le_of_lt (hlt x hx)) info hopen]
  simp only [flushed, hopen]
  cases accepted <;> simp [inForce]

/-- Closing an epoch ends it too. -/
theorem timeOf_flushed_close (hsorted : (accepted.map Prod.fst).Pairwise (· > ·))
    (hle : ∀ x ∈ accepted, x.1 ≤ now) (info : EpochInfo) (hopen : info.endedMs = none)
    (hstarted : info.startedMs ≤ now) :
    timeOf p (flushed (info.close now) accepted) lo hi =
      timeOf p (flushed info accepted) lo hi + tailTime p info.freshnessMs accepted now lo hi := by
  rw [← timeOf_inForce hsorted hle info hopen]
  simp [flushed, EpochInfo.close, max_eq_right hstarted]

end Intervals

end SimpleNetworkMonitor.History
