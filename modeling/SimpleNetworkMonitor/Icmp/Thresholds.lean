import SimpleNetworkMonitor.Common.Streak
import SimpleNetworkMonitor.Icmp.Model.Monitor
/-!
# Thresholds

The state of a host after any checks, said of the checks as a whole: the
status is what the latest streak that was long enough speaks for.
-/

namespace SimpleNetworkMonitor.Icmp

variable {host : Host} {config : IcmpMonitorConfig} {checks : List Check} {check : Check}

/-! ## What checks say -/

/-- Whether a check succeeded. -/
def Check.success (check : Check) : Bool := check.outcome.isOk

/-- How many checks in a row make a status. -/
def IcmpMonitorConfig.threshold (config : IcmpMonitorConfig) (success : Bool) : ℕ :=
  if success then config.successThreshold else config.failureThreshold

/-- The status that checks of one kind speak for. -/
def statusOf (success : Bool) : HostStatus := if success then .up else .down

/-- The checks in a row that the checks end with. -/
def streakOf (checks : List Check) : ℕ := (checks.map Check.success).streak

/-- **The checks end with enough of one kind.** -/
def Reached (config : IcmpMonitorConfig) (success : Bool) (checks : List Check) : Prop :=
  checks.getLast?.map Check.success = some success ∧ config.threshold success ≤ streakOf checks

/-- The last check changed the status. -/
def Changed (host : Host) (config : IcmpMonitorConfig) (checks : List Check) : Prop :=
  checks ≠ [] ∧
    (stateAfter host config checks).status ≠ (stateAfter host config checks.dropLast).status

/-! ## One check -/

/-- The counter of the checks of one kind. -/
def counterOf (state : HostRuntimeState) (success : Bool) : ℕ :=
  if success then state.consecutiveSuccesses else state.consecutiveFailures

/-- What a check does: it changes the status to the one it speaks for, or
leaves it. -/
structure CheckedOnce (host : Host) (config : IcmpMonitorConfig) (check : Check)
    (state state' : HostRuntimeState) (transition : Option IcmpTransition) : Prop where
  counter : counterOf state' check.success = saturatingSucc (counterOf state check.success)
  other : counterOf state' (!check.success) = 0
  status : state'.status =
    if config.threshold check.success ≤ counterOf state' check.success then statusOf check.success
    else state.status
  lastChangeAt : state'.lastChangeAt =
    if state'.status = state.status then state.lastChangeAt else some check.checkedAt
  unchanged : transition = none ↔ state'.status = state.status
  changed : ∀ event, transition = some event → event.hostId = host.id ∧
    event.previousStatus = state.status ∧ event.newStatus = state'.status ∧
    event.changedAt = check.checkedAt

/-- **What one check does.** -/
theorem checkedOnce (host : Host) (config : IcmpMonitorConfig) (check : Check)
    (state : HostRuntimeState) :
    CheckedOnce host config check state (checkOnce host config check state).1
      (checkOnce host config check state).2 := by
  obtain ⟨checkedAt, outcome, backend⟩ := check
  rcases outcome with err | outcome
  · simp only [checkOnce]
    split_ifs with h
    · exact ⟨rfl, rfl, (if_pos h.2).symm, (if_neg fun heq => h.1 heq.symm).symm,
        by simpa [transitionTo] using fun heq => h.1 heq.symm, by
          rintro event ⟨⟩
          exact ⟨rfl, rfl, rfl, rfl⟩⟩
    · refine ⟨rfl, rfl, ?_, (if_pos rfl).symm, by simp, fun _ h => nomatch h⟩
      split_ifs with hle
      · by_contra hne
        exact h ⟨hne, hle⟩
      · rfl
  · simp only [checkOnce]
    split_ifs with h
    · exact ⟨rfl, rfl, (if_pos h.2).symm, (if_neg fun heq => h.1 heq.symm).symm,
        by simpa [transitionTo] using fun heq => h.1 heq.symm, by
          rintro event ⟨⟩
          exact ⟨rfl, rfl, rfl, rfl⟩⟩
    · refine ⟨rfl, rfl, ?_, (if_pos rfl).symm, by simp, fun _ h => nomatch h⟩
      split_ifs with hle
      · by_contra hne
        exact h ⟨hne, hle⟩
      · rfl

/-! ## One more check -/

theorem stateAfter_concat (host : Host) (config : IcmpMonitorConfig) (checks : List Check)
    (check : Check) :
    stateAfter host config (checks ++ [check]) =
      (checkOnce host config check (stateAfter host config checks)).1 := by
  simp only [stateAfter, List.foldl_append, List.foldl_cons, List.foldl_nil]

/-- **The counters** hold the streak of their kind, as far as they go. -/
theorem counterOf_stateAfter (host : Host) (config : IcmpMonitorConfig) (checks : List Check)
    (success : Bool) :
    counterOf (stateAfter host config checks) success =
      if checks.getLast?.map Check.success = some success then min (streakOf checks) U32_MAX
      else 0 := by
  induction checks using List.reverseRecOn generalizing success with
  | nil => cases success <;> rfl
  | append_singleton checks check ih =>
    have hc := checkedOnce host config check (stateAfter host config checks)
    rw [← stateAfter_concat] at hc
    have hstreak : streakOf (checks ++ [check]) =
        if checks.getLast?.map Check.success = some check.success then streakOf checks + 1 else 1 := by
      rw [streakOf, List.map_append, List.map_singleton, List.streak_concat, List.getLast?_map]
      rfl
    simp only [List.getLast?_concat, Option.map_some, Option.some.injEq]
    by_cases hkind : check.success = success
    · subst hkind
      rw [if_pos rfl, hc.counter, ih, hstreak, saturatingSucc]
      split_ifs
      · simp only [U32_MAX]
        omega
      · rfl
    · obtain rfl : success = !check.success := by
        cases success <;> cases hs : check.success <;> simp_all
      rw [if_neg hkind, hc.other]

/-- A threshold is reached where the counter says so. -/
theorem reached_concat : Reached config check.success (checks ++ [check]) ↔
    config.threshold check.success ≤
      counterOf (stateAfter host config (checks ++ [check])) check.success := by
  have hle : config.threshold check.success ≤ U32_MAX := by
    unfold IcmpMonitorConfig.threshold
    split_ifs
    · exact config.successThreshold_le
    · exact config.failureThreshold_le
  rw [counterOf_stateAfter, Reached, List.getLast?_concat, Option.map_some, if_pos rfl]
  simp only [true_and]
  omega

/-- Only the last check can have reached a threshold. -/
theorem success_of_reached {success : Bool} (h : Reached config success (checks ++ [check])) :
    success = check.success := by
  have hlast := h.1
  rw [List.getLast?_concat] at hlast
  exact (Option.some.inj hlast).symm

/-- The status is the one that the last check speaks for, where it has
reached its threshold, and else the one before. -/
theorem status_stateAfter_concat (host : Host) (config : IcmpMonitorConfig) (checks : List Check)
    (check : Check) :
    (Reached config check.success (checks ++ [check]) ∧
        (stateAfter host config (checks ++ [check])).status = statusOf check.success) ∨
      ((∀ success, ¬ Reached config success (checks ++ [check])) ∧
        (stateAfter host config (checks ++ [check])).status =
          (stateAfter host config checks).status) := by
  have hstatus := (checkedOnce host config check (stateAfter host config checks)).status
  rw [← stateAfter_concat] at hstatus
  by_cases h : Reached config check.success (checks ++ [check])
  · exact Or.inl ⟨h, by rw [hstatus, if_pos (reached_concat.mp h)]⟩
  · refine Or.inr ⟨fun success hs => h (success_of_reached hs ▸ hs), ?_⟩
    rw [hstatus, if_neg fun hle => h (reached_concat.mpr hle)]

/-! ## Any checks -/

/-- The checks end with enough of one kind, whichever. -/
def ReachedAny (config : IcmpMonitorConfig) (checks : List Check) : Prop :=
  ∃ success, Reached config success checks

/-- **What the state says of the checks**: the status is that of the latest
streak that reached its threshold, and unknown where none has; it last
changed with the last check that changed it; one counter holds the streak
that the checks end with, and the other is zero. -/
structure Meets (host : Host) (config : IcmpMonitorConfig) (checks : List Check)
    (state : HostRuntimeState) : Prop where
  unknown : state.status = .unknown ↔ List.NoPrefix (ReachedAny config) checks
  known : ∀ reached success, List.LatestPrefix (ReachedAny config) checks reached →
    Reached config success reached → state.status = statusOf success
  unchanged : List.NoPrefix (Changed host config) checks → state.lastChangeAt = none
  changed : ∀ changed, List.LatestPrefix (Changed host config) checks changed →
    state.lastChangeAt = changed.getLast?.map Check.checkedAt
  counter : ∀ success, counterOf state success =
    if checks.getLast?.map Check.success = some success then min (streakOf checks) U32_MAX else 0

theorem statusOf_ne_unknown (success : Bool) : statusOf success ≠ .unknown := by
  cases success <;> simp [statusOf]

theorem reached_nil {success : Bool} : ¬ Reached config success [] := fun h => by
  simpa using h.1

theorem changed_concat : Changed host config (checks ++ [check]) ↔
    (stateAfter host config (checks ++ [check])).status ≠ (stateAfter host config checks).status := by
  simp [Changed]

theorem meets_nil (host : Host) (config : IcmpMonitorConfig) :
    Meets host config [] (stateAfter host config []) where
  unknown := by
    refine iff_of_true rfl fun p hp => ?_
    rw [List.prefix_nil.mp hp]
    exact fun ⟨_, h⟩ => reached_nil h
  known reached success h hr := by
    rw [List.prefix_nil.mp h.isPrefix] at hr
    exact absurd hr reached_nil
  unchanged _ := rfl
  changed p h := by
    rw [List.prefix_nil.mp h.isPrefix]
    rfl
  counter := counterOf_stateAfter host config []

theorem meets_concat (h : Meets host config checks (stateAfter host config checks)) (check : Check) :
    Meets host config (checks ++ [check]) (stateAfter host config (checks ++ [check])) := by
  have hchange := (checkedOnce host config check (stateAfter host config checks)).lastChangeAt
  rw [← stateAfter_concat] at hchange
  refine ⟨?_, fun reached success hlatest hr => ?_, fun hnone => ?_, fun changed hlatest => ?_,
    counterOf_stateAfter host config _⟩
  · rw [List.noPrefix_concat]
    rcases status_stateAfter_concat host config checks check with ⟨hr, hs⟩ | ⟨hr, hs⟩
    · rw [hs]
      exact iff_of_false (statusOf_ne_unknown _) fun hn => hn.2 ⟨_, hr⟩
    · rw [hs, h.unknown, and_iff_left fun ⟨success, hsuccess⟩ => hr success hsuccess]
  · rcases status_stateAfter_concat host config checks check with ⟨hr', hs⟩ | ⟨hr', hs⟩
    · obtain rfl := hlatest.eq_of_self ⟨_, hr'⟩
      rw [hs, success_of_reached hr]
    · rw [hs]
      have hnot : ¬ ReachedAny config (checks ++ [check]) := fun ⟨success, hsuccess⟩ =>
        hr' success hsuccess
      exact h.known reached success ((List.latestPrefix_concat hnot).mp hlatest) hr
  · obtain ⟨hbefore, hlast⟩ := List.noPrefix_concat.mp hnone
    rw [changed_concat, not_not] at hlast
    rw [hchange, if_pos hlast, h.unchanged hbefore]
  · by_cases hlast : Changed host config (checks ++ [check])
    · obtain rfl := hlatest.eq_of_self hlast
      rw [hchange, if_neg (changed_concat.mp hlast), List.getLast?_concat]
      rfl
    · rw [hchange, if_pos (by rwa [changed_concat, not_not] at hlast)]
      exact h.changed changed ((List.latestPrefix_concat hlast).mp hlatest)

/-- **The state machine meets its specification**, for all thresholds and all
checks; and one more check returns a transition exactly where it changes the
status, from the status before to the one after. -/
theorem checks_meet_thresholds (host : Host) (config : IcmpMonitorConfig) (checks : List Check) :
    Meets host config checks (stateAfter host config checks) ∧
      ∀ check, CheckedOnce host config check (stateAfter host config checks)
        (checkOnce host config check (stateAfter host config checks)).1
        (checkOnce host config check (stateAfter host config checks)).2 := by
  refine ⟨?_, fun check => checkedOnce host config check _⟩
  induction checks using List.reverseRecOn with
  | nil => exact meets_nil host config
  | append_singleton checks check ih => exact meets_concat ih check

end SimpleNetworkMonitor.Icmp
