import SimpleNetworkMonitor.Common.Fallible
import SimpleNetworkMonitor.Domain.Host
/-!
# Filters and the inactivity decision

A host has been inactive for a duration where its current state says so,
where it had been observed and was inactive at the cutoff, and where
nothing since the cutoff breaks the claim. The last two are questions to a
store of past observations.
-/

namespace SimpleNetworkMonitor

structure UsageFilter where
  status : Option UsageCollectionStatus := none
  inactiveConsoleFor : Option ℕ := none
  noUsersFor : Option ℕ := none
  now : ℤ

def UsageFilter.isEmpty (filter : UsageFilter) : Bool :=
  filter.status.isNone && filter.inactiveConsoleFor.isNone && filter.noUsersFor.isNone

structure HostFilter where
  icmpStatus : Option HostStatus := none
  group : Option String := none
  metadata : List (String × String) := []
  usage : UsageFilter

/-! ## Inactivity -/

/-- What was observed at or before the cutoff: a failed collection, or
whether the host was active. -/
inductive StateAtCutoff where
  | unknown
  | ok (activityMatched : Bool)
  deriving DecidableEq

/-- The activity looked for: console users, or users of either kind. -/
inductive ActivityPredicate where
  | consoleOnly
  | anyUser
  deriving DecidableEq

namespace ActivityPredicate

/-- The duration a filter asks about, for a kind of activity. -/
def durationOf (predicate : ActivityPredicate) (filter : UsageFilter) : Option ℕ :=
  match predicate with
  | .consoleOnly => filter.inactiveConsoleFor
  | .anyUser => filter.noUsersFor

/-- **Nobody was there**: the collection succeeded, and found no user of the
kind looked for. -/
def Nobody (predicate : ActivityPredicate) (snapshot : UsageSnapshot) : Prop :=
  snapshot.status = .ok ∧ snapshot.consoleUsers = some 0 ∧
    (predicate = .anyUser → snapshot.remoteUsers = some 0)

instance (predicate : ActivityPredicate) (snapshot : UsageSnapshot) :
    Decidable (predicate.Nobody snapshot) := by
  unfold Nobody
  infer_instance

/-- Whether the counts of a snapshot are the activity looked for. A missing
count is none. -/
def matchesCounts (predicate : ActivityPredicate) (snapshot : UsageSnapshot) : Bool :=
  match predicate with
  | .consoleOnly => snapshot.consoleUsers.any (0 < ·)
  | .anyUser => snapshot.consoleUsers.any (0 < ·) || snapshot.remoteUsers.any (0 < ·)

/-- **Inactive now**: collected, and no user of the kind looked for. -/
def currentStateIsInactive (predicate : ActivityPredicate) (snapshot : UsageSnapshot) : Bool :=
  match snapshot.status, snapshot.consoleUsers, snapshot.remoteUsers with
  | .ok, some console, some remote =>
    match predicate with
    | .consoleOnly => console = 0
    | .anyUser => console = 0 && remote = 0
  | _, _, _ => false

end ActivityPredicate

/-- The two questions to the store of past observations. -/
structure InactivityHistory (ε : Type) where
  stateAtOrBefore : ℤ → ActivityPredicate → Except ε (Option StateAtCutoff)
  windowBreaksInactivity : ℤ → ActivityPredicate → Except ε Bool

inductive InactivityError (ε : Type) where
  | invalidDuration (message : String)
  | storage (error : ε)

/-- **Is this host inactive for at least `duration`?** -/
def evaluateInactivity {ε : Type} (snapshot : UsageSnapshot) (duration : ℕ) (now : ℤ)
    (predicate : ActivityPredicate) (history : InactivityHistory ε) :
    Except (InactivityError ε) Bool := do
  if !predicate.currentStateIsInactive snapshot then return false
  (validateDuration duration).mapError .invalidDuration
  let some delta := fromStd duration
    | throw (.invalidDuration "source duration value is out of range for the target type")
  let some cutoff := checkedSubSigned now delta
    | throw (.invalidDuration "duration exceeds supported date range")
  match ← (history.stateAtOrBefore cutoff predicate).mapError .storage with
  | none => return false
  | some .unknown => return false
  | some (.ok true) => return false
  | some (.ok false) =>
    return !(← (history.windowBreaksInactivity cutoff predicate).mapError .storage)

section Evaluate

variable {ε : Type} {snapshot : UsageSnapshot} {duration : ℕ} {now : ℤ}
  {predicate : ActivityPredicate} {history : InactivityHistory ε}

/-- **What an affirmative answer rests on.** -/
theorem evaluateInactivity_eq_ok_true :
    evaluateInactivity snapshot duration now predicate history = .ok true ↔
      predicate.currentStateIsInactive snapshot = true ∧ validateDuration duration = .ok () ∧
        HasCutoff now duration ∧
        history.stateAtOrBefore (now - duration) predicate = .ok (some (.ok false)) ∧
        history.windowBreaksInactivity (now - duration) predicate = .ok false := by
  constructor
  · intro h
    unfold evaluateInactivity at h
    by_cases hinactive : predicate.currentStateIsInactive snapshot = true
    · simp only [hinactive, Bool.not_true, Bool.false_eq_true, if_false] at h
      obtain ⟨⟨⟩, hvalid, h⟩ := Except.bind_eq_ok_iff.mp h
      rw [Except.mapError_eq_ok_iff] at hvalid
      rcases hdelta : fromStd duration with - | delta
      · simp only [hdelta] at h
        cases h
      · simp only [hdelta] at h
        rcases hcut : checkedSubSigned now delta with - | cutoff
        · simp only [hcut] at h
          cases h
        · simp only [hcut] at h
          have hcutoff := hasCutoff_of_eq_some hdelta hcut
          obtain rfl := checkedSubSigned_eq_some hcut
          obtain rfl := fromStd_eq_some hdelta
          obtain ⟨state, hstate, h⟩ := Except.bind_eq_ok_iff.mp h
          rw [Except.mapError_eq_ok_iff] at hstate
          -- only a known state that is inactive goes on to the window
          match state, h with
          | some (.ok false), h =>
            obtain ⟨breaks, hbreaks, h⟩ := Except.bind_eq_ok_iff.mp h
            rw [Except.mapError_eq_ok_iff] at hbreaks
            obtain rfl : breaks = false := by
              have := Except.ok.inj h
              simpa using this
            exact ⟨hinactive, hvalid, hcutoff, hstate, hbreaks⟩
          | none, h => exact absurd (Except.ok.inj h) (by simp)
          | some .unknown, h => exact absurd (Except.ok.inj h) (by simp)
          | some (.ok true), h => exact absurd (Except.ok.inj h) (by simp)
    · simp only [hinactive, Bool.not_false, if_true] at h
      exact absurd (Except.ok.inj h) (by simp)
  · rintro ⟨hinactive, hvalid, hcutoff, hstate, hbreaks⟩
    unfold evaluateInactivity
    simp only [hinactive, Bool.not_true, Bool.false_eq_true, if_false, hvalid,
      fromStd_of_hasCutoff hcutoff, checkedSubSigned_of_hasCutoff hcutoff, hstate, hbreaks]
    rfl

end Evaluate

end SimpleNetworkMonitor
