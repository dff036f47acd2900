import Mathlib.Data.Int.Basic
import Mathlib.Tactic.Common
/-!
# Durations and instants

A duration is a number of nanoseconds and an instant the signed number of
nanoseconds since the Unix epoch, the resolution the daemon's clock has.
History works in whole milliseconds, rounded down; a name that ends in
`Ms` holds milliseconds.
-/

namespace SimpleNetworkMonitor

/-- `Duration::from_millis`. -/
def fromMillis (n : ℕ) : ℕ := n * 1000000

/-- `Duration::from_secs`. -/
def fromSecs (n : ℕ) : ℕ := n * 1000000000

/-- `Duration::as_millis`: whole milliseconds. -/
def asMillis (duration : ℕ) : ℕ := duration / 1000000

theorem asMillis_mono {d e : ℕ} (h : d ≤ e) : asMillis d ≤ asMillis e :=
  Nat.div_le_div_right h

/-- The whole milliseconds of an instant, rounded down. -/
def timestampMillis (t : ℤ) : ℤ := t / 1000000

/-- `now.saturating_sub(duration)`, in milliseconds. The clock and a
retention are both far from the range of the integer, so the difference
never saturates. -/
def cutoff (now : ℤ) (duration : ℕ) : ℤ := now - asMillis duration

theorem cutoff_mono {now now' : ℤ} (h : now ≤ now') (duration : ℕ) :
    cutoff now duration ≤ cutoff now' duration := by
  unfold cutoff; omega

theorem cutoff_anti {d e : ℕ} (h : d ≤ e) (now : ℤ) : cutoff now e ≤ cutoff now d := by
  have := asMillis_mono h
  unfold cutoff; omega

/-- Ten years, of 366 days. -/
def maxDuration : ℕ := fromSecs (10 * 366 * 24 * 60 * 60)

def validateDuration (value : ℕ) : Except String Unit :=
  if value < fromMillis 1 ∨ value > maxDuration then
    .error "duration must be between 1ms and 10 years (3660 days)"
  else .ok ()

theorem validateDuration_eq_ok {value : ℕ} :
    validateDuration value = .ok () ↔ fromMillis 1 ≤ value ∧ value ≤ maxDuration := by
  unfold validateDuration
  split_ifs with h
  · simp only [false_iff]; omega
  · simp only [true_iff]; omega

/-- **Freshness.** An observation is current for two intervals plus its
collection deadline. -/
def isFresh (observed : Option ℤ) (interval timeout : ℕ) (now : ℤ) : Bool :=
  match observed with
  | none => false
  | some observed => observed ≤ now ∧ now - observed ≤ (interval * 2 + timeout : ℕ)

@[simp] theorem isFresh_some {observed now : ℤ} {interval timeout : ℕ} :
    isFresh (some observed) interval timeout now = true ↔
      observed ≤ now ∧ now - observed ≤ (interval * 2 + timeout : ℕ) := by
  simp [isFresh]

/-! ## Dates -/

/-- `chrono::Duration::from_std`: a signed duration has at most `i64::MAX`
milliseconds. -/
def fromStd (duration : ℕ) : Option ℤ :=
  if duration ≤ fromMillis 9223372036854775807 then some duration else none

/-- The first and the last instant of the calendar. -/
def minUtc : ℤ := -8334601228800 * 1000000000
def maxUtc : ℤ := 8210266876799 * 1000000000 + 999999999

/-- `DateTime::checked_sub_signed`. -/
def checkedSubSigned (now delta : ℤ) : Option ℤ :=
  if minUtc ≤ now - delta ∧ now - delta ≤ maxUtc then some (now - delta) else none

theorem checkedSubSigned_eq_some {now delta t : ℤ} (h : checkedSubSigned now delta = some t) :
    t = now - delta := by
  unfold checkedSubSigned at h
  split_ifs at h
  exact (Option.some.inj h).symm

theorem fromStd_eq_some {duration : ℕ} {delta : ℤ} (h : fromStd duration = some delta) :
    delta = duration := by
  unfold fromStd at h
  split_ifs at h
  exact (Option.some.inj h).symm

/-- **The calendar has the instant** that is a duration before `now`. -/
def HasCutoff (now : ℤ) (duration : ℕ) : Prop :=
  duration ≤ fromMillis 9223372036854775807 ∧ minUtc ≤ now - duration ∧ now - duration ≤ maxUtc

/-- A shorter duration leads back to no earlier an instant. -/
theorem HasCutoff.mono {now : ℤ} {long short : ℕ} (h : HasCutoff now long) (hle : short ≤ long)
    (hnow : now ≤ maxUtc) : HasCutoff now short := by
  obtain ⟨hfits, hfirst, -⟩ := h
  exact ⟨by omega, by omega, by omega⟩

theorem fromStd_of_hasCutoff {now : ℤ} {duration : ℕ} (h : HasCutoff now duration) :
    fromStd duration = some (duration : ℤ) := if_pos h.1

theorem checkedSubSigned_of_hasCutoff {now : ℤ} {duration : ℕ} (h : HasCutoff now duration) :
    checkedSubSigned now duration = some (now - duration) := if_pos h.2

theorem hasCutoff_of_eq_some {now delta t : ℤ} {duration : ℕ} (hdelta : fromStd duration = some delta)
    (h : checkedSubSigned now delta = some t) : HasCutoff now duration := by
  obtain rfl := fromStd_eq_some hdelta
  unfold fromStd at hdelta
  unfold checkedSubSigned at h
  split_ifs at hdelta h with hfits hrange
  exact ⟨hfits, hrange⟩

end SimpleNetworkMonitor
