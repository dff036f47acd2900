import Mathlib.Algebra.Order.Ring.Int
import Mathlib.Tactic.Common
/-!
# The Gregorian calendar

Days are numbered from 1 January of the year 0, and a day has one date. The
calendar is the proleptic one: its leap years go back and on for ever.
-/

namespace Calendar

/-! ## Years -/

def isLeap (y : ℤ) : Bool := y % 4 = 0 && (y % 100 ≠ 0 || y % 400 = 0)

def daysInYear (y : ℤ) : ℤ := if isLeap y then 366 else 365

/-- The number of the first day of a year. -/
def firstDay (y : ℤ) : ℤ := 365 * y + (y + 3) / 4 - (y + 99) / 100 + (y + 399) / 400

/-- **A year follows another** by its leap rule. -/
theorem firstDay_succ (y : ℤ) : firstDay (y + 1) = firstDay y + daysInYear y := by
  simp only [firstDay, daysInYear, isLeap, Bool.and_eq_true, Bool.or_eq_true, decide_eq_true_eq]
  split_ifs <;> omega

theorem firstDay_mono {y z : ℤ} (h : y ≤ z) : firstDay y ≤ firstDay z := by
  unfold firstDay
  omega

/-- The year of a day: the mean length of a year leads to it, or next to it. -/
def yearOf (n : ℤ) : ℤ :=
  let y := 400 * n / 146097
  if n < firstDay y then y - 1 else if firstDay (y + 1) ≤ n then y + 1 else y

theorem yearOf_spec (n : ℤ) : firstDay (yearOf n) ≤ n ∧ n < firstDay (yearOf n + 1) := by
  simp only [yearOf]
  split_ifs with hbefore hafter
  · rw [sub_add_cancel]
    refine ⟨?_, hbefore⟩
    unfold firstDay
    omega
  · refine ⟨hafter, ?_⟩
    unfold firstDay
    omega
  · exact ⟨not_lt.mp hbefore, not_le.mp hafter⟩

theorem yearOf_mono {n m : ℤ} (h : n ≤ m) : yearOf n ≤ yearOf m := by
  by_contra hlt
  have hfirst := firstDay_mono (Int.add_one_le_of_lt (not_le.mp hlt))
  have := (yearOf_spec n).1
  have := (yearOf_spec m).2
  omega

/-! ## Months -/

/-- How many days of a year come before a month, the first month being 1. -/
def daysBeforeMonth (leap : Bool) (m : ℕ) : ℕ :=
  [0, 0, 31, 59, 90, 120, 151, 181, 212, 243, 273, 304, 334, 365].getD m 0 +
    if leap && 2 < m then 1 else 0

def daysInMonth (leap : Bool) (m : ℕ) : ℕ :=
  if m = 2 then (if leap then 29 else 28)
  else if m = 4 ∨ m = 6 ∨ m = 9 ∨ m = 11 then 30
  else 31

/-- The month of a day of the year, days being counted from 0. -/
def monthOf (leap : Bool) (d : ℕ) : ℕ :=
  (List.range 12).countP fun m => daysBeforeMonth leap (m + 1) ≤ d

/-- **A month follows another** by its length. -/
theorem daysBeforeMonth_succ (leap : Bool) {m : ℕ} (hm : 0 < m) (hm' : m ≤ 12) :
    daysBeforeMonth leap (m + 1) = daysBeforeMonth leap m + daysInMonth leap m := by
  have key : ∀ leap, ∀ m < 13, 0 < m →
      daysBeforeMonth leap (m + 1) = daysBeforeMonth leap m + daysInMonth leap m := by decide
  exact key leap m (Nat.lt_succ_of_le hm') hm

theorem monthOf_mono (leap : Bool) {d e : ℕ} (h : d ≤ e) : monthOf leap d ≤ monthOf leap e :=
  List.countP_mono_left fun _ _ hm => decide_eq_true (le_trans (of_decide_eq_true hm) h)

/-- The first and the last day of a month are of that month. -/
theorem monthOf_edges (leap : Bool) {m : ℕ} (hm : 0 < m) (hm' : m ≤ 12) :
    monthOf leap (daysBeforeMonth leap m) = m ∧
      monthOf leap (daysBeforeMonth leap (m + 1) - 1) = m := by
  have key : ∀ leap, ∀ m < 13, 0 < m → monthOf leap (daysBeforeMonth leap m) = m ∧
      monthOf leap (daysBeforeMonth leap (m + 1) - 1) = m := by decide
  exact key leap m (Nat.lt_succ_of_le hm') hm

theorem monthOf_spec (leap : Bool) {d : ℕ} (hd : d < 365 + leap.toNat) :
    0 < monthOf leap d ∧ monthOf leap d ≤ 12 ∧ daysBeforeMonth leap (monthOf leap d) ≤ d ∧
      d < daysBeforeMonth leap (monthOf leap d + 1) := by
  have hpos : 0 < monthOf leap d :=
    Nat.lt_of_lt_of_le (by cases leap <;> decide) (monthOf_mono leap d.zero_le)
  have hle : monthOf leap d ≤ 12 := List.countP_le_length
  refine ⟨hpos, hle, ?_, ?_⟩
  · -- a day before the month is no later than the last day of the month before
    by_contra hbefore
    obtain ⟨m, hm⟩ := Nat.exists_eq_succ_of_ne_zero hpos.ne'
    rw [hm] at hbefore hle
    have hlast := monthOf_mono leap (Nat.le_sub_one_of_lt (not_le.mp hbefore))
    rcases Nat.eq_zero_or_pos m with rfl | hm0
    · exact hbefore (by cases leap <;> exact Nat.zero_le d)
    · rw [(monthOf_edges leap hm0 (by omega)).2, hm] at hlast
      exact absurd hlast (Nat.not_succ_le_self m)
  · -- and one after it no earlier than the first day of the month after
    by_contra hafter
    have hnext := monthOf_mono leap (not_lt.mp hafter)
    rcases Nat.eq_or_lt_of_le hle with heq | hlt
    · rw [heq] at hafter
      exact hafter (by cases leap <;> exact hd)
    · rw [(monthOf_edges leap (Nat.succ_pos _) hlt).1] at hnext
      exact absurd hnext (Nat.not_succ_le_self _)

/-! ## Dates -/

structure Date where
  year : ℤ
  month : ℕ
  day : ℕ
  deriving DecidableEq

/-- A date that the calendar has. -/
def Date.Valid (date : Date) : Prop :=
  0 < date.month ∧ date.month ≤ 12 ∧ 0 < date.day ∧
    date.day ≤ daysInMonth (isLeap date.year) date.month

/-- The number of the day of a date. -/
def Date.dayNumber (date : Date) : ℤ :=
  firstDay date.year + daysBeforeMonth (isLeap date.year) date.month + (date.day - 1 : ℕ)

/-- The day of its year, counted from 0. -/
def dayOfYear (n : ℤ) : ℕ := (n - firstDay (yearOf n)).toNat

/-- **The date of a day.** -/
def dateOf (n : ℤ) : Date :=
  let leap := isLeap (yearOf n)
  let month := monthOf leap (dayOfYear n)
  ⟨yearOf n, month, dayOfYear n - daysBeforeMonth leap month + 1⟩

theorem dayOfYear_eq (n : ℤ) : (dayOfYear n : ℤ) = n - firstDay (yearOf n) :=
  Int.toNat_of_nonneg (by have := (yearOf_spec n).1; omega)

theorem dayOfYear_lt (n : ℤ) : dayOfYear n < 365 + (isLeap (yearOf n)).toNat := by
  have hlt := (yearOf_spec n).2
  have heq := dayOfYear_eq n
  rw [firstDay_succ, daysInYear] at hlt
  cases hleap : isLeap (yearOf n) <;> simp [hleap] at hlt ⊢ <;> omega

theorem dateOf_valid (n : ℤ) : (dateOf n).Valid := by
  obtain ⟨hpos, hle, hbegun, hover⟩ := monthOf_spec (isLeap (yearOf n)) (dayOfYear_lt n)
  rw [daysBeforeMonth_succ _ hpos hle] at hover
  exact ⟨hpos, hle, Nat.succ_pos _, by simp only [dateOf]; omega⟩

/-- **The date of a day is a date of that day.** -/
theorem dayNumber_dateOf (n : ℤ) : (dateOf n).dayNumber = n := by
  obtain ⟨-, -, hbegun, -⟩ := monthOf_spec (isLeap (yearOf n)) (dayOfYear_lt n)
  have := dayOfYear_eq n
  simp only [Date.dayNumber, dateOf]
  omega

/-! Later days have later dates: the first field of two dates that differs is
in the order of the days. -/

theorem month_mono {n m : ℤ} (h : n ≤ m) (hyear : (dateOf n).year = (dateOf m).year) :
    (dateOf n).month ≤ (dateOf m).month := by
  have hyear' : yearOf n = yearOf m := hyear
  have := dayOfYear_eq n
  have := dayOfYear_eq m
  simp only [dateOf, hyear']
  exact monthOf_mono _ (by rw [hyear'] at *; omega)

theorem day_mono {n m : ℤ} (h : n ≤ m) (hyear : (dateOf n).year = (dateOf m).year)
    (hmonth : (dateOf n).month = (dateOf m).month) : (dateOf n).day ≤ (dateOf m).day := by
  have hn := dayNumber_dateOf n
  have hm := dayNumber_dateOf m
  have hpos : 0 < (dateOf m).day := (dateOf_valid m).2.2.1
  simp only [Date.dayNumber, hyear, hmonth] at hn hm
  omega

theorem eq_of_dateOf_eq {n m : ℤ} (h : dateOf n = dateOf m) : n = m := by
  rw [← dayNumber_dateOf n, h, dayNumber_dateOf]

example : dateOf 719528 = ⟨1970, 1, 1⟩ := by decide
example : dateOf 739310 = ⟨2024, 2, 29⟩ := by decide

end Calendar
