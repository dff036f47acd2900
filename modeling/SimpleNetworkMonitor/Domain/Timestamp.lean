import SimpleNetworkMonitor.Common.Calendar
import SimpleNetworkMonitor.Common.Decimal
import SimpleNetworkMonitor.Domain.Duration
/-!
# Timestamps as text

A stored instant is the text `to_rfc3339` makes of it: fields of fixed width,
a fraction of no more digits than it takes, and the offset of UTC. Within the
years 0 to 9999 the bytes of two texts compare as the instants do.
-/

namespace SimpleNetworkMonitor

open Calendar Decimal

/-- The day of the Unix epoch. -/
def EPOCH_DAY : ℤ := 719528

/-- The date of an instant. -/
def dateAt (t : ℤ) : Date := dateOf (t / fromSecs 86400 + EPOCH_DAY)

/-- The nanoseconds of an instant since its day began. -/
def nanosOfDay (t : ℤ) : ℕ := (t % fromSecs 86400).toNat

/-- A year: four digits, outside of 0 to 9999 as `{:+05}` prints it. -/
def yearText (y : ℤ) : List Char :=
  if 0 ≤ y ∧ y ≤ 9999 then padded 4 y.toNat
  else
    let digits := Nat.toDigits 10 y.natAbs
    (if y < 0 then '-' else '+') :: (List.replicate (4 - digits.length) '0' ++ digits)

/-- The fraction of a second: none, or 3, 6 or 9 digits, the fewest that are
exact. -/
def fractionText (nanos : ℕ) : List Char :=
  if nanos = 0 then []
  else if nanos % 1000000 = 0 then '.' :: padded 3 (nanos / 1000000)
  else if nanos % 1000 = 0 then '.' :: padded 6 (nanos / 1000)
  else '.' :: padded 9 nanos

/-- **`DateTime::to_rfc3339`**, in UTC: `2024-02-29T12:34:56.120+00:00`. -/
def toRfc3339 (t : ℤ) : String :=
  let date := dateAt t
  let nanos := nanosOfDay t
  String.ofList
    (yearText date.year ++ '-' :: (padded 2 date.month ++ '-' :: (padded 2 date.day ++
      'T' :: (padded 2 (nanos / fromSecs 3600) ++ ':' :: (padded 2 (nanos / fromSecs 60 % 60) ++
        ':' :: (padded 2 (nanos / fromSecs 1 % 60) ++
          (fractionText (nanos % fromSecs 1) ++ '+' :: "00:00".toList)))))))

/-- The bytes of the text, which is how SQLite compares it. -/
def textOf (t : ℤ) : List ℕ := utf8 (toRfc3339 t).toList

/-- An instant in the years 0 to 9999. -/
def InYears (t : ℤ) : Prop := 0 ≤ (dateAt t).year ∧ (dateAt t).year ≤ 9999

instance (t : ℤ) : Decidable (InYears t) := by unfold InYears; infer_instance

/-! ## Their order -/

variable {a b : ℤ}

theorem fractionText_eq {nanos : ℕ} (hpos : 0 < nanos) (hlt : nanos < 10 ^ 9) :
    ∃ w n, w ≤ 9 ∧ n < 10 ^ w ∧ n * 10 ^ (9 - w) = nanos ∧
      fractionText nanos = '.' :: padded w n := by
  unfold fractionText
  split_ifs with hzero hmillis hmicros
  · omega
  · exact ⟨3, nanos / 1000000, by omega, by omega, by omega, rfl⟩
  · exact ⟨6, nanos / 1000, by omega, by omega, by omega, rfl⟩
  · exact ⟨9, nanos, by omega, by omega, by omega, rfl⟩

/-- **Fractions of every width compare as the fractions do**: the sign of the
offset sorts before the dot, and before the digits. -/
theorem utf8_fractionText_lt {n m : ℕ} (hlt : n < m) (hm : m < 10 ^ 9) (text : List Char) :
    utf8 (fractionText n ++ '+' :: text) < utf8 (fractionText m ++ '+' :: text) := by
  obtain ⟨w', k', hw', hk', hm', htext'⟩ := fractionText_eq (by omega) hm
  rw [htext', List.cons_append]
  rcases Nat.eq_zero_or_pos n with rfl | hn
  · rw [fractionText, if_pos rfl, List.nil_append, utf8_cons (by decide), utf8_cons (by decide),
      List.cons_lt_cons_iff]
    exact Or.inl (by decide)
  · obtain ⟨w, k, hw, hk, hn', htext⟩ := fractionText_eq hn (by omega)
    rw [htext, List.cons_append]
    exact utf8_cons_lt (by decide) (utf8_fraction_lt (by decide) hw hw' hk hk' (by omega))

theorem nanosOfDay_eq (t : ℤ) : (nanosOfDay t : ℤ) = t % fromSecs 86400 :=
  Int.toNat_of_nonneg (Int.emod_nonneg _ (by decide))

theorem nanosOfDay_lt (t : ℤ) : nanosOfDay t < fromSecs 86400 := by
  have := nanosOfDay_eq t
  have := Int.emod_lt_of_pos t (show (0 : ℤ) < fromSecs 86400 by decide)
  omega

/-- Of two instants of one day, the earlier one has the lesser time of day. -/
theorem nanosOfDay_lt_of_lt (hlt : a < b) (hdate : dateAt a = dateAt b) :
    nanosOfDay a < nanosOfDay b := by
  have hday := eq_of_dateOf_eq hdate
  have := nanosOfDay_eq a
  have := nanosOfDay_eq b
  unfold fromSecs at *
  omega

theorem yearText_of_inYears (ha : InYears a) :
    yearText (dateAt a).year = padded 4 (dateAt a).year.toNat := if_pos ha

theorem daysInMonth_le (leap : Bool) (m : ℕ) : daysInMonth leap m ≤ 31 := by
  unfold daysInMonth
  split_ifs <;> omega

/-- **An earlier instant has the lesser text.** The first field that differs
decides, and the fields after it do not matter. -/
theorem textOf_lt (ha : InYears a) (hb : InYears b) (hlt : a < b) : textOf a < textOf b := by
  have hday : a / fromSecs 86400 + EPOCH_DAY ≤ b / fromSecs 86400 + EPOCH_DAY :=
    Int.add_le_add_right (Int.ediv_le_ediv (by decide) hlt.le) _
  obtain ⟨-, hmonth12, -, hdayOfMonth⟩ := dateOf_valid (b / fromSecs 86400 + EPOCH_DAY)
  have hday31 := hdayOfMonth.trans (daysInMonth_le _ _)
  have htime := nanosOfDay_lt b
  simp only [textOf, toRfc3339, String.toList_ofList, yearText_of_inYears ha,
    yearText_of_inYears hb]
  refine utf8_field_lt (by decide) (Int.toNat_le_toNat (yearOf_mono hday))
    (by have := hb.2; omega) fun htoNat => ?_
  have hyear : (dateAt a).year = (dateAt b).year := by
    have := ha.1
    have := hb.1
    omega
  refine utf8_field_lt (by decide) (month_mono hday hyear) (lt_of_le_of_lt hmonth12 (by decide))
    fun hmonth => ?_
  refine utf8_field_lt (by decide) (day_mono hday hyear hmonth) (lt_of_le_of_lt hday31 (by decide))
    fun hdayOf => ?_
  have hnanos : nanosOfDay a < nanosOfDay b := by
    refine nanosOfDay_lt_of_lt hlt ?_
    cases hda : dateAt a
    cases hdb : dateAt b
    simp only [hda, hdb] at hyear hmonth hdayOf
    rw [hyear, hmonth, hdayOf]
  unfold fromSecs at *
  refine utf8_field_lt (by decide) (by omega) (by omega) fun hhour => ?_
  refine utf8_field_lt (by decide) (by omega) (by omega) fun hminute => ?_
  refine utf8_padded_lt (by omega) (by omega) fun hsecond => ?_
  exact utf8_fractionText_lt (by omega) (by omega) _

theorem textOf_lt_iff (ha : InYears a) (hb : InYears b) : textOf a < textOf b ↔ a < b := by
  refine ⟨fun h => ?_, textOf_lt ha hb⟩
  by_contra hle
  rcases eq_or_lt_of_le (not_lt.mp hle) with rfl | hlt
  · exact lt_irrefl _ h
  · exact lt_asymm h (textOf_lt hb ha hlt)

theorem textOf_inj (ha : InYears a) (hb : InYears b) : textOf a = textOf b ↔ a = b := by
  refine ⟨fun h => ?_, congrArg textOf⟩
  rcases lt_trichotomy a b with hlt | heq | hgt
  · exact absurd h (textOf_lt ha hb hlt).ne
  · exact heq
  · exact absurd h (textOf_lt hb ha hgt).ne'

theorem textOf_le_iff (ha : InYears a) (hb : InYears b) : textOf a ≤ textOf b ↔ a ≤ b := by
  rw [← not_lt, textOf_lt_iff hb ha, not_lt]

-- the order is all that is known of a text from here on
attribute [irreducible] textOf

end SimpleNetworkMonitor
