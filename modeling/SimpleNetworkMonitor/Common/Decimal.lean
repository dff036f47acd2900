import Mathlib.Algebra.Order.Ring.Nat
import Mathlib.Data.Char
import Mathlib.Data.List.Lex
import Mathlib.Data.String.Basic
import Mathlib.Tactic.IntervalCases
import Mathlib.Tactic.Ring
/-!
# Decimals as text

Numbers padded with zeros to a width compare, byte by byte, as the numbers
do. Fractions of several widths do so as well, where what ends them sorts
before every digit.
-/

/-! ## Bytes -/

/-- The bytes of a string in UTF-8, as numbers. -/
def utf8 (text : List Char) : List ℕ := (text.flatMap String.utf8EncodeChar).map UInt8.toNat

/-- A character of ASCII is one byte, its code. -/
theorem utf8_cons {c : Char} (hc : c.toNat < 128) (text : List Char) :
    utf8 (c :: text) = c.toNat :: utf8 text := by
  have hsize : c.utf8Size = 1 := Char.utf8Size_eq_one_iff.mpr (by
    rw [UInt32.le_iff_toNat_le]
    exact Nat.le_of_lt_succ hc)
  have hbyte : c.toUInt8.toNat = c.toNat := by
    rw [← Char.toUInt8_val, UInt32.toNat_toUInt8]
    exact Nat.mod_eq_of_lt (lt_trans hc (by decide))
  simp [utf8, String.utf8EncodeChar_eq_singleton hsize, hbyte]

theorem utf8_cons_lt {c : Char} (hc : c.toNat < 128) {s t : List Char} (h : utf8 s < utf8 t) :
    utf8 (c :: s) < utf8 (c :: t) := by
  rw [utf8_cons hc, utf8_cons hc, List.cons_lt_cons_iff]
  exact Or.inr ⟨rfl, h⟩

namespace Decimal

/-- The digit of a number below ten. -/
def digit (d : ℕ) : Char := Char.ofNat (48 + d)

theorem toNat_digit {d : ℕ} (hd : d < 10) : (digit d).toNat = 48 + d := by
  interval_cases d <;> rfl

/-- A number in `w` digits, padded with zeros. -/
def padded : ℕ → ℕ → List Char
  | 0, _ => []
  | w + 1, n => digit (n / 10 ^ w) :: padded w (n % 10 ^ w)

variable {w n n' : ℕ}

theorem head_lt (hn : n < 10 ^ (w + 1)) : n / 10 ^ w < 10 :=
  Nat.div_lt_of_lt_mul (by rwa [Nat.pow_succ] at hn)

theorem mod_lt : n % 10 ^ w < 10 ^ w := Nat.mod_lt _ (by positivity)

theorem utf8_padded_succ (hn : n < 10 ^ (w + 1)) (text : List Char) :
    utf8 (padded (w + 1) n ++ text) =
      (48 + n / 10 ^ w) :: utf8 (padded w (n % 10 ^ w) ++ text) := by
  have hdigit := toNat_digit (head_lt hn)
  rw [padded, List.cons_append, utf8_cons (by rw [hdigit]; have := head_lt hn; omega), hdigit]

/-! ## One width -/

/-- **Numbers of one width compare as numbers**, and where they are one
number, what follows them does. -/
theorem utf8_padded_lt {text text' : List Char} (hn : n ≤ n') (hn' : n' < 10 ^ w)
    (h : n = n' → utf8 text < utf8 text') :
    utf8 (padded w n ++ text) < utf8 (padded w n' ++ text') := by
  induction w generalizing n n' with
  | zero =>
    have : n = n' := by simp at hn'; omega
    exact h this
  | succ w ih =>
    rw [utf8_padded_succ (lt_of_le_of_lt hn hn'), utf8_padded_succ hn', List.cons_lt_cons_iff]
    rcases Nat.lt_or_eq_of_le (Nat.div_le_div_right (c := 10 ^ w) hn) with hlt | heq
    · exact Or.inl (by omega)
    · have hdiv := Nat.div_add_mod n (10 ^ w)
      have hdiv' := Nat.div_add_mod n' (10 ^ w)
      rw [heq] at hdiv
      refine Or.inr ⟨by omega, ih (by omega) mod_lt fun hmod => h ?_⟩
      omega

/-- A field is a number and the mark after it. -/
theorem utf8_field_lt {mark : Char} (hmark : mark.toNat < 128) {text text' : List Char}
    (hn : n ≤ n') (hn' : n' < 10 ^ w) (h : n = n' → utf8 text < utf8 text') :
    utf8 (padded w n ++ mark :: text) < utf8 (padded w n' ++ mark :: text') :=
  utf8_padded_lt hn hn' fun heq => utf8_cons_lt hmark (h heq)

/-! ## Fractions -/

variable {N v m : ℕ}

/-- A fraction is its first digit, and a fraction that is one digit shorter. -/
theorem fraction_succ (hv : v ≤ N) :
    m * 10 ^ (N - v) = m / 10 ^ v * 10 ^ N + m % 10 ^ v * 10 ^ (N - v) := by
  have hpow : 10 ^ N = 10 ^ v * 10 ^ (N - v) := by rw [← Nat.pow_add, Nat.add_sub_cancel' hv]
  have hdiv := Nat.div_add_mod m (10 ^ v)
  rw [hpow]
  calc m * 10 ^ (N - v) = (10 ^ v * (m / 10 ^ v) + m % 10 ^ v) * 10 ^ (N - v) := by rw [hdiv]
    _ = _ := by ring

/-- The shorter one is less than one unit of the digit before it. -/
theorem fraction_lt (hv : v ≤ N) : m % 10 ^ v * 10 ^ (N - v) < 10 ^ N := by
  calc m % 10 ^ v * 10 ^ (N - v) < 10 ^ v * 10 ^ (N - v) :=
        Nat.mul_lt_mul_of_pos_right mod_lt (by positivity)
    _ = 10 ^ N := by rw [← Nat.pow_add, Nat.add_sub_cancel' hv]

/-- **Fractions compare as fractions**: `n` of `w` digits and `n'` of `w'`,
each up to a mark that sorts before the digits. -/
theorem utf8_fraction_lt {mark : Char} (hmark : mark.toNat < 48) {text text' : List Char} :
    ∀ {N w w' n n' : ℕ}, w ≤ N → w' ≤ N → n < 10 ^ w → n' < 10 ^ w' →
      n * 10 ^ (N - w) < n' * 10 ^ (N - w') →
      utf8 (padded w n ++ mark :: text) < utf8 (padded w' n' ++ mark :: text') := by
  intro N
  induction N with
  | zero =>
    intro w w' n n' hw hw' hn hn' hlt
    obtain rfl : w = 0 := Nat.le_zero.mp hw
    obtain rfl : w' = 0 := Nat.le_zero.mp hw'
    simp at hn hn' hlt
    omega
  | succ N ih =>
    intro w w' n n' hw hw' hn hn' hlt
    cases w' with
    | zero =>
      simp at hn'
      simp [hn'] at hlt
    | succ w' =>
      rw [utf8_padded_succ hn']
      cases w with
      | zero =>
        -- the first fraction is over, and the mark sorts before a digit
        rw [padded, List.nil_append, utf8_cons (lt_trans hmark (by decide)),
          List.cons_lt_cons_iff]
        exact Or.inl (Nat.lt_of_lt_of_le hmark (Nat.le_add_right _ _))
      | succ w =>
        rw [utf8_padded_succ hn, List.cons_lt_cons_iff]
        have hw := Nat.le_of_succ_le_succ hw
        have hw' := Nat.le_of_succ_le_succ hw'
        rw [Nat.succ_sub_succ, Nat.succ_sub_succ, fraction_succ hw, fraction_succ hw'] at hlt
        have hsmall : n % 10 ^ w * 10 ^ (N - w) < 10 ^ N := fraction_lt hw
        have hsmall' : n' % 10 ^ w' * 10 ^ (N - w') < 10 ^ N := fraction_lt hw'
        rcases Nat.lt_trichotomy (n / 10 ^ w) (n' / 10 ^ w') with hhead | hhead | hhead
        · exact Or.inl (by omega)
        · refine Or.inr ⟨by omega, ih hw hw' mod_lt mod_lt ?_⟩
          rw [hhead] at hlt
          exact Nat.lt_of_add_lt_add_left hlt
        · have hmul := Nat.mul_le_mul_right (10 ^ N) (Nat.succ_le_of_lt hhead)
          rw [Nat.succ_mul] at hmul
          omega

end Decimal
