import Mathlib.Algebra.Order.Ring.Nat
import Mathlib.Data.Char
import Mathlib.Tactic.IntervalCases
/-!
# Hexadecimal text

Numbers in a fixed count of hexadecimal digits. Two numbers that fit into it
have one text only where they are one.
-/

namespace Hexadecimal

/-- A number in `w` digits, padded with zeros. -/
def padded : ℕ → ℕ → List Char
  | 0, _ => []
  | w + 1, n => Nat.digitChar (n / 16 ^ w) :: padded w (n % 16 ^ w)

variable {w n n' : ℕ}

theorem digitChar_injective {a b : ℕ} (ha : a < 16) (hb : b < 16)
    (h : Nat.digitChar a = Nat.digitChar b) : a = b := by
  interval_cases a <;> interval_cases b <;> first | rfl | exact absurd h (by decide)

theorem head_lt (hn : n < 16 ^ (w + 1)) : n / 16 ^ w < 16 :=
  Nat.div_lt_of_lt_mul (by rwa [Nat.pow_succ] at hn)

/-- **One text is of one number.** -/
theorem padded_injective (hn : n < 16 ^ w) (hn' : n' < 16 ^ w) (h : padded w n = padded w n') :
    n = n' := by
  induction w generalizing n n' with
  | zero =>
    rw [Nat.pow_zero, Nat.lt_one_iff] at hn hn'
    rw [hn, hn']
  | succ w ih =>
    obtain ⟨hhead, htail⟩ := List.cons.inj h
    have hdiv := digitChar_injective (head_lt hn) (head_lt hn') hhead
    have hpow : 0 < 16 ^ w := Nat.pow_pos (by decide)
    have hmod := ih (Nat.mod_lt _ hpow) (Nat.mod_lt _ hpow) htail
    rw [← Nat.div_add_mod n (16 ^ w), hdiv, hmod, Nat.div_add_mod]

/-- Each character is a digit. -/
theorem mem_padded {c : Char} (hn : n < 16 ^ w) (hc : c ∈ padded w n) :
    ∃ d < 16, c = Nat.digitChar d := by
  induction w generalizing n with
  | zero => exact absurd hc List.not_mem_nil
  | succ w ih =>
    rcases List.mem_cons.mp hc with rfl | hc
    · exact ⟨_, head_lt hn, rfl⟩
    · exact ih (Nat.mod_lt _ (Nat.pow_pos (by decide))) hc

end Hexadecimal
