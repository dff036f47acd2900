import Mathlib.Tactic.Common
/-!
# Calling until there is no more

A batch is called again as long as it says that there is more. Where each
such call takes something away from a measure, the calls come to an end,
whatever else a call depends on.
-/

namespace Draining

variable {σ : Type*}

/-- The state after the first `n` calls; the call `i` may be any. -/
def calls (call : ℕ → σ → σ × Bool) : ℕ → σ → σ
  | 0, s => s
  | n + 1, s => (call n (calls call n s)).1

variable {call : ℕ → σ → σ × Bool}

/-- **What every call keeps** holds after any number of them. -/
theorem calls_invariant {P : σ → Prop} (step : ∀ n s, P s → P (call n s).1) {s : σ} (h : P s) :
    ∀ n, P (calls call n s)
  | 0 => h
  | n + 1 => step n _ (calls_invariant step h n)

/-- **The calls come to an end**, within as many as the measure says. -/
theorem exists_done (measure : σ → ℕ)
    (step : ∀ n s, (call n s).2 = true → measure (call n s).1 < measure s) (s : σ) :
    ∃ n ≤ measure s, (call n (calls call n s)).2 = false := by
  by_contra hnone
  push Not at hnone
  have hmore : ∀ n ≤ measure s, (call n (calls call n s)).2 = true := fun n hn => by
    simpa using hnone n hn
  have key : ∀ n ≤ measure s + 1, measure (calls call n s) + n ≤ measure s := by
    intro n
    induction n with
    | zero => exact fun _ => Nat.le_refl _
    | succ n ih =>
      intro hn
      have hlt := step n _ (hmore n (by omega))
      have hle := ih (by omega)
      rw [calls]
      omega
  have := key (measure s + 1) (Nat.le_refl _)
  omega

end Draining
