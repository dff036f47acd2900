import Mathlib.Data.Int.Basic
import Mathlib.Tactic.Common
/-!
# Runs against a clock

A run is a list of steps, each with the clock it read. Where the clock
never goes back, an invariant that may grow with the clock is proved one
step at a time.
-/

namespace Clocked

variable {σ τ α : Type*}

/-- The state after the steps of a run. -/
def run (apply : ℤ → α → σ → σ) (steps : List (ℤ × α)) (s : σ) : σ :=
  steps.foldl (fun s step => apply step.1 step.2 s) s

/-- **The clock never goes back**, and reads `now` after the last step. -/
def Steady : List (ℤ × α) → ℤ → Prop
  | [], _ => True
  | step :: steps, now => step.1 ≤ now ∧ (∀ later ∈ steps, step.1 ≤ later.1) ∧ Steady steps now

instance decidableSteady : (steps : List (ℤ × α)) → (now : ℤ) → Decidable (Steady steps now)
  | [], _ => isTrue trivial
  | step :: steps, now =>
    have := decidableSteady steps now
    inferInstanceAs (Decidable (step.1 ≤ now ∧ (∀ later ∈ steps, step.1 ≤ later.1) ∧ _))

/-- **The run rule**, for two machines side by side. What holds at the start
whatever the clock, and is kept as the clock goes on and by every step,
holds after the run. -/
theorem run_simulation {f : ℤ → α → σ → σ} {g : ℤ → α → τ → τ} {P : ℤ → σ → τ → Prop}
    (mono : ∀ {c c' s t}, c ≤ c' → P c s t → P c' s t)
    (step : ∀ {now a s t}, P now s t → P now (f now a s) (g now a t))
    {steps : List (ℤ × α)} {now : ℤ} {s : σ} {t : τ} (h : Steady steps now) (h0 : ∀ c, P c s t) :
    P now (run f steps s) (run g steps t) := by
  have key : ∀ (steps : List (ℤ × α)) (c : ℤ) (s : σ) (t : τ), Steady steps now → c ≤ now →
      (∀ later ∈ steps, c ≤ later.1) → P c s t →
      P now (run f steps s) (run g steps t) := by
    intro steps
    induction steps with
    | nil => exact fun c s t _ hc _ hs => mono hc hs
    | cons a steps ih =>
      intro c s t hsteady _ hlater hs
      obtain ⟨hnow, hnext, hrest⟩ := hsteady
      exact ih a.1 _ _ hrest hnow hnext (step (mono (hlater a List.mem_cons_self) hs))
  cases steps with
  | nil => exact h0 now
  | cons a steps => exact key _ a.1 s t h h.1 (by simpa using h.2.1) (h0 a.1)

/-- The rule for one machine. -/
theorem run_induction {f : ℤ → α → σ → σ} {P : ℤ → σ → Prop}
    (mono : ∀ {c c' s}, c ≤ c' → P c s → P c' s)
    (step : ∀ {now a s}, P now s → P now (f now a s))
    {steps : List (ℤ × α)} {now : ℤ} {s : σ} (h : Steady steps now) (h0 : ∀ c, P c s) :
    P now (run f steps s) :=
  run_simulation (P := fun now s (_ : Unit) => P now s) (g := fun _ _ t => t) (t := ())
    (fun hle h => mono hle h) (fun h => step h) h h0

/-! ## Runs whatever the clock -/

/-- **Every step of a run meets a condition** on the clock, the step and the
state before it. -/
def Along (f : ℤ → α → σ → σ) (C : ℤ → α → σ → Prop) : List (ℤ × α) → σ → Prop
  | [], _ => True
  | step :: steps, s => C step.1 step.2 s ∧ Along f C steps (f step.1 step.2 s)

/-- What the steps that meet the condition keep holds after the run. -/
theorem Along.run_induction {f : ℤ → α → σ → σ} {C : ℤ → α → σ → Prop} {P : σ → Prop}
    (step : ∀ now a s, C now a s → P s → P (f now a s)) {steps : List (ℤ × α)} :
    ∀ {s : σ}, Along f C steps s → P s → P (run f steps s) := by
  induction steps with
  | nil => exact fun _ hs => hs
  | cons a steps ih => exact fun h hs => ih h.2 (step a.1 a.2 _ h.1 hs)

end Clocked
