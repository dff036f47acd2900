import Mathlib.Tactic.Common
/-!
# Programs over a state

A program reads and assigns a state and may throw. What it assigned before
it threw stays assigned: nothing is rolled back here.
-/

/-- **A program** over a state `σ`, with errors `ε`. -/
abbrev Program (σ ε : Type) := ExceptT ε (StateM σ)

namespace Program

variable {σ ε α β : Type}

/-- The result of a program, and the state it leaves. -/
def run (m : Program σ ε α) (s : σ) : Except ε α × σ := StateT.run (ExceptT.run m) s

variable (s : σ)

@[simp] theorem run_pure (a : α) : run (pure a : Program σ ε α) s = (.ok a, s) := rfl

@[simp] theorem run_throw (e : ε) : run (throw e : Program σ ε α) s = (.error e, s) := rfl

@[simp] theorem run_get : run (get : Program σ ε σ) s = (.ok s, s) := rfl

@[simp] theorem run_set (t : σ) : run (set t : Program σ ε PUnit) s = (.ok ⟨⟩, t) := rfl

@[simp] theorem run_modify (f : σ → σ) : run (modify f : Program σ ε PUnit) s = (.ok ⟨⟩, f s) :=
  rfl

/-- A computation beside the state. -/
@[simp] theorem run_mk (x : Except ε α) : run (ExceptT.mk (pure x) : Program σ ε α) s = (x, s) :=
  rfl

theorem run_bind (m : Program σ ε α) (k : α → Program σ ε β) :
    run (m >>= k) s =
      match run m s with
      | (.ok a, t) => run (k a) t
      | (.error e, t) => (.error e, t) := by
  unfold run
  rw [ExceptT.run_bind]
  simp only [StateT.run_bind]
  show (match (StateT.run (ExceptT.run m) s) with | (x, t) => _) = _
  rcases StateT.run (ExceptT.run m) s with ⟨_ | a, t⟩ <;> rfl

end Program
