import Mathlib.Order.Lattice
import Mathlib.Tactic.Common
/-!
# Computations that take time

A computation is started at an instant and may never return. One that
returns does so after a while, so that time never goes back. What a deadline
bounds returns in time whatever it does.
-/

/-- **A timed computation**: from an instant on, how long it takes and what
it returns. -/
structure Timed (α : Type) where
  run : ℕ → Option (ℕ × α)

namespace Timed

variable {α β ε : Type}

instance : Monad Timed where
  pure a := ⟨fun _ => some (0, a)⟩
  bind x f :=
    ⟨fun now =>
      (x.run now).bind fun first =>
        ((f first.2).run (now + first.1)).map fun next => (first.1 + next.1, next.2)⟩

/-- It never returns. -/
def never : Timed α := ⟨fun _ => none⟩

/-- The instant. -/
def clock : Timed ℕ := ⟨fun now => some (0, now)⟩

/-- **A deadline**: the computation is dropped when it is not done by then. -/
def timeout (limit : ℕ) (x : Timed α) : Timed (Option α) :=
  ⟨fun now =>
    match x.run now with
    | none => some (limit, none)
    | some (d, a) => if d ≤ limit then some (d, some a) else some (limit, none)⟩

/-- **Two at once.** They return when both have succeeded, or with the first
error. -/
def tryJoin (x : Timed (Except ε α)) (y : Timed (Except ε β)) : Timed (Except ε (α × β)) :=
  ⟨fun now =>
    match x.run now, y.run now with
    | some (d, .error e), some (d', .error e') =>
      if d ≤ d' then some (d, .error e) else some (d', .error e')
    | some (d, .error e), _ => some (d, .error e)
    | _, some (d', .error e') => some (d', .error e')
    | some (d, .ok a), some (d', .ok b) => some (max d d', .ok (a, b))
    | _, _ => none⟩

/-! ## Running -/

variable {x : Timed α} {f : α → Timed β} {now d limit limit' : ℕ} {a : α} {b : β}

@[simp] theorem run_pure (a : α) (now : ℕ) : (pure a : Timed α).run now = some (0, a) := rfl

@[simp] theorem run_clock (now : ℕ) : clock.run now = some (0, now) := rfl

/-- What a sequence takes. -/
theorem run_bind : (x >>= f).run now = some (d, b) ↔
    ∃ s t a, x.run now = some (s, a) ∧ (f a).run (now + s) = some (t, b) ∧ d = s + t := by
  show ((x.run now).bind _) = _ ↔ _
  rw [Option.bind_eq_some_iff]
  constructor
  · rintro ⟨⟨s, a⟩, hx, hmap⟩
    obtain ⟨⟨t, b'⟩, hf, heq⟩ := Option.map_eq_some_iff.mp hmap
    obtain ⟨rfl, rfl⟩ := Prod.mk.inj heq
    exact ⟨s, t, a, hx, hf, rfl⟩
  · rintro ⟨s, t, a, hx, hf, rfl⟩
    exact ⟨(s, a), hx, Option.map_eq_some_iff.mpr ⟨(t, b), hf, rfl⟩⟩

theorem run_clock_bind (f : ℕ → Timed β) (now : ℕ) : (clock >>= f).run now = (f now).run now := by
  show ((f now).run (now + 0)).map _ = _
  simp

theorem run_map {f : α → β} : (f <$> x).run now = some (d, b) ↔
    ∃ a, x.run now = some (d, a) ∧ f a = b := by
  show (x >>= pure ∘ f).run now = _ ↔ _
  rw [run_bind]
  constructor
  · rintro ⟨s, t, a, hx, hf, rfl⟩
    obtain ⟨rfl, rfl⟩ := Prod.mk.inj (Option.some.inj hf)
    exact ⟨a, hx, rfl⟩
  · rintro ⟨a, hx, rfl⟩
    exact ⟨d, 0, a, hx, rfl, rfl⟩

/-! ## Deadlines -/

/-- **A computation returns within a limit**, whenever it is started. -/
def Within (limit : ℕ) (x : Timed α) : Prop := ∀ now, ∃ d a, x.run now = some (d, a) ∧ d ≤ limit

theorem Within.mono (h : Within limit x) (hle : limit ≤ limit') : Within limit' x := fun now => by
  obtain ⟨d, a, hrun, hd⟩ := h now
  exact ⟨d, a, hrun, hd.trans hle⟩

theorem within_pure (a : α) : Within limit (pure a : Timed α) := fun _ =>
  ⟨0, a, rfl, Nat.zero_le _⟩

theorem Within.bind (h : Within limit x) (hf : ∀ a, Within limit' (f a)) :
    Within (limit + limit') (x >>= f) := fun now => by
  obtain ⟨s, a, hrun, hs⟩ := h now
  obtain ⟨t, b, hrun', ht⟩ := hf a (now + s)
  exact ⟨s + t, b, run_bind.mpr ⟨s, t, a, hrun, hrun', rfl⟩, Nat.add_le_add hs ht⟩

theorem Within.map {f : α → β} (h : Within limit x) : Within limit (f <$> x) := fun now => by
  obtain ⟨d, a, hrun, hd⟩ := h now
  exact ⟨d, f a, run_map.mpr ⟨a, hrun, rfl⟩, hd⟩

/-- **A deadline is kept** by anything. -/
theorem within_timeout (limit : ℕ) (x : Timed α) : Within limit (timeout limit x) := fun now => by
  simp only [timeout]
  rcases x.run now with - | ⟨d, a⟩
  · exact ⟨limit, none, rfl, le_rfl⟩
  · simp only
    split_ifs with hd
    · exact ⟨d, some a, rfl, hd⟩
    · exact ⟨limit, none, rfl, le_rfl⟩

/-- What is done by the deadline is returned as if there were none. -/
theorem run_timeout_eq_some : (timeout limit x).run now = some (d, some a) ↔
    x.run now = some (d, a) ∧ d ≤ limit := by
  simp only [timeout]
  rcases x.run now with - | ⟨s, b⟩
  · simp
  · simp only
    split_ifs with hs
    · simp only [Option.some.injEq, Prod.mk.injEq]
      constructor
      · rintro ⟨rfl, rfl⟩
        exact ⟨⟨rfl, rfl⟩, hs⟩
      · rintro ⟨⟨rfl, rfl⟩, -⟩
        exact ⟨rfl, rfl⟩
    · simp only [Option.some.injEq, Prod.mk.injEq, reduceCtorEq, and_false, false_iff]
      rintro ⟨⟨rfl, rfl⟩, hd⟩
      exact hs hd

/-! ## At once -/

/-- **Both succeed** where each does, with what both took. -/
theorem run_tryJoin_eq_ok {x : Timed (Except ε α)} {y : Timed (Except ε β)} :
    (tryJoin x y).run now = some (d, .ok (a, b)) ↔
      ∃ s t, x.run now = some (s, .ok a) ∧ y.run now = some (t, .ok b) ∧ d = max s t := by
  simp only [tryJoin]
  rcases x.run now with - | ⟨s, (e | a')⟩ <;> rcases y.run now with - | ⟨t, (e' | b')⟩ <;>
    simp only
  case some.ok.some.ok =>
    simp only [Option.some.injEq, Prod.mk.injEq, Except.ok.injEq]
    constructor
    · rintro ⟨rfl, rfl, rfl⟩
      exact ⟨s, t, ⟨rfl, rfl⟩, ⟨rfl, rfl⟩, rfl⟩
    · rintro ⟨_, _, ⟨rfl, rfl⟩, ⟨rfl, rfl⟩, rfl⟩
      exact ⟨rfl, rfl, rfl⟩
  case some.error.some.error =>
    split_ifs <;> simp
  all_goals simp

end Timed
