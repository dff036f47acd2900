import Mathlib.Data.Finset.Insert
import Mathlib.Data.Finset.Erase
import Mathlib.Logic.Function.Iterate
import Mathlib.Tactic.Common
/-!
# Names that are handed out and come back

A search goes from a name to the next until it finds one that is free. A
holder has at most one name, and what is reserved is what the holders have.
-/

namespace Reservation

variable {α : Type*}

/-! ## Searching -/

/-- The first of the next `n` names that is free. -/
def search (next : α → α) (free : α → Bool) : ℕ → α → Option α
  | 0, _ => none
  | n + 1, a => if free a then some a else search next free n (next a)

variable {next : α → α} {free : α → Bool} {a b : α}

theorem search_eq_none : ∀ {n : ℕ} {a : α},
    search next free n a = none ↔ ∀ k < n, free (next^[k] a) = false := by
  intro n
  induction n with
  | zero => simp [search]
  | succ n ih =>
    intro a
    rw [search, Nat.forall_lt_succ_left']
    simp only [Function.iterate_zero, id_eq, Function.iterate_succ, Function.comp_apply]
    split_ifs with h
    · simp [h]
    · rw [ih]
      simp [h]

/-- **The search finds the first free name**, counted from where it starts. -/
theorem search_eq_some : ∀ {n : ℕ} {a : α},
    search next free n a = some b ↔
      ∃ k < n, next^[k] a = b ∧ free b = true ∧ ∀ j < k, free (next^[j] a) = false := by
  intro n
  induction n with
  | zero => simp [search]
  | succ n ih =>
    intro a
    rw [search]
    split_ifs with h
    · constructor
      · intro hab
        obtain rfl := Option.some.inj hab
        exact ⟨0, Nat.succ_pos n, rfl, h, fun j hj => absurd hj (Nat.not_lt_zero j)⟩
      · rintro ⟨k, -, hk, -, hbefore⟩
        -- the first name is free already
        obtain rfl : k = 0 := by
          by_contra hne
          simpa [h] using hbefore 0 (Nat.pos_of_ne_zero hne)
        exact congrArg some hk
    · rw [ih]
      constructor
      · rintro ⟨k, hk, hnext, hfree, hbefore⟩
        refine ⟨k + 1, Nat.succ_lt_succ hk, hnext, hfree, fun j hj => ?_⟩
        cases j with
        | zero => simpa using h
        | succ j => exact hbefore j (Nat.lt_of_succ_lt_succ hj)
      · rintro ⟨k, hk, hnext, hfree, hbefore⟩
        cases k with
        | zero =>
          obtain rfl : a = b := hnext
          exact absurd hfree h
        | succ k =>
          exact ⟨k, Nat.lt_of_succ_lt_succ hk, hnext, hfree,
            fun j hj => hbefore (j + 1) (Nat.succ_lt_succ hj)⟩

/-! ## Holding -/

section Holding

variable {ι : Type*} [DecidableEq ι] [DecidableEq α] {held : ι → Option α} {reserved : Finset α}
variable {i j : ι}

/-- **Every reserved name is held by one.** -/
structure Exclusive (held : ι → Option α) (reserved : Finset α) : Prop where
  unique : ∀ i j a, held i = some a → held j = some a → i = j
  mem_iff : ∀ a, a ∈ reserved ↔ ∃ i, held i = some a

omit [DecidableEq ι] [DecidableEq α] in
theorem exclusive_empty : Exclusive (fun _ : ι => (none : Option α)) ∅ where
  unique _ _ _ h := nomatch h
  mem_iff a := by simp

/-- A holder that has none takes a name that is free. -/
theorem Exclusive.reserve (h : Exclusive held reserved) (hi : held i = none)
    (ha : a ∉ reserved) : Exclusive (Function.update held i (some a)) (insert a reserved) where
  unique j k b hj hk := by
    have hother : ∀ l, l ≠ i → held l ≠ some a := fun l _ hl => ha ((h.mem_iff a).mpr ⟨l, hl⟩)
    by_cases hji : j = i
    · by_cases hki : k = i
      · rw [hji, hki]
      · subst hji
        rw [Function.update_self] at hj
        rw [Function.update_of_ne hki, ← hj] at hk
        exact absurd hk (hother k hki)
    · rw [Function.update_of_ne hji] at hj
      by_cases hki : k = i
      · subst hki
        rw [Function.update_self] at hk
        rw [← hk] at hj
        exact absurd hj (hother j hji)
      · rw [Function.update_of_ne hki] at hk
        exact h.unique j k b hj hk
  mem_iff b := by
    rw [Finset.mem_insert, h.mem_iff]
    constructor
    · rintro (rfl | ⟨j, hj⟩)
      · exact ⟨i, Function.update_self ..⟩
      · have hne : j ≠ i := fun hji => by simp [hji, hi] at hj
        exact ⟨j, by rwa [Function.update_of_ne hne]⟩
    · rintro ⟨j, hj⟩
      by_cases hji : j = i
      · subst hji
        rw [Function.update_self] at hj
        exact Or.inl (Option.some.inj hj).symm
      · exact Or.inr ⟨j, by rwa [Function.update_of_ne hji] at hj⟩

/-- A holder gives back the name that it has. -/
theorem Exclusive.release (h : Exclusive held reserved) (hi : held i = some a) :
    Exclusive (Function.update held i none) (reserved.erase a) where
  unique j k b hj hk := by
    have hne : ∀ l, Function.update held i none l = some b → held l = some b := by
      intro l hl
      by_cases hli : l = i
      · simp [hli] at hl
      · rwa [Function.update_of_ne hli] at hl
    exact h.unique j k b (hne j hj) (hne k hk)
  mem_iff b := by
    rw [Finset.mem_erase, h.mem_iff]
    constructor
    · rintro ⟨hba, j, hj⟩
      have hne : j ≠ i := fun hji => by
        rw [hji, hi] at hj
        exact hba (Option.some.inj hj).symm
      exact ⟨j, by rwa [Function.update_of_ne hne]⟩
    · rintro ⟨j, hj⟩
      by_cases hji : j = i
      · simp [hji] at hj
      · rw [Function.update_of_ne hji] at hj
        exact ⟨fun hba => hji (h.unique j i a (hba ▸ hj) hi), j, hj⟩

end Holding

end Reservation
