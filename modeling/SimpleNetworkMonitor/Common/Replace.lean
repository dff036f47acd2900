import Mathlib.Data.List.Basic
/-!
# One of many is replaced

A list of parties, one of which takes a step: what the others keep, and what
they show together.
-/

namespace List

variable {α β : Type*} {l : List α} {n : ℕ} {a b x : α}

/-- The others are still there. -/
theorem mem_set_of_ne (ha : l[n]? = some a) (hx : x ∈ l) (hne : x ≠ a) : x ∈ l.set n b := by
  obtain ⟨i, hi⟩ := getElem?_of_mem hx
  have hni : n ≠ i := by
    rintro rfl
    exact hne (Option.some.inj (hi.symm.trans ha))
  exact mem_of_getElem? (by rw [getElem?_set_ne hni, hi])

/-- And so is the one that took its place. -/
theorem mem_set_of_getElem? (ha : l[n]? = some a) (b : α) : b ∈ l.set n b :=
  mem_of_getElem? (getElem?_set_self (getElem?_eq_some_iff.mp ha).1)

/-- One that is replaced by itself. -/
theorem set_eq_of_getElem? (ha : l[n]? = some a) : l.set n a = l := by
  obtain ⟨h, rfl⟩ := getElem?_eq_some_iff.mp ha
  exact set_getElem_self h

/-- **What some of them show together** is as before, where the one that is
replaced shows the same. -/
theorem filter_flatMap_set (ha : l[n]? = some a) {p : α → Bool} {f : α → List β} (hp : p b = p a)
    (hf : f b = f a) : ((l.set n b).filter p).flatMap f = (l.filter p).flatMap f := by
  induction l generalizing n with
  | nil => rfl
  | cons c l ih =>
    cases n with
    | zero =>
      obtain rfl : c = a := by simpa using ha
      rw [set_cons_zero, filter_cons, filter_cons, hp]
      split_ifs
      · rw [flatMap_cons, flatMap_cons, hf]
      · rfl
    | succ n =>
      rw [set_cons_succ, filter_cons, filter_cons]
      have htail := ih (n := n) (by simpa using ha)
      split_ifs
      · rw [flatMap_cons, flatMap_cons, htail]
      · exact htail

/-- **What is read after a write** is what was written, or what was there. -/
theorem getElem?_set_cases {j : ℕ} (h : (l.set n a)[j]? = some b) :
    (j = n ∧ b = a) ∨ (j ≠ n ∧ l[j]? = some b) := by
  by_cases hj : j = n
  · subst hj
    have hlt : j < (l.set j a).length := (getElem?_eq_some_iff.mp h).1
    rw [length_set] at hlt
    rw [getElem?_set_self hlt] at h
    exact Or.inl ⟨rfl, (Option.some.inj h).symm⟩
  · rw [getElem?_set_ne (Ne.symm hj)] at h
    exact Or.inr ⟨hj, h⟩

end List
