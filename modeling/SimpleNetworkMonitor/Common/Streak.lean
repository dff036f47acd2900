import Mathlib.Data.List.Basic
import Mathlib.Data.List.Infix
import Mathlib.Tactic.Common
/-!
# Streaks, changes and prefixes

The streak a list ends with, the elements that tell something new, and the
longest prefix of a list that has a property. All of them grow with the list
one element at a time.
-/

namespace List

variable {α : Type}

/-! ## Streaks -/

section Streak

variable [DecidableEq α]

/-- **The streak** a list ends with: how many of its last elements are equal. -/
def streak (l : List α) : ℕ := (l.reverse.takeWhile fun a => l.getLast? = some a).length

/-- One more element goes on with the streak, or begins another. -/
theorem streak_concat (l : List α) (a : α) :
    (l ++ [a]).streak = if l.getLast? = some a then l.streak + 1 else 1 := by
  have hstreak : (l ++ [a]).streak = (l.reverse.takeWhile fun b => a = b).length + 1 := by
    rw [streak, reverse_append, reverse_singleton, singleton_append, getLast?_concat]
    simp
  rw [hstreak]
  split_ifs with h
  · rw [streak, h]
    simp
  · rcases hl : l.reverse with - | ⟨b, rest⟩
    · rfl
    · have hne : a ≠ b := by
        rintro rfl
        rw [getLast?_eq_head?_reverse, hl] at h
        exact h rfl
      simp [hne]

end Streak

/-! ## Changes -/

section Changes

variable {γ : Type} (differs : α → α → Bool)

/-- The elements of a list that differ from the one just before them. -/
def changesFrom : Option α → List α → List α
  | _, [] => []
  | previous, a :: l =>
    if previous.all (differs a ·) then a :: changesFrom (some a) l else changesFrom (some a) l

/-- **The changes** in a list; its first element is one. -/
def changes (l : List α) : List α := changesFrom differs none l

variable {differs}

theorem changesFrom_append (l l' : List α) (previous : Option α) :
    changesFrom differs previous (l ++ l') =
      changesFrom differs previous l ++ changesFrom differs (l.getLast?.or previous) l' := by
  induction l generalizing previous with
  | nil => rfl
  | cons a l ih =>
    have hlast : l.getLast?.or (some a) = (a :: l).getLast?.or previous := by
      rw [getLast?_cons]
      cases l.getLast? <;> rfl
    rw [cons_append, changesFrom, changesFrom, ih, hlast]
    split_ifs
    · rfl
    · rfl

/-- One more element is a change where it differs from the last. -/
theorem changes_concat (l : List α) (a : α) :
    changes differs (l ++ [a]) =
      changes differs l ++ if l.getLast?.all (differs a ·) then [a] else [] := by
  rw [changes, changes, changesFrom_append, Option.or_none]
  rfl

/-- Each element of a list with the one just before it, `previous` for the
first. -/
def withPreviousFrom : Option α → List α → List (Option α × α)
  | _, [] => []
  | previous, a :: l => (previous, a) :: withPreviousFrom (some a) l

/-- **Each element with the one just before it**; the first has none. -/
def withPrevious (l : List α) : List (Option α × α) := withPreviousFrom none l

theorem withPreviousFrom_append (l l' : List α) (previous : Option α) :
    withPreviousFrom previous (l ++ l') =
      withPreviousFrom previous l ++ withPreviousFrom (l.getLast?.or previous) l' := by
  induction l generalizing previous with
  | nil => rfl
  | cons a l ih =>
    have hlast : l.getLast?.or (some a) = (a :: l).getLast?.or previous := by
      rw [getLast?_cons]
      cases l.getLast? <;> rfl
    rw [cons_append, withPreviousFrom, withPreviousFrom, ih, hlast, cons_append]

theorem withPrevious_concat (l : List α) (a : α) :
    withPrevious (l ++ [a]) = withPrevious l ++ [(l.getLast?, a)] := by
  rw [withPrevious, withPreviousFrom_append, Option.or_none]
  rfl

/-- The changes are the elements that differ from the one before, or have
none. -/
theorem changes_eq_withPrevious (l : List α) :
    changes differs l =
      (l.withPrevious.filter fun p => p.1.all (differs p.2 ·)).map Prod.snd := by
  induction l using reverseRecOn with
  | nil => rfl
  | append_singleton l a ih =>
    rw [changes_concat, withPrevious_concat, filter_append, map_append, ih]
    by_cases h : l.getLast?.all (differs a ·) = true
    · simp [h]
    · simp [h]

theorem changesFrom_sublist {l : List α} {previous : Option α} :
    changesFrom differs previous l <+ l := by
  induction l generalizing previous with
  | nil => exact nil_sublist []
  | cons a l ih =>
    rw [changesFrom]
    split_ifs
    · exact ih.cons_cons a
    · exact ih.cons a

/-- **The last change tells what the last element does**, of whatever is the
same in elements that do not differ. -/
theorem map_getLast?_changes {content : α → γ}
    (hcontent : ∀ a b, differs a b = false → content a = content b) (l : List α) :
    (changes differs l).getLast?.map content = l.getLast?.map content := by
  induction l using reverseRecOn with
  | nil => rfl
  | append_singleton l a ih =>
    rw [changes_concat, getLast?_concat]
    rcases hlast : l.getLast? with - | b
    · simp
    · by_cases hdiffers : differs a b = true
      · simp [hdiffers]
      · rw [hlast] at ih
        have hsame := hcontent a b (by simpa using hdiffers)
        simp only [Option.all_some, hdiffers, Bool.false_eq_true, if_false, append_nil]
        rw [ih, Option.map_some, Option.map_some, hsame]

/-- The changes in a beginning of a list are those of the list that are in
the beginning. -/
theorem filter_changes {p : α → Bool} {l l' : List α} (hl : ∀ a ∈ l, p a = true)
    (hl' : ∀ a ∈ l', p a = false) : (changes differs (l ++ l')).filter p = changes differs l := by
  have hbefore : (changes differs l).filter p = changes differs l :=
    filter_eq_self.mpr fun a ha => hl a (changesFrom_sublist.mem ha)
  have hafter : (changesFrom differs (l.getLast?.or none) l').filter p = [] :=
    filter_eq_nil_iff.mpr fun a ha => by simp [hl' a (changesFrom_sublist.mem ha)]
  rw [changes, changesFrom_append, filter_append, hafter, append_nil]
  exact hbefore

/-- A sorted list is cut at a bound. -/
theorem exists_append_of_sorted {key : α → ℤ} {l : List α} (h : l.Pairwise fun a b => key a ≤ key b)
    (bound : ℤ) : ∃ l₁ l₂, l = l₁ ++ l₂ ∧ (∀ a ∈ l₁, key a ≤ bound) ∧ ∀ a ∈ l₂, bound < key a := by
  induction l with
  | nil => exact ⟨[], [], rfl, by simp, by simp⟩
  | cons a l ih =>
    obtain ⟨hfirst, hrest⟩ := pairwise_cons.mp h
    by_cases hle : key a ≤ bound
    · obtain ⟨l₁, l₂, rfl, h₁, h₂⟩ := ih hrest
      refine ⟨a :: l₁, l₂, rfl, fun b hb => ?_, h₂⟩
      rcases mem_cons.mp hb with rfl | hb
      · exact hle
      · exact h₁ b hb
    · refine ⟨[], a :: l, rfl, by simp, fun b hb => ?_⟩
      rcases mem_cons.mp hb with rfl | hb
      · omega
      · have := hfirst b hb
        omega

end Changes

/-! ## The longest prefix -/

/-- **The longest prefix** of a list for which a property holds. -/
structure LatestPrefix (P : List α → Prop) (l p : List α) : Prop where
  isPrefix : p <+: l
  holds : P p
  latest : ∀ q, q <+: l → p.length < q.length → ¬ P q

variable {P : List α → Prop} {l p : List α} {a : α}

/-- No prefix of a list has a property. -/
def NoPrefix (P : List α → Prop) (l : List α) : Prop := ∀ p, p <+: l → ¬ P p

theorem noPrefix_concat : NoPrefix P (l ++ [a]) ↔ NoPrefix P l ∧ ¬ P (l ++ [a]) := by
  constructor
  · exact fun h => ⟨fun p hp => h p (hp.trans (prefix_append l [a])), h _ (prefix_refl _)⟩
  · rintro ⟨h, hlast⟩ p hp
    rcases prefix_concat_iff.mp hp with rfl | hp
    · exact hlast
    · exact h p hp

theorem LatestPrefix.eq_of_self (hp : LatestPrefix P l p) (h : P l) : p = l := by
  refine hp.isPrefix.eq_of_length_le ?_
  by_contra hlt
  exact hp.latest l (prefix_refl l) (not_le.mp hlt) h

/-- Where the property does not hold of the longer list, nothing changes. -/
theorem latestPrefix_concat (h : ¬ P (l ++ [a])) :
    LatestPrefix P (l ++ [a]) p ↔ LatestPrefix P l p := by
  constructor
  · intro hp
    refine ⟨?_, hp.holds, fun q hq => hp.latest q (hq.trans (prefix_append l [a]))⟩
    rcases prefix_concat_iff.mp hp.isPrefix with rfl | hprefix
    · exact absurd hp.holds h
    · exact hprefix
  · intro hp
    refine ⟨hp.isPrefix.trans (prefix_append l [a]), hp.holds, fun q hq hlt => ?_⟩
    rcases prefix_concat_iff.mp hq with rfl | hq
    · exact h
    · exact hp.latest q hq hlt

end List
