import SimpleNetworkMonitor.Common.Fallible
import SimpleNetworkMonitor.Common.Fold
import SimpleNetworkMonitor.Common.Table
import Mathlib.Data.List.Destutter
import Mathlib.Data.List.Perm.Basic
import Mathlib.Data.List.Sort
/-!
# Maps that are iterated in any order

A hash map lists its rows in an order of its own. Two listings of one map
have the same lookups, and a loop over them leaves the same where each row
says what becomes of a place of its own, or where all rows add to one.
-/

/-! ## Listings of one map -/

namespace Table

variable {κ α : Type} {R : α → α → Prop} {s t : Table κ α} {k : κ}

/-- **One map, listed in another order**: the rows are the same, up to a
relation between their values. -/
def Reordered (R : α → α → Prop) (s t : Table κ α) : Prop :=
  ∃ rows, s.rows.Perm rows ∧ List.Forall₂ (fun r r' => r.1 = r'.1 ∧ R r.2 r'.2) rows t.rows

namespace Reordered

theorem symm (h : Reordered R s t) (hR : ∀ a b, R a b → R b a) : Reordered R t s := by
  obtain ⟨rows, hperm, hrel⟩ := h
  obtain ⟨rows', hrel', hperm'⟩ := List.perm_comp_forall₂ hperm hrel
  exact ⟨rows', hperm'.symm, (List.Forall₂.imp (fun r r' h => ⟨h.1.symm, hR _ _ h.2⟩) hrel').flip⟩

theorem of_perm (h : s.rows.Perm t.rows) (hR : ∀ a, R a a) : Reordered R s t :=
  ⟨t.rows, h, List.forall₂_same.mpr fun r _ => ⟨rfl, hR r.2⟩⟩

/-- A row of one listing is in the other. -/
theorem exists_of_mem (h : Reordered R s t) {r : κ × α} (hr : r ∈ s.rows) :
    ∃ r' ∈ t.rows, r.1 = r'.1 ∧ R r.2 r'.2 := by
  obtain ⟨rows, hperm, hrel⟩ := h
  exact hrel.exists_of_mem (hperm.mem_iff.mp hr)

/-- **Lookups agree.** -/
theorem find?_rel [DecidableEq κ] (h : Reordered R s t) (hR : ∀ a b, R a b → R b a) (k : κ) :
    Option.Rel R (s.find? k) (t.find? k) := by
  rcases hs : s.find? k with - | v
  · rcases ht : t.find? k with - | w
    · exact .none
    · obtain ⟨⟨_, v⟩, hv, rfl, -⟩ := (h.symm hR).exists_of_mem (find?_eq_some.mp ht)
      rw [find?_eq_some.mpr hv] at hs
      cases hs
  · obtain ⟨⟨_, w⟩, hw, rfl, hvw⟩ := h.exists_of_mem (find?_eq_some.mp hs)
    rw [find?_eq_some.mpr hw]
    exact .some hvw

/-- Listings of the same rows have the same lookups. -/
theorem find?_eq [DecidableEq κ] (h : Reordered Eq s t) (k : κ) : t.find? k = s.find? k := by
  have hrel := h.find?_rel (fun _ _ => Eq.symm) k
  generalize s.find? k = v at hrel
  generalize t.find? k = w at hrel
  cases hrel with
  | none => rfl
  | some heq => rw [heq]

theorem mem_iff (h : Reordered Eq s t) {r : κ × α} : r ∈ t.rows ↔ r ∈ s.rows := by
  constructor
  · intro hr
    obtain ⟨r', hr', hk, hv⟩ := (h.symm fun _ _ => Eq.symm).exists_of_mem hr
    rwa [Prod.ext hk hv]
  · intro hr
    obtain ⟨r', hr', hk, hv⟩ := h.exists_of_mem hr
    rwa [Prod.ext hk hv]

end Reordered

/-- **A loop of assignments** leaves in each place what the row of its key
assigns, and what was there before where there is no such row. -/
theorem foldl_assign [DecidableEq κ] {β γ : Type} (step : β → κ × α → β) (read : β → γ) (k : κ)
    (value : α → γ) (hself : ∀ b v, read (step b (k, v)) = value v)
    (hother : ∀ b r, r.1 ≠ k → read (step b r) = read b) (t : Table κ α) (b : β) :
    read (t.rows.foldl step b) = ((t.find? k).map value).getD (read b) := by
  obtain ⟨rows, hnd⟩ := t
  simp only [find?, Option.map_map]
  refine List.foldl_invariant (l := rows)
    (P := fun done b' => read b' =
      ((done.find? fun r => r.1 = k).map (value ∘ Prod.snd)).getD (read b))
    (fun done rest b' r hl hb' => ?_) rfl
  rw [List.find?_append]
  by_cases hk : r.1 = k
  · -- no row before has the key of this one
    have hnone : (done.find? fun r => r.1 = k) = none := by
      refine List.find?_eq_none.mpr fun r' hr' => ?_
      rw [hl, List.map_append, List.map_cons] at hnd
      intro heq
      refine (List.disjoint_of_nodup_append hnd) (List.mem_map_of_mem (f := Prod.fst) hr') ?_
      rw [of_decide_eq_true heq, hk]
      exact List.mem_cons_self
    obtain ⟨k', v⟩ := r
    obtain rfl : k' = k := hk
    rw [hnone, hself]
    simp
  · rw [hother b' r hk, hb']
    simp [hk]

end Table

/-! ## Loops -/

namespace List

/-- **A loop collects** what each of its steps adds. -/
theorem foldl_collects {α β γ : Type} (step : β → α → β) (read : β → γ → Prop) (adds : α → γ → Prop)
    (h : ∀ b a x, read (step b a) x ↔ read b x ∨ adds a x) (l : List α) (b : β) (x : γ) :
    read (l.foldl step b) x ↔ read b x ∨ ∃ a ∈ l, adds a x := by
  refine List.foldl_invariant (l := l)
    (P := fun done b' => read b' x ↔ read b x ∨ ∃ a ∈ done, adds a x)
    (fun done rest b' a _ hb' => ?_) (by simp)
  rw [h, hb', or_assoc]
  simp [or_and_right, exists_or]

end List

namespace Except

/-- **A loop of fallible steps** succeeds where each does, if whether one
does is not up to those before it. -/
theorem foldlM_eq_ok_iff {ε α β : Type} {f : β → α → Except ε β} (good : α → Prop)
    (step : β → α → β) (h : ∀ b a b', f b a = .ok b' ↔ good a ∧ b' = step b a) {l : List α} :
    ∀ {b b' : β}, l.foldlM f b = .ok b' ↔ (∀ a ∈ l, good a) ∧ b' = l.foldl step b := by
  induction l with
  | nil =>
    intro b b'
    constructor
    · rintro ⟨⟩
      exact ⟨fun _ ha => (nomatch ha), rfl⟩
    · rintro ⟨-, rfl⟩
      rfl
  | cons a l ih =>
    intro b b'
    rw [List.foldlM_cons, bind_eq_ok_iff, List.forall_mem_cons, List.foldl_cons]
    constructor
    · rintro ⟨b₁, h₁, hrest⟩
      obtain ⟨hgood, rfl⟩ := (h b a b₁).mp h₁
      obtain ⟨hall, hb'⟩ := ih.mp hrest
      exact ⟨⟨hgood, hall⟩, hb'⟩
    · rintro ⟨⟨hgood, hall⟩, hb'⟩
      exact ⟨step b a, (h b a _).mpr ⟨hgood, rfl⟩, ih.mpr ⟨hall, hb'⟩⟩

end Except

/-! ## Sorted lists without duplicates -/

namespace List

variable {α : Type} [LinearOrder α]

theorem mem_destutter_insertionSort {l : List α} {a : α} :
    a ∈ (l.insertionSort (· ≤ ·)).destutter (· ≠ ·) ↔ a ∈ l := by
  rw [(pairwise_insertionSort (· ≤ ·) l).destutter_eq_dedup, mem_dedup, mem_insertionSort]

theorem pairwise_destutter_insertionSort (l : List α) :
    ((l.insertionSort (· ≤ ·)).destutter (· ≠ ·)).Pairwise (· < ·) := by
  have hsorted := pairwise_insertionSort (· ≤ ·) l
  rw [hsorted.destutter_eq_dedup]
  have hle := hsorted.sublist (dedup_sublist _)
  have hne := nodup_iff_pairwise_ne.mp (nodup_dedup (l.insertionSort (· ≤ ·)))
  exact (hle.and hne).imp fun h => lt_of_le_of_ne h.1 h.2

/-- **Sorting forgets** the order and the duplicates. -/
theorem destutter_insertionSort_congr {l l' : List α} (h : ∀ a, a ∈ l ↔ a ∈ l') :
    (l.insertionSort (· ≤ ·)).destutter (· ≠ ·) = (l'.insertionSort (· ≤ ·)).destutter (· ≠ ·) :=
  (pairwise_destutter_insertionSort l).eq_of_mem_iff (pairwise_destutter_insertionSort l') fun a => by
    rw [mem_destutter_insertionSort, mem_destutter_insertionSort, h]

end List
