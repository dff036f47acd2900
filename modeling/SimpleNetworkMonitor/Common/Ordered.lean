import Mathlib.Data.List.Nodup
import Mathlib.Order.Lattice
/-!
# Ordered maps

A map that keeps its rows in the order of their keys. The one operation is
the entry: the row of a key is changed in place, or made from a default and
then changed.
-/

/-- **An ordered map**: rows by ascending key. -/
structure Ordered (κ α : Type) [LinearOrder κ] where
  rows : List (κ × α)
  sorted : rows.Pairwise fun r s => r.1 < s.1

namespace Ordered

variable {κ α : Type} [LinearOrder κ]

@[ext] theorem ext {m n : Ordered κ α} (h : m.rows = n.rows) : m = n := by
  cases m; cases n; cases h; rfl

instance : EmptyCollection (Ordered κ α) := ⟨⟨[], List.Pairwise.nil⟩⟩

@[simp] theorem rows_empty : (∅ : Ordered κ α).rows = [] := rfl

theorem nodup_keys (m : Ordered κ α) : (m.rows.map Prod.fst).Nodup := by
  rw [List.nodup_iff_pairwise_ne, List.pairwise_map]
  exact m.sorted.imp fun hlt => ne_of_lt hlt

/-- Change the row of a key, or put the changed default where it belongs. -/
def entryRows (k : κ) (default : α) (f : α → α) : List (κ × α) → List (κ × α)
  | [] => [(k, f default)]
  | r :: rows =>
    if k < r.1 then (k, f default) :: r :: rows
    else if r.1 < k then r :: entryRows k default f rows
    else (r.1, f r.2) :: rows

variable {k : κ} {default : α} {f : α → α}

theorem fst_mem_entryRows {rows : List (κ × α)} {r : κ × α} (h : r ∈ entryRows k default f rows) :
    r.1 = k ∨ ∃ s ∈ rows, s.1 = r.1 := by
  induction rows with
  | nil =>
    rw [entryRows, List.mem_singleton] at h
    exact Or.inl (by rw [h])
  | cons s rows ih =>
    rw [entryRows] at h
    split_ifs at h with hlt hgt
    · rcases List.mem_cons.mp h with rfl | h
      · exact Or.inl rfl
      · exact Or.inr ⟨r, h, rfl⟩
    · rcases List.mem_cons.mp h with rfl | h
      · exact Or.inr ⟨r, List.mem_cons_self, rfl⟩
      · exact (ih h).imp_right fun ⟨t, ht, heq⟩ => ⟨t, List.mem_cons_of_mem s ht, heq⟩
    · rcases List.mem_cons.mp h with rfl | h
      · exact Or.inl (le_antisymm (not_lt.mp hlt) (not_lt.mp hgt))
      · exact Or.inr ⟨r, List.mem_cons_of_mem s h, rfl⟩

theorem sorted_entryRows {rows : List (κ × α)} (h : rows.Pairwise fun r s => r.1 < s.1) :
    (entryRows k default f rows).Pairwise fun r s => r.1 < s.1 := by
  induction rows with
  | nil => exact List.pairwise_singleton _ _
  | cons r rows ih =>
    obtain ⟨hlt, hrest⟩ := List.pairwise_cons.mp h
    rw [entryRows]
    split_ifs with h₁ h₂
    · refine List.pairwise_cons.mpr ⟨fun s hs => ?_, h⟩
      rcases List.mem_cons.mp hs with rfl | hs
      · exact h₁
      · exact lt_trans h₁ (hlt s hs)
    · refine List.pairwise_cons.mpr ⟨fun s hs => ?_, ih hrest⟩
      rcases fst_mem_entryRows hs with heq | ⟨t, ht, heq⟩
      · rw [heq]; exact h₂
      · rw [← heq]; exact hlt t ht
    · exact List.pairwise_cons.mpr ⟨hlt, hrest⟩

/-- **The entry of a key**: `entry(k).or_insert(default)`, and then a change. -/
def entry (m : Ordered κ α) (k : κ) (default : α) (f : α → α) : Ordered κ α :=
  ⟨entryRows k default f m.rows, sorted_entryRows m.sorted⟩

/-- The value of a key. -/
def get? (m : Ordered κ α) (k : κ) : Option α := (m.rows.find? fun r => r.1 = k).map Prod.snd

@[simp] theorem get?_empty : (∅ : Ordered κ α).get? k = none := rfl

theorem get?_eq_some {m : Ordered κ α} {v : α} : m.get? k = some v ↔ (k, v) ∈ m.rows := by
  constructor
  · intro h
    obtain ⟨⟨k', v'⟩, hf, rfl⟩ := Option.map_eq_some_iff.mp h
    have hk : k' = k := by simpa using List.find?_some hf
    exact hk ▸ List.mem_of_find?_eq_some hf
  · intro h
    rcases hf : m.rows.find? fun r => r.1 = k with - | ⟨k', v'⟩
    · exact absurd (List.find?_eq_none.mp hf _ h) (by simp)
    · have hk : k' = k := by simpa using List.find?_some hf
      have hmem : (k, v') ∈ m.rows := hk ▸ List.mem_of_find?_eq_some hf
      have hv := List.inj_on_of_nodup_map m.nodup_keys h hmem rfl
      rw [get?, hf, Option.map_some, (Prod.mk.inj hv).2]

/-- **What the entry changes**: the value of its key, and no other. -/
theorem get?_entry (m : Ordered κ α) (k k' : κ) :
    (m.entry k default f).get? k' =
      if k' = k then some (f ((m.get? k).getD default)) else m.get? k' := by
  obtain ⟨rows, hsorted⟩ := m
  simp only [get?, entry]
  induction rows with
  | nil => by_cases h : k = k' <;> simp [entryRows, h, eq_comm]
  | cons r rows ih =>
    obtain ⟨hlt, hrest⟩ := List.pairwise_cons.mp hsorted
    have hgone : k < r.1 → rows.find? (fun s => s.1 = k) = none := fun h =>
      List.find?_eq_none.mpr fun s hs => by
        simpa using ne_of_gt (lt_trans h (hlt s hs))
    rw [entryRows]
    split_ifs with h₁ h₂ h₃ h₄ h₅
    · subst h₂
      simp [hgone h₁, ne_of_gt h₁]
    · rw [List.find?_cons_of_neg (by simpa using Ne.symm h₂)]
    · subst h₄
      rw [List.find?_cons_of_neg (by simpa using ne_of_lt h₃),
        List.find?_cons_of_neg (by simpa using ne_of_lt h₃), ih hrest, if_pos rfl]
    · by_cases hk : r.1 = k'
      · simp [hk]
      · rw [List.find?_cons_of_neg (by simpa using hk), List.find?_cons_of_neg (by simpa using hk),
          ih hrest, if_neg h₄]
    · obtain rfl : r.1 = k := le_antisymm (not_lt.mp h₁) (not_lt.mp h₃)
      simp [h₅]
    · obtain rfl : r.1 = k := le_antisymm (not_lt.mp h₁) (not_lt.mp h₃)
      have hne : r.1 ≠ k' := fun heq => h₅ heq.symm
      simp [hne]

end Ordered
