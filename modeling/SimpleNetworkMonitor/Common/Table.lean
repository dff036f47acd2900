import Mathlib.Data.List.Nodup
import Mathlib.Data.Nat.Find
import Mathlib.Algebra.BigOperators.Group.List.Lemmas
/-!
# Keyed tables

A table is a list of rows with a key, no key twice. What a statement does
to it is one of a handful of operations, and what a query reads is a
lookup or a sum over its rows. The sums are what the aggregation proofs
are about: each operation changes a sum by the rows it touches.
-/

/-- **A table**: rows with a primary key, in the order they were
inserted. -/
structure Table (κ α : Type) where
  /-- The rows, each with its key. -/
  rows : List (κ × α)
  nodup : (rows.map Prod.fst).Nodup

namespace Table

variable {κ α : Type}

@[ext] theorem ext {s t : Table κ α} (h : s.rows = t.rows) : s = t := by
  cases s; cases t; cases h; rfl

instance [DecidableEq κ] [DecidableEq α] : DecidableEq (Table κ α) := fun s t =>
  decidable_of_iff (s.rows = t.rows) ⟨ext, fun h => h ▸ rfl⟩

/-- The table with no row. -/
def empty : Table κ α := ⟨[], List.nodup_nil⟩

instance : EmptyCollection (Table κ α) := ⟨empty⟩

@[simp] theorem rows_empty : (∅ : Table κ α).rows = [] := rfl

/-- The keys of the rows. -/
def keys (t : Table κ α) : List κ := t.rows.map Prod.fst

theorem mem_keys_of_mem {t : Table κ α} {k : κ} {v : α} (h : (k, v) ∈ t.rows) : k ∈ t.keys :=
  List.mem_map.mpr ⟨_, h, rfl⟩

theorem mem_keys {t : Table κ α} {k : κ} : k ∈ t.keys ↔ ∃ v, (k, v) ∈ t.rows := by
  simp [keys]

/-- A key has one row. -/
theorem eq_of_mem {t : Table κ α} {k : κ} {v w : α} (hv : (k, v) ∈ t.rows)
    (hw : (k, w) ∈ t.rows) : v = w := by
  have := List.inj_on_of_nodup_map t.nodup hv hw rfl
  exact (Prod.mk.inj this).2

/-! ## Operations -/

/-- **Delete**: the rows the predicate accepts go. -/
def deleteWhere (t : Table κ α) (p : κ → α → Bool) : Table κ α where
  rows := t.rows.filter fun r => !p r.1 r.2
  nodup := (List.Sublist.map _ List.filter_sublist).nodup t.nodup

/-- **Update**: every row's value is rewritten, its key kept. -/
def mapVals (t : Table κ α) (f : κ → α → α) : Table κ α where
  rows := t.rows.map fun r => (r.1, f r.1 r.2)
  nodup := by rw [List.map_map]; exact t.nodup

theorem keys_mapVals (t : Table κ α) (f : κ → α → α) : (t.mapVals f).keys = t.keys := by
  simp [keys, mapVals]

/-- **Insert** a row under a key no row has. -/
def insertNew (t : Table κ α) (k : κ) (v : α) (h : k ∉ t.keys) : Table κ α where
  rows := t.rows ++ [(k, v)]
  nodup := by
    rw [List.map_append, List.nodup_append]
    refine ⟨t.nodup, by simp, ?_⟩
    intro a ha b hb
    simp only [List.map_cons, List.map_nil, List.mem_singleton] at hb
    rintro rfl
    exact h (hb ▸ ha)

section Keyed

variable [DecidableEq κ]

/-- The row of a key. -/
def find? (t : Table κ α) (k : κ) : Option α := (t.rows.find? fun r => r.1 = k).map Prod.snd

theorem find?_eq_some {t : Table κ α} {k : κ} {v : α} :
    t.find? k = some v ↔ (k, v) ∈ t.rows := by
  constructor
  · intro h
    obtain ⟨⟨k', v'⟩, hf, rfl⟩ := Option.map_eq_some_iff.mp h
    have hk : k' = k := by simpa using List.find?_some hf
    exact hk ▸ List.mem_of_find?_eq_some hf
  · intro h
    rcases hf : t.rows.find? fun r => r.1 = k with - | ⟨k', v'⟩
    · exact absurd (List.find?_eq_none.mp hf _ h) (by simp)
    · have hk : k' = k := by simpa using List.find?_some hf
      have hm : (k, v') ∈ t.rows := hk ▸ List.mem_of_find?_eq_some hf
      simp [find?, hf, eq_of_mem hm h]

theorem find?_eq_none {t : Table κ α} {k : κ} : t.find? k = none ↔ k ∉ t.keys := by
  rw [mem_keys, Option.eq_none_iff_forall_ne_some]
  simp only [ne_eq, find?_eq_some, not_exists]

theorem notMem_of_find?_eq_none {t : Table κ α} {r : κ × α} (h : t.find? r.1 = none) :
    r ∉ t.rows := fun hr => find?_eq_none.mp h (mem_keys_of_mem hr)

theorem exists_find?_of_mem_keys {t : Table κ α} {k : κ} (h : k ∈ t.keys) :
    ∃ v, t.find? k = some v := by
  obtain ⟨v, hmem⟩ := mem_keys.mp h
  exact ⟨v, find?_eq_some.mpr hmem⟩

theorem mem_keys_of_find? {t : Table κ α} {k : κ} {v : α} (h : t.find? k = some v) : k ∈ t.keys :=
  mem_keys_of_mem (find?_eq_some.mp h)

theorem ext_find? {s t : Table κ α} (k : κ) (h : ∀ v, (k, v) ∈ s.rows ↔ (k, v) ∈ t.rows) :
    s.find? k = t.find? k :=
  Option.ext fun v => by simp only [find?_eq_some, h]

/-- Update the row of one key. -/
def modify (t : Table κ α) (k : κ) (f : α → α) : Table κ α :=
  t.mapVals fun k' v => if k' = k then f v else v

/-- Delete the row of one key. -/
def erase (t : Table κ α) (k : κ) : Table κ α := t.deleteWhere fun k' _ => k' = k

/-- **Insert or replace**: the row of the key takes the value in place, or
a new row is appended. -/
def upsert (t : Table κ α) (k : κ) (v : α) : Table κ α :=
  if h : k ∈ t.keys then t.modify k fun _ => v else t.insertNew k v h

end Keyed

/-- The next key of a table whose keys are row numbers: one past the
largest. -/
def nextId (t : Table ℕ α) : ℕ := (t.keys.foldr max 0) + 1

theorem lt_nextId {t : Table ℕ α} {k : ℕ} (h : k ∈ t.keys) : k < t.nextId := by
  have key : ∀ l : List ℕ, k ∈ l → k ≤ l.foldr max 0 := by
    intro l
    induction l with
    | nil => intro hk; cases hk
    | cons a l ih =>
      intro hk
      rw [List.foldr_cons]
      rcases List.mem_cons.mp hk with rfl | hk
      · exact le_max_left _ _
      · exact le_trans (ih hk) (le_max_right _ _)
  have := key t.keys h
  simp only [nextId]
  omega

theorem nextId_not_mem (t : Table ℕ α) : t.nextId ∉ t.keys := fun h =>
  lt_irrefl _ (lt_nextId h)

/-- **Insert** under the next row number. -/
def insert (t : Table ℕ α) (v : α) : Table ℕ α := t.insertNew t.nextId v t.nextId_not_mem

/-- The row of the smallest number: `ORDER BY id LIMIT 1`. -/
def first? (t : Table ℕ α) : Option (ℕ × α) := t.rows.find? fun r => t.keys.all (r.1 ≤ ·)

theorem mem_of_first? {t : Table ℕ α} {r : ℕ × α} (h : t.first? = some r) : r ∈ t.rows :=
  List.mem_of_find?_eq_some h

/-- Only the empty table has no first row. -/
theorem first?_eq_none {t : Table ℕ α} : t.first? = none ↔ t.rows = [] := by
  constructor
  · intro h
    by_contra hne
    obtain ⟨r, hr⟩ := List.exists_mem_of_ne_nil _ hne
    obtain ⟨k, hk, hmin⟩ : ∃ k ∈ t.keys, ∀ k' ∈ t.keys, k ≤ k' := by
      have hk : ∃ k, k ∈ t.keys := ⟨r.1, mem_keys_of_mem hr⟩
      classical
      exact ⟨Nat.find hk, Nat.find_spec hk, fun k' hk' => Nat.find_min' hk hk'⟩
    obtain ⟨v, hv⟩ := mem_keys.mp hk
    refine List.find?_eq_none.mp h _ hv ?_
    simpa using hmin
  · intro h
    simp [first?, h]

/-! ## What each operation leaves -/

theorem deleteWhere_deleteWhere (t : Table κ α) (p q : κ → α → Bool) :
    (t.deleteWhere p).deleteWhere q = t.deleteWhere fun k v => q k v || p k v := by
  ext1
  simp only [deleteWhere, List.filter_filter, Bool.not_or]

@[simp] theorem deleteWhere_false (t : Table κ α) : t.deleteWhere (fun _ _ => false) = t := by
  ext1
  simp [deleteWhere]

/-- A delete that no row is doomed by changes nothing. -/
theorem deleteWhere_eq_self {t : Table κ α} {p : κ → α → Bool}
    (h : ∀ k v, (k, v) ∈ t.rows → p k v = false) : t.deleteWhere p = t := by
  ext1
  refine List.filter_eq_self.mpr fun r hr => ?_
  rw [h r.1 r.2 hr]
  rfl

theorem mem_deleteWhere {t : Table κ α} {p : κ → α → Bool} {r : κ × α} :
    r ∈ (t.deleteWhere p).rows ↔ r ∈ t.rows ∧ p r.1 r.2 = false := by
  simp [deleteWhere]

theorem mem_mapVals {t : Table κ α} {f : κ → α → α} {k : κ} {v : α} :
    (k, v) ∈ (t.mapVals f).rows ↔ ∃ w, (k, w) ∈ t.rows ∧ f k w = v := by
  simp only [mapVals, List.mem_map, Prod.mk.injEq, Prod.exists]
  constructor
  · rintro ⟨k', w, hw, rfl, rfl⟩; exact ⟨w, hw, rfl⟩
  · rintro ⟨w, hw, rfl⟩; exact ⟨k, w, hw, rfl, rfl⟩

/-- An update that rewrites each value by itself changes nothing. -/
theorem mapVals_eq_self {t : Table κ α} {f : κ → α → α} (h : ∀ k v, (k, v) ∈ t.rows → f k v = v) :
    t.mapVals f = t := by
  ext1
  have hmap : t.rows.map (fun r => (r.1, f r.1 r.2)) = t.rows.map id :=
    List.map_congr_left fun r hr => Prod.ext rfl (h r.1 r.2 hr)
  exact hmap.trans (List.map_id t.rows)

theorem mem_insertNew {t : Table κ α} {k : κ} {v : α} {h : k ∉ t.keys} {r : κ × α} :
    r ∈ (t.insertNew k v h).rows ↔ r ∈ t.rows ∨ r = (k, v) := by
  simp [insertNew]

theorem mem_insert {t : Table ℕ α} {v : α} {r : ℕ × α} :
    r ∈ (t.insert v).rows ↔ r ∈ t.rows ∨ r = (t.nextId, v) := mem_insertNew

theorem keys_insert (t : Table ℕ α) (v : α) : (t.insert v).keys = t.keys ++ [t.nextId] := by
  simp [keys, insert, insertNew]

section Keyed

variable [DecidableEq κ]

theorem mem_erase {t : Table κ α} {k : κ} {r : κ × α} :
    r ∈ (t.erase k).rows ↔ r ∈ t.rows ∧ r.1 ≠ k := by
  simp [erase, mem_deleteWhere]

theorem mem_modify {t : Table κ α} {k k' : κ} {f : α → α} {v : α} :
    (k', v) ∈ (t.modify k f).rows ↔
      ∃ w, (k', w) ∈ t.rows ∧ (if k' = k then f w else w) = v := mem_mapVals

theorem mem_upsert {t : Table κ α} {k : κ} {v : α} {r : κ × α} :
    r ∈ (t.upsert k v).rows ↔ (r ∈ t.rows ∧ r.1 ≠ k) ∨ r = (k, v) := by
  obtain ⟨k', v'⟩ := r
  unfold upsert
  split_ifs with hk
  · rw [mem_modify]
    constructor
    · rintro ⟨w, hw, rfl⟩
      by_cases hkk : k' = k
      · exact Or.inr (by simp [hkk])
      · exact Or.inl ⟨by simpa [hkk] using hw, hkk⟩
    · rintro (⟨hw, hne⟩ | heq)
      · exact ⟨v', hw, if_neg hne⟩
      · obtain ⟨rfl, rfl⟩ := Prod.mk.inj heq
        obtain ⟨w, hw⟩ := mem_keys.mp hk
        exact ⟨w, hw, if_pos rfl⟩
  · rw [mem_insertNew]
    constructor
    · rintro (hw | heq)
      · refine Or.inl ⟨hw, ?_⟩
        rintro rfl
        exact hk (mem_keys_of_mem hw)
      · exact Or.inr heq
    · rintro (⟨hw, -⟩ | heq)
      · exact Or.inl hw
      · exact Or.inr heq

theorem find?_deleteWhere {t : Table κ α} {p : κ → α → Bool} {k : κ} :
    (t.deleteWhere p).find? k = (t.find? k).filter fun v => !p k v := by
  ext v
  simp [find?_eq_some, mem_deleteWhere, Option.filter_eq_some_iff]

@[simp] theorem find?_erase_self {t : Table κ α} {k : κ} : (t.erase k).find? k = none :=
  find?_eq_none.mpr fun h => by
    obtain ⟨v, hv⟩ := mem_keys.mp h
    exact (mem_erase.mp hv).2 rfl

theorem find?_erase_of_ne {t : Table κ α} {k k' : κ} (h : k' ≠ k) :
    (t.erase k).find? k' = t.find? k' :=
  ext_find? k' fun v => by simp [mem_erase, h]

theorem find?_mapVals {t : Table κ α} {f : κ → α → α} {k : κ} :
    (t.mapVals f).find? k = (t.find? k).map (f k) := by
  ext v
  simp only [find?_eq_some, mem_mapVals, Option.map_eq_some_iff]

theorem keys_modify (t : Table κ α) (k : κ) (f : α → α) : (t.modify k f).keys = t.keys :=
  keys_mapVals t _

theorem find?_modify_self {t : Table κ α} {k : κ} {f : α → α} :
    (t.modify k f).find? k = (t.find? k).map f := by
  rw [modify, find?_mapVals]
  simp

theorem find?_modify_of_ne {t : Table κ α} {k k' : κ} {f : α → α} (h : k' ≠ k) :
    (t.modify k f).find? k' = t.find? k' := by
  rw [modify, find?_mapVals]
  simp [h]

@[simp] theorem find?_upsert_self {t : Table κ α} {k : κ} {v : α} :
    (t.upsert k v).find? k = some v :=
  find?_eq_some.mpr (mem_upsert.mpr (Or.inr rfl))

theorem find?_upsert_of_ne {t : Table κ α} {k k' : κ} {v : α} (h : k' ≠ k) :
    (t.upsert k v).find? k' = t.find? k' :=
  ext_find? k' fun w => by
    rw [mem_upsert]
    constructor
    · rintro (⟨hw, -⟩ | heq)
      · exact hw
      · exact absurd (Prod.mk.inj heq).1 h
    · exact fun hw => Or.inl ⟨hw, h⟩

/-- There is nothing to erase under a key no row has. -/
theorem erase_eq_self {t : Table κ α} {k : κ} (h : t.find? k = none) : t.erase k = t := by
  refine deleteWhere_eq_self fun k' v hmem => ?_
  have hne : k' ≠ k := by
    rintro rfl
    exact find?_eq_none.mp h (mem_keys_of_mem hmem)
  simp [hne]

/-- Writing what a key already holds changes nothing. -/
theorem upsert_eq_self {t : Table κ α} {k : κ} {v : α} (h : t.find? k = some v) :
    t.upsert k v = t := by
  have hv := find?_eq_some.mp h
  rw [upsert, dif_pos (mem_keys_of_mem hv)]
  ext1
  simp only [modify, mapVals]
  conv_rhs => rw [← List.map_id t.rows]
  refine List.map_congr_left fun r hr => ?_
  obtain ⟨k', v'⟩ := r
  by_cases hk : k' = k
  · subst hk
    simp [eq_of_mem hr hv]
  · simp [hk]

end Keyed

/-! ## Sums over the rows -/

section Sum

variable {M : Type} [AddCommMonoid M]

/-- **The sum** of a function over the rows. -/
def sum (t : Table κ α) (f : κ → α → M) : M := (t.rows.map fun r => f r.1 r.2).sum

theorem sum_congr {t : Table κ α} {f g : κ → α → M} (h : ∀ k v, (k, v) ∈ t.rows → f k v = g k v) :
    t.sum f = t.sum g := by
  unfold sum
  exact congrArg List.sum (List.map_congr_left fun r hr => h r.1 r.2 hr)

theorem sum_eq_zero {t : Table κ α} {f : κ → α → M} (h : ∀ k v, (k, v) ∈ t.rows → f k v = 0) :
    t.sum f = 0 := by
  rw [sum_congr (g := fun _ _ => 0) h]
  simp [sum]

theorem sum_add (t : Table κ α) (f g : κ → α → M) :
    t.sum (fun k v => f k v + g k v) = t.sum f + t.sum g := by
  simp [sum, List.sum_map_add]

theorem sum_insertNew {t : Table κ α} {k : κ} {v : α} {h : k ∉ t.keys} (f : κ → α → M) :
    (t.insertNew k v h).sum f = t.sum f + f k v := by
  simp [sum, insertNew]

theorem sum_insert {t : Table ℕ α} {v : α} (f : ℕ → α → M) :
    (t.insert v).sum f = t.sum f + f t.nextId v := sum_insertNew f

theorem sum_mapVals {t : Table κ α} {g : κ → α → α} (f : κ → α → M) :
    (t.mapVals g).sum f = t.sum fun k v => f k (g k v) := by
  simp [sum, mapVals, Function.comp_def]

/-- Deleting rows drops their terms. -/
theorem sum_deleteWhere {t : Table κ α} {p : κ → α → Bool} (f : κ → α → M) :
    (t.deleteWhere p).sum f = t.sum fun k v => if p k v then 0 else f k v := by
  have key : ∀ l : List (κ × α), ((l.filter fun r => !p r.1 r.2).map fun r => f r.1 r.2).sum =
      (l.map fun r => if p r.1 r.2 then 0 else f r.1 r.2).sum := by
    intro l
    induction l with
    | nil => rfl
    | cons r l ih =>
      by_cases hp : p r.1 r.2 = true
      · simp [hp, ih]
      · simp [hp, ih]
  exact key t.rows

/-- A sum is the terms a predicate takes and the terms it leaves. -/
theorem sum_split (t : Table κ α) (p : κ → α → Bool) (f : κ → α → M) :
    t.sum f = (t.deleteWhere p).sum f + t.sum fun k v => if p k v then f k v else 0 := by
  rw [sum_deleteWhere, ← sum_add]
  refine sum_congr fun k v _ => ?_
  cases p k v <;> simp

variable [DecidableEq κ]

/-- Terms carried by one key are that key's row. -/
theorem sum_ite_key {t : Table κ α} {k : κ} (f : α → M) :
    (t.sum fun k' v => if k' = k then f v else 0) = (t.find? k).elim 0 f := by
  rcases h : t.find? k with - | v
  · refine sum_eq_zero fun k' w hw => if_neg ?_
    rintro rfl
    exact find?_eq_none.mp h (mem_keys_of_mem hw)
  · have hv := find?_eq_some.mp h
    obtain ⟨l₁, l₂, hl⟩ := List.append_of_mem hv
    have hnd := t.nodup
    rw [hl, List.map_append, List.map_cons] at hnd
    have hne : ∀ r ∈ l₁ ++ l₂, r.1 ≠ k := by
      intro r hr hrk
      have hk : k ∈ (l₁ ++ l₂).map Prod.fst := List.mem_map.mpr ⟨r, hr, hrk⟩
      rw [List.map_append] at hk
      exact (List.nodup_middle.mp hnd |> List.nodup_cons.mp).1 hk
    have hzero : ∀ l : List (κ × α), (∀ r ∈ l, r.1 ≠ k) →
        (l.map fun r => if r.1 = k then f r.2 else 0).sum = 0 := by
      intro l hl
      rw [List.map_congr_left fun r hr => if_neg (hl r hr)]
      simp
    simp only [sum, hl, List.map_append, List.map_cons, List.sum_append, List.sum_cons, if_pos,
      Option.elim_some]
    rw [hzero l₁ fun r hr => hne r (List.mem_append_left _ hr),
      hzero l₂ fun r hr => hne r (List.mem_append_right _ hr), zero_add, add_zero]

/-- **One row apart.** A sum is its term at a key and the sum over the
other rows. -/
theorem sum_erase (t : Table κ α) (k : κ) (f : κ → α → M) :
    t.sum f = (t.erase k).sum f + (t.find? k).elim 0 (f k) := by
  rw [sum_split t (fun k' _ => k' = k) f, erase, ← sum_ite_key]
  refine congrArg _ (sum_congr fun k' v _ => ?_)
  by_cases hk : k' = k
  · subst hk; simp
  · simp [hk]

/-- Updating one row changes its term. -/
theorem sum_modify {t : Table κ α} {k : κ} {v : α} {g : α → α} (hv : (k, v) ∈ t.rows)
    (f : κ → α → M) : (t.modify k g).sum f = (t.erase k).sum f + f k (g v) := by
  rw [sum_erase _ k f, modify, find?_mapVals, find?_eq_some.mpr hv]
  refine congrArg₂ _ ?_ (by simp)
  rw [erase, erase, sum_deleteWhere, sum_deleteWhere, sum_mapVals]
  refine sum_congr fun k' v' _ => ?_
  by_cases hkk : k' = k <;> simp [hkk]

theorem sum_upsert {t : Table κ α} {k : κ} {v : α} (f : κ → α → M) :
    (t.upsert k v).sum f = (t.erase k).sum f + f k v := by
  unfold upsert
  split_ifs with hk
  · obtain ⟨w, hw⟩ := mem_keys.mp hk
    exact sum_modify hw f
  · rw [sum_insertNew, sum_erase t k f, find?_eq_none.mpr hk, Option.elim_none, add_zero]

/-- **Adding to a row.** Writing back a row's value plus `v`, a missing row
counting as zero, adds the term of `v`, for a term additive in the value. -/
theorem sum_upsert_add [AddCommMonoid α] {t : Table κ α} {k : κ} {v : α} {f : κ → α → M}
    (hzero : f k 0 = 0) (hadd : ∀ a b, f k (a + b) = f k a + f k b) :
    (t.upsert k ((t.find? k).getD 0 + v)).sum f = t.sum f + f k v := by
  rw [sum_upsert, sum_erase t k f, hadd, ← add_assoc]
  rcases t.find? k with - | w
  · simp [hzero]
  · simp

end Sum

/-! ## `LIMIT` without `ORDER BY` -/

/-- **What a `LIMIT n` without `ORDER BY` picks.** Some `n` of the matching
rows, or all of them where there are fewer; which ones is the database's
own choice. -/
structure LimitScan where
  /-- The rows picked among the matching ones. -/
  pick : {β : Type} → ℕ → List β → List β
  pick_sublist : ∀ {β : Type} (n : ℕ) (l : List β), (pick n l).Sublist l
  pick_length : ∀ {β : Type} (n : ℕ) (l : List β), (pick n l).length = min n l.length

/-- The scan that takes the rows in table order. -/
def LimitScan.inOrder : LimitScan where
  pick n l := l.take n
  pick_sublist n l := List.take_sublist n l
  pick_length _ _ := List.length_take

/-- The keys a bounded delete picks. -/
def doomed (t : Table κ α) (scan : LimitScan) (n : ℕ) (p : κ → α → Bool) : List κ :=
  scan.pick n ((t.rows.filter fun r => p r.1 r.2).map Prod.fst)

/-- **Bounded delete**: up to `n` of the rows the predicate accepts. -/
def deleteLimit [DecidableEq κ] (t : Table κ α) (scan : LimitScan) (n : ℕ)
    (p : κ → α → Bool) : Table κ α :=
  t.deleteWhere fun k _ => k ∈ t.doomed scan n p

theorem mem_of_mem_doomed {t : Table κ α} {scan : LimitScan} {n : ℕ} {p : κ → α → Bool} {k : κ}
    (h : k ∈ t.doomed scan n p) : ∃ v, (k, v) ∈ t.rows ∧ p k v = true := by
  have hm := (scan.pick_sublist _ _).subset h
  obtain ⟨⟨k', v⟩, hkv, rfl⟩ := List.mem_map.mp hm
  exact ⟨v, List.mem_filter.mp hkv⟩

/-- A bounded delete takes only rows the predicate accepts. -/
theorem mem_deleteLimit_of_not [DecidableEq κ] {t : Table κ α} {scan : LimitScan} {n : ℕ}
    {p : κ → α → Bool} {r : κ × α} (hr : r ∈ t.rows) (hp : p r.1 r.2 = false) :
    r ∈ (t.deleteLimit scan n p).rows := by
  refine mem_deleteWhere.mpr ⟨hr, ?_⟩
  simp only [decide_eq_false_iff_not]
  intro hd
  obtain ⟨v, hv, hpv⟩ := mem_of_mem_doomed hd
  rw [eq_of_mem hv hr, hp] at hpv
  exact absurd hpv (by simp)

theorem mem_of_mem_deleteLimit [DecidableEq κ] {t : Table κ α} {scan : LimitScan} {n : ℕ}
    {p : κ → α → Bool} {r : κ × α} (hr : r ∈ (t.deleteLimit scan n p).rows) : r ∈ t.rows :=
  (mem_deleteWhere.mp hr).1

/-- A sum of terms the predicate's rows do not carry survives a bounded
delete. -/
theorem sum_deleteLimit [DecidableEq κ] {M : Type} [AddCommMonoid M] {t : Table κ α}
    {scan : LimitScan} {n : ℕ} {p : κ → α → Bool} {f : κ → α → M}
    (h : ∀ k v, (k, v) ∈ t.rows → p k v = true → f k v = 0) :
    (t.deleteLimit scan n p).sum f = t.sum f := by
  rw [deleteLimit, sum_deleteWhere]
  refine sum_congr fun k v hv => ?_
  split_ifs with hd
  · obtain ⟨w, hw, hpw⟩ := mem_of_mem_doomed (of_decide_eq_true hd)
    rw [eq_of_mem hw hv] at hpw
    exact (h k v hv hpw).symm
  · rfl

end Table
