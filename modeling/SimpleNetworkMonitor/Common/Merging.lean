import Mathlib.Algebra.BigOperators.Group.List.Basic
import Mathlib.Algebra.Order.Ring.Nat
/-!
# Merging in any order

A **merging** is one way of putting parts together two at a time. In a
commutative monoid the whole depends on the parts alone, and may be summed
key by key. The counts of a list by class are one case: they add up, and
counted from the first class on they count the elements below a class.
-/

/-- A way of merging parts. -/
inductive Merging (α : Type*) where
  | empty
  | part (a : α)
  | join (left right : Merging α)

namespace Merging

variable {α M : Type*}

/-- The parts, from left to right. -/
def parts : Merging α → List α
  | .empty => []
  | .part a => [a]
  | .join left right => left.parts ++ right.parts

/-- What the merging makes of the parts. -/
def whole [Add M] [Zero M] (value : α → M) : Merging α → M
  | .empty => 0
  | .part a => value a
  | .join left right => left.whole value + right.whole value

theorem whole_eq_sum [AddMonoid M] (value : α → M) (t : Merging α) :
    t.whole value = (t.parts.map value).sum := by
  induction t with
  | empty => rfl
  | part a => simp [whole, parts]
  | join left right hleft hright =>
    rw [whole, parts, List.map_append, List.sum_append, hleft, hright]

/-- **The order of merging does not matter**, nor does the way the parts were
gathered. -/
theorem whole_eq_of_perm [AddCommMonoid M] (value : α → M) {t t' : Merging α}
    (h : t.parts.Perm t'.parts) : t.whole value = t'.whole value := by
  rw [whole_eq_sum, whole_eq_sum]
  exact (h.map value).sum_eq

/-- **What merging keeps** holds of every whole. -/
theorem whole_induction [Add M] [Zero M] {value : α → M} {P : List α → M → Prop} (empty : P [] 0)
    (part : ∀ a, P [a] (value a))
    (join : ∀ {l l' m m'}, P l m → P l' m' → P (l ++ l') (m + m')) (t : Merging α) :
    P t.parts (t.whole value) := by
  induction t with
  | empty => exact empty
  | part a => exact part a
  | join left right hleft hright => exact join hleft hright

end Merging

namespace List

variable {α : Type*}

/-! ## Sums by key -/

section Keys

variable {κ M : Type*} [DecidableEq κ] [AddCommMonoid M]

theorem sum_map_ite_key {keys : List κ} (hnodup : keys.Nodup) (key : κ) (x : M) :
    (keys.map fun k => if key = k then x else 0).sum = if key ∈ keys then x else 0 := by
  induction keys with
  | nil => simp
  | cons k keys ih =>
    obtain ⟨hk, hrest⟩ := nodup_cons.mp hnodup
    rw [map_cons, sum_cons, ih hrest]
    by_cases heq : key = k
    · subst heq
      simp [hk]
    · simp [heq]

/-- **A sum, key by key.** Each element has one of the keys, which are
distinct. -/
theorem sum_map_key {keys : List κ} (hnodup : keys.Nodup) (key : α → κ) (f : α → M) {l : List α}
    (hkeys : ∀ a ∈ l, key a ∈ keys) :
    (keys.map fun k => (l.map fun a => if key a = k then f a else 0).sum).sum =
      (l.map f).sum := by
  induction l with
  | nil => simp
  | cons a l ih =>
    have hrest := ih fun b hb => hkeys b (mem_cons_of_mem a hb)
    simp only [map_cons, sum_cons, sum_map_add, hrest]
    rw [sum_map_ite_key hnodup, if_pos (hkeys a mem_cons_self)]

end Keys

/-! ## Counting by class -/

/-- How many elements of a list are of each of the first `n` classes. -/
def histogram (n : ℕ) (bin : α → ℕ) (l : List α) (i : Fin n) : ℕ := l.countP (bin · = i.val)

theorem histogram_append (n : ℕ) (bin : α → ℕ) (l l' : List α) (i : Fin n) :
    histogram n bin (l ++ l') i = histogram n bin l i + histogram n bin l' i :=
  countP_append

theorem countP_bin_succ (bin : α → ℕ) (l : List α) (k : ℕ) :
    l.countP (bin · < k + 1) = l.countP (bin · < k) + l.countP (bin · = k) := by
  induction l with
  | nil => rfl
  | cons a l ih =>
    simp only [countP_cons, ih, decide_eq_true_eq]
    split_ifs <;> omega

/-- **The first classes together** are the elements below a class. -/
theorem sum_take_histogram (bin : α → ℕ) (l : List α) {n k : ℕ} (hk : k ≤ n) :
    ((ofFn (histogram n bin l)).take k).sum = l.countP (bin · < k) := by
  induction k with
  | zero => simp
  | succ k ih =>
    have hget : (ofFn (histogram n bin l))[k]? = some (l.countP (bin · = k)) := by
      rw [List.getElem?_ofFn, dif_pos (by omega)]
      rfl
    rw [take_add_one, sum_append, ih (by omega), hget, countP_bin_succ]
    simp

theorem sum_histogram (bin : α → ℕ) (l : List α) {n : ℕ} (hbin : ∀ a ∈ l, bin a < n) :
    (ofFn (histogram n bin l)).sum = l.length := by
  have hall : (ofFn (histogram n bin l)).take n = ofFn (histogram n bin l) :=
    take_of_length_le (Nat.le_of_eq length_ofFn)
  rw [← hall, sum_take_histogram bin l (Nat.le_refl n), countP_eq_length]
  exact fun a ha => by simpa using hbin a ha

end List
