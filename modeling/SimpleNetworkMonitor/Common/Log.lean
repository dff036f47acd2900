import SimpleNetworkMonitor.Common.Table
import Mathlib.Data.List.MinMax
import Mathlib.Data.Prod.Lex
/-!
# Logs

A log is a table whose row numbers are handed out in order and never
twice. Rows are appended and, in time, deleted; what a query asks of a log
is the latest of the rows it accepts, by an instant they carry and then by
number.
-/

/-- **A log**: the rows by number, and the last number handed out. -/
structure Log (α : Type) extends Table ℕ α where
  seq : ℕ
  ascending : toTable.keys.Pairwise (· < ·)
  le_seq : ∀ k ∈ toTable.keys, k ≤ seq

namespace Log

variable {α : Type}

@[ext] theorem ext' {l m : Log α} (hrows : l.rows = m.rows) (hseq : l.seq = m.seq) : l = m := by
  obtain ⟨t, _, _, _⟩ := l
  obtain ⟨u, _, _, _⟩ := m
  obtain rfl : t = u := Table.ext hrows
  cases hseq
  rfl

instance [DecidableEq α] : DecidableEq (Log α) := fun l m =>
  decidable_of_iff (l.rows = m.rows ∧ l.seq = m.seq)
    ⟨fun h => ext' h.1 h.2, fun h => h ▸ ⟨rfl, rfl⟩⟩

instance : EmptyCollection (Log α) := ⟨⟨∅, 0, List.Pairwise.nil, fun k h => by cases h⟩⟩

@[simp] theorem rows_empty : (∅ : Log α).rows = [] := rfl

/-- The rows' values, in the order of their numbers. -/
def values (l : Log α) : List α := l.rows.map Prod.snd

@[simp] theorem values_empty : (∅ : Log α).values = [] := rfl

/-- The next number is not handed out. -/
theorem seq_succ_notMem (l : Log α) : l.seq + 1 ∉ l.toTable.keys := fun h => by
  have := l.le_seq _ h
  omega

theorem ascending_insertNew (l : Log α) (v : α) :
    (l.toTable.insertNew (l.seq + 1) v l.seq_succ_notMem).keys.Pairwise (· < ·) := by
  simp only [Table.keys, Table.insertNew, List.map_append, List.map_cons, List.map_nil]
  rw [List.pairwise_append]
  refine ⟨l.ascending, List.pairwise_singleton _ _, fun a ha b hb => ?_⟩
  have hle := l.le_seq a ha
  rw [List.mem_singleton.mp hb]
  omega

theorem le_seq_insertNew (l : Log α) (v : α) :
    ∀ k ∈ (l.toTable.insertNew (l.seq + 1) v l.seq_succ_notMem).keys, k ≤ l.seq + 1 := by
  intro k hk
  simp only [Table.keys, Table.insertNew, List.map_append, List.map_cons, List.map_nil,
    List.mem_append, List.mem_singleton] at hk
  rcases hk with hk | rfl
  · have := l.le_seq k hk
    omega
  · exact le_rfl

/-- **Append** a row under the next number. -/
def append (l : Log α) (v : α) : Log α where
  toTable := l.toTable.insertNew (l.seq + 1) v l.seq_succ_notMem
  seq := l.seq + 1
  ascending := l.ascending_insertNew v
  le_seq := l.le_seq_insertNew v

/-- **Delete**: the rows the predicate accepts go. -/
def deleteWhere (l : Log α) (p : ℕ → α → Bool) : Log α where
  toTable := l.toTable.deleteWhere p
  seq := l.seq
  ascending := l.ascending.sublist (List.filter_sublist.map _)
  le_seq k hk := l.le_seq k ((List.filter_sublist.map _).subset hk)

/-- **Bounded delete**: up to `n` of the rows the predicate accepts. -/
def deleteLimit (l : Log α) (scan : Table.LimitScan) (n : ℕ) (p : ℕ → α → Bool) : Log α :=
  l.deleteWhere fun k _ => k ∈ l.toTable.doomed scan n p

/-- The order of rows by an instant, then by number, as a computation decides
it. -/
instance : Preorder (ℤ ×ₗ ℕ) :=
  (@Prod.Lex.instLinearOrder ℤ ℕ Int.instLinearOrder Nat.instLinearOrder).toPreorder

/-- **The latest row** a query accepts:
`ORDER BY key DESC, id DESC LIMIT 1`. -/
def latest? (l : Log α) (key : α → ℤ) (p : α → Bool) : Option (ℕ × α) :=
  (l.rows.filter fun r => p r.2).argmax fun r => toLex (key r.2, r.1)

/-- Whether a row stands before another in `ORDER BY key DESC, id DESC`. -/
def standsBefore {K : Type} [LinearOrder K] (key : α → K) (a b : ℕ × α) : Bool :=
  key b.2 < key a.2 || (key a.2 = key b.2 && b.1 ≤ a.1)

/-- **The rows a query accepts, newest first**. -/
def newestFirst {K : Type} [LinearOrder K] (l : Log α) (key : α → K) (p : α → Bool) :
    List (ℕ × α) :=
  (l.rows.filter fun r => p r.2).mergeSort (standsBefore key)

/-! ## What each operation leaves -/

@[simp] theorem rows_append (l : Log α) (v : α) :
    (l.append v).rows = l.rows ++ [(l.seq + 1, v)] := rfl

@[simp] theorem values_append (l : Log α) (v : α) : (l.append v).values = l.values ++ [v] := by
  simp [values]

theorem mem_append {l : Log α} {v : α} {r : ℕ × α} :
    r ∈ (l.append v).rows ↔ r ∈ l.rows ∨ r = (l.seq + 1, v) := by
  simp

theorem mem_deleteWhere {l : Log α} {p : ℕ → α → Bool} {r : ℕ × α} :
    r ∈ (l.deleteWhere p).rows ↔ r ∈ l.rows ∧ p r.1 r.2 = false := Table.mem_deleteWhere

theorem mem_of_mem_deleteLimit {l : Log α} {scan : Table.LimitScan} {n : ℕ} {p : ℕ → α → Bool}
    {r : ℕ × α} (h : r ∈ (l.deleteLimit scan n p).rows) : r ∈ l.rows :=
  (mem_deleteWhere.mp h).1

/-- A bounded delete takes only rows the predicate accepts. -/
theorem mem_deleteLimit_of_not {l : Log α} {scan : Table.LimitScan} {n : ℕ} {p : ℕ → α → Bool}
    {r : ℕ × α} (hr : r ∈ l.rows) (hp : p r.1 r.2 = false) :
    r ∈ (l.deleteLimit scan n p).rows :=
  Table.mem_deleteLimit_of_not hr hp

/-! A statement depends on its predicate only where there are rows. -/

theorem deleteWhere_congr {l : Log α} {p q : ℕ → α → Bool} (h : ∀ r ∈ l.rows, p r.1 r.2 = q r.1 r.2) :
    l.deleteWhere p = l.deleteWhere q :=
  ext' (List.filter_congr fun r hr => by rw [h r hr]) rfl

theorem deleteLimit_congr {l : Log α} {p q : ℕ → α → Bool} (scan : Table.LimitScan) (n : ℕ)
    (h : ∀ r ∈ l.rows, p r.1 r.2 = q r.1 r.2) : l.deleteLimit scan n p = l.deleteLimit scan n q := by
  unfold deleteLimit Table.doomed
  rw [List.filter_congr h]

/-- A query orders by a key as by any other key that compares the same way. -/
theorem newestFirst_congr {K K' : Type} [LinearOrder K] [LinearOrder K'] {l : Log α} {key : α → K}
    {key' : α → K'} {p q : α → Bool} (hp : ∀ r ∈ l.rows, p r.2 = q r.2)
    (hlt : ∀ r ∈ l.rows, ∀ s ∈ l.rows, key r.2 < key s.2 ↔ key' r.2 < key' s.2)
    (heq : ∀ r ∈ l.rows, ∀ s ∈ l.rows, key r.2 = key s.2 ↔ key' r.2 = key' s.2) :
    l.newestFirst key p = l.newestFirst key' q := by
  unfold newestFirst
  rw [List.filter_congr hp]
  refine (List.map_id _).symm.trans ((List.map_mergeSort fun a ha b hb => ?_).trans
    (congrArg (List.mergeSort · _) (List.map_id _)))
  have ha' := List.mem_of_mem_filter ha
  have hb' := List.mem_of_mem_filter hb
  simp only [id_eq, standsBefore, hlt b hb' a ha', heq a ha' b hb']

/-! ## The latest row -/

variable {l : Log α} {key : α → ℤ} {p : α → Bool} {r : ℕ × α}

theorem latest?_eq_none : l.latest? key p = none ↔ ∀ r ∈ l.rows, p r.2 = false := by
  simp [latest?, List.argmax_eq_none]

theorem mem_of_latest? (h : l.latest? key p = some r) : r ∈ l.rows ∧ p r.2 = true :=
  List.mem_filter.mp (List.argmax_mem h)

/-- No accepted row is later than the latest one. -/
theorem le_of_latest? (h : l.latest? key p = some r) {r' : ℕ × α} (hr' : r' ∈ l.rows)
    (hp : p r'.2 = true) : toLex (key r'.2, r'.1) ≤ toLex (key r.2, r.1) :=
  List.le_of_mem_argmax (f := fun r : ℕ × α => toLex (key r.2, r.1))
    (List.mem_filter.mpr ⟨hr', hp⟩) h

/-- **An accepted row that no accepted row is later than** is the latest. -/
theorem latest?_eq_some (hr : r ∈ l.rows) (hp : p r.2 = true)
    (hmax : ∀ r' ∈ l.rows, p r'.2 = true → toLex (key r'.2, r'.1) ≤ toLex (key r.2, r.1)) :
    l.latest? key p = some r := by
  rcases h : l.latest? key p with - | m
  · exact absurd (latest?_eq_none.mp h r hr) (by simp [hp])
  · obtain ⟨hm, hpm⟩ := mem_of_latest? h
    have heq := le_antisymm (hmax m hm hpm) (le_of_latest? h hr hp)
    have hid : m.1 = r.1 := (Prod.mk.inj (toLex.injective heq)).2
    obtain ⟨i, v⟩ := m
    obtain ⟨j, w⟩ := r
    obtain rfl : i = j := hid
    rw [Table.eq_of_mem hm hr]

theorem standsBefore_iff {a b : ℕ × α} :
    standsBefore key a b = true ↔ key b.2 < key a.2 ∨ key a.2 = key b.2 ∧ b.1 ≤ a.1 := by
  simp only [standsBefore, Bool.or_eq_true, Bool.and_eq_true, decide_eq_true_eq]

theorem pairwise_newestFirst (l : Log α) (key : α → ℤ) (p : α → Bool) :
    (l.newestFirst key p).Pairwise fun a b => standsBefore key a b = true := by
  refine List.pairwise_mergeSort (fun a b c hab hbc => ?_) (fun a b => ?_) _
  · rw [standsBefore_iff] at *
    omega
  · rw [Bool.or_eq_true, standsBefore_iff, standsBefore_iff]
    omega

/-- **The latest row is the first of the newest**: `LIMIT 1`. -/
theorem head?_newestFirst : (l.newestFirst key p).head? = l.latest? key p := by
  have hmem : ∀ s, s ∈ l.newestFirst key p ↔ s ∈ l.rows ∧ p s.2 = true := fun s => by
    rw [newestFirst, List.mem_mergeSort, List.mem_filter]
  have hsorted := pairwise_newestFirst l key p
  rcases hrows : l.newestFirst key p with - | ⟨r, rest⟩
  · rw [hrows] at hmem
    refine (latest?_eq_none.mpr fun r hr => ?_).symm
    by_contra hp
    exact List.not_mem_nil ((hmem r).mpr ⟨hr, by simpa using hp⟩)
  · rw [hrows] at hmem hsorted
    obtain ⟨hr, hpr⟩ := (hmem r).mp List.mem_cons_self
    refine (latest?_eq_some hr hpr fun s hs hps => ?_).symm
    rcases List.mem_cons.mp ((hmem s).mpr ⟨hs, hps⟩) with rfl | hrest
    · exact le_rfl
    · have hbefore := standsBefore_iff.mp ((List.pairwise_cons.mp hsorted).1 s hrest)
      rw [Prod.Lex.toLex_le_toLex]
      exact hbefore.imp id fun h => ⟨h.1.symm, h.2⟩

/-- **In a log written in the order of the instants** the latest row is the
last. -/
theorem latest?_eq_getLast? (hsorted : l.values.Pairwise fun a b => key a ≤ key b) :
    (l.latest? key p).map Prod.snd = (l.values.filter p).getLast? := by
  have hvalues : l.values.filter p = (l.rows.filter fun r => p r.2).map Prod.snd := by
    rw [values, List.filter_map]
    rfl
  rw [hvalues, List.getLast?_map]
  refine congrArg (Option.map Prod.snd) ?_
  rcases hlast : (l.rows.filter fun r => p r.2).getLast? with - | r
  · rw [hlast]
    have hnil := List.getLast?_eq_none_iff.mp hlast
    refine latest?_eq_none.mpr fun r hr => ?_
    simpa using List.filter_eq_nil_iff.mp hnil r hr
  · rw [hlast]
    obtain ⟨init, hinit⟩ := List.getLast?_eq_some_iff.mp hlast
    have hrow : r ∈ l.rows.filter fun r => p r.2 := hinit ▸ List.mem_append_right _ (by simp)
    obtain ⟨hr, hp⟩ := List.mem_filter.mp hrow
    have hkeys : (l.rows.filter fun r => p r.2).Pairwise fun a b => key a.2 ≤ key b.2 :=
      (List.pairwise_map.mp hsorted).filter _
    have hids : (l.rows.filter fun r => p r.2).Pairwise fun a b => a.1 < b.1 :=
      (List.pairwise_map.mp l.ascending).filter _
    refine latest?_eq_some hr hp fun r' hr' hp' => ?_
    have hrow' : r' ∈ init ++ [r] := hinit ▸ List.mem_filter.mpr ⟨hr', hp'⟩
    rcases List.mem_append.mp hrow' with hmem | hmem
    · rw [hinit] at hkeys hids
      have hkey := (List.pairwise_append.mp hkeys).2.2 r' hmem r (by simp)
      have hid := (List.pairwise_append.mp hids).2.2 r' hmem r (by simp)
      rw [Prod.Lex.toLex_le_toLex]
      rcases lt_or_eq_of_le hkey with hlt | heq
      · exact Or.inl hlt
      · exact Or.inr ⟨heq, hid.le⟩
    · rw [List.mem_singleton.mp hmem]

/-- The latest row stays the latest as long as it is there. -/
theorem latest?_of_subset {m : Log α} (h : l.latest? key p = some r) (hr : r ∈ m.rows)
    (hsub : ∀ r ∈ m.rows, r ∈ l.rows) : m.latest? key p = some r :=
  latest?_eq_some hr (mem_of_latest? h).2 fun _ hr' hp' => le_of_latest? h (hsub _ hr') hp'

/-- An appended row that is accepted, and not earlier than the others, is
the latest. -/
theorem latest?_append {v : α} (hp : p v = true)
    (hmax : ∀ r ∈ l.rows, p r.2 = true → key r.2 ≤ key v) :
    (l.append v).latest? key p = some (l.seq + 1, v) := by
  refine latest?_eq_some (mem_append.mpr (Or.inr rfl)) hp fun r hr hpr => ?_
  rcases mem_append.mp hr with hr | rfl
  · rw [Prod.Lex.toLex_le_toLex]
    have hid := l.le_seq r.1 (Table.mem_keys_of_mem hr)
    have hkey := hmax r hr hpr
    rcases lt_or_eq_of_le hkey with hlt | heq
    · exact Or.inl hlt
    · exact Or.inr ⟨heq, by simp only; omega⟩
  · exact le_rfl

/-- An appended row that is not accepted makes no difference. -/
theorem latest?_append_of_not {v : α} (hp : p v = false) :
    (l.append v).latest? key p = l.latest? key p := by
  simp [latest?, List.filter_append, hp]

end Log
