import SimpleNetworkMonitor.Common.Table
/-!
# Bounded deletes, one after another

Several statements trim a table, each deleting at most `n` of the rows it
accepts. Only accepted rows go, at most `n` of each kind, and where fewer
than `n` rows went altogether there is none left to go.
-/

namespace Table

variable {κ α : Type}

/-! ## One statement -/

section Doomed

variable {t : Table κ α} {scan : LimitScan} {n : ℕ} {p : κ → α → Bool}

theorem nodup_doomed : (t.doomed scan n p).Nodup :=
  (scan.pick_sublist n _).nodup (t.nodup.sublist (List.filter_sublist.map _))

theorem length_doomed :
    (t.doomed scan n p).length = min n (t.rows.countP fun r => p r.1 r.2) := by
  rw [doomed, scan.pick_length, List.length_map, List.countP_eq_length_filter]

variable [DecidableEq κ]

/-- As many rows go as are picked. -/
theorem countP_doomed :
    (t.rows.countP fun r => r.1 ∈ t.doomed scan n p) = (t.doomed scan n p).length := by
  rw [List.countP_eq_length_filter, ← List.length_map Prod.fst]
  refine List.Perm.length_eq ?_
  rw [List.perm_ext_iff_of_nodup (t.nodup.sublist (List.filter_sublist.map _)) nodup_doomed]
  intro k
  constructor
  · intro hk
    obtain ⟨r, hr, rfl⟩ := List.mem_map.mp hk
    simpa using (List.mem_filter.mp hr).2
  · intro hk
    obtain ⟨v, hv, -⟩ := mem_of_mem_doomed hk
    exact List.mem_map.mpr ⟨(k, v), List.mem_filter.mpr ⟨hv, by simpa using hk⟩, rfl⟩

/-- A row goes where its key is picked. -/
theorem notMem_deleteLimit {r : κ × α} (hr : r ∈ t.rows) :
    r ∉ (t.deleteLimit scan n p).rows ↔ r.1 ∈ t.doomed scan n p := by
  rw [deleteLimit, mem_deleteWhere]
  simp [hr]

/-- **How many rows go**: those that are accepted, up to the limit. -/
theorem length_deleteLimit :
    (t.deleteLimit scan n p).rows.length + min n (t.rows.countP fun r => p r.1 r.2) =
      t.rows.length := by
  have hsplit := List.length_eq_countP_add_countP (fun r : κ × α => decide (r.1 ∈ t.doomed scan n p))
    (l := t.rows)
  rw [countP_doomed, length_doomed] at hsplit
  rw [deleteLimit, deleteWhere, ← List.countP_eq_length_filter, hsplit, Nat.add_comm]
  simp

/-- **Below the limit none is left** that is accepted. -/
theorem not_of_mem_deleteLimit (h : (t.rows.countP fun r => p r.1 r.2) ≤ n) {r : κ × α}
    (hr : r ∈ (t.deleteLimit scan n p).rows) : p r.1 r.2 = false := by
  by_contra hp
  obtain ⟨hmem, hkept⟩ := mem_deleteWhere.mp hr
  have hsub : (t.doomed scan n p).Sublist ((t.rows.filter fun r => p r.1 r.2).map Prod.fst) :=
    scan.pick_sublist n _
  have hall : t.doomed scan n p = (t.rows.filter fun r => p r.1 r.2).map Prod.fst := by
    refine hsub.eq_of_length ?_
    rw [length_doomed, List.length_map, ← List.countP_eq_length_filter]
    omega
  have hpicked : r.1 ∈ t.doomed scan n p := by
    rw [hall]
    exact List.mem_map.mpr ⟨r, List.mem_filter.mpr ⟨hmem, by simpa using hp⟩, rfl⟩
  simp [hpicked] at hkept

/-- **None is left exactly where the limit covers all** that are accepted. -/
theorem forall_deleteLimit :
    (∀ r ∈ (t.deleteLimit scan n p).rows, p r.1 r.2 = false) ↔
      (t.rows.countP fun r => p r.1 r.2) ≤ n := by
  refine ⟨fun h => ?_, fun h r => not_of_mem_deleteLimit h⟩
  have hlength : (t.deleteLimit scan n p).rows.length + min n (t.rows.countP fun r => p r.1 r.2) =
      t.rows.length := length_deleteLimit
  have hsplit := List.length_eq_countP_add_countP (fun r : κ × α => p r.1 r.2) (l := t.rows)
  have hrefused : (t.deleteLimit scan n p).rows.length ≤
      t.rows.countP fun r => decide ¬ p r.1 r.2 = true :=
    calc (t.deleteLimit scan n p).rows.length
        = (t.deleteLimit scan n p).rows.countP fun r => decide ¬ p r.1 r.2 = true :=
          (List.countP_eq_length.mpr fun r hr => by simp [h r hr]).symm
      _ ≤ _ := List.filter_sublist.countP_le
  omega

end Doomed

/-! ## A list of statements -/

section Trim

variable [DecidableEq κ]

/-- The table after a bounded delete for each of the predicates. -/
def trim (scan : LimitScan) (n : ℕ) (t : Table κ α) (ps : List (κ → α → Bool)) : Table κ α :=
  ps.foldl (fun t p => t.deleteLimit scan n p) t

variable {t : Table κ α} {scan : LimitScan} {n : ℕ} {p : κ → α → Bool}
variable {ps : List (κ → α → Bool)} {r : κ × α}

theorem trim_sublist : (trim scan n t ps).rows.Sublist t.rows := by
  induction ps generalizing t with
  | nil => exact List.Sublist.refl _
  | cons p ps ih => exact ih.trans List.filter_sublist

theorem mem_of_mem_trim (h : r ∈ (trim scan n t ps).rows) : r ∈ t.rows := trim_sublist.subset h

/-- **Only accepted rows go.** -/
theorem exists_of_notMem_trim (hr : r ∈ t.rows) (h : r ∉ (trim scan n t ps).rows) :
    ∃ p ∈ ps, p r.1 r.2 = true := by
  induction ps generalizing t with
  | nil => exact absurd hr h
  | cons p ps ih =>
    by_cases hp : p r.1 r.2 = true
    · exact ⟨p, List.mem_cons_self, hp⟩
    · have hkept : r ∈ (t.deleteLimit scan n p).rows :=
        mem_deleteLimit_of_not hr (by simpa using hp)
      obtain ⟨q, hq, hqr⟩ := ih hkept h
      exact ⟨q, List.mem_cons_of_mem p hq, hqr⟩

theorem length_trim_le : (trim scan n t ps).rows.length ≤ t.rows.length := trim_sublist.length_le

/-- **Where fewer rows went than a statement may delete**, none is left that
any of them accepts. -/
theorem not_of_mem_trim (h : t.rows.length - (trim scan n t ps).rows.length < n)
    (hr : r ∈ (trim scan n t ps).rows) (hp : p ∈ ps) : p r.1 r.2 = false := by
  induction ps generalizing t with
  | nil => cases hp
  | cons q ps ih =>
    have hlength : (t.deleteLimit scan n q).rows.length + _ = t.rows.length := length_deleteLimit
    have hrest : (trim scan n t (q :: ps)).rows.length ≤ (t.deleteLimit scan n q).rows.length :=
      @length_trim_le _ _ _ (t.deleteLimit scan n q) scan n ps
    rcases List.mem_cons.mp hp with rfl | hp
    · exact not_of_mem_deleteLimit (by omega) (mem_of_mem_trim hr)
    · refine ih ?_ hr hp
      change (t.deleteLimit scan n q).rows.length - (trim scan n t (q :: ps)).rows.length < n
      omega

/-- What one of the statements accepts. -/
def accepted (ps : List (κ → α → Bool)) (r : κ × α) : Bool := ps.any fun p => p r.1 r.2

omit [DecidableEq κ] in
theorem accepted_singleton (p : κ → α → Bool) : accepted [p] = fun r => p r.1 r.2 := by
  funext r
  simp [accepted]

/-- **What bounded deletes leave** of a table: only rows that are accepted
went, and none of those is left where fewer went than one statement may
delete. -/
structure Trimmed (n : ℕ) (t next : Table κ α) (accepts : κ × α → Bool) : Prop where
  sublist : next.rows.Sublist t.rows
  of_gone : ∀ r ∈ t.rows, r ∉ next.rows → accepts r = true
  none_left : t.rows.length - next.rows.length < n → ∀ r ∈ next.rows, accepts r = false

theorem trimmed_trim : Trimmed n t (trim scan n t ps) (accepted ps) where
  sublist := trim_sublist
  of_gone _ hr hgone := List.any_eq_true.mpr (exists_of_notMem_trim hr hgone)
  none_left h r hr := List.any_eq_false.mpr fun p hp => by simp [not_of_mem_trim h hr hp]

namespace Trimmed

variable {next : Table κ α} {accepts : κ × α → Bool}

omit [DecidableEq κ] in
/-- No more rows go than are accepted. -/
theorem lost_le (h : Trimmed n t next accepts) :
    t.rows.length - next.rows.length ≤ t.rows.countP accepts := by
  have hkept : t.rows.filter (fun r => ¬ accepts r = true) ⊆ next.rows := by
    intro r hr
    obtain ⟨hmem, hrefused⟩ := List.mem_filter.mp hr
    by_contra hgone
    exact of_decide_eq_true hrefused (h.of_gone r hmem hgone)
  have hnodup : t.rows.Nodup := List.Nodup.of_map _ t.nodup
  have hle := (List.subperm_of_subset (hnodup.filter _) hkept).length_le
  rw [← List.countP_eq_length_filter] at hle
  have hsplit := List.length_eq_countP_add_countP accepts (l := t.rows)
  omega

omit [DecidableEq κ] in
/-- **All that are accepted go**, where fewer go than a statement may delete. -/
theorem lost_eq (h : Trimmed n t next accepts) (hlost : t.rows.length - next.rows.length < n) :
    t.rows.length - next.rows.length = t.rows.countP accepts := by
  refine Nat.le_antisymm h.lost_le ?_
  have hle : next.rows.length ≤ t.rows.countP fun r => decide ¬ accepts r = true :=
    calc next.rows.length
        = next.rows.countP fun r => decide ¬ accepts r = true :=
          (List.countP_eq_length.mpr fun r hr => by simp [h.none_left hlost r hr]).symm
      _ ≤ _ := h.sublist.countP_le
  have hsplit := List.length_eq_countP_add_countP accepts (l := t.rows)
  omega

end Trimmed

variable [DecidableEq α]

/-- **At most `n` rows of each kind go**, where the predicates exclude one
another. -/
theorem countP_trim_le (hps : ps.Pairwise fun p q => ∀ k v, p k v = true → q k v = false)
    (hp : p ∈ ps) :
    (t.rows.countP fun r => r ∉ (trim scan n t ps).rows ∧ p r.1 r.2 = true) ≤ n := by
  induction ps generalizing t with
  | nil => cases hp
  | cons q ps ih =>
    obtain ⟨hfirst, hrest⟩ := List.pairwise_cons.mp hps
    rcases List.mem_cons.mp hp with rfl | hp
    · -- what this statement accepts, none of the others does
      calc (t.rows.countP fun r => r ∉ (trim scan n t (p :: ps)).rows ∧ p r.1 r.2 = true)
          ≤ t.rows.countP fun r => r.1 ∈ t.doomed scan n p := by
            refine List.countP_mono_left fun r hr hgone => ?_
            obtain ⟨hgone, hpr⟩ := of_decide_eq_true hgone
            by_contra hnot
            have hkept : r ∈ (t.deleteLimit scan n p).rows := by
              by_contra hnotin
              exact hnot (decide_eq_true ((notMem_deleteLimit hr).mp hnotin))
            obtain ⟨q, hq, hqr⟩ := exists_of_notMem_trim hkept hgone
            rw [hfirst q hq r.1 r.2 hpr] at hqr
            cases hqr
        _ = min n (t.rows.countP fun r => p r.1 r.2) := by rw [countP_doomed, length_doomed]
        _ ≤ n := Nat.min_le_left _ _
    · -- what a later statement accepts, this one leaves
      refine Nat.le_trans ?_ (ih hrest hp (t := t.deleteLimit scan n q))
      rw [deleteLimit, deleteWhere]
      simp only [List.countP_filter]
      refine List.countP_mono_left fun r hr hgone => ?_
      obtain ⟨hgone, hpr⟩ := of_decide_eq_true hgone
      have hkept : q r.1 r.2 = false := by
        by_contra hq
        rw [hfirst p hp r.1 r.2 (by simpa using hq)] at hpr
        cases hpr
      have hstays : r ∈ (t.deleteLimit scan n q).rows := mem_deleteLimit_of_not hr hkept
      have hnotpicked := (mem_deleteWhere.mp hstays).2
      rw [Bool.and_eq_true]
      exact ⟨decide_eq_true ⟨hgone, hpr⟩, by rw [hnotpicked]; rfl⟩

end Trim

end Table
