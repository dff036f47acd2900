import Mathlib.Data.List.Basic
import Mathlib.Order.Lattice
import Mathlib.Tactic.Common
/-!
# Paging

Rows are listed in the order of a key, a page at a time. A page reads one row
more than it shows, to tell whether there is another page; its cursor is the
key of the last row it shows. A client that follows the cursors sees every
row once.
-/

namespace Paging

variable {α κ ε : Type}

/-! ## Following cursors -/

/-- **What a client collects** that follows the cursors from one on, until a
page has none. -/
inductive Walked (fetch : Option κ → Except ε (List α × Option κ)) : Option κ → List α → Prop where
  | last {cursor : Option κ} {shown : List α} (h : fetch cursor = .ok (shown, none)) :
      Walked fetch cursor shown
  | next {cursor : Option κ} {key : κ} {shown rest : List α}
      (h : fetch cursor = .ok (shown, some key)) (hrest : Walked fetch (some key) rest) :
      Walked fetch cursor (shown ++ rest)

/-- A walk collects one list. -/
theorem Walked.unique {fetch : Option κ → Except ε (List α × Option κ)} {cursor : Option κ}
    {rows rows' : List α} (h : Walked fetch cursor rows) (h' : Walked fetch cursor rows') :
    rows = rows' := by
  induction h generalizing rows' with
  | last h =>
    cases h' with
    | last h' => exact congrArg Prod.fst (Except.ok.inj (h.symm.trans h'))
    | next h' _ => exact absurd (Except.ok.inj (h.symm.trans h')) (by simp)
  | next h _ ih =>
    cases h' with
    | last h' => exact absurd (Except.ok.inj (h.symm.trans h')) (by simp)
    | next h' hrest' =>
      obtain ⟨rfl, hkey⟩ := Prod.mk.inj (Except.ok.inj (h.symm.trans h'))
      obtain rfl := Option.some.inj hkey
      rw [ih hrest']

/-! ## Pages of sorted rows -/

variable [LinearOrder κ] (key : α → κ) (rows : List α)

/-- The rows past a cursor. -/
def beyond (cursor : Option κ) : List α := rows.filter fun a => cursor.all (· < key a)

/-- **A page**: at most `limit` rows past the cursor, and the next cursor where
there is one row more. -/
def page (limit : ℕ) (cursor : Option κ) : List α × Option κ :=
  let found := (beyond key rows cursor).take (limit + 1)
  let shown := found.take limit
  (shown, if limit < found.length then shown.getLast?.map key else none)

variable {key rows} {limit : ℕ}

theorem beyond_none : beyond key rows none = rows := by
  simp [beyond]

/-- **Past the last row shown** there is what was not shown. -/
theorem beyond_getLast (hsorted : rows.Pairwise fun a b => key a < key b) {cursor : Option κ}
    {before : List α} {last : α} {rest : List α}
    (h : beyond key rows cursor = before ++ last :: rest) :
    beyond key rows (some (key last)) = rest := by
  have hpairwise : (before ++ last :: rest).Pairwise fun a b => key a < key b :=
    h ▸ hsorted.filter _
  obtain ⟨-, hlast, hbefore⟩ := List.pairwise_append.mp hpairwise
  have hcursor : cursor.all (· < key last) := by
    have hmem : last ∈ beyond key rows cursor := h ▸ List.mem_append_right _ List.mem_cons_self
    exact (List.mem_filter.mp hmem).2
  -- what is past the last row is past the cursor, so it can be looked up there
  have hfilter : beyond key rows (some (key last)) =
      (beyond key rows cursor).filter fun a => key last < key a := by
    unfold beyond
    rw [List.filter_filter]
    refine List.filter_congr fun a _ => ?_
    cases cursor with
    | none => simp
    | some c =>
      have hlt : c < key last := by simpa using hcursor
      by_cases ha : key last < key a
      · simp [ha, lt_trans hlt ha]
      · simp [ha]
  rw [hfilter, h, List.filter_append, List.filter_cons_of_neg (by simp),
    List.filter_eq_nil_iff.mpr fun a ha => ?_, List.nil_append, List.filter_eq_self.mpr fun a ha => ?_]
  · simpa using (List.pairwise_cons.mp hlast).1 a ha
  · simpa using le_of_lt (hbefore a ha last List.mem_cons_self)

/-- A page that is not the last shows its limit, and goes on after it. -/
theorem page_cases (hsorted : rows.Pairwise fun a b => key a < key b) (hlimit : 0 < limit)
    (cursor : Option κ) :
    page key rows limit cursor = (beyond key rows cursor, none) ∨
      ∃ next, page key rows limit cursor = ((beyond key rows cursor).take limit, some next) ∧
        beyond key rows (some next) = (beyond key rows cursor).drop limit ∧
        limit < (beyond key rows cursor).length := by
  unfold page
  generalize hfound : beyond key rows cursor = found
  simp only [List.take_take, Nat.min_eq_left (Nat.le_succ limit), List.length_take]
  by_cases hlen : limit < found.length
  · obtain ⟨before, last, htake⟩ : ∃ before last, found.take limit = before ++ [last] :=
      (List.eq_nil_or_concat' (found.take limit)).resolve_left (by
        rw [List.take_eq_nil_iff]
        rintro (h | h)
        · omega
        · rw [h] at hlen
          simp at hlen)
    have hsplit : beyond key rows cursor = before ++ last :: found.drop limit := by
      calc beyond key rows cursor = found.take limit ++ found.drop limit := by
            rw [hfound, List.take_append_drop]
        _ = before ++ last :: found.drop limit := by
            rw [htake, List.append_assoc, List.singleton_append]
    refine Or.inr ⟨key last, ?_, beyond_getLast hsorted hsplit, hlen⟩
    rw [if_pos (by omega), htake]
    simp
  · refine Or.inl ?_
    rw [if_neg (by omega), List.take_of_length_le (by omega)]

/-- **Every row is seen once**, in order, from any cursor on. -/
theorem walked_page (hsorted : rows.Pairwise fun a b => key a < key b) (hlimit : 0 < limit)
    {fetch : Option κ → Except ε (List α × Option κ)}
    (hfetch : ∀ cursor, fetch cursor = .ok (page key rows limit cursor)) (cursor : Option κ) :
    Walked fetch cursor (beyond key rows cursor) := by
  induction hn : (beyond key rows cursor).length using Nat.strongRecOn generalizing cursor with
  | ind n ih =>
    rcases page_cases hsorted hlimit cursor with hpage | ⟨next, hpage, hbeyond, hlen⟩
    · exact .last (by rw [hfetch, hpage])
    · rw [← List.take_append_drop limit (beyond key rows cursor), ← hbeyond]
      refine .next (by rw [hfetch, hpage]) (ih _ ?_ (some next) rfl)
      rw [hbeyond, List.length_drop]
      omega

end Paging
