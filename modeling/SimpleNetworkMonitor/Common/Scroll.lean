import SimpleNetworkMonitor.Common.Paging
import Mathlib.Data.List.Sort
import Mathlib.Order.Lattice
import Mathlib.Tactic.Common
/-!
# Scrolling through rows that change

Rows are listed from the greatest key down, a page at a time, and between two
pages the rows may be others. A page is below a cursor; its own cursor is the
key of the last row it shows. However the rows change, a client that follows
the cursors comes to an end, sees no key twice, and sees every row that stays.
-/

namespace Scroll

variable {α κ : Type} [LinearOrder κ]

/-- **A page below a cursor**: what it shows of `rows`, and the next cursor. -/
structure IsPage (key : α → κ) (rows : List α) (before : κ) (page : List α × Option κ) : Prop where
  mem : ∀ a ∈ page.1, a ∈ rows ∧ key a < before
  sorted : page.1.Pairwise fun a b => key b < key a
  /-- A cursor is the key of the last row. -/
  next : ∀ k, page.2 = some k → ∃ a ∈ page.1, key a = k ∧ ∀ b ∈ page.1, k ≤ key b
  /-- What a page does not show is left for the next. -/
  rest : ∀ a ∈ rows, key a < before → a ∈ page.1 ∨ ∃ k, page.2 = some k ∧ key a < k

theorem isPage_nil {key : α → κ} {rows : List α} {before : κ} (h : ∀ a ∈ rows, ¬ key a < before) :
    IsPage key rows before ([], none) :=
  ⟨fun _ ha => absurd ha List.not_mem_nil, List.Pairwise.nil, fun _ hk => absurd hk (by simp),
    fun a ha hlt => absurd hlt (h a ha)⟩

/-- The greatest `limit` rows, and a cursor where there is one row more. -/
def cut (key : α → κ) (limit : ℕ) (sorted : List α) : List α × Option κ :=
  let found := sorted.take (limit + 1)
  let shown := found.take limit
  (shown, if limit < found.length then shown.getLast?.map key else none)

/-- **Sorted rows below a cursor make a page.** -/
theorem isPage_cut {key : α → κ} {rows sorted : List α} {before : κ} {limit : ℕ}
    (hlimit : 0 < limit) (hmem : ∀ a, a ∈ sorted ↔ a ∈ rows ∧ key a < before)
    (hsorted : sorted.Pairwise fun a b => key b < key a) :
    IsPage key rows before (cut key limit sorted) := by
  have hshown : (cut key limit sorted).1 = sorted.take limit := by
    simp only [cut, List.take_take, Nat.min_eq_left (Nat.le_succ limit)]
  have hcut : (cut key limit sorted).2 =
      if limit < sorted.length then (sorted.take limit).getLast?.map key else none := by
    simp only [cut, List.take_take, Nat.min_eq_left (Nat.le_succ limit), List.length_take]
    congr 1
    exact propext ⟨fun h => by omega, fun h => by omega⟩
  by_cases hlen : limit < sorted.length
  · rw [if_pos hlen] at hcut
    -- one row more than the limit was found: the page ends at a row of its own
    obtain ⟨init, last, htake⟩ : ∃ init last, sorted.take limit = init ++ [last] :=
      (List.eq_nil_or_concat' (sorted.take limit)).resolve_left fun h => by
        have hzero := congrArg List.length h
        simp only [List.length_take, List.length_nil] at hzero
        omega
    have hsplit : sorted = init ++ last :: sorted.drop limit := by
      calc sorted = sorted.take limit ++ sorted.drop limit := (List.take_append_drop _ _).symm
        _ = init ++ last :: sorted.drop limit := by rw [htake, List.append_assoc]; rfl
    have hlast : (cut key limit sorted).2 = some (key last) := by rw [hcut, htake]; simp
    have hpairs : (init ++ last :: sorted.drop limit).Pairwise fun a b => key b < key a :=
      hsplit ▸ hsorted
    obtain ⟨-, hafter, hbefore⟩ := List.pairwise_append.mp hpairs
    refine ⟨fun a ha => ?_, ?_, fun k hk => ?_, fun a ha hlt => ?_⟩
    · exact (hmem a).mp (List.mem_of_mem_take (hshown ▸ ha))
    · exact hshown ▸ hsorted.take
    · obtain rfl : key last = k := Option.some.inj (hlast.symm.trans hk)
      refine ⟨last, by simp [hshown, htake], rfl, fun b hb => ?_⟩
      rw [hshown, htake, List.mem_append, List.mem_singleton] at hb
      rcases hb with hb | rfl
      · exact le_of_lt (hbefore b hb last List.mem_cons_self)
      · exact le_rfl
    · have hin := (hmem a).mpr ⟨ha, hlt⟩
      rw [hsplit] at hin
      rcases List.mem_append.mp hin with hin | hin
      · exact Or.inl (by simp [hshown, htake, hin])
      · rcases List.mem_cons.mp hin with rfl | hin
        · exact Or.inl (by simp [hshown, htake])
        · exact Or.inr ⟨key last, hlast, (List.pairwise_cons.mp hafter).1 a hin⟩
  · rw [if_neg hlen] at hcut
    -- everything was found, and nothing follows
    have hall : (cut key limit sorted).1 = sorted := by
      rw [hshown, List.take_of_length_le (by omega)]
    refine ⟨fun a ha => (hmem a).mp (hall ▸ ha), ?_, fun k hk => ?_, fun a ha hlt => ?_⟩
    · rw [hall]
      exact hsorted
    · rw [hcut] at hk
      exact absurd hk (by simp)
    · rw [hall]
      exact Or.inl ((hmem a).mpr ⟨ha, hlt⟩)

end Scroll

/-! ## The client -/

/-- **A client that scrolls**: what it was shown, in how many pages, and the
cursor of its next request, where there is one. -/
structure Scroll (α κ : Type) where
  shown : List α
  pages : ℕ
  next : Option κ
  deriving DecidableEq

namespace Scroll

variable {α κ : Type} [LinearOrder κ]

def start (page : List α × Option κ) : Scroll α κ := ⟨page.1, 1, page.2⟩

def turn (s : Scroll α κ) (page : List α × Option κ) : Scroll α κ :=
  ⟨s.shown ++ page.1, s.pages + 1, page.2⟩

/-- **What holds as the client scrolls**, of the rows that stay. -/
structure Exact (key : α → κ) (Stays : α → Prop) (s : Scroll α κ) : Prop where
  sorted : s.shown.Pairwise fun a b => key b < key a
  next : ∀ k, s.next = some k → ∃ a ∈ s.shown, key a = k ∧ ∀ b ∈ s.shown, k ≤ key b
  /-- A row that stays was shown, or is below the cursor. -/
  rest : ∀ a, Stays a → a ∈ s.shown ∨ ∃ k, s.next = some k ∧ key a < k

variable {key : α → κ} {Stays : α → Prop} {rows : List α} {before : κ} {page : List α × Option κ}
  {s : Scroll α κ}

theorem exact_start (h : IsPage key rows before page)
    (hstays : ∀ a, Stays a → a ∈ rows ∧ key a < before) : Exact key Stays (start page) :=
  ⟨h.sorted, h.next, fun a ha => h.rest a (hstays a ha).1 (hstays a ha).2⟩

/-- **A page keeps it**, whatever became of the rows that do not stay. -/
theorem exact_turn (hs : Exact key Stays s) (hnext : s.next = some before)
    (h : IsPage key rows before page) (hstays : ∀ a, Stays a → key a < before → a ∈ rows) :
    Exact key Stays (s.turn page) := by
  obtain ⟨-, -, -, hbelow⟩ := hs.next before hnext
  refine ⟨?_, fun k hk => ?_, fun a ha => ?_⟩
  · refine List.pairwise_append.mpr ⟨hs.sorted, h.sorted, fun a ha b hb => ?_⟩
    exact lt_of_lt_of_le (h.mem b hb).2 (hbelow a ha)
  · obtain ⟨a, ha, rfl, hle⟩ := h.next k hk
    refine ⟨a, List.mem_append_right _ ha, rfl, fun b hb => ?_⟩
    rcases List.mem_append.mp hb with hb | hb
    · exact le_of_lt (lt_of_lt_of_le (h.mem a ha).2 (hbelow b hb))
    · exact hle b hb
  · rcases hs.rest a ha with hin | ⟨k, hk, hlt⟩
    · exact Or.inl (List.mem_append_left _ hin)
    · obtain rfl : before = k := Option.some.inj (hnext.symm.trans hk)
      rcases h.rest a (hstays a ha hlt) hlt with hin | hlater
      · exact Or.inl (List.mem_append_right _ hin)
      · exact Or.inr hlater

/-- What is shown has no key twice. -/
theorem Exact.filter_eq (hs : Exact key Stays s) {a : α} (ha : a ∈ s.shown) :
    s.shown.filter (fun b => key b = key a) = [a] := by
  obtain ⟨init, rest, hsplit⟩ := List.append_of_mem ha
  obtain ⟨-, hafter, hbefore⟩ := List.pairwise_append.mp (hsplit ▸ hs.sorted)
  have hinit : init.filter (fun b => key b = key a) = [] :=
    List.filter_eq_nil_iff.mpr fun b hb => by
      simpa using ne_of_gt (hbefore b hb a List.mem_cons_self)
  have hrest : rest.filter (fun b => key b = key a) = [] :=
    List.filter_eq_nil_iff.mpr fun b hb => by
      simpa using ne_of_lt ((List.pairwise_cons.mp hafter).1 b hb)
  rw [hsplit, List.filter_append, hinit, List.filter_cons_of_pos (by simp), hrest, List.nil_append]

/-- **A client that is done was shown once what stays.** -/
theorem Exact.once (hs : Exact key Stays s) (hdone : s.next = none) {a : α} (ha : Stays a) :
    s.shown.filter (fun b => key b = key a) = [a] := by
  rcases hs.rest a ha with hin | ⟨k, hk, -⟩
  · exact hs.filter_eq hin
  · exact absurd (hdone.symm.trans hk) (by simp)

/-! ## The end -/

/-- **The pages still to come are bounded** by the rank of the cursor. -/
structure Paced (rank : κ → ℕ) (bound : ℕ) (s : Scroll α κ) : Prop where
  pages : s.pages ≤ bound
  next : ∀ k, s.next = some k → s.pages + rank k < bound

omit [LinearOrder κ] in
theorem paced_start (rank : κ → ℕ) (page : List α × Option κ) :
    Paced rank ((page.2.map rank).getD 0 + 2) (start page) := by
  refine ⟨by simp only [start]; omega, fun k hk => ?_⟩
  have hrank : (page.2.map rank).getD 0 = rank k := by
    rw [show page.2 = some k from hk]
    rfl
  simp only [start, hrank]
  omega

theorem paced_turn {rank : κ → ℕ} {bound : ℕ} (hs : Paced rank bound s)
    (hnext : s.next = some before) (h : IsPage key rows before page)
    (hrank : ∀ a ∈ rows, key a < before → rank (key a) < rank before) :
    Paced rank bound (s.turn page) := by
  have hle := hs.next before hnext
  refine ⟨by simp only [turn]; omega, fun k hk => ?_⟩
  obtain ⟨a, ha, rfl, -⟩ := h.next k hk
  have hlt := hrank a (h.mem a ha).1 (h.mem a ha).2
  simp only [turn]
  omega

omit [LinearOrder κ] in
/-- A client that has asked for so many pages is done. -/
theorem Paced.done {rank : κ → ℕ} {bound : ℕ} (hs : Paced rank bound s) (h : bound ≤ s.pages) :
    s.next = none := by
  rcases hnext : s.next with - | k
  · rfl
  · have := hs.next k hnext
    omega

/-! ## Rows that stay -/

/-- A page shows what is below its cursor, of any rows that agree there. -/
theorem IsPage.congr {rows' : List α} (h : IsPage key rows before page)
    (hrows : ∀ a, key a < before → (a ∈ rows ↔ a ∈ rows')) : IsPage key rows' before page where
  mem a ha := ⟨(hrows a (h.mem a ha).2).mp (h.mem a ha).1, (h.mem a ha).2⟩
  sorted := h.sorted
  next := h.next
  rest a ha hlt := h.rest a ((hrows a hlt).mpr ha) hlt

/-- **Where the rows stay**, a client that follows the cursors collects those
below the first, each once. -/
theorem exists_walked {ε : Type} {fetch : Option κ → Except ε (List α × Option κ)}
    (hfetch : ∀ a ∈ rows, ∃ page, fetch (some (key a)) = .ok page ∧ IsPage key rows (key a) page)
    {cursor : Option κ} (hpage : fetch cursor = .ok page) (h : IsPage key rows before page) :
    ∃ shown, Paging.Walked fetch cursor shown ∧ shown.Pairwise (fun a b => key b < key a) ∧
      ∀ a, a ∈ shown ↔ a ∈ rows ∧ key a < before := by
  -- a cursor is the key of a row that is not below it
  induction hn : rows.countP (fun a => key a < before) using Nat.strongRecOn
    generalizing cursor before page with
  | ind n ih =>
    obtain ⟨shown, next⟩ := page
    cases next with
    | none =>
      refine ⟨shown, .last hpage, h.sorted, fun a => ⟨h.mem a, fun ⟨ha, hlt⟩ => ?_⟩⟩
      refine (h.rest a ha hlt).resolve_right fun ⟨k, hk, _⟩ => ?_
      cases hk
    | some k =>
      obtain ⟨last, hlast, rfl, hle⟩ := h.next k rfl
      obtain ⟨hmem, hlt⟩ := h.mem last hlast
      obtain ⟨page', hpage', h'⟩ := hfetch last hmem
      -- the last row of the page is below its cursor, and not below itself
      have hfewer : rows.countP (fun a => key a < key last) < n := by
        obtain ⟨s, t, hsplit⟩ := List.append_of_mem hmem
        have hle : ∀ l : List α, l.countP (fun a => key a < key last) ≤
            l.countP (fun a => key a < before) := fun l =>
          List.countP_mono_left fun a _ ha => by
            simpa using lt_trans (of_decide_eq_true ha) hlt
        have hs := hle s
        have ht := hle t
        rw [← hn, hsplit, List.countP_append, List.countP_append,
          List.countP_cons_of_neg (by simp), List.countP_cons_of_pos (by simpa using hlt)]
        omega
      obtain ⟨rest, hwalked, hsorted, hrest⟩ := ih _ hfewer hpage' h' rfl
      refine ⟨shown ++ rest, .next hpage hwalked, ?_, fun a => ?_⟩
      · refine List.pairwise_append.mpr ⟨h.sorted, hsorted, fun a ha b hb => ?_⟩
        exact lt_of_lt_of_le ((hrest b).mp hb).2 (hle a ha)
      · rw [List.mem_append, hrest]
        constructor
        · rintro (ha | ⟨ha, hbelow⟩)
          · exact h.mem a ha
          · exact ⟨ha, lt_trans hbelow hlt⟩
        · rintro ⟨ha, hbelow⟩
          rcases h.rest a ha hbelow with hin | ⟨k, hk, hlater⟩
          · exact Or.inl hin
          · obtain rfl : key last = k := Option.some.inj hk
            exact Or.inr ⟨ha, hlater⟩

end Scroll
