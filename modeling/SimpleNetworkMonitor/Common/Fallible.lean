import Mathlib.Tactic.Common
/-!
# Fallible computations

Taking apart a computation in `Except` that succeeded.
-/

namespace Except

variable {ε α β : Type}

@[simp] theorem ok_bind (a : α) (f : α → Except ε β) : (Except.ok a >>= f) = f a := rfl

@[simp] theorem error_bind (e : ε) (f : α → Except ε β) :
    (Except.error e >>= f) = .error e := rfl

theorem throw_eq (e : ε) : (throw e : Except ε α) = .error e := rfl

/-- **A sequence succeeds** where both of its steps do. -/
theorem bind_eq_ok_iff {x : Except ε α} {f : α → Except ε β} {b : β} :
    (x >>= f) = .ok b ↔ ∃ a, x = .ok a ∧ f a = .ok b := by
  cases x with
  | error e => simp [bind, Except.bind]
  | ok a => simp [bind, Except.bind]

theorem map_eq_ok_iff {x : Except ε α} {f : α → β} {b : β} :
    x.map f = .ok b ↔ ∃ a, x = .ok a ∧ f a = b := by
  cases x <;> simp [Except.map]

theorem toOption_eq_some_iff {x : Except ε α} {a : α} : x.toOption = some a ↔ x = .ok a := by
  cases x <;> simp [Except.toOption]

theorem map_map_eq {γ : Type} (x : Except ε α) (f : α → β) (g : β → γ) :
    (x.map f).map g = x.map fun a => g (f a) := by
  cases x <;> rfl

theorem mapError_eq_ok_iff {ε' : Type} {x : Except ε α} {f : ε → ε'} {a : α} :
    x.mapError f = .ok a ↔ x = .ok a := by
  cases x <;> simp [Except.mapError]

theorem exists_of_isOk {x : Except ε α} (h : x.isOk = true) : ∃ a, x = .ok a := by
  cases x with
  | error e => cases h
  | ok a => exact ⟨a, rfl⟩

/-- A check that answers no and returns passes where the answer is yes. -/
theorem guard_eq_ok_true {ε : Type} {b : Bool} {x : Except ε Bool} :
    (if b = true then pure false else x) = .ok true ↔ b = false ∧ x = .ok true := by
  cases b
  · simp
  · simp [pure, Except.pure]

/-- A test that is demanded passes where its answer is yes. -/
theorem demand_eq_ok_true {ε : Type} {x y : Except ε Bool} :
    (x >>= fun b => if (!b) = true then pure false else y) = .ok true ↔
      x = .ok true ∧ y = .ok true := by
  rw [bind_eq_ok_iff]
  constructor
  · rintro ⟨b, hb, h⟩
    obtain ⟨hb', hy⟩ := guard_eq_ok_true.mp h
    obtain rfl : b = true := by simpa using hb'
    exact ⟨hb, hy⟩
  · exact fun ⟨hx, hy⟩ => ⟨true, hx, guard_eq_ok_true.mpr ⟨rfl, hy⟩⟩

/-- **A check that throws** passes where it finds nothing to throw for. -/
theorem unless_eq_ok_iff {c : Prop} [Decidable c] {e : ε} {k : β → Except ε α} {x : Except ε α}
    {a : α} : (if c then (throw e : Except ε β) >>= k else x) = .ok a ↔ ¬ c ∧ x = .ok a := by
  split_ifs with hc
  · exact ⟨fun h => (nomatch h), fun ⟨hn, _⟩ => absurd hc hn⟩
  · exact ⟨fun h => ⟨hc, h⟩, fun h => h.2⟩

/-- The last check of a list of them. -/
theorem unless_last_eq_ok_iff {c : Prop} [Decidable c] {e : ε} :
    (if c then throw e else pure () : Except ε Unit) = .ok () ↔ ¬ c := by
  split_ifs with hc
  · exact ⟨fun h => (nomatch h), fun hn => absurd hc hn⟩
  · exact ⟨fun _ => hc, fun _ => rfl⟩

/-- **A loop of checks** passes where each of them does. -/
theorem forM_eq_ok {f : α → Except ε Unit} {l : List α} :
    l.forM f = .ok () ↔ ∀ a ∈ l, f a = .ok () := by
  induction l with
  | nil => exact ⟨fun _ a ha => absurd ha List.not_mem_nil, fun _ => rfl⟩
  | cons a l ih =>
    show (f a >>= fun _ => l.forM f) = _ ↔ _
    rw [bind_eq_ok_iff, List.forall_mem_cons, ← ih]
    exact ⟨fun ⟨_, ha, hl⟩ => ⟨ha, hl⟩, fun ⟨ha, hl⟩ => ⟨(), ha, hl⟩⟩

/-- Whether a fallible test succeeds and says yes. -/
def passes (f : α → Except ε Bool) (a : α) : Bool :=
  match f a with
  | .ok b => b
  | .error _ => false

theorem passes_of_eq_ok {f : α → Except ε Bool} {a : α} {b : Bool} (h : f a = .ok b) :
    passes f a = b := by
  rw [passes, h]

theorem filterAuxM_eq_ok {f : α → Except ε Bool} {l acc r : List α}
    (h : l.filterAuxM f acc = .ok r) :
    (∀ a ∈ l, ∃ b, f a = .ok b) ∧ r = (l.filter (passes f)).reverse ++ acc := by
  induction l generalizing acc with
  | nil =>
    obtain rfl := Except.ok.inj h
    simp
  | cons a l ih =>
    obtain ⟨b, hb, h⟩ := bind_eq_ok_iff.mp h
    obtain ⟨hall, rfl⟩ := ih h
    refine ⟨List.forall_mem_cons.mpr ⟨⟨b, hb⟩, hall⟩, ?_⟩
    cases b
    · rw [List.filter_cons_of_neg (by simp [passes_of_eq_ok hb])]
      rfl
    · rw [List.filter_cons_of_pos (passes_of_eq_ok hb)]
      simp

/-- **A filter by a fallible test** that succeeds: every test did, and what
is left is what passed. -/
theorem filterM_eq_ok {f : α → Except ε Bool} {l r : List α} (h : l.filterM f = .ok r) :
    (∀ a ∈ l, ∃ b, f a = .ok b) ∧ r = l.filter (passes f) := by
  obtain ⟨acc, hacc, h⟩ := bind_eq_ok_iff.mp h
  obtain ⟨hall, rfl⟩ := filterAuxM_eq_ok hacc
  obtain rfl := Except.ok.inj h
  exact ⟨hall, by simp⟩

theorem filterAuxM_of_forall {f : α → Except ε Bool} {l : List α} (acc : List α)
    (h : ∀ a ∈ l, ∃ b, f a = .ok b) :
    l.filterAuxM f acc = .ok ((l.filter (passes f)).reverse ++ acc) := by
  induction l generalizing acc with
  | nil => rfl
  | cons a l ih =>
    obtain ⟨⟨b, hb⟩, hall⟩ := List.forall_mem_cons.mp h
    show (f a >>= fun b => l.filterAuxM f (cond b (a :: acc) acc)) = _
    rw [hb, ok_bind, ih _ hall]
    cases b
    · rw [List.filter_cons_of_neg (by simp [passes_of_eq_ok hb])]
      rfl
    · rw [List.filter_cons_of_pos (passes_of_eq_ok hb)]
      simp

/-- A filter by a test that succeeds everywhere succeeds. -/
theorem filterM_of_forall {f : α → Except ε Bool} {l : List α} (h : ∀ a ∈ l, ∃ b, f a = .ok b) :
    l.filterM f = .ok (l.filter (passes f)) := by
  show (l.filterAuxM f [] >>= fun as => pure as.reverse) = _
  rw [filterAuxM_of_forall [] h, ok_bind, List.append_nil, List.reverse_reverse]
  rfl

theorem filterM_true {f : α → Except ε Bool} {l : List α} (h : ∀ a ∈ l, f a = .ok true) :
    l.filterM f = .ok l := by
  rw [filterM_of_forall fun a ha => ⟨true, h a ha⟩,
    List.filter_eq_self.mpr fun a ha => passes_of_eq_ok (h a ha)]

/-- **A fallible map** that succeeds: every step did. -/
theorem mapM_eq_ok {f : α → Except ε β} {l : List α} {r : List β} (h : l.mapM f = .ok r) :
    List.Forall₂ (fun a b => f a = .ok b) l r := by
  induction l generalizing r with
  | nil =>
    obtain rfl := Except.ok.inj h
    exact .nil
  | cons a l ih =>
    rw [List.mapM_cons] at h
    obtain ⟨b, hb, h⟩ := bind_eq_ok_iff.mp h
    obtain ⟨r', hr', h⟩ := bind_eq_ok_iff.mp h
    obtain rfl := Except.ok.inj h
    exact .cons hb (ih hr')

/-- A fallible map succeeds where every step does. -/
theorem mapM_of_forall₂ {f : α → Except ε β} {l : List α} {r : List β}
    (h : List.Forall₂ (fun a b => f a = .ok b) l r) : l.mapM f = .ok r := by
  induction h with
  | nil => rfl
  | cons hb _ ih => rw [List.mapM_cons, hb, ok_bind, ih, ok_bind]; rfl

end Except
