import Mathlib.Data.List.Basic
import Mathlib.Data.List.Induction
/-!
# Registers that stand for something

A register holds the last value written to it, for as long as it stands for
what it stood for then. What it stands for is declared, again and again; a
declaration that changes it clears it.
-/

namespace SimpleNetworkMonitor

inductive RegisterEvent (τ α : Type) where
  | write (value : α)
  | stands (tag : Option τ)
  deriving DecidableEq

/-- **A register**: what it stands for, and what it holds. -/
structure Register (τ α : Type) where
  tag : Option τ := none
  value : Option α := none

namespace Register

variable {τ α : Type} [DecidableEq τ] {events : List (RegisterEvent τ α)} {v : α}

/-- A write to a register that stands for nothing is lost. -/
def step (r : Register τ α) : RegisterEvent τ α → Register τ α
  | .write value => { r with value := r.tag.map fun _ => value }
  | .stands tag => { tag, value := if r.tag = tag then r.value else none }

def run (events : List (RegisterEvent τ α)) : Register τ α := events.foldl step {}

@[simp] theorem run_nil : run ([] : List (RegisterEvent τ α)) = {} := rfl

@[simp] theorem run_append (events : List (RegisterEvent τ α)) (event : RegisterEvent τ α) :
    run (events ++ [event]) = (run events).step event := by
  rw [run, List.foldl_append]
  rfl

/-- **A value is held**: it was written, the register stood for something
then, and nothing but the same was declared since. -/
def Holds (events : List (RegisterEvent τ α)) (v : α) : Prop :=
  ∃ before later tag, events = before ++ .write v :: later ∧ (run before).tag = some tag ∧
    ∀ event ∈ later, event = .stands (some tag)

/-- What was held when nothing else is declared since still is what the
register stands for. -/
theorem tag_of_later {tag : τ} {before later : List (RegisterEvent τ α)}
    (hbefore : (run before).tag = some tag) (hlater : ∀ event ∈ later, event = .stands (some tag)) :
    (run (before ++ .write v :: later)).tag = some tag := by
  induction later using List.reverseRecOn with
  | nil => rw [run_append, step, hbefore]
  | append_singleton later event ih =>
    obtain rfl := hlater event (by simp)
    rw [← List.cons_append, ← List.append_assoc, run_append]
    rfl

theorem tag_of_holds (h : Holds events v) : ∃ tag, (run events).tag = some tag := by
  obtain ⟨before, later, tag, rfl, hbefore, hlater⟩ := h
  exact ⟨tag, tag_of_later hbefore hlater⟩

theorem not_holds_nil : ¬ Holds ([] : List (RegisterEvent τ α)) v := by
  rintro ⟨before, later, tag, h, -, -⟩
  simp at h

/-- What is written last is held, where the register stands for something. -/
theorem holds_write {w : α} :
    Holds (events ++ [.write w]) v ↔ (∃ tag, (run events).tag = some tag) ∧ w = v := by
  constructor
  · rintro ⟨before, later, tag, heq, hbefore, hlater⟩
    rcases List.eq_nil_or_concat' later with rfl | ⟨later, event, rfl⟩
    · obtain ⟨rfl, hw⟩ := List.append_inj' heq rfl
      simp only [List.cons.injEq, RegisterEvent.write.injEq, and_true] at hw
      exact ⟨⟨tag, hbefore⟩, hw⟩
    · -- the last event is a write, and no declaration
      rw [← List.cons_append, ← List.append_assoc] at heq
      obtain ⟨-, hlast⟩ := List.append_inj' heq rfl
      obtain rfl := (List.cons.inj hlast).1
      have := hlater (.write w) (by simp)
      cases this
  · rintro ⟨⟨tag, htag⟩, rfl⟩
    exact ⟨events, [], tag, rfl, htag, fun _ h => (by cases h)⟩

/-- A declaration keeps what was held for the same. -/
theorem holds_stands {tag : Option τ} :
    Holds (events ++ [.stands tag]) v ↔ Holds events v ∧ (run events).tag = tag := by
  constructor
  · rintro ⟨before, later, tag', heq, hbefore, hlater⟩
    rcases List.eq_nil_or_concat' later with rfl | ⟨later, event, rfl⟩
    · obtain ⟨-, hw⟩ := List.append_inj' heq rfl
      cases (List.cons.inj hw).1
    · rw [← List.cons_append, ← List.append_assoc] at heq
      obtain ⟨rfl, hlast⟩ := List.append_inj' heq rfl
      obtain rfl := (List.cons.inj hlast).1
      obtain rfl := RegisterEvent.stands.inj (hlater (.stands tag) (by simp))
      have hlater' : ∀ event ∈ later, event = .stands (some tag') := fun event hevent =>
        hlater event (List.mem_append_left _ hevent)
      exact ⟨⟨before, later, tag', rfl, hbefore, hlater'⟩, tag_of_later hbefore hlater'⟩
  · rintro ⟨⟨before, later, tag', rfl, hbefore, hlater⟩, rfl⟩
    rw [tag_of_later hbefore hlater]
    refine ⟨before, later ++ [.stands (some tag')], tag', by simp, hbefore, fun event hevent => ?_⟩
    rcases List.mem_append.mp hevent with hevent | hevent
    · exact hlater event hevent
    · exact List.mem_singleton.mp hevent

/-- **The register holds what the events say.** -/
theorem run_value_eq_some : (run events).value = some v ↔ Holds events v := by
  induction events using List.reverseRecOn with
  | nil => simp [not_holds_nil]
  | append_singleton events event ih =>
    rw [run_append]
    cases event with
    | write w =>
      rw [holds_write, step, Option.map_eq_some_iff]
      constructor
      · rintro ⟨tag, htag, rfl⟩
        exact ⟨⟨tag, htag⟩, rfl⟩
      · rintro ⟨⟨tag, htag⟩, rfl⟩
        exact ⟨tag, htag, rfl⟩
    | stands tag =>
      rw [holds_stands, ← ih, step]
      split_ifs with htag
      · simp [htag]
      · simp [htag]

/-- A register that stands for nothing holds nothing. -/
theorem value_eq_none (h : (run events).tag = none) : (run events).value = none := by
  refine Option.eq_none_iff_forall_ne_some.mpr fun v hv => ?_
  obtain ⟨tag, htag⟩ := tag_of_holds (run_value_eq_some.mp hv)
  rw [h] at htag
  cases htag

/-- A write changes nothing of what a register stands for. -/
theorem tag_write (r : Register τ α) (value : α) : (r.step (.write value)).tag = r.tag := rfl

theorem tag_stands (r : Register τ α) (tag : Option τ) : (r.step (.stands tag)).tag = tag := rfl

/-- A register that stands for something takes a write. -/
theorem value_write {r : Register τ α} {tag : τ} (h : r.tag = some tag) (value : α) :
    (r.step (.write value)).value = some value := by
  rw [step, h]
  rfl

end Register

end SimpleNetworkMonitor
