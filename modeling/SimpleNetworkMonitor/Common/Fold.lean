import Mathlib.Data.List.Basic
import Mathlib.Data.List.Forall2
/-!
# Rules for loops

A loop over a list is a fold. What it keeps is proved for one element,
with the elements already done, and those to come, at hand.
-/

namespace List

variable {α β γ : Type*} {f : β → α → β} {g : γ → α → γ} {l : List α} {b : β} {c : γ}

/-- **Two loops over one list**, step by step. -/
theorem foldl_simulation {P : List α → β → γ → Prop}
    (step : ∀ done rest b c a, l = done ++ a :: rest → P done b c → P (done ++ [a]) (f b a) (g c a))
    (h : P [] b c) : P l (l.foldl f b) (l.foldl g c) := by
  have key : ∀ (rest done : List α) (b : β) (c : γ), l = done ++ rest → P done b c →
      P (done ++ rest) (rest.foldl f b) (rest.foldl g c) := by
    intro rest
    induction rest with
    | nil => intro done b c _ hp; simpa using hp
    | cons a rest ih =>
      intro done b c hl hp
      have hnext := step done rest b c a hl hp
      simpa using ih (done ++ [a]) _ _ (by simpa using hl) hnext
  simpa using key l [] b c rfl h

/-- **One loop**: the invariant may speak of the elements done. -/
theorem foldl_invariant {P : List α → β → Prop}
    (step : ∀ done rest b a, l = done ++ a :: rest → P done b → P (done ++ [a]) (f b a))
    (h : P [] b) : P l (l.foldl f b) :=
  foldl_simulation (P := fun done b (_ : Unit) => P done b) (g := fun c _ => c) (c := ())
    (fun done rest b _ a ha hp => step done rest b a ha hp) h

/-- What a loop gives out on its way. -/
def emitted (f : β → α → β) (out : β → α → List γ) : β → List α → List γ
  | _, [] => []
  | b, a :: l => out b a ++ emitted f out (f b a) l

/-- **One loop**, with what it has given out so far at hand. -/
theorem foldl_emitted {out : β → α → List γ} {P : β → List γ → Prop} (h : P b [])
    (step : ∀ b given a, P b given → P (f b a) (given ++ out b a)) (l : List α) :
    P (l.foldl f b) (emitted f out b l) := by
  have key : ∀ (l : List α) (b : β) (given : List γ), P b given →
      P (l.foldl f b) (given ++ emitted f out b l) := by
    intro l
    induction l with
    | nil =>
      intro b given hp
      rwa [emitted, List.append_nil]
    | cons a l ih =>
      intro b given hp
      have hnext := ih _ _ (step b given a hp)
      rwa [List.append_assoc] at hnext
  exact key l b [] h

/-- An element of one list is matched in the other. -/
theorem Forall₂.exists_of_mem {R : α → β → Prop} {l : List α} {l' : List β} (h : Forall₂ R l l')
    {a : α} (ha : a ∈ l) : ∃ b ∈ l', R a b := by
  induction h with
  | nil => cases ha
  | cons hab _ ih =>
    rcases mem_cons.mp ha with rfl | ha
    · exact ⟨_, mem_cons_self, hab⟩
    · obtain ⟨b, hb, hab⟩ := ih ha
      exact ⟨b, mem_cons_of_mem _ hb, hab⟩

/-- One of two lists that match is replaced, element by element. -/
theorem Forall₂.replace_left {R : α → β → Prop} {S : α → γ → Prop} {T : γ → β → Prop}
    (h : ∀ a b c, R a b → S a c → T c b) {l : List α} {l' : List β} {l'' : List γ}
    (hR : Forall₂ R l l') (hS : Forall₂ S l l'') : Forall₂ T l'' l' := by
  induction hR generalizing l'' with
  | nil =>
    cases hS
    exact .nil
  | cons hab _ ih =>
    cases hS with
    | cons hac hrest => exact .cons (h _ _ _ hab hac) (ih hrest)

end List
