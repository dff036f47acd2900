import Mathlib.Data.List.Chain
/-!
# Chains of changes

A log of the changes of a value, each from one value to another. Where it is
a chain, the value at any time can be told from it: nothing is missing in
between, nothing is there twice, and the last change leads to what is now.
-/

namespace List

variable {α σ : Type} {source target : α → σ} {start now : σ} {l : List α} {a : α}

variable (source target start) in
/-- **A chain of changes**, from a start to what is now. -/
structure Chained (l : List α) (now : σ) : Prop where
  first : ∀ a ∈ l.head?, source a = start
  linked : l.IsChain fun a b => source b = target a
  proper : ∀ a ∈ l, source a ≠ target a
  last : now = (l.getLast?.map target).getD start

theorem chained_nil : Chained source target start [] start :=
  ⟨by simp, .nil, by simp, rfl⟩

/-- **A chain grows** by a change from what is now. -/
theorem Chained.concat (h : Chained source target start l now) (hsource : source a = now)
    (hproper : source a ≠ target a) : Chained source target start (l ++ [a]) (target a) := by
  refine ⟨fun b hb => ?_, ?_, fun b hb => ?_, by simp⟩
  · rcases l with - | ⟨c, l⟩
    · obtain rfl : a = b := by simpa using hb
      rw [hsource, h.last]
      rfl
    · exact h.first b (by simpa using hb)
  · refine isChain_append.mpr ⟨h.linked, isChain_singleton a, fun b hb c hc => ?_⟩
    obtain rfl : a = c := by simpa using hc
    have hlast : l.getLast? = some b := hb
    rw [hsource, h.last, hlast]
    rfl
  · rcases mem_append.mp hb with hb | hb
    · exact h.proper b hb
    · rwa [mem_singleton.mp hb]

end List
