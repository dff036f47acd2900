import SimpleNetworkMonitor.Common.Table
import Mathlib.Data.List.MinMax
import Mathlib.Data.List.TakeWhile
import Mathlib.Data.Prod.Lex
/-!
# Queues

A table read in the order of a key is a queue: a query serves the first of
the rows it accepts. Something that waits in a queue is overtaken by each of
the others at most once, where whatever is served is behind it from then on.
-/

namespace Table

variable {κ α : Type} [LinearOrder κ]

/-- The order of rows by a key, then by their own, as a computation decides
it. -/
instance orderByKey : Preorder (ℤ ×ₗ κ) :=
  (@Prod.Lex.instLinearOrder ℤ κ Int.instLinearOrder _).toPreorder

/-- **The first row** a query accepts: `ORDER BY key, id LIMIT 1`. -/
def firstBy? (t : Table κ α) (key : α → ℤ) (p : α → Bool) : Option (κ × α) :=
  (t.rows.filter fun r => p r.2).argmin fun r => toLex (key r.2, r.1)

variable {t : Table κ α} {key : α → ℤ} {p : α → Bool} {r : κ × α}

theorem firstBy?_eq_none : t.firstBy? key p = none ↔ ∀ r ∈ t.rows, p r.2 = false := by
  simp [firstBy?, List.argmin_eq_none]

theorem mem_of_firstBy? (h : t.firstBy? key p = some r) : r ∈ t.rows ∧ p r.2 = true :=
  List.mem_filter.mp (List.argmin_mem h)

/-- No accepted row comes before the first one. -/
theorem key_le_of_firstBy? (h : t.firstBy? key p = some r) {r' : κ × α} (hr' : r' ∈ t.rows)
    (hp : p r'.2 = true) : key r.2 ≤ key r'.2 := by
  have hle := List.le_of_mem_argmin (f := fun r : κ × α => toLex (key r.2, r.1))
    (List.mem_filter.mpr ⟨hr', hp⟩) h
  rcases Prod.Lex.toLex_le_toLex.mp hle with hlt | ⟨heq, -⟩
  · exact le_of_lt hlt
  · exact le_of_eq heq

end Table

namespace Waiting

variable {σ α κ : Type*} (apply : α → σ → σ) (serves : α → σ → Option κ)

/-- What the steps of a run serve, in their order. -/
def served : List α → σ → List κ
  | [], _ => []
  | a :: as, s => (serves a s).toList ++ served as (apply a s)

variable {apply serves} {as : List α} {s : σ} {w : κ} {Waits : σ → Prop} {Passed : σ → κ → Prop}

/-- **Nobody overtakes twice.** While `w` waits, nothing that has passed it
is served, and what is served has passed it; so up to where `w` is served
itself, nothing is served twice. -/
theorem nodup_served [DecidableEq κ]
    (step : ∀ a ∈ as, ∀ s, Waits s → serves a s ≠ some w → Waits (apply a s) ∧
      (∀ k, Passed s k → Passed (apply a s) k) ∧
      ∀ k, serves a s = some k → ¬ Passed s k ∧ Passed (apply a s) k)
    (h : Waits s) : ((served apply serves as s).takeWhile (· ≠ w)).Nodup := by
  suffices key : ∀ (as' : List α) (s : σ), (∀ a ∈ as', a ∈ as) → Waits s →
      ((served apply serves as' s).takeWhile (· ≠ w)).Nodup ∧
        ∀ k ∈ (served apply serves as' s).takeWhile (· ≠ w), ¬ Passed s k from
    (key as s (fun _ h => h) h).1
  intro as'
  induction as' with
  | nil => exact fun s _ _ => ⟨List.nodup_nil, fun k hk => absurd hk List.not_mem_nil⟩
  | cons a as' ih =>
    intro s hsub hs
    rw [served]
    by_cases hw : serves a s = some w
    · simp [hw]
    · obtain ⟨hwaits, hkept, hpassed⟩ := step a (hsub a List.mem_cons_self) s hs hw
      obtain ⟨hnodup, hnew⟩ := ih _ (fun b hb => hsub b (List.mem_cons_of_mem a hb)) hwaits
      rcases hserves : serves a s with - | k
      · exact ⟨hnodup, fun k hk hold => hnew k hk (hkept k hold)⟩
      · have hne : k ≠ w := fun heq => hw (heq ▸ hserves)
        obtain ⟨hfresh, hbehind⟩ := hpassed k hserves
        rw [Option.toList_some, List.singleton_append,
          List.takeWhile_cons_of_pos (by simpa using hne)]
        refine ⟨List.nodup_cons.mpr ⟨fun hmem => hnew k hmem hbehind, hnodup⟩, fun j hj => ?_⟩
        rcases List.mem_cons.mp hj with rfl | hj
        · exact hfresh
        · exact fun hold => hnew j hj (hkept j hold)

/-- Until it is served, it waits. -/
theorem waits_of_not_served
    (step : ∀ a ∈ as, ∀ s, Waits s → serves a s ≠ some w → Waits (apply a s))
    (h : Waits s) (hw : w ∉ served apply serves as s) :
    Waits (as.foldl (fun s a => apply a s) s) := by
  induction as generalizing s with
  | nil => exact h
  | cons a as ih =>
    rw [served, List.mem_append, not_or, Option.mem_toList] at hw
    exact ih (fun b hb => step b (List.mem_cons_of_mem a hb))
      (step a List.mem_cons_self s h hw.1) hw.2

end Waiting
