import SimpleNetworkMonitor.Common.Fallible
import Mathlib.Tactic.Common
/-!
# Transactions

A transaction is a program of statements over a database. Each statement
may fail, by itself or by a fault from outside; what a transaction did
before it failed is rolled back. What a transaction does is thus said
once, by its run without faults.
-/

/-- **A program of statements** over a database `σ`, with errors `ε`. -/
inductive Txn (σ ε α : Type) : Type 1 where
  | done (a : α)
  | fail (e : ε)
  | statement {β : Type} (f : σ → Except ε (β × σ)) (next : β → Txn σ ε α)

namespace Txn

variable {σ ε α β : Type}

def bind : Txn σ ε α → (α → Txn σ ε β) → Txn σ ε β
  | done a, k => k a
  | fail e, _ => fail e
  | statement f next, k => statement f fun b => (next b).bind k

instance : Monad (Txn σ ε) where
  pure := done
  bind := bind

instance : MonadExcept ε (Txn σ ε) where
  throw := fail
  tryCatch m _ := m -- no program catches an error

/-- One statement. -/
def exec1 (f : σ → Except ε (α × σ)) : Txn σ ε α := statement f done

/-- A statement that reads. -/
def query (f : σ → α) : Txn σ ε α := exec1 fun s => .ok (f s, s)

/-- A statement that writes. -/
def update (f : σ → σ) : Txn σ ε Unit := exec1 fun s => .ok ((), f s)

/-- A computation beside the database. -/
def ofExcept : Except ε α → Txn σ ε α
  | .ok a => done a
  | .error e => fail e

/-! ## Running -/

/-- The run against a schedule of faults: a statement fails where the
schedule says so, and past its end none does. -/
def run : Txn σ ε α → List (Option ε) → σ → Except ε (α × σ)
  | done a, _, s => .ok (a, s)
  | fail e, _, _ => .error e
  | statement f next, faults, s =>
    match faults.headD none, f s with
    | some e, _ => .error e
    | none, .error e => .error e
    | none, .ok (b, s) => (next b).run faults.tail s

/-- The run without faults. -/
def exec (m : Txn σ ε α) (s : σ) : Except ε (α × σ) := m.run [] s

/-- **What a program does, it does without faults too.** -/
theorem exec_of_run {m : Txn σ ε α} {faults : List (Option ε)} {s : σ} {r : α × σ}
    (h : m.run faults s = .ok r) : m.exec s = .ok r := by
  induction m generalizing faults s with
  | done a => exact h
  | fail e => exact h
  | statement f next ih =>
    simp only [run] at h
    rcases hfault : faults.headD none with - | e
    · rcases hf : f s with e | ⟨b, s'⟩
      · simp only [hfault, hf] at h
        cases h
      · simp only [hfault, hf] at h
        simp only [exec, run, hf, List.headD_nil, List.tail_nil]
        exact ih b h
    · simp only [hfault] at h
      cases h

/-- **A program that succeeds by itself** fails only where a fault is
scheduled. -/
theorem run_of_exec {m : Txn σ ε α} (faults : List (Option ε)) {s : σ} {r : α × σ}
    (h : m.exec s = .ok r) :
    m.run faults s = .ok r ∨ ∃ e, some e ∈ faults ∧ m.run faults s = .error e := by
  induction m generalizing faults s with
  | done a => exact Or.inl h
  | fail e => cases h
  | statement f next ih =>
    simp only [exec, run, List.headD_nil, List.tail_nil] at h
    rcases hf : f s with e | ⟨b, s'⟩
    · rw [hf] at h
      cases h
    · rw [hf] at h
      rcases faults with - | ⟨- | e, faults⟩
      · exact Or.inl (by simpa only [run, List.headD_nil, List.tail_nil, hf] using h)
      · simp only [run, List.headD_cons, List.tail_cons, hf]
        exact (ih b faults h).imp_right fun ⟨e, he, hrun⟩ => ⟨e, List.mem_cons_of_mem _ he, hrun⟩
      · exact Or.inr ⟨e, List.mem_cons_self, rfl⟩

/-- **A program that fails** does so where a fault is scheduled, or by itself. -/
theorem exec_of_run_error {m : Txn σ ε α} {faults : List (Option ε)} {s : σ} {e : ε}
    (h : m.run faults s = .error e) : some e ∈ faults ∨ m.exec s = .error e := by
  induction m generalizing faults s with
  | done a => cases h
  | fail e => exact Or.inr h
  | statement f next ih =>
    rcases faults with - | ⟨- | e', faults⟩
    · exact Or.inr h
    · rcases hf : f s with e' | ⟨b, s'⟩ <;>
        simp only [exec, run, List.headD_cons, List.headD_nil, List.tail_cons, List.tail_nil, hf] at h ⊢
      · exact Or.inr h
      · exact (ih b h).imp_left (List.mem_cons_of_mem _)
    · obtain rfl := Except.error.inj h
      exact Or.inl List.mem_cons_self

section Exec

variable (s : σ)

@[simp] theorem exec_pure (a : α) : (pure a : Txn σ ε α).exec s = .ok (a, s) := rfl

@[simp] theorem exec_throw (e : ε) : (throw e : Txn σ ε α).exec s = .error e := rfl

@[simp] theorem exec_exec1 (f : σ → Except ε (α × σ)) : (exec1 f).exec s = f s := by
  simp only [exec, exec1, run, List.headD_nil]
  rcases f s with e | ⟨b, s'⟩ <;> rfl

@[simp] theorem exec_query (f : σ → α) : (query f : Txn σ ε α).exec s = .ok (f s, s) := by
  simp [query]

@[simp] theorem exec_update (f : σ → σ) : (update f : Txn σ ε Unit).exec s = .ok ((), f s) := by
  simp [update]

@[simp] theorem exec_ofExcept (x : Except ε α) :
    (ofExcept x : Txn σ ε α).exec s = x.map (·, s) := by
  cases x <;> rfl

theorem exec_bind (m : Txn σ ε α) (k : α → Txn σ ε β) :
    (m >>= k).exec s = m.exec s >>= fun r => (k r.1).exec r.2 := by
  induction m generalizing s with
  | done a => rfl
  | fail e => rfl
  | statement f next ih =>
    show (statement f fun b => (next b).bind k).exec s = _
    simp only [exec, run, List.headD_nil, List.tail_nil]
    rcases f s with e | ⟨b, s'⟩
    · rfl
    · exact ih b s'

end Exec

/-- A sequence succeeds where both of its programs do. -/
theorem exec_bind_eq_ok {m : Txn σ ε α} {k : α → Txn σ ε β} {s : σ} {r : β × σ} :
    (m >>= k).exec s = .ok r ↔ ∃ a s', m.exec s = .ok (a, s') ∧ (k a).exec s' = .ok r := by
  rw [exec_bind, Except.bind_eq_ok_iff, Prod.exists]

/-! ## Loops -/

theorem exec_forM_nil (f : α → Txn σ ε PUnit) (s : σ) :
    (([] : List α).forM f).exec s = .ok (⟨⟩, s) := rfl

theorem exec_forM_cons (a : α) (l : List α) (f : α → Txn σ ε PUnit) (s : σ) :
    ((a :: l).forM f).exec s = (f a).exec s >>= fun r => (l.forM f).exec r.2 := by
  show (f a >>= fun _ => l.forM f).exec s = _
  rw [exec_bind]

/-- **A loop keeps** what each of its passes keeps. -/
theorem exec_forM_induction {f : α → Txn σ ε PUnit} {P : σ → Prop} {l : List α}
    (step : ∀ a ∈ l, ∀ s s', (f a).exec s = .ok (⟨⟩, s') → P s → P s') :
    ∀ {s s'}, (l.forM f).exec s = .ok (⟨⟩, s') → P s → P s' := by
  induction l with
  | nil =>
    intro s s' h hs
    cases h
    exact hs
  | cons a l ih =>
    intro s s' h hs
    rw [exec_forM_cons, Except.bind_eq_ok_iff] at h
    obtain ⟨⟨⟨⟩, s₁⟩, h₁, h₂⟩ := h
    exact ih (fun b hb => step b (List.mem_cons_of_mem a hb)) h₂
      (step a List.mem_cons_self s s₁ h₁ hs)

/-- **A loop succeeds** where each of its passes does, from what the passes
before it left. -/
theorem exec_forM_total {f : α → Txn σ ε PUnit} {P : List α → σ → Prop} {l : List α}
    (step : ∀ done a rest s, l = done ++ a :: rest → P done s →
      ∃ s', (f a).exec s = .ok (⟨⟩, s') ∧ P (done ++ [a]) s') {s : σ} (h : P [] s) :
    ∃ s', (l.forM f).exec s = .ok (⟨⟩, s') ∧ P l s' := by
  have key : ∀ (rest done : List α) (s : σ), l = done ++ rest → P done s →
      ∃ s', (rest.forM f).exec s = .ok (⟨⟩, s') ∧ P l s' := by
    intro rest
    induction rest with
    | nil =>
      intro done s hl hs
      rw [List.append_nil] at hl
      exact ⟨s, exec_forM_nil f s, hl ▸ hs⟩
    | cons a rest ih =>
      intro done s hl hs
      obtain ⟨s₁, h₁, hs₁⟩ := step done a rest s hl hs
      obtain ⟨s', h', hs'⟩ := ih (done ++ [a]) s₁ (by rw [hl, List.append_assoc]; rfl) hs₁
      refine ⟨s', ?_, hs'⟩
      rw [exec_forM_cons, h₁]
      exact h'
  exact key l [] s rfl h

/-- **A loop collects** what each of its passes adds. -/
theorem exec_forM_collects {ρ : Type} {f : α → Txn σ ε PUnit} {R : σ → ρ → Prop}
    {N : α → ρ → Prop} {l : List α}
    (step : ∀ a ∈ l, ∀ s s', (f a).exec s = .ok (⟨⟩, s') → ∀ r, R s' r ↔ R s r ∨ N a r) :
    ∀ {s s'}, (l.forM f).exec s = .ok (⟨⟩, s') → ∀ r, R s' r ↔ R s r ∨ ∃ a ∈ l, N a r := by
  induction l with
  | nil =>
    intro s s' h r
    cases h
    simp
  | cons a l ih =>
    intro s s' h r
    rw [exec_forM_cons, Except.bind_eq_ok_iff] at h
    obtain ⟨⟨⟨⟩, s₁⟩, h₁, h₂⟩ := h
    rw [ih (fun b hb => step b (List.mem_cons_of_mem a hb)) h₂ r,
      step a List.mem_cons_self s s₁ h₁ r]
    simp [or_assoc]

/-! ## All or nothing -/

/-- `BEGIN`, the statements, `COMMIT`. -/
def bracket (m : Txn σ ε α) : Txn σ ε α := do
  update id
  let a ← m
  update id
  pure a

/-- **A transaction.** The statements take effect where all of them and the
commit succeed; otherwise the database is rolled back. -/
def transact (m : Txn σ ε α) (faults : List (Option ε)) (s : σ) : Except ε α × σ :=
  match m.bracket.run faults s with
  | .ok (a, s') => (.ok a, s')
  | .error e => (.error e, s)

theorem exec_bracket (m : Txn σ ε α) (s : σ) : m.bracket.exec s = m.exec s := by
  simp only [bracket, exec_bind, exec_update, exec_pure]
  show (m.exec s >>= fun r => _) = _
  rcases m.exec s with e | ⟨a, s'⟩ <;> rfl

/-- **All or nothing.** -/
theorem transact_cases (m : Txn σ ε α) (faults : List (Option ε)) (s : σ) :
    (∃ e, m.transact faults s = (.error e, s)) ∨
      ∃ a s', m.exec s = .ok (a, s') ∧ m.transact faults s = (.ok a, s') := by
  unfold transact
  rcases h : m.bracket.run faults s with e | ⟨a, s'⟩
  · exact Or.inl ⟨e, rfl⟩
  · exact Or.inr ⟨a, s', by rw [← exec_bracket]; exact exec_of_run h, rfl⟩

/-- A transaction whose statements succeed commits, or a fault was scheduled. -/
theorem transact_of_exec {m : Txn σ ε α} (faults : List (Option ε)) {s s' : σ} {a : α}
    (h : m.exec s = .ok (a, s')) :
    m.transact faults s = (.ok a, s') ∨
      ∃ e, some e ∈ faults ∧ m.transact faults s = (.error e, s) := by
  unfold transact
  rcases run_of_exec faults ((exec_bracket m s).trans h) with hrun | ⟨e, he, hrun⟩
  · exact Or.inl (by rw [hrun])
  · exact Or.inr ⟨e, he, by rw [hrun]⟩

/-- A transaction fails as its statements do, but for the faults. -/
theorem exec_of_transact_error {m : Txn σ ε α} {faults : List (Option ε)} {s s' : σ} {e : ε}
    (h : m.transact faults s = (.error e, s')) : some e ∈ faults ∨ m.exec s = .error e := by
  unfold transact at h
  rcases hrun : m.bracket.run faults s with e' | ⟨a, s''⟩ <;> simp only [hrun] at h
  · obtain rfl := Except.error.inj (Prod.mk.inj h).1
    rw [← exec_bracket]
    exact exec_of_run_error hrun
  · cases h

/-- A transaction whose statements succeed commits where there is no fault. -/
theorem transact_nil {m : Txn σ ε α} {s s' : σ} {a : α} (h : m.exec s = .ok (a, s')) :
    m.transact [] s = (.ok a, s') := by
  have hb : m.bracket.run [] s = .ok (a, s') := by
    rw [← h, ← exec_bracket]
    rfl
  simp only [transact, hb]

end Txn
