import Mathlib.Algebra.Order.BigOperators.Group.List
import Mathlib.Data.List.Nodup
import Mathlib.Tactic.Common
import Mathlib.Tactic.Ring
/-!
# Fair semaphores

Permits are granted in the order in which they were asked for: one that is
returned goes to who has waited longest. Clients that ask with a time of
their own are never overtaken, and where every permit comes back in time the
wait is bounded by what is ahead.
-/

namespace Semaphore

/-- **Who waits**, and since when. -/
structure Waiter (α : Type*) where
  client : α
  asked : ℕ
  deriving DecidableEq

/-- **Who has a permit**, and since when. -/
structure Holder (α : Type*) extends Waiter α where
  granted : ℕ
  deriving DecidableEq

end Semaphore

/-- **A semaphore**, by the documented behaviour of an asynchronous runtime's:
the permits that are free, and the clients of the others and those in line. -/
structure Semaphore (α : Type*) where
  permits : ℕ
  holders : List (Semaphore.Holder α) := []
  waiters : List (Semaphore.Waiter α) := []
  deriving DecidableEq

namespace Semaphore

variable {α : Type*}

/-! ## Operations -/

/-- Who asks has a permit at once, or is the last in line. -/
def acquire (client : α) (now : ℕ) (s : Semaphore α) : Semaphore α :=
  if 0 < s.permits then
    { s with permits := s.permits - 1, holders := s.holders ++ [⟨⟨client, now⟩, now⟩] }
  else { s with waiters := s.waiters ++ [⟨client, now⟩] }

/-- Who tries has a permit at once, or does without. -/
def tryAcquire (client : α) (now : ℕ) (s : Semaphore α) : Option (Semaphore α) :=
  if 0 < s.permits then some (s.acquire client now) else none

/-- A permit comes back. -/
def give (now : ℕ) (s : Semaphore α) : Semaphore α :=
  match s.waiters with
  | [] => { s with permits := s.permits + 1 }
  | next :: waiters => { s with holders := s.holders ++ [⟨next, now⟩], waiters }

section Clients

variable [DecidableEq α]

/-- A client returns its permit, if it has one. -/
def release (client : α) (now : ℕ) (s : Semaphore α) : Semaphore α :=
  if s.holders.any (·.client = client) then
    give now { s with holders := s.holders.eraseP (·.client = client) }
  else s

/-- A client leaves the line, or returns its permit. -/
def leave (client : α) (now : ℕ) (s : Semaphore α) : Semaphore α :=
  release client now { s with waiters := s.waiters.filter (·.client ≠ client) }

def holds (client : α) (s : Semaphore α) : Bool := s.holders.any (·.client = client)

end Clients

/-- The clients of a semaphore, with a permit or without. -/
def clients (s : Semaphore α) : List α := s.holders.map (·.client) ++ s.waiters.map (·.client)

/-! ## Permits -/

/-- **A semaphore of a capacity.** No permit is lost and none is made, nobody
waits while one is free, and nobody asks twice. -/
structure Sound (capacity : ℕ) (s : Semaphore α) : Prop where
  total : s.permits + s.holders.length = capacity
  busy : s.waiters ≠ [] → s.permits = 0
  nodup : s.clients.Nodup

variable {capacity now : ℕ} {client : α} {s : Semaphore α}

theorem sound_start (capacity : ℕ) : Sound capacity ({ permits := capacity } : Semaphore α) :=
  ⟨rfl, fun h => absurd rfl h, List.nodup_nil⟩

theorem Sound.length_holders_le (h : Sound capacity s) : s.holders.length ≤ capacity := by
  have := h.total
  omega

/-- While somebody waits, all permits are out. -/
theorem Sound.length_holders (h : Sound capacity s) (hwaiters : s.waiters ≠ []) :
    s.holders.length = capacity := by
  have := h.total
  have := h.busy hwaiters
  omega

/-- Who has a permit is not in line. -/
theorem Sound.ne_of_mem (h : Sound capacity s) {holder : Holder α} (hholder : holder ∈ s.holders)
    {w : Waiter α} (hw : w ∈ s.waiters) : w.client ≠ holder.client := fun heq =>
  (List.nodup_append.mp h.nodup).2.2 _ (List.mem_map_of_mem hholder) _ (List.mem_map_of_mem hw)
    heq.symm

theorem holds_iff [DecidableEq α] : s.holds client = true ↔ ∃ h ∈ s.holders, h.client = client := by
  simp [holds]

theorem length_clients (s : Semaphore α) : s.clients.length = s.holders.length + s.waiters.length := by
  simp [clients]

/-- **Giving a permit back** to who is first in line keeps the clients. -/
theorem give_cases (now : ℕ) (s : Semaphore α) :
    (s.waiters = [] ∧ s.give now = { s with permits := s.permits + 1 }) ∨
      ∃ next waiters, s.waiters = next :: waiters ∧
        s.give now = { s with holders := s.holders ++ [⟨next, now⟩], waiters } := by
  unfold give
  rcases hw : s.waiters with - | ⟨next, waiters⟩
  · exact Or.inl ⟨rfl, rfl⟩
  · exact Or.inr ⟨next, waiters, rfl, rfl⟩

theorem clients_give (now : ℕ) (s : Semaphore α) : (s.give now).clients = s.clients := by
  rcases give_cases now s with ⟨-, heq⟩ | ⟨next, waiters, hw, heq⟩ <;> rw [heq]
  · rfl
  · simp [clients, hw]

theorem sound_give (htotal : s.permits + s.holders.length + 1 = capacity)
    (hbusy : s.waiters ≠ [] → s.permits = 0) (hnodup : s.clients.Nodup) :
    Sound capacity (s.give now) := by
  refine ⟨?_, ?_, clients_give now s ▸ hnodup⟩
  · rcases give_cases now s with ⟨-, heq⟩ | ⟨next, waiters, -, heq⟩ <;> rw [heq]
    · show s.permits + 1 + s.holders.length = capacity
      omega
    · rw [List.length_append, List.length_singleton]
      omega
  · rcases give_cases now s with ⟨hw, heq⟩ | ⟨next, waiters, hw, heq⟩ <;> rw [heq]
    · exact fun hne => absurd hw hne
    · exact fun _ => hbusy (by rw [hw]; exact List.cons_ne_nil _ _)

theorem sound_acquire (h : Sound capacity s) (hclient : client ∉ s.clients) :
    Sound capacity (s.acquire client now) := by
  obtain ⟨htotal, hbusy, hnodup⟩ := h
  unfold acquire
  split_ifs with hfree
  · have hnil : s.waiters = [] := by
      by_contra hne
      have := hbusy hne
      omega
    refine ⟨?_, fun hne => absurd hnil hne, ?_⟩
    · simp only [List.length_append, List.length_singleton]
      omega
    · simp only [clients, hnil, List.map_nil, List.append_nil, List.map_append, List.map_cons]
        at hnodup hclient ⊢
      exact hnodup.append (List.nodup_singleton _) (by simpa using hclient)
  · refine ⟨htotal, fun _ => by simpa using hfree, ?_⟩
    simp only [clients, List.map_append, List.map_cons, List.map_nil, ← List.append_assoc]
      at hnodup hclient ⊢
    exact hnodup.append (List.nodup_singleton _) (by simpa using hclient)

section

variable [DecidableEq α]

/-- **A client returns its permit**, if it has one. -/
theorem release_cases (client : α) (now : ℕ) (s : Semaphore α) :
    ((∀ h ∈ s.holders, h.client ≠ client) ∧ s.release client now = s) ∨
      ∃ l h l', s.holders = l ++ h :: l' ∧ h.client = client ∧
        s.release client now = give now { s with holders := l ++ l' } := by
  unfold release
  split_ifs with hany
  · obtain ⟨h, hmem, hclient⟩ := List.any_eq_true.mp hany
    obtain ⟨h', l, l', -, hclient', heq, herase⟩ :=
      List.exists_of_eraseP (p := fun h => decide (h.client = client)) hmem hclient
    exact Or.inr ⟨l, h', l', heq, of_decide_eq_true hclient', by rw [herase]⟩
  · refine Or.inl ⟨fun h hmem heq => hany ?_, rfl⟩
    exact List.any_eq_true.mpr ⟨h, hmem, decide_eq_true heq⟩

theorem sound_release (h : Sound capacity s) : Sound capacity (s.release client now) := by
  rcases release_cases client now s with ⟨-, heq⟩ | ⟨l, holder, l', heq, -, hrelease⟩
  · rwa [heq]
  · rw [hrelease]
    have htotal := h.total
    rw [heq, List.length_append, List.length_cons] at htotal
    refine sound_give ?_ h.busy (h.nodup.sublist ?_)
    · rw [List.length_append]
      omega
    · refine List.Sublist.append (List.Sublist.map _ ?_) (List.Sublist.refl _)
      rw [heq]
      exact (List.sublist_cons_self holder l').append_left l

/-- Where nobody is in line, a permit that comes back is free. -/
theorem release_of_unqueued (hwaiters : s.waiters = [])
    (hholder : ∃ h ∈ s.holders, h.client = client) :
    s.release client now =
      { s with
        permits := s.permits + 1
        holders := s.holders.eraseP (·.client = client) } := by
  have hany : s.holders.any (·.client = client) = true := by simpa using hholder
  rw [release, if_pos hany]
  simp only [give, hwaiters]

theorem map_client_eraseP (holders : List (Holder α)) (client : α) :
    (holders.eraseP (·.client = client)).map (·.client) =
      (holders.map (·.client)).erase client := by
  rw [List.erase_eq_eraseP, List.eraseP_map]
  refine congrArg _ (congrFun (congrArg _ (funext fun holder => ?_)) _)
  simp only [Function.comp_apply, beq_eq_decide, eq_comm]

end

theorem Sound.quit (h : Sound capacity s) (p : Waiter α → Bool) :
    Sound capacity { s with waiters := s.waiters.filter p } := by
  refine ⟨h.total, fun hne => h.busy fun hnil => hne ?_, h.nodup.sublist ?_⟩
  · simp only [hnil, List.filter_nil]
  · exact List.Sublist.append (List.Sublist.refl _) (List.filter_sublist.map _)

/-- **Who leaves** takes no permit along. -/
theorem sound_leave [DecidableEq α] (h : Sound capacity s) :
    Sound capacity (s.leave client now) :=
  sound_release (h.quit _)

/-! ## Clients -/

theorem mem_clients : client ∈ s.clients ↔
    (∃ h ∈ s.holders, h.client = client) ∨ ∃ w ∈ s.waiters, w.client = client := by
  simp [clients]

theorem mem_clients_acquire {x : α} :
    x ∈ (s.acquire client now).clients ↔ x ∈ s.clients ∨ x = client := by
  unfold acquire
  split_ifs <;> simp only [clients, List.map_append, List.mem_append, List.map_cons, List.map_nil,
    List.mem_singleton] <;> tauto

theorem mem_holders_acquire {h : Holder α} (hmem : h ∈ (s.acquire client now).holders) :
    h ∈ s.holders ∨ h = ⟨⟨client, now⟩, now⟩ := by
  unfold acquire at hmem
  split_ifs at hmem
  · simpa using hmem
  · exact Or.inl hmem

theorem mem_waiters_acquire {w : Waiter α} (hmem : w ∈ (s.acquire client now).waiters) :
    w ∈ s.waiters ∨ w = ⟨client, now⟩ := by
  unfold acquire at hmem
  split_ifs at hmem
  · exact Or.inl hmem
  · simpa using hmem

theorem mem_holders_acquire_of_mem {h : Holder α} (hmem : h ∈ s.holders) :
    h ∈ (s.acquire client now).holders := by
  unfold acquire
  split_ifs
  · exact List.mem_append_left _ hmem
  · exact hmem

theorem mem_waiters_give {w : Waiter α} (hmem : w ∈ (s.give now).waiters) : w ∈ s.waiters := by
  rcases give_cases now s with ⟨-, heq⟩ | ⟨next, waiters, hw, heq⟩ <;> rw [heq] at hmem
  · exact hmem
  · rw [hw]
    exact List.mem_cons_of_mem _ hmem

/-- Who has a permit had it before, or was in line. -/
theorem mem_holders_give {h : Holder α} (hmem : h ∈ (s.give now).holders) :
    h ∈ s.holders ∨ h.toWaiter ∈ s.waiters ∧ h.granted = now := by
  rcases give_cases now s with ⟨-, heq⟩ | ⟨next, waiters, hw, heq⟩ <;> rw [heq] at hmem
  · exact Or.inl hmem
  · rcases List.mem_append.mp hmem with hmem | hmem
    · exact Or.inl hmem
    · obtain rfl := List.mem_singleton.mp hmem
      exact Or.inr ⟨hw ▸ List.mem_cons_self, rfl⟩

section

variable [DecidableEq α]

theorem mem_waiters_leave {w : Waiter α} (hmem : w ∈ (s.leave client now).waiters) :
    w ∈ s.waiters ∧ w.client ≠ client := by
  have hleft : w ∈ s.waiters.filter (·.client ≠ client) := by
    rcases release_cases client now { s with waiters := s.waiters.filter (·.client ≠ client) } with
      ⟨-, heq⟩ | ⟨l, holder, l', -, -, hrelease⟩
    · rwa [leave, heq] at hmem
    · rw [leave, hrelease] at hmem
      exact mem_waiters_give hmem
  simpa using hleft

/-- **Who leaves** has no permit any more, and whoever has one had it or was
in line. -/
theorem mem_holders_leave (hsound : Sound capacity s) {h : Holder α}
    (hmem : h ∈ (s.leave client now).holders) :
    h.client ≠ client ∧ (h ∈ s.holders ∨ h.toWaiter ∈ s.waiters ∧ h.granted = now) := by
  rcases release_cases client now { s with waiters := s.waiters.filter (·.client ≠ client) } with
    ⟨hnone, heq⟩ | ⟨l, holder, l', hholders, hclient, hrelease⟩
  · rw [leave, heq] at hmem
    exact ⟨hnone h hmem, Or.inl hmem⟩
  · rw [leave, hrelease] at hmem
    rcases mem_holders_give hmem with hmem | ⟨hmem, hgranted⟩
    · have hsplit : s.holders = l ++ holder :: l' := hholders
      refine ⟨fun heq => ?_, Or.inl ?_⟩
      · -- no client has two permits
        have hnodup := (List.nodup_append.mp hsound.nodup).1
        rw [hsplit, List.map_append, List.map_cons, List.nodup_middle] at hnodup
        refine (List.nodup_cons.mp hnodup).1 ?_
        rw [← List.map_append, hclient, ← heq]
        exact List.mem_map_of_mem hmem
      · rw [hsplit]
        exact ((List.sublist_cons_self holder l').append_left l).subset hmem
    · have hwaiter := List.mem_filter.mp hmem
      exact ⟨by simpa using hwaiter.2, Or.inr ⟨hwaiter.1, hgranted⟩⟩

/-- The others keep what they have. -/
theorem mem_holders_leave_of_ne {h : Holder α} (hne : h.client ≠ client) (hmem : h ∈ s.holders) :
    h ∈ (s.leave client now).holders := by
  rcases release_cases client now { s with waiters := s.waiters.filter (·.client ≠ client) } with
    ⟨-, heq⟩ | ⟨l, holder, l', hholders, hclient, hrelease⟩
  · rwa [leave, heq]
  · have hstay : h ∈ l ++ l' := by
      have hsplit : h ∈ l ++ holder :: l' := hholders ▸ hmem
      rcases List.mem_append.mp hsplit with hmem | hmem
      · exact List.mem_append_left _ hmem
      · refine List.mem_append_right _ ((List.mem_cons.mp hmem).resolve_left ?_)
        rintro rfl
        exact hne hclient
    rw [leave, hrelease]
    rcases give_cases now { s with
      holders := l ++ l', waiters := s.waiters.filter (·.client ≠ client) } with
      ⟨-, heq⟩ | ⟨next, waiters, -, heq⟩ <;> rw [heq]
    · exact hstay
    · exact List.mem_append_left _ hstay

theorem mem_clients_leave (hsound : Sound capacity s) {x : α} :
    x ∈ (s.leave client now).clients ↔ x ∈ s.clients ∧ x ≠ client := by
  constructor
  · intro hmem
    rcases mem_clients.mp hmem with ⟨h, hh, rfl⟩ | ⟨w, hw, rfl⟩
    · obtain ⟨hne, hh | ⟨hw, -⟩⟩ := mem_holders_leave hsound hh
      · exact ⟨mem_clients.mpr (Or.inl ⟨h, hh, rfl⟩), hne⟩
      · exact ⟨mem_clients.mpr (Or.inr ⟨_, hw, rfl⟩), hne⟩
    · obtain ⟨hw, hne⟩ := mem_waiters_leave hw
      exact ⟨mem_clients.mpr (Or.inr ⟨w, hw, rfl⟩), hne⟩
  · rintro ⟨hmem, hne⟩
    have hstay : x ∈ clients { s with waiters := s.waiters.filter (·.client ≠ client) } := by
      rcases mem_clients.mp hmem with hholder | ⟨w, hw, rfl⟩
      · exact mem_clients.mpr (Or.inl hholder)
      · exact mem_clients.mpr (Or.inr ⟨w, List.mem_filter.mpr ⟨hw, by simpa using hne⟩, rfl⟩)
    rcases release_cases client now { s with waiters := s.waiters.filter (·.client ≠ client) } with
      ⟨-, heq⟩ | ⟨l, holder, l', hholders, hclient, hrelease⟩
    · rwa [leave, heq]
    · rcases mem_clients.mp hstay with ⟨h, hh, rfl⟩ | hwaiter
      · exact mem_clients.mpr (Or.inl ⟨h, mem_holders_leave_of_ne hne hh, rfl⟩)
      · rw [leave, hrelease, clients_give]
        exact mem_clients.mpr (Or.inr hwaiter)

end

/-! ## Order -/

/-- **Nobody is overtaken**: who has a permit asked no later than anybody who
still waits. -/
structure Orderly (now : ℕ) (s : Semaphore α) : Prop where
  asked : ∀ w ∈ s.waiters, w.asked ≤ now
  line : s.waiters.Pairwise fun w w' => w.asked ≤ w'.asked
  first : ∀ h ∈ s.holders, ∀ w ∈ s.waiters, h.asked ≤ w.asked
  granted : ∀ h ∈ s.holders, h.asked ≤ h.granted ∧ h.granted ≤ now

theorem orderly_start (capacity now : ℕ) :
    Orderly now ({ permits := capacity } : Semaphore α) :=
  ⟨fun _ hmem => absurd hmem List.not_mem_nil, List.Pairwise.nil,
    fun _ hmem => absurd hmem List.not_mem_nil, fun _ hmem => absurd hmem List.not_mem_nil⟩

theorem Orderly.mono (h : Orderly now s) {later : ℕ} (hle : now ≤ later) : Orderly later s :=
  ⟨fun w hw => (h.asked w hw).trans hle, h.line, h.first,
    fun x hx => ⟨(h.granted x hx).1, (h.granted x hx).2.trans hle⟩⟩

theorem Orderly.sublist (h : Orderly now s) {holders : List (Holder α)} {waiters : List (Waiter α)}
    (hholders : holders.Sublist s.holders) (hwaiters : waiters.Sublist s.waiters) :
    Orderly now { s with holders, waiters } :=
  ⟨fun w hw => h.asked w (hwaiters.subset hw), h.line.sublist hwaiters,
    fun x hx w hw => h.first x (hholders.subset hx) w (hwaiters.subset hw),
    fun x hx => h.granted x (hholders.subset hx)⟩

theorem orderly_acquire (h : Orderly now s) (hbusy : s.waiters ≠ [] → s.permits = 0) :
    Orderly now (s.acquire client now) := by
  unfold acquire
  split_ifs with hfree
  · have hnil : s.waiters = [] := by
      by_contra hne
      have := hbusy hne
      omega
    refine ⟨h.asked, h.line, fun x _ w hw => ?_, fun x hx => ?_⟩
    · simp only [hnil, List.not_mem_nil] at hw
    · rcases List.mem_append.mp hx with hx | hx
      · exact h.granted x hx
      · obtain rfl := List.mem_singleton.mp hx
        exact ⟨le_rfl, le_rfl⟩
  · refine ⟨fun w hw => ?_, ?_, fun x hx w hw => ?_, h.granted⟩
    · rcases List.mem_append.mp hw with hw | hw
      · exact h.asked w hw
      · obtain rfl := List.mem_singleton.mp hw
        exact le_rfl
    · refine List.pairwise_append.mpr ⟨h.line, List.pairwise_singleton _ _, fun w hw w' hw' => ?_⟩
      obtain rfl := List.mem_singleton.mp hw'
      exact h.asked w hw
    · rcases List.mem_append.mp hw with hw | hw
      · exact h.first x hx w hw
      · obtain rfl := List.mem_singleton.mp hw
        exact (h.granted x hx).1.trans (h.granted x hx).2

theorem orderly_give (h : Orderly now s) : Orderly now (s.give now) := by
  rcases give_cases now s with ⟨-, heq⟩ | ⟨next, waiters, hw, heq⟩ <;> rw [heq]
  · exact ⟨h.asked, h.line, h.first, h.granted⟩
  · have hnext : next ∈ s.waiters := hw ▸ List.mem_cons_self
    have hrest : ∀ w ∈ waiters, w ∈ s.waiters := fun w hmem => hw ▸ List.mem_cons_of_mem _ hmem
    obtain ⟨hhead, hline⟩ := List.pairwise_cons.mp (hw ▸ h.line)
    refine ⟨fun w hmem => h.asked w (hrest w hmem), hline, fun x hx w hmem => ?_, fun x hx => ?_⟩
    · rcases List.mem_append.mp hx with hx | hx
      · exact h.first x hx w (hrest w hmem)
      · obtain rfl := List.mem_singleton.mp hx
        exact hhead w hmem
    · rcases List.mem_append.mp hx with hx | hx
      · exact h.granted x hx
      · obtain rfl := List.mem_singleton.mp hx
        exact ⟨h.asked next hnext, le_rfl⟩

section

variable [DecidableEq α]

theorem orderly_release (h : Orderly now s) : Orderly now (s.release client now) := by
  rcases release_cases client now s with ⟨-, heq⟩ | ⟨l, holder, l', heq, -, hrelease⟩
  · rwa [heq]
  · rw [hrelease]
    refine orderly_give (h.sublist ?_ (List.Sublist.refl _))
    rw [heq]
    exact (List.sublist_cons_self holder l').append_left l

theorem orderly_leave (h : Orderly now s) : Orderly now (s.leave client now) :=
  orderly_release (h.sublist (List.Sublist.refl _) List.filter_sublist)

end

/-! ## Waiting -/

/-- How long the permits that are out have been out, together. -/
def held (now : ℕ) (s : Semaphore α) : ℕ := (s.holders.map fun h => now - h.granted).sum

/-- Every permit that is out has been out for a limited time. -/
def Prompt (hold now : ℕ) (s : Semaphore α) : Prop := ∀ h ∈ s.holders, now - h.granted ≤ hold

/-- **How long one waits** where permits are held for a limited time. Each
client ahead costs one holding, shared among the permits, and what the
holders have spent already is paid. -/
structure Paced (capacity clients hold now : ℕ) (s : Semaphore α) : Prop where
  waiting : ∀ l w l', s.waiters = l ++ w :: l' →
    capacity * (now - w.asked) + (l.length + capacity + 1) * hold ≤ clients * hold + s.held now
  granted : ∀ h ∈ s.holders, capacity * (h.granted - h.asked) + hold ≤ clients * hold

variable {n hold : ℕ}

theorem paced_start (capacity n hold now : ℕ) :
    Paced capacity n hold now ({ permits := capacity } : Semaphore α) :=
  ⟨fun _ _ _ h => by simp at h, fun _ h => absurd h List.not_mem_nil⟩

theorem held_le (hprompt : s.Prompt hold now) : s.held now ≤ s.holders.length * hold := by
  have := List.sum_le_card_nsmul (s.holders.map fun h => now - h.granted) hold (by
    intro x hx
    obtain ⟨h, hmem, rfl⟩ := List.mem_map.mp hx
    exact hprompt h hmem)
  simpa [held] using this

/-- All permits that are out age alike. -/
theorem held_add (horderly : Orderly now s) (duration : ℕ) :
    s.held (now + duration) = s.held now + s.holders.length * duration := by
  have hgranted : ∀ h ∈ s.holders, h.granted ≤ now := fun h hmem => (horderly.granted h hmem).2
  unfold held
  generalize s.holders = holders at hgranted
  induction holders with
  | nil => simp
  | cons h holders ih =>
    obtain ⟨hle, hrest⟩ := List.forall_mem_cons.mp hgranted
    simp only [List.map_cons, List.sum_cons, List.length_cons, ih hrest]
    rw [Nat.sub_add_comm hle]
    ring

/-- **Who waits, waits for what is ahead.** -/
theorem Paced.wait_le (h : Paced capacity n hold now s) (hsound : Sound capacity s)
    (hprompt : s.Prompt hold now) {w : Waiter α} (hw : w ∈ s.waiters) :
    capacity * (now - w.asked) + hold ≤ n * hold := by
  obtain ⟨l, l', heq⟩ := List.append_of_mem hw
  have hwaiting := h.waiting l w l' heq
  have hheld := held_le hprompt
  rw [hsound.length_holders (by rw [heq]; simp)] at hheld
  have hexpand : (l.length + capacity + 1) * hold = l.length * hold + capacity * hold + hold := by
    ring
  omega

theorem paced_add (h : Paced capacity n hold now s) (hsound : Sound capacity s)
    (horderly : Orderly now s) (duration : ℕ) : Paced capacity n hold (now + duration) s := by
  refine ⟨fun l w l' heq => ?_, h.granted⟩
  have hwaiting := h.waiting l w l' heq
  have hne : s.waiters ≠ [] := by rw [heq]; simp
  rw [held_add horderly, hsound.length_holders hne,
    Nat.sub_add_comm (horderly.asked w (by rw [heq]; simp)), Nat.mul_add]
  omega

theorem paced_acquire (h : Paced capacity n hold now s) (hsound : Sound capacity s)
    (hclients : s.clients.length < n) : Paced capacity n hold now (s.acquire client now) := by
  have htotal := hsound.total
  rw [length_clients] at hclients
  unfold acquire
  split_ifs with hfree
  · have hnil : s.waiters = [] := by
      by_contra hne
      have := hsound.busy hne
      omega
    refine ⟨fun l w l' heq => by simp [hnil] at heq, fun x hx => ?_⟩
    rcases List.mem_append.mp hx with hx | hx
    · exact h.granted x hx
    · obtain rfl := List.mem_singleton.mp hx
      simpa using Nat.mul_le_mul_right hold (show 1 ≤ n by omega)
  · refine ⟨fun l w l' heq => ?_, h.granted⟩
    rcases List.eq_nil_or_concat l' with rfl | ⟨l', last, rfl⟩
    · -- it is the client that has just asked
      obtain ⟨rfl, hw⟩ := List.append_inj' heq rfl
      obtain rfl := List.singleton_injective hw
      have hle : (s.waiters.length + capacity + 1) * hold ≤ n * hold :=
        Nat.mul_le_mul_right _ (by omega)
      simp only [Nat.sub_self, Nat.mul_zero]
      omega
    · have hsplit : s.waiters ++ [⟨client, now⟩] = (l ++ w :: l') ++ [last] := by simpa using heq
      exact h.waiting l w l' (List.append_inj' hsplit rfl).1

theorem paced_give {s : Semaphore α} {spent : ℕ} (hspent : spent ≤ hold)
    (hwaiting : ∀ l w l', s.waiters = l ++ w :: l' →
      capacity * (now - w.asked) + (l.length + capacity + 1) * hold ≤
        n * hold + (s.held now + spent))
    (hgranted : ∀ h ∈ s.holders, capacity * (h.granted - h.asked) + hold ≤ n * hold)
    (hlength : s.waiters ≠ [] → s.holders.length + 1 = capacity) (hprompt : s.Prompt hold now) :
    Paced capacity n hold now (s.give now) := by
  rcases give_cases now s with ⟨hnil, heq⟩ | ⟨next, waiters, hw, heq⟩ <;> rw [heq]
  · exact ⟨fun l w l' h => by simp [hnil] at h, hgranted⟩
  · refine ⟨fun l w l' h => ?_, fun x hx => ?_⟩
    · have := hwaiting (next :: l) w l' (hw.trans (congrArg (next :: ·) h))
      have hheld : held now { s with holders := s.holders ++ [⟨next, now⟩], waiters } = s.held now := by
        simp [held]
      rw [hheld]
      have hexpand : ((next :: l).length + capacity + 1) * hold =
          (l.length + capacity + 1) * hold + hold := by
        rw [List.length_cons]
        ring
      omega
    · rcases List.mem_append.mp hx with hx | hx
      · exact hgranted x hx
      · obtain rfl := List.mem_singleton.mp hx
        have := hwaiting [] next waiters hw
        have hheld := held_le hprompt
        have hcapacity := hlength (by rw [hw]; simp)
        have hexpand : capacity * hold = s.holders.length * hold + hold := by
          rw [← hcapacity]
          ring
        have hexpand' : (([] : List (Waiter α)).length + capacity + 1) * hold = capacity * hold + hold := by
          rw [List.length_nil]
          ring
        show capacity * (now - next.asked) + hold ≤ n * hold
        omega

section

variable [DecidableEq α]

/-- **A permit that comes back in time** shortens every wait by one. -/
theorem paced_release (h : Paced capacity n hold now s) (hsound : Sound capacity s)
    (hprompt : s.Prompt hold now) : Paced capacity n hold now (s.release client now) := by
  rcases release_cases client now s with ⟨-, heq⟩ | ⟨l, holder, l', heq, -, hrelease⟩
  · rwa [heq]
  · rw [hrelease]
    have hsub : (l ++ l').Sublist s.holders := by
      rw [heq]
      exact (List.sublist_cons_self holder l').append_left l
    have hheld : s.held now =
        held now { s with holders := l ++ l' } + (now - holder.granted) := by
      simp only [held, heq, List.map_append, List.map_cons, List.sum_append, List.sum_cons]
      ring
    refine paced_give (hprompt holder (by rw [heq]; simp)) (hheld ▸ h.waiting)
      (fun x hx => h.granted x (hsub.subset hx)) (fun hne => ?_)
      fun x hx => hprompt x (hsub.subset hx)
    rw [← hsound.length_holders hne, heq]
    simp only [List.length_append, List.length_cons]
    omega

theorem paced_leave (h : Paced capacity n hold now s) (hsound : Sound capacity s)
    (hprompt : s.Prompt hold now) : Paced capacity n hold now (s.leave client now) := by
  refine paced_release ⟨fun l w l' heq => ?_, h.granted⟩ (hsound.quit _) hprompt
  obtain ⟨l₀, rest, hsplit, rfl, hrest⟩ := List.filter_eq_append_iff.mp heq
  obtain ⟨l₁, l₂, rfl, -, -, -⟩ := List.filter_eq_cons_iff.mp hrest
  have hwaiting := h.waiting (l₀ ++ l₁) w l₂ (by rw [hsplit, List.append_assoc])
  have hlength : (l₀.filter (·.client ≠ client)).length ≤ (l₀ ++ l₁).length := by
    rw [List.length_append]
    exact (List.length_filter_le _ _).trans (Nat.le_add_right _ _)
  refine le_trans (Nat.add_le_add_left (Nat.mul_le_mul_right _ ?_) _) hwaiting
  omega

end

end Semaphore
