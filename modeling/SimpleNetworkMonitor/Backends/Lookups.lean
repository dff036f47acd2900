import SimpleNetworkMonitor.Common.Fold
import SimpleNetworkMonitor.Backends.Model.Dns
/-!
# Admission of lookups

Lookups and permits are one to one, whatever becomes of the calls: no more
than 32 lookups run, none of them is forgotten, and a call is refused only
while 32 run.
-/

namespace SimpleNetworkMonitor.Backends

open Icmp (CheckFailure)

namespace Dns

variable {parse : String → Option IpAddr} {w : Dns} {now i : ℕ} {address : String} {port : ℕ}

/-! ## Permits -/

/-- **Every lookup has a permit**, and nothing else has one. A call that waits
has its lookup. -/
structure Admitted (w : Dns) : Prop where
  sound : w.admission.Sound 32
  unqueued : w.admission.waiters = []
  permits : w.admission.holders.map (·.client) = w.lookups
  started : ∀ i ∈ w.lookups, i < w.calls.length
  waiting : ∀ (i : ℕ) (call : DnsCall), w.calls[i]? = some call → call.state = .waiting →
    i ∈ w.lookups

theorem Admitted.total (h : Admitted w) : w.admission.permits + w.lookups.length = 32 := by
  have htotal := h.sound.total
  rwa [← List.length_map (f := (·.client)), h.permits] at htotal

theorem admitted_start : Admitted {} :=
  ⟨Semaphore.sound_start 32, rfl, rfl, fun i hi => absurd hi List.not_mem_nil,
    fun i call hcall => absurd hcall (by simp)⟩

/-- A call that is answered at once asks for nothing. -/
theorem admitted_answerNow (h : Admitted w) (result : Except CheckFailure (List SocketAddr)) :
    Admitted (w.answerNow address port result) := by
  refine ⟨h.sound, h.unqueued, h.permits, fun i hi => ?_, fun i call hcall hwaiting => ?_⟩
  · have := h.started i hi
    simp only [answerNow, List.length_append, List.length_singleton]
    omega
  · simp only [answerNow, List.getElem?_append] at hcall
    split_ifs at hcall with hi
    · exact h.waiting i call hcall hwaiting
    · obtain ⟨_, heq⟩ := List.getElem?_eq_some_iff.mp hcall
      rw [List.getElem_singleton] at heq
      subst heq
      cases hwaiting

/-- A call that moves on does not begin to wait. -/
theorem admitted_advance (h : Admitted w) {f : DnsState → DnsState}
    (hf : ∀ state, f state = .waiting → state = .waiting) : Admitted (w.advance i f) := by
  refine ⟨h.sound, h.unqueued, h.permits, fun j hj => ?_, fun j call hcall hwaiting => ?_⟩
  · simpa only [advance, List.length_modify] using h.started j hj
  · simp only [advance, List.getElem?_modify] at hcall
    obtain ⟨before, hbefore, rfl⟩ := Option.map_eq_some_iff.mp hcall
    refine h.waiting j before hbefore ?_
    split_ifs at hwaiting with hij
    · exact hf _ hwaiting
    · exact hwaiting

/-- **A lookup that returns** frees the permit it had. -/
theorem admitted_finish (h : Admitted w) (hi : i ∈ w.lookups) (outcome : LookupOutcome) :
    Admitted (w.finish now i outcome) := by
  have hholder : ∃ holder ∈ w.admission.holders, holder.client = i := by
    rw [← h.permits] at hi
    exact List.mem_map.mp hi
  have hrelease : w.admission.release i now = _ := Semaphore.release_of_unqueued h.unqueued hholder
  refine ⟨Semaphore.sound_release h.sound, ?_, ?_, fun j hj => ?_, fun j call hcall hwaiting => ?_⟩
  · simp only [finish, advance, hrelease, h.unqueued]
  · simp only [finish, advance, hrelease]
    rw [Semaphore.map_client_eraseP, h.permits]
  · simpa only [finish, advance, List.length_modify] using h.started j (List.mem_of_mem_erase hj)
  · simp only [finish, advance, List.getElem?_modify] at hcall
    obtain ⟨before, hbefore, rfl⟩ := Option.map_eq_some_iff.mp hcall
    by_cases hij : i = j
    · -- the call of the lookup is ready, if it was waiting
      simp only [if_pos hij] at hwaiting
      cases hstate : before.state <;> simp [hstate, DnsState.finish] at hwaiting
    · simp only [if_neg hij] at hwaiting
      exact (List.mem_erase_of_ne (Ne.symm hij)).mpr (h.waiting j before hbefore hwaiting)

/-- **A call** finds a permit for a lookup of its own, or is over. -/
theorem resolve_cases (h : Admitted w) (parse : String → Option IpAddr) (now : ℕ)
    (address : String) (port : ℕ) :
    (∃ ip, parse address = some ip ∧
      w.resolve parse now address port = w.answerNow address port (.ok [⟨ip, port⟩])) ∨
    (parse address = none ∧ w.lookups.length = 32 ∧
      w.resolve parse now address port =
        w.answerNow address port (.error ⟨"DNS resolver is busy"⟩)) ∨
    (parse address = none ∧ w.lookups.length < 32 ∧
      w.resolve parse now address port =
        { admission := w.admission.acquire w.calls.length now
          lookups := w.lookups ++ [w.calls.length]
          calls := w.calls ++ [⟨address, port, .waiting⟩] }) := by
  have htotal := h.total
  unfold resolve
  rcases hparse : parse address with - | ip
  · rcases Nat.eq_zero_or_pos w.admission.permits with hnone | hfree
    · refine Or.inr (Or.inl ⟨rfl, by omega, ?_⟩)
      simp only [Semaphore.tryAcquire, hnone, lt_irrefl, if_false]
    · refine Or.inr (Or.inr ⟨rfl, by omega, ?_⟩)
      simp only [Semaphore.tryAcquire, if_pos hfree]
  · exact Or.inl ⟨ip, rfl, rfl⟩

theorem admitted_resolve (h : Admitted w) : Admitted (w.resolve parse now address port) := by
  rcases resolve_cases h parse now address port with ⟨ip, -, heq⟩ | ⟨-, -, heq⟩ | ⟨-, hfree, heq⟩ <;> rw [heq]
  · exact admitted_answerNow h _
  · exact admitted_answerNow h _
  · have htotal := h.total
    have hpermit : 0 < w.admission.permits := by omega
    have hfresh : w.calls.length ∉ w.admission.clients := by
      rw [Semaphore.clients, h.permits, h.unqueued, List.map_nil, List.append_nil]
      exact fun hmem => lt_irrefl _ (h.started _ hmem)
    refine ⟨Semaphore.sound_acquire h.sound hfresh, ?_, ?_, fun i hi => ?_,
      fun i call hcall hwaiting => ?_⟩
    · simp only [Semaphore.acquire, if_pos hpermit, h.unqueued]
    · simp only [Semaphore.acquire, if_pos hpermit, List.map_append, h.permits, List.map_cons,
        List.map_nil]
    · rw [List.length_append, List.length_singleton]
      rcases List.mem_append.mp hi with hi | hi
      · exact Nat.lt_succ_of_lt (h.started i hi)
      · rw [List.mem_singleton.mp hi]
        exact Nat.lt_succ_self _
    · rw [List.getElem?_append] at hcall
      split_ifs at hcall with hi
      · exact List.mem_append_left _ (h.waiting i call hcall hwaiting)
      · obtain ⟨hlt, -⟩ := List.getElem?_eq_some_iff.mp hcall
        rw [List.length_singleton] at hlt
        exact List.mem_append_right _ (List.mem_singleton.mpr (by omega))

/-- One step keeps lookups and permits together. -/
theorem admitted_step (h : Admitted w) (event : DnsEvent) : Admitted (w.step parse now event) := by
  cases event with
  | resolve address port => exact admitted_resolve h
  | finished i outcome =>
    simp only [step]
    split_ifs with hi
    · exact admitted_finish h hi outcome
    · exact h
  | woken i => exact admitted_advance h fun state => by cases state <;> simp [DnsState.wake]
  | drop i => exact admitted_advance h fun state => by cases state <;> simp [DnsState.drop]

theorem admitted_run (parse : String → Option IpAddr) (events : List (ℕ × DnsEvent)) :
    Admitted (run parse events) :=
  List.foldlRecOn events _ admitted_start fun _ h e _ => admitted_step h e.2

/-! ## Answers -/

/-- **What a call may be answered** after the events of a run: a literal is its
own answer, and a name is refused or answered by the lookup of that call. -/
def Explains (parse : String → Option IpAddr) (events : List (ℕ × DnsEvent)) (i : ℕ)
    (call : DnsCall) (result : Except CheckFailure (List SocketAddr)) : Prop :=
  match parse call.address with
  | some ip => result = .ok [⟨ip, call.port⟩]
  | none => result = .error ⟨"DNS resolver is busy"⟩ ∨
      ∃ now outcome, (now, DnsEvent.finished i outcome) ∈ events ∧ result = lookupAnswer outcome

/-- Where a call stands, and why. -/
def Accounts (parse : String → Option IpAddr) (events : List (ℕ × DnsEvent)) (i : ℕ)
    (call : DnsCall) : Prop :=
  match call.state with
  | .waiting => parse call.address = none
  | .ready outcome => parse call.address = none ∧
      ∃ now, (now, DnsEvent.finished i outcome) ∈ events
  | .answered result => Explains parse events i call result
  | .dropped => True

variable {events events' : List (ℕ × DnsEvent)} {call : DnsCall}

theorem Explains.mono {result : Except CheckFailure (List SocketAddr)}
    (h : Explains parse events i call result) (hsub : events ⊆ events') :
    Explains parse events' i call result := by
  unfold Explains at h ⊢
  rcases hparse : parse call.address with - | ip <;> rw [hparse] at h
  · exact h.imp_right fun ⟨now, outcome, hmem, heq⟩ => ⟨now, outcome, hsub hmem, heq⟩
  · exact h

theorem Accounts.mono (h : Accounts parse events i call) (hsub : events ⊆ events') :
    Accounts parse events' i call := by
  obtain ⟨address, port, state⟩ := call
  cases state with
  | waiting => exact h
  | ready outcome => exact h.imp_right fun ⟨now, hmem⟩ => ⟨now, hsub hmem⟩
  | answered result => exact Explains.mono h hsub
  | dropped => trivial

/-- The answer of a lookup is the answer of its call. -/
theorem accounts_finish (h : Accounts parse events i call) {outcome : LookupOutcome}
    (hmem : (now, DnsEvent.finished i outcome) ∈ events) :
    Accounts parse events i { call with state := call.state.finish outcome } := by
  obtain ⟨address, port, state⟩ := call
  cases state with
  | waiting => exact ⟨h, now, hmem⟩
  | ready _ | answered _ | dropped => exact h

theorem accounts_wake (h : Accounts parse events i call) :
    Accounts parse events i { call with state := call.state.wake } := by
  obtain ⟨address, port, state⟩ := call
  cases state with
  | ready outcome =>
    obtain ⟨hparse, now, hmem⟩ := h
    simp only [Accounts, DnsState.wake, Explains] at hparse ⊢
    simp only [hparse]
    exact Or.inr ⟨now, outcome, hmem, rfl⟩
  | waiting | answered _ | dropped => exact h

theorem accounts_drop (h : Accounts parse events i call) :
    Accounts parse events i { call with state := call.state.drop } := by
  obtain ⟨address, port, state⟩ := call
  cases state with
  | waiting | ready _ => trivial
  | answered _ | dropped => exact h

/-- Every call is accounted for. -/
def Accounted (parse : String → Option IpAddr) (events : List (ℕ × DnsEvent)) (w : Dns) : Prop :=
  ∀ (i : ℕ) (call : DnsCall), w.calls[i]? = some call → Accounts parse events i call

theorem accounted_append {calls : List DnsCall} (h : Accounted parse events w)
    (hcalls : calls = w.calls ++ [call]) (hcall : ∀ i, Accounts parse events i call)
    (i : ℕ) (c : DnsCall) (hc : calls[i]? = some c) : Accounts parse events i c := by
  rw [hcalls, List.getElem?_append] at hc
  split_ifs at hc with hi
  · exact h i c hc
  · obtain ⟨_, heq⟩ := List.getElem?_eq_some_iff.mp hc
    rw [List.getElem_singleton] at heq
    exact heq ▸ hcall i

theorem accounted_advance {f : DnsState → DnsState} (h : Accounted parse events w)
    (hf : ∀ call, Accounts parse events i call →
      Accounts parse events i { call with state := f call.state }) :
    Accounted parse events (w.advance i f) := by
  intro j c hc
  simp only [advance, List.getElem?_modify] at hc
  obtain ⟨before, hbefore, rfl⟩ := Option.map_eq_some_iff.mp hc
  by_cases hij : i = j
  · subst hij
    simpa only [if_true] using hf before (h i before hbefore)
  · simpa only [if_neg hij] using h j before hbefore

theorem accounted_step (hadmitted : Admitted w) (h : Accounted parse events w)
    (e : ℕ × DnsEvent) : Accounted parse (events ++ [e]) (w.step parse e.1 e.2) := by
  have hprefix : Accounted parse (events ++ [e]) w := fun i call hcall =>
    (h i call hcall).mono (List.subset_append_left _ _)
  obtain ⟨now, event⟩ := e
  cases event with
  | resolve address port =>
    rcases resolve_cases hadmitted parse now address port with
      ⟨ip, hparse, heq⟩ | ⟨hparse, -, heq⟩ | ⟨hparse, -, heq⟩ <;>
      simp only [step, heq]
    · exact accounted_append hprefix rfl fun i => by simp [Accounts, Explains, hparse]
    · exact accounted_append hprefix rfl fun i => by simp [Accounts, Explains, hparse]
    · exact accounted_append hprefix rfl fun i => hparse
  | finished i outcome =>
    simp only [step]
    split_ifs
    · exact accounted_advance hprefix fun call hcall =>
        accounts_finish hcall List.mem_concat_self
    · exact hprefix
  | woken i => exact accounted_advance hprefix fun call => accounts_wake
  | drop i => exact accounted_advance hprefix fun call => accounts_drop

theorem accounted_run (parse : String → Option IpAddr) (events : List (ℕ × DnsEvent)) :
    Accounted parse events (run parse events) := by
  have hrun : Admitted (run parse events) ∧ Accounted parse events (run parse events) :=
    List.foldl_invariant (P := fun done w => Admitted w ∧ Accounted parse done w)
      (fun done rest w e _ h => ⟨admitted_step h.1 e.2, accounted_step h.1 h.2 e⟩)
      ⟨admitted_start, fun i call hcall => absurd hcall (by simp)⟩
  exact hrun.2

/-! ## Runs -/

/-- **Admission of lookups.** However calls are made and given up, and whenever
their lookups return: lookups and free permits are 32 together, a call that
waits has its lookup, an answer is the one of the call's own lookup, and a
name is refused only while 32 lookups run. -/
theorem lookups_admitted (parse : String → Option IpAddr) (events : List (ℕ × DnsEvent)) :
    (run parse events).admission.permits + (run parse events).lookups.length = 32 ∧
    (∀ (i : ℕ) (call : DnsCall), (run parse events).calls[i]? = some call →
      call.state = .waiting → i ∈ (run parse events).lookups) ∧
    (∀ (i : ℕ) (call : DnsCall) (result : Except CheckFailure (List SocketAddr)),
      (run parse events).calls[i]? = some call → call.state = .answered result →
        Explains parse events i call result) ∧
    ∀ (now : ℕ) (address : String) (port : ℕ), parse address = none →
      ((run parse events).step parse now (.resolve address port)).calls =
        (run parse events).calls ++ [⟨address, port,
          if (run parse events).lookups.length < 32 then .waiting
          else .answered (.error ⟨"DNS resolver is busy"⟩)⟩] := by
  have hadmitted := admitted_run parse events
  refine ⟨hadmitted.total, hadmitted.waiting, fun i call result hcall hstate => ?_,
    fun now address port hparse => ?_⟩
  · have haccounts := accounted_run parse events i call hcall
    rwa [Accounts, hstate] at haccounts
  · rcases resolve_cases hadmitted parse now address port with
      ⟨ip, hip, -⟩ | ⟨-, hfull, heq⟩ | ⟨-, hfree, heq⟩
    · rw [hparse] at hip
      cases hip
    · rw [step, heq, hfull, if_neg (lt_irrefl 32)]
      rfl
    · rw [step, heq, if_pos hfree]

end Dns

end SimpleNetworkMonitor.Backends
