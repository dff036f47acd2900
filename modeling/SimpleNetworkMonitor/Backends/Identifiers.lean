import SimpleNetworkMonitor.Backends.Model.Ping
/-!
# Identifiers in flight

An identifier is the first free one that the search comes to, once around
the whole space. Over the probes of a backend the reservations are exclusive:
a step reserves an identifier for one probe, gives one back, or touches none.
-/

namespace SimpleNetworkMonitor.Backends

variable {set : Finset UInt16} {seed identifier : UInt16} {w : Probing} {i : ℕ}

/-! ## The search -/

/-- **The first free identifier**, from a seed up and around. -/
def FirstFree (set : Finset UInt16) (seed identifier : UInt16) : Prop :=
  ∃ k < SPACE, seed + UInt16.ofNat k = identifier ∧ identifier ∉ set ∧
    ∀ j < k, seed + UInt16.ofNat j ∈ set

theorem iterate_wrapping_add (seed : UInt16) :
    ∀ k, (· + 1)^[k] seed = seed + UInt16.ofNat k
  | 0 => by simp
  | k + 1 => by
    rw [Function.iterate_succ_apply', iterate_wrapping_add seed k, UInt16.ofNat_add, ← add_assoc]
    rfl

/-- Going up from any seed leads past every identifier. -/
theorem exists_wrapping_add (seed identifier : UInt16) :
    ∃ k < SPACE, seed + UInt16.ofNat k = identifier :=
  ⟨(identifier - seed).toNat, (identifier - seed).toNat_lt, by
    rw [UInt16.ofNat_toNat, add_sub_cancel]⟩

theorem search_eq_some :
    Reservation.search (· + 1) (· ∉ set) SPACE seed = some identifier ↔
      FirstFree set seed identifier := by
  simp only [Reservation.search_eq_some, iterate_wrapping_add, decide_eq_true_eq,
    decide_eq_false_iff_not, not_not, FirstFree]

theorem search_eq_none :
    Reservation.search (· + 1) (· ∉ set) SPACE seed = none ↔ ∀ identifier, identifier ∈ set := by
  simp only [Reservation.search_eq_none, iterate_wrapping_add, decide_eq_false_iff_not, not_not]
  constructor
  · intro h identifier
    obtain ⟨k, hk, rfl⟩ := exists_wrapping_add seed identifier
    exact h k hk
  · exact fun h k _ => h _

/-- **What a reservation does**: it takes the first free identifier, or there
is none. -/
theorem nextUniqueIdentifier_cases (set : Finset UInt16) (seed : UInt16) :
    (∃ identifier, FirstFree set seed identifier ∧
      nextUniqueIdentifier { set } seed = (.ok identifier, { set := insert identifier set })) ∨
    (∀ identifier, identifier ∈ set) ∧
      nextUniqueIdentifier { set } seed =
        (.error ⟨"all 65536 icmp identifiers are in flight"⟩, { set }) := by
  rcases hsearch : Reservation.search (· + 1) (· ∉ set) SPACE seed with - | identifier
  · refine Or.inr ⟨search_eq_none.mp hsearch, ?_⟩
    rw [nextUniqueIdentifier, if_neg Bool.false_ne_true, hsearch]
  · refine Or.inl ⟨identifier, search_eq_some.mp hsearch, ?_⟩
    rw [nextUniqueIdentifier, if_neg Bool.false_ne_true, hsearch]

/-! ## The probes -/

namespace Probing

/-- The identifier that each probe has in flight. -/
def held (w : Probing) (i : ℕ) : Option UInt16 := (w.probes[i]?).bind Probe.identifier

/-- **The invariant.** -/
structure Sound (w : Probing) : Prop where
  healthy : w.backend.inflight.poisoned = false
  exclusive : Reservation.Exclusive w.held w.backend.inflight.set

theorem held_setProbe {probe : Probe} (hi : i < w.probes.length) :
    (w.setProbe i probe).held = Function.update w.held i probe.identifier := by
  funext j
  unfold held setProbe
  by_cases hji : j = i
  · subst hji
    rw [Function.update_self, List.getElem?_set_self hi]
    rfl
  · rw [Function.update_of_ne hji, List.getElem?_set_ne (Ne.symm hji)]

/-- The same, where the reservations change with the probe. -/
theorem held_setInflight_setProbe {probe : Probe} (inflight : Inflight)
    (hi : i < w.probes.length) :
    ((w.setInflight inflight).setProbe i probe).held = Function.update w.held i probe.identifier :=
  held_setProbe (w := w.setInflight inflight) hi

theorem held_eq {probe : Probe} (h : w.probes[i]? = some probe) : w.held i = probe.identifier := by
  rw [held, h]
  rfl

theorem lt_length {probe : Probe} (h : w.probes[i]? = some probe) : i < w.probes.length :=
  (List.getElem?_eq_some_iff.mp h).1

/-- A probe without an identifier goes on without one. -/
theorem Sound.goOn {probe next : Probe} (hw : w.Sound) (h : w.probes[i]? = some probe)
    (hprobe : probe.identifier = none) (hnext : next.identifier = none) :
    (w.setProbe i next).Sound where
  healthy := hw.healthy
  exclusive := by
    have hheld : Function.update w.held i next.identifier = w.held := by
      rw [hnext, ← hprobe, ← held_eq h, Function.update_eq_self]
    rw [held_setProbe (lt_length h), hheld]
    exact hw.exclusive

/-- A probe that starts has none. -/
theorem Sound.start {probe : Probe} (hw : w.Sound) (hprobe : probe.identifier = none) :
    ({ w with probes := w.probes ++ [probe] } : Probing).Sound where
  healthy := hw.healthy
  exclusive := by
    have hheld : ({ w with probes := w.probes ++ [probe] } : Probing).held = w.held := by
      funext j
      simp only [held]
      rcases Nat.lt_trichotomy j w.probes.length with hlt | heq | hgt
      · rw [List.getElem?_append_left hlt]
      · subst heq
        simp [hprobe]
      · rw [List.getElem?_eq_none (by simpa using Nat.succ_le_of_lt hgt), List.getElem?_eq_none hgt.le]
    rw [hheld]
    exact hw.exclusive

/-- However a probe ends, its identifier is given back. -/
theorem Sound.finish {ended : Probe} (hw : w.Sound) (hended : ended.identifier = none) :
    (w.finish i ended).Sound := by
  unfold Probing.finish
  split
  · next request hprobe => exact hw.goOn hprobe rfl hended
  · next address identifier hprobe =>
    have hrelease : w.backend.inflight.release identifier =
        { w.backend.inflight with set := w.backend.inflight.set.erase identifier } := by
      rw [Inflight.release, if_neg (by simp [hw.healthy])]
    rw [hrelease]
    refine ⟨hw.healthy, ?_⟩
    rw [held_setInflight_setProbe _ (lt_length hprobe), hended]
    exact hw.exclusive.release (held_eq hprobe)
  · exact hw

theorem Sound.reserve {address : IpAddr} (hw : w.Sound)
    (hprobe : w.probes[i]? = some (.seeded address seed)) (display : IpAddr → String) :
    (w.step display (.reserve i)).Sound := by
  have hinflight : w.backend.inflight = { set := w.backend.inflight.set } := by
    rw [← hw.healthy]
  unfold step
  simp only [hprobe]
  rcases nextUniqueIdentifier_cases w.backend.inflight.set seed with
    ⟨identifier, hfirst, hnext⟩ | ⟨-, hnext⟩
  · obtain ⟨-, -, -, hfree, -⟩ := hfirst
    rw [hinflight, hnext]
    refine ⟨rfl, ?_⟩
    rw [held_setInflight_setProbe _ (lt_length hprobe)]
    exact hw.exclusive.reserve (held_eq hprobe) hfree
  · rw [hinflight, hnext]
    have hsame : w.setInflight { set := w.backend.inflight.set } = w := by
      rw [← hinflight]
      rfl
    simp only [hsame]
    exact hw.goOn hprobe rfl rfl

/-- **Every step keeps the invariant.** -/
theorem sound_step (display : IpAddr → String) (event : ProbeEvent) (hw : w.Sound) :
    (w.step display event).Sound := by
  unfold step
  cases event with
  | check request =>
    dsimp only
    split <;> exact hw.start rfl
  | resolved i addrs =>
    dsimp only
    split
    · next request hprobe =>
      unfold resolve
      split
      · exact hw.goOn hprobe rfl rfl
      · split_ifs
        · exact hw.goOn hprobe rfl rfl
        · -- only the counter has moved
          have hw' : ({ w with backend := { w.backend with
              counter := w.backend.counter + 1 } } : Probing).Sound := ⟨hw.healthy, hw.exclusive⟩
          exact hw'.goOn hprobe rfl rfl
    · exact hw
  | reserve i =>
    rcases hprobe : w.probes[i]? with - | probe
    · simpa only [hprobe] using hw
    · cases probe with
      | seeded address seed => exact hw.reserve hprobe display
      | resolving request => simpa only [hprobe] using hw
      | pinging address identifier => simpa only [hprobe] using hw
      | done result => simpa only [hprobe] using hw
      | dropped => simpa only [hprobe] using hw
  | answered i reply =>
    dsimp only
    split
    · split <;> exact hw.finish rfl
    · exact hw
  | timedOut i => exact hw.finish rfl
  | drop i => exact hw.finish rfl

theorem sound_run (display : IpAddr → String) (clientV6 : Bool) (salt : UInt16)
    (events : List ProbeEvent) : (run display clientV6 salt events).Sound :=
  List.foldl_invariant (P := fun _ w => Sound w)
    (fun _ _ _ event _ hw => sound_step display event hw) ⟨rfl, Reservation.exclusive_empty⟩

end Probing

/-- **Identifiers in flight are unique.** A reservation takes the first free
identifier, from the seed up and around, and fails where there is none. At
every point of a run no two probes have one identifier in flight, and no
identifier is reserved that no probe has. -/
theorem identifiers_unique :
    (∀ (set : Finset UInt16) (seed : UInt16),
      (∀ identifier, (nextUniqueIdentifier { set } seed).1 = .ok identifier ↔
        FirstFree set seed identifier) ∧
      (∀ identifier, (nextUniqueIdentifier { set } seed).1 = .ok identifier →
        (nextUniqueIdentifier { set } seed).2 = { set := insert identifier set }) ∧
      ((∃ e, (nextUniqueIdentifier { set } seed).1 = .error e) ↔
        ∀ identifier, identifier ∈ set) ∧
      ((∀ identifier, identifier ∈ set) → (nextUniqueIdentifier { set } seed).2 = { set })) ∧
    ∀ (display : IpAddr → String) (clientV6 : Bool) (salt : UInt16) (events : List ProbeEvent),
      let w := Probing.run display clientV6 salt events
      (∀ i j identifier, w.held i = some identifier → w.held j = some identifier → i = j) ∧
        ∀ identifier, identifier ∈ w.backend.inflight.set ↔ ∃ i, w.held i = some identifier := by
  refine ⟨fun set seed => ?_, fun display clientV6 salt events => ?_⟩
  · rcases nextUniqueIdentifier_cases set seed with ⟨found, hfirst, hnext⟩ | ⟨hall, hnext⟩
    · have hsearch := search_eq_some.mpr hfirst
      have hnotall : ¬ ∀ identifier, identifier ∈ set := fun hall =>
        hfirst.elim fun _ h => h.2.2.1 (hall found)
      rw [hnext]
      refine ⟨fun identifier => ?_, fun identifier h => ?_, ?_, fun hall => absurd hall hnotall⟩
      · rw [← search_eq_some, hsearch]
        simp
      · obtain rfl := Except.ok.inj h
        rfl
      · exact ⟨fun ⟨_, h⟩ => (nomatch h), fun hall => absurd hall hnotall⟩
    · rw [hnext]
      refine ⟨fun identifier => ⟨fun h => (nomatch h), fun hfirst => ?_⟩, fun _ h => (nomatch h),
        ⟨fun _ => hall, fun _ => ⟨_, rfl⟩⟩, fun _ => rfl⟩
      obtain ⟨-, -, -, hfree, -⟩ := hfirst
      exact absurd (hall identifier) hfree
  · have hsound := Probing.sound_run display clientV6 salt events
    exact ⟨hsound.exclusive.unique, hsound.exclusive.mem_iff⟩

end SimpleNetworkMonitor.Backends
