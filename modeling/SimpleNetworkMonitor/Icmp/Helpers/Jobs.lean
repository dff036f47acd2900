import SimpleNetworkMonitor.Icmp.Helpers.Record
import SimpleNetworkMonitor.Icmp.Thresholds
/-!
# What a job can do

Every step of a job is one of four: it goes on with no more than it had, it
loads what is stored, it makes an observation, or it writes the one it has.
Each of them keeps what the job knows in agreement with the storage.
-/

namespace SimpleNetworkMonitor.Icmp

open Storage

/-- The observation that is not stored yet, for all the job knows. -/
def Phase.observation : Phase → Option Observation
  | .storing observation | .queued observation | .running observation | .orphaned observation =>
    some observation
  | _ => none

/-- What a phase knows is known before. -/
structure Phase.Within (phase before : Phase) : Prop where
  ready : ∀ state, phase = .ready state → before = .ready state
  observation : ∀ observation ∈ phase.observation, observation ∈ before.observation

theorem Phase.Within.refl (phase : Phase) : phase.Within phase := ⟨fun _ h => h, fun _ h => h⟩

/-- A phase that is not ready, and has an observation that was there before. -/
theorem Phase.within_of_observation {phase before : Phase} (hready : ∀ state, phase ≠ .ready state)
    (h : phase.observation = none ∨ phase.observation = before.observation) : phase.Within before := by
  refine ⟨fun state heq => absurd heq (hready state), fun observation hobservation => ?_⟩
  rcases h with h | h
  · rw [h] at hobservation
    cases hobservation
  · rwa [← h]

theorem observation_failed (observation : Observation) (error : StorageError) :
    ∀ o ∈ (IcmpJob.failed observation error).observation, o = observation := by
  intro o ho
  unfold IcmpJob.failed at ho
  split_ifs at ho
  · cases ho
  · exact (Option.some.inj ho).symm

theorem failed_ne_ready (observation : Observation) (error : StorageError)
    (state : HostRuntimeState) : IcmpJob.failed observation error ≠ .ready state := by
  unfold IcmpJob.failed
  split_ifs
  · exact Phase.noConfusion
  · exact Phase.noConfusion

/-! ## One step -/

/-- **What a step of a job can be.** -/
inductive JobTurn (job : IcmpJob) (storage : SqliteStorage) :
    Phase → SqliteStorage → Option IcmpTransition → Prop where
  | moved {phase : Phase} (h : phase.Within job.phase) : JobTurn job storage phase storage none
  | loaded : JobTurn job storage
      (.ready ((storage.inner.conn.latestStatus.find? job.host.id).getD {})) storage none
  | checked {state : HostRuntimeState} (check : Check) (hphase : job.phase = .ready state) :
      JobTurn job storage
        (.storing ⟨(checkOnce job.host job.config check state).1,
          (checkOnce job.host job.config check state).2⟩)
        storage (checkOnce job.host job.config check state).2
  | written {phase : Phase} {observation : Observation} (now : ℤ)
      (hobservation : observation ∈ job.phase.observation)
      (hcurrent : job.generation = storage.inner.generation)
      (hready : ∀ state, phase = .ready state → state = observation.state)
      (hpending : ∀ o ∈ phase.observation, o = observation) :
      JobTurn job storage phase
        (storage.withConn (storage.inner.conn.putCheckResult job.host.id observation.state
          observation.transition now)) none

variable {job : IcmpJob} {storage : SqliteStorage} {observation : Observation}

/-- **The closure of an attempt** fails and changes nothing, or is committed in
the generation of its job. -/
theorem persist_cases (job : IcmpJob) (observation : Observation) (faults : Faults) (now : ℤ)
    (storage : SqliteStorage) :
    (∃ e, Program.run (job.persist observation faults now) storage = (.error e, storage)) ∨
      (job.generation = storage.inner.generation ∧
        Program.run (job.persist observation faults now) storage =
          (.ok (), storage.withConn (storage.inner.conn.putCheckResult job.host.id
            observation.state observation.transition now))) := by
  unfold IcmpJob.persist
  rcases withInner_cases (some job.generation) faults storage (fun _ =>
      checkResultTransaction job.host.id observation.state observation.transition now) with
    ⟨e, h⟩ | ⟨⟨⟩, conn, hcurrent, hexec, h⟩
  · exact Or.inl ⟨e, h⟩
  · rw [exec_checkResultTransaction] at hexec
    obtain ⟨-, rfl⟩ := Prod.mk.inj (Except.ok.inj hexec)
    exact Or.inr ⟨hcurrent _ rfl, h⟩

theorem jobTurn_load (hphase : job.phase = .loading) (readError : Option StorageError) :
    JobTurn job storage (job.load storage readError) storage none := by
  unfold IcmpJob.load
  split
  · exact .moved (hphase ▸ .refl _)
  · exact .moved (Phase.within_of_observation (fun _ => Phase.noConfusion) (Or.inl rfl))
  · rcases hhost : Storage.host storage.inner.conn storage.hosts job.host.id with - | record
    · exact .moved (Phase.within_of_observation (fun _ => Phase.noConfusion) (Or.inl rfl))
    · obtain ⟨host, hget, rfl⟩ := Option.map_eq_some_iff.mp hhost
      have hid := (Catalog.get_eq_some.mp hget).2
      simp only [hostRecord, HostRuntimeState.toRecord, hid]
      exact .loaded

theorem jobTurn_write {phase : Phase} (hphase : job.phase.observation = some observation)
    (faults : Faults) (now : ℤ)
    (hpending : ∀ o ∈ phase.observation, o = observation)
    (hready : ∀ state, phase = .ready state →
      state = observation.state ∧
        (Program.run (job.persist observation faults now) storage).1 = .ok ()) :
    JobTurn job storage phase (Program.run (job.persist observation faults now) storage).2 none := by
  rcases persist_cases job observation faults now storage with ⟨e, h⟩ | ⟨hcurrent, h⟩
  · rw [h] at hready ⊢
    refine .moved ⟨fun state heq => ?_, fun o ho => ?_⟩
    · cases (hready state heq).2
    · rw [hpending o ho]
      exact hphase
  · rw [h]
    exact .written now hphase hcurrent (fun state heq => (hready state heq).1) hpending

/-- **Every step of a job is one of these.** -/
theorem IcmpJob.turn (job : IcmpJob) (storage : SqliteStorage) (step : JobStep) :
    JobTurn job storage (job.step storage step).1 (job.step storage step).2.1
      (job.step storage step).2.2 := by
  have hstay : JobTurn job storage job.phase storage none := .moved (.refl _)
  have hend : JobTurn job storage .ended storage none :=
    .moved (Phase.within_of_observation (fun _ => Phase.noConfusion) (Or.inl rfl))
  cases step with
  -- a step that the phase does not allow leaves the job as it is
  | load readError =>
    rcases hphase : job.phase with - | state | o | o | o | o | -
    case loading =>
      simp only [IcmpJob.step, hphase]
      exact jobTurn_load hphase readError
    all_goals
      simp only [IcmpJob.step, hphase]
      exact hphase ▸ hstay
  | check check =>
    rcases hphase : job.phase with - | state | o | o | o | o | -
    case ready =>
      simp only [IcmpJob.step, hphase]
      exact .checked check hphase
    all_goals
      simp only [IcmpJob.step, hphase]
      exact hphase ▸ hstay
  | attempt faults =>
    rcases hphase : job.phase with - | state | o | o | o | o | -
    case storing =>
      simp only [IcmpJob.step, hphase]
      split
      · exact .moved (Phase.within_of_observation (fun _ => Phase.noConfusion)
          (Or.inr (by rw [hphase]; rfl)))
      · refine .moved ⟨fun state heq => absurd heq (failed_ne_ready o _ state), fun obs hobs => ?_⟩
        rw [observation_failed o _ obs hobs, hphase]
        rfl
    all_goals
      simp only [IcmpJob.step, hphase]
      exact hphase ▸ hstay
  | acquire =>
    rcases hphase : job.phase with - | state | o | o | o | o | -
    case queued =>
      simp only [IcmpJob.step, hphase]
      exact .moved (Phase.within_of_observation (fun _ => Phase.noConfusion)
        (Or.inr (by rw [hphase]; rfl)))
    all_goals
      simp only [IcmpJob.step, hphase]
      exact hphase ▸ hstay
  -- the write may run to its end and its answer still be lost
  | write faults now lost =>
    rcases hphase : job.phase with - | state | o | o | o | o | -
    case running =>
      have hobservation : job.phase.observation = some o := by rw [hphase]; rfl
      simp only [IcmpJob.step, hphase]
      have hfailed : ∀ e, JobTurn job storage (failed o e)
          (Program.run (job.persist o faults now) storage).2 none := fun e =>
        jobTurn_write hobservation faults now (observation_failed o e) fun state heq =>
          absurd heq (failed_ne_ready o e state)
      rcases hresult : (Program.run (job.persist o faults now) storage).1 with e | ⟨⟨⟩⟩
      · exact hfailed e
      · rcases lost with - | e
        · refine jobTurn_write hobservation faults now (fun obs hobs => by cases hobs)
            fun state heq => ⟨(Phase.ready.inj heq).symm, hresult⟩
        · exact hfailed e
    -- nobody waits for this write: it tells the job nothing
    case orphaned =>
      simp only [IcmpJob.step, hphase]
      exact jobTurn_write (by rw [hphase]; rfl) faults now (fun o ho => by cases ho)
        (fun state heq => by cases heq)
    all_goals
      simp only [IcmpJob.step, hphase]
      exact hphase ▸ hstay
  | abort =>
    rcases hphase : job.phase with - | state | o | o | o | o | -
    case running =>
      simp only [IcmpJob.step, hphase]
      exact .moved (Phase.within_of_observation (fun _ => Phase.noConfusion)
        (Or.inr (by rw [hphase]; rfl)))
    case orphaned =>
      simp only [IcmpJob.step, hphase]
      exact hphase ▸ hstay
    all_goals
      simp only [IcmpJob.step, hphase]
      exact hend

/-! ## What a job knows -/

variable {db db' : Database} {id : String} {n : ℕ} {made more : List IcmpTransition}

/-- **A phase knows what is stored**: the status, and how far its observation
has come. -/
structure Knows (db : Database) (id : String) (phase : Phase) : Prop where
  ready : ∀ state, phase = .ready state → state.status = storedStatus db id
  pending : ∀ observation ∈ phase.observation, Fits db id observation

theorem Knows.within {phase before : Phase} (h : Knows db id before) (hw : phase.Within before) :
    Knows db id phase :=
  ⟨fun state heq => h.ready state (hw.ready state heq), fun o ho => h.pending o (hw.observation o ho)⟩

theorem Knows.same {phase : Phase} (h : Knows db id phase) (hs : SameFor id db db') :
    Knows db' id phase :=
  ⟨fun state heq => (h.ready state heq).trans hs.storedStatus_eq.symm,
    fun o ho => (h.pending o ho).same hs⟩

/-- **A job**, as far as an ID is concerned: where it is of the ID and of the
current generation, it knows what is stored. -/
structure IcmpJob.Sound (id : String) (storage : SqliteStorage) (made : List IcmpTransition)
    (job : IcmpJob) : Prop where
  generation_le : job.generation ≤ storage.inner.generation
  own : ∀ observation ∈ job.phase.observation, ∀ event ∈ observation.transition,
    event.hostId = job.host.id ∧ event ∈ made
  identified : job.host.id = id → job.generation = storage.inner.generation →
    storage.inner.conn.hostIdentity.find? id ≠ none
  knows : job.host.id = id → job.generation = storage.inner.generation →
    Knows storage.inner.conn id job.phase

theorem IcmpJob.Sound.undisturbed {storage' : SqliteStorage} (h : job.Sound id storage made)
    (hu : Undisturbed id storage storage') : job.Sound id storage' made := by
  refine ⟨hu.generation ▸ h.generation_le, h.own, fun hid hcurrent => ?_, fun hid hcurrent => ?_⟩
  · rw [hu.same.identity]
    exact h.identified hid (hu.generation ▸ hcurrent)
  · exact (h.knows hid (hu.generation ▸ hcurrent)).same hu.same

theorem IcmpJob.Sound.mono (h : job.Sound id storage made) : job.Sound id storage (made ++ more) :=
  ⟨h.generation_le,
    fun o ho event hevent => ⟨(h.own o ho event hevent).1, List.mem_append_left _ (h.own o ho event hevent).2⟩,
    h.identified, h.knows⟩

theorem Recorded.mono (h : Recorded id db n made) : Recorded id db n (made ++ more) :=
  ⟨h.chained, h.le_seq, h.known, fun row hrow => List.mem_append_left _ (h.made row hrow)⟩

/-- The transitions of an ID are made at different times. -/
def Distinct (id : String) (made : List IcmpTransition) : Prop :=
  ((made.filter (·.hostId = id)).map (·.changedAt)).Nodup

theorem Distinct.of_prefix (h : Distinct id more) (hp : made <+: more) : Distinct id made :=
  h.sublist ((hp.sublist.filter _).map _)

/-- A transition that is made is not logged yet. -/
theorem not_logged (h : Recorded id db n made) {event : IcmpTransition}
    (hdistinct : Distinct id (made ++ [event])) (hid : event.hostId = id) : ¬ Logged db event := by
  rintro ⟨row, hrow, hsame⟩
  subst hid
  have hmade := h.made row hrow
  simp only [sameTransition, Bool.and_eq_true, decide_eq_true_eq] at hsame
  rw [Distinct, List.filter_append, List.map_append, List.nodup_append] at hdistinct
  refine hdistinct.2.2 row.2.changedAt ?_ event.changedAt (by simp) hsame.1.1.2
  exact List.mem_map_of_mem (List.mem_filter.mpr ⟨hmade, by simp [hsame.1.1.1]⟩)

/-! ## What a step keeps -/

section Turn

variable {phase : Phase} {storage' : SqliteStorage} {transition : Option IcmpTransition}

/-- **A check makes what comes next.** -/
theorem fits_check {state : HostRuntimeState} {check : Check}
    (hstate : state.status = storedStatus db job.host.id)
    (hnew : ∀ event ∈ (checkOnce job.host job.config check state).2, ¬ Logged db event) :
    Fits db job.host.id ⟨(checkOnce job.host job.config check state).1,
      (checkOnce job.host job.config check state).2⟩ := by
  have hc := checkedOnce job.host job.config check state
  rcases htransition : (checkOnce job.host job.config check state).2 with - | event
  · refine .stored (hc.unchanged.mp htransition ▸ hstate) fun event hevent => ?_
    cases hevent
  · obtain ⟨hid, hsource, htarget, -⟩ := hc.changed event htransition
    refine .next rfl hid (hnew event htransition) (hsource.trans hstate) htarget fun heq => ?_
    have hnone := hc.unchanged.mpr (by rw [← htarget, ← hsource, heq])
    rw [htransition] at hnone
    cases hnone

/-- A step of a job makes no difference for an ID, or the job is of the ID and
of the current generation. -/
theorem JobTurn.undisturbed (h : JobTurn job storage phase storage' transition)
    (hs : job.Sound id storage made) :
    Undisturbed id storage storage' ∨
      (job.host.id = id ∧ job.generation = storage.inner.generation) := by
  cases h with
  | moved h => exact Or.inl (.refl id storage)
  | loaded => exact Or.inl (.refl id storage)
  | checked check hphase => exact Or.inl (.refl id storage)
  | written now hobservation hcurrent hready hpending =>
    by_cases hid : job.host.id = id
    · exact Or.inr ⟨hid, hcurrent⟩
    · exact Or.inl ⟨.put (Ne.symm hid) fun event hevent => (hs.own _ hobservation event hevent).1, rfl⟩

/-- **A step of a job keeps** what the storage has of an ID. -/
theorem JobTurn.recorded (h : JobTurn job storage phase storage' transition)
    (hs : job.Sound id storage made) (hr : Recorded id storage.inner.conn n made) :
    Recorded id storage'.inner.conn n (made ++ transition.toList) := by
  cases h with
  | moved h => exact hr.mono
  | loaded => exact hr.mono
  | checked check hphase => exact hr.mono
  | written now hobservation hcurrent hready hpending =>
    refine Recorded.mono ?_
    by_cases hid : job.host.id = id
    · subst hid
      exact hr.put ((hs.knows rfl hcurrent).pending _ hobservation) (hs.identified rfl hcurrent)
        fun event hevent => (hs.own _ hobservation event hevent).2
    · exact hr.same (.put (Ne.symm hid) fun event hevent => (hs.own _ hobservation event hevent).1)

/-- **A step of a job keeps** what the job knows. -/
theorem JobTurn.sound (h : JobTurn job storage phase storage' transition)
    (hs : job.Sound id storage made) (hr : Recorded id storage.inner.conn n made)
    (hdistinct : Distinct id (made ++ transition.toList)) :
    IcmpJob.Sound id storage' (made ++ transition.toList) { job with phase } := by
  have hm : job.Sound id storage (made ++ transition.toList) := hs.mono
  cases h with
  | moved h =>
    exact ⟨hm.generation_le, fun o ho => hm.own o (h.observation o ho), hm.identified,
      fun hid hcurrent => (hm.knows hid hcurrent).within h⟩
  | loaded =>
    refine ⟨hm.generation_le, fun o ho => (by cases ho), hm.identified, fun hid hcurrent =>
      ⟨fun state heq => ?_, fun o ho => (by cases ho)⟩⟩
    obtain rfl := Phase.ready.inj heq
    obtain rfl : job.host.id = id := hid
    exact status_getD _ _
  -- a check is made from the state the job is ready with
  | @checked state check hphase =>
    have hc := checkedOnce job.host job.config check state
    refine ⟨hm.generation_le, fun o ho event hevent => ?_, hm.identified, fun hid hcurrent =>
      ⟨fun state heq => (by cases heq), fun o ho => ?_⟩⟩
    · obtain rfl := Option.some.inj ho
      exact ⟨(hc.changed event hevent).1, List.mem_append_right _ (Option.mem_toList.mpr hevent)⟩
    · obtain rfl := Option.some.inj ho
      obtain rfl : job.host.id = id := hid
      refine fits_check ((hs.knows rfl hcurrent).ready state hphase) fun event hevent => ?_
      rw [hevent] at hdistinct
      exact not_logged hr hdistinct (hc.changed event hevent).1
  -- what was written is what the job waits for, or what it goes on from
  | @written _ observation now hobservation hcurrent hready hpending =>
    have hown : ∀ o ∈ phase.observation, ∀ event ∈ o.transition,
        event.hostId = job.host.id ∧ event ∈ made ++ [] := fun o ho =>
      hpending o ho ▸ hm.own observation hobservation
    refine ⟨hm.generation_le, hown, hm.identified, fun hid _ => ?_⟩
    obtain rfl : job.host.id = id := hid
    refine ⟨fun state heq => ?_, fun o ho => ?_⟩
    · rw [hready state heq]
      exact (storedStatus_put _ _ _ _ now).symm
    · rw [hpending o ho]
      exact .put fun event hevent => (hs.own observation hobservation event hevent).1

end Turn

end SimpleNetworkMonitor.Icmp
