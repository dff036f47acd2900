import SimpleNetworkMonitor.App.Model.Monitored
import SimpleNetworkMonitor.Storage.Fencing
/-!
# A job whose generation was replaced

An attempt through a handle of a replaced generation looks into the new
catalog before it comes to the generation. Where the catalog still lists
what the attempt is on, the generation ends the job with the next answer it
gets; where it does not, the attempt fails otherwise, and `run_job` makes it
again.
-/

namespace SimpleNetworkMonitor

namespace Storage

/-! ## An attempt by itself -/

/-- **What a write looks for in the catalog**: its host, and for a check the
check, with the module enabled. A usage collection is consistent as well. -/
def Write.listed (catalog : Catalog) : Write → Bool
  | .checkResult hostId _ _ => catalog.containsKey hostId
  | .usage hostId snapshot =>
    catalog.containsKey hostId && decide (snapshot.validate = .ok ())
  | .tcp hostId checkId _ =>
    (catalog.get hostId).any fun host =>
      host.modules.tcp.enabled && host.modules.tcp.checks.any (·.id = checkId)

/-- The steps that an attempt has left. A write of usage takes one more. -/
def TaskState.left (write : Write) : TaskState → ℕ
  | .called =>
    match write with
    | .usage .. => 4
    | _ => 3
  | .checked .. => 3
  | .queued _ => 2
  | .admitted _ => 1

theorem TaskState.left_pos (write : Write) (state : TaskState) : 0 < state.left write := by
  cases state <;> cases write <;> simp [left]

theorem TaskState.left_queued_lt (write : Write) (request : Request) :
    (TaskState.queued request).left write < TaskState.called.left write := by
  cases write <;> simp [left]

variable {faults : Faults} (now now' : ℤ) {storage : SqliteStorage} {hostId : String}

theorem findCheck_of_listed {host : Host} {checkId : CheckId}
    (h : (host.modules.tcp.enabled && host.modules.tcp.checks.any (·.id = checkId)) = true) :
    ∃ check, findCheck host checkId = .ok check := by
  obtain ⟨henabled, hany⟩ := Bool.and_eq_true_iff.mp h
  obtain ⟨check, hmem, hid⟩ := List.any_eq_true.mp hany
  unfold findCheck
  rcases hfind : host.modules.tcp.checks.find? fun check =>
      check.id = checkId && host.modules.tcp.enabled with - | check
  · have hnot := List.find?_eq_none.mp hfind check hmem
    rw [hid, henabled] at hnot
    exact absurd rfl hnot
  · exact ⟨check, by rw [hfind]⟩

theorem findCheck_of_unlisted {host : Host} {checkId : CheckId}
    (h : (host.modules.tcp.enabled && host.modules.tcp.checks.any (·.id = checkId)) = false) :
    findCheck host checkId = .error (.invalidData "TCP check is absent or disabled") := by
  unfold findCheck
  rcases hfind : host.modules.tcp.checks.find? fun check =>
      check.id = checkId && host.modules.tcp.enabled with - | check
  · rw [hfind]
  · have hfound := List.find?_some hfind
    simp only [Bool.and_eq_true] at hfound
    obtain ⟨hid, henabled⟩ := hfound
    have hany : host.modules.tcp.checks.any (·.id = checkId) = true :=
      List.any_eq_true.mpr ⟨check, List.mem_of_find?_eq_some hfind, hid⟩
    rw [henabled, hany] at h
    cases h

/-- **A look at the catalog** that finds the host. -/
theorem run_ensureHostExists_of_listed (hp : faults.poisoned .hosts = false)
    (hkey : storage.hosts.containsKey hostId = true) :
    Program.run (ensureHostExists faults hostId) storage = (.ok (), storage) := by
  unfold ensureHostExists
  rw [Program.run_bind, run_lock]
  simp [hp, Program.run_bind, hkey]

/-- One that does not fails as no generation does. -/
theorem run_ensureHostExists_of_unlisted
    (h : (!faults.poisoned .hosts && storage.hosts.containsKey hostId) = false) :
    ∃ e, e ≠ .staleGeneration ∧
      Program.run (ensureHostExists faults hostId) storage = (.error e, storage) := by
  unfold ensureHostExists
  rw [Program.run_bind, run_lock]
  rcases hp : faults.poisoned .hosts with - | -
  · rw [hp, Bool.not_false, Bool.true_and] at h
    exact ⟨.notFound hostId, by simp, by simp [Program.run_bind, h]⟩
  · exact ⟨.lockPoisoned, by simp, rfl⟩

theorem run_lookupHost_of_get {host : Host} (hp : faults.poisoned .hosts = false)
    (hget : storage.hosts.get hostId = some host) :
    Program.run (lookupHost faults hostId) storage = (.ok host, storage) := by
  unfold lookupHost
  rw [Program.run_bind, run_lock]
  simp [hp, Program.run_bind, hget]

theorem run_lookupHost_of_unlisted
    (h : (!faults.poisoned .hosts && storage.hosts.containsKey hostId) = false) :
    ∃ e, e ≠ .staleGeneration ∧
      Program.run (lookupHost faults hostId) storage = (.error e, storage) := by
  unfold lookupHost
  rw [Program.run_bind, run_lock]
  rcases hp : faults.poisoned .hosts with - | -
  · rw [hp, Bool.not_false, Bool.true_and, Catalog.containsKey] at h
    have hnone : storage.hosts.get hostId = none := by
      rwa [← Option.not_isSome_iff_eq_none, Bool.not_eq_true]
    exact ⟨.notFound hostId, by simp, by simp [Program.run_bind, hnone]⟩
  · exact ⟨.lockPoisoned, by simp, rfl⟩

/-- **The first look of a write** finds what it looks for. -/
theorem run_begin_of_listed {write : Write} (hp : faults.poisoned .hosts = false)
    (hlisted : write.listed storage.hosts = true) :
    ∃ state : TaskState, state.left write < TaskState.called.left write ∧
      Program.run (write.begin faults) storage = (.ok state, storage) := by
  cases write with
  | checkResult hostId state transition =>
    rw [Write.begin, Program.run_bind, run_ensureHostExists_of_listed hp hlisted]
    exact ⟨.queued (.checkResult hostId state transition), TaskState.left_queued_lt _ _, rfl⟩
  | usage hostId snapshot =>
    obtain ⟨hkey, hvalid⟩ := Bool.and_eq_true_iff.mp hlisted
    rw [Write.begin, Program.run_bind, run_ensureHostExists_of_listed hp hkey]
    simp only [Program.run_bind, Program.run_mk, orInvalidData_eq_ok.mpr (of_decide_eq_true hvalid)]
    exact ⟨.checked hostId snapshot, by simp [TaskState.left], rfl⟩
  | tcp hostId checkId snapshot =>
    obtain ⟨host, hget, hcheck⟩ := (Option.any_eq_true _ _).mp hlisted
    obtain ⟨check, hfind⟩ := findCheck_of_listed hcheck
    rw [Write.begin, Program.run_bind, run_lookupHost_of_get hp hget]
    simp only [Program.run_bind, Program.run_mk, hfind]
    exact ⟨.queued (.tcp host check snapshot), TaskState.left_queued_lt _ _, rfl⟩

/-- One that does not ends the write as no generation does. -/
theorem run_begin_of_unlisted {write : Write}
    (h : (!faults.poisoned .hosts && write.listed storage.hosts) = false) :
    ∃ e, e ≠ .staleGeneration ∧
      Program.run (write.begin faults) storage = (.error e, storage) := by
  cases write with
  | checkResult hostId state transition =>
    obtain ⟨e, hne, hrun⟩ := run_ensureHostExists_of_unlisted h
    exact ⟨e, hne, by rw [Write.begin, Program.run_bind, hrun]⟩
  | usage hostId snapshot =>
    rw [Write.begin, Program.run_bind]
    rcases hkey : !faults.poisoned .hosts && storage.hosts.containsKey hostId with - | -
    · obtain ⟨e, hne, hrun⟩ := run_ensureHostExists_of_unlisted hkey
      exact ⟨e, hne, by rw [hrun]⟩
    · obtain ⟨hp, hkey⟩ := Bool.and_eq_true_iff.mp hkey
      rw [run_ensureHostExists_of_listed (by simpa using hp) hkey]
      rw [Write.listed, hkey, hp, Bool.true_and, Bool.true_and, decide_eq_false_iff_not] at h
      rcases hvalid : snapshot.validate with message | ⟨⟨⟩⟩
      · exact ⟨.invalidData message, by simp, by
          simp only [Program.run_bind, Program.run_mk]; rfl⟩
      · exact absurd hvalid h
  | tcp hostId checkId snapshot =>
    rw [Write.begin, Program.run_bind]
    rcases hkey : !faults.poisoned .hosts && storage.hosts.containsKey hostId with - | -
    · obtain ⟨e, hne, hrun⟩ := run_lookupHost_of_unlisted hkey
      exact ⟨e, hne, by rw [hrun]⟩
    · obtain ⟨hp, hkey⟩ := Bool.and_eq_true_iff.mp hkey
      obtain ⟨host, hget⟩ := Option.isSome_iff_exists.mp hkey
      rw [run_lookupHost_of_get (by simpa using hp) hget]
      rw [Write.listed, hget, hp, Bool.true_and, Option.any_some] at h
      exact ⟨.invalidData "TCP check is absent or disabled", by simp, by
        simp only [Program.run_bind, Program.run_mk, findCheck_of_unlisted h]⟩

/-- A write that comes to the generation it was replaced in. -/
theorem run_withInner_of_replaced {α : Type} {handle : ℕ}
    {f : Inner → Except StorageError α × Inner} (hp : faults.poisoned .inner = false)
    (hreplaced : storage.inner.generation ≠ handle) :
    Program.run (withInner (some handle) faults f) storage =
      (.error .staleGeneration, storage) := by
  have hany : (some handle).any (fun g => decide (g ≠ storage.inner.generation)) = true := by
    simpa using hreplaced.symm
  rw [run_withInner, hp, if_neg Bool.false_ne_true, if_pos hany]

theorem run_withInner_of_poisoned {α : Type} {handle : WriteGeneration}
    {f : Inner → Except StorageError α × Inner} (hp : faults.poisoned .inner = true) :
    Program.run (withInner handle faults f) storage = (.error .lockPoisoned, storage) := by
  rw [run_withInner, hp, if_pos rfl]

/-- **What the next step of an attempt needs**, to come to the generation. -/
def Task.admits (task : Task) (faults : Faults) (catalog : Catalog) : Bool :=
  match task.state with
  | .called => !faults.poisoned .hosts && task.write.listed catalog
  | .checked hostId _ => !faults.poisoned .hosts && catalog.containsKey hostId
  | .queued _ => true
  | .admitted _ => !faults.poisoned .inner

/-- **A step in a replaced generation** that has what it needs comes closer to
the generation, or is told of it. -/
theorem run_step_of_admits {task : Task} (hreplaced : storage.inner.generation ≠ task.handle)
    (h : task.admits faults storage.hosts = true) :
    (∃ state : TaskState, state.left task.write < task.state.left task.write ∧
        Program.run (task.step faults now now') storage = (.ok (some state), storage)) ∨
      Program.run (task.step faults now now') storage = (.error .staleGeneration, storage) := by
  rcases hstate : task.state with - | ⟨hostId, snapshot⟩ | request | request <;>
    simp only [Task.admits, hstate] at h <;> simp only [Task.step, hstate]
  · obtain ⟨hp, hlisted⟩ := Bool.and_eq_true_iff.mp h
    obtain ⟨state, hlt, hrun⟩ := run_begin_of_listed (by simpa using hp) hlisted
    exact Or.inl ⟨state, hlt, by rw [Program.run_bind, hrun]; rfl⟩
  · obtain ⟨hp, hkey⟩ := Bool.and_eq_true_iff.mp h
    obtain ⟨host, hget⟩ := Option.isSome_iff_exists.mp hkey
    exact Or.inl ⟨.queued (.usage host snapshot), by simp [TaskState.left], by
      rw [Program.run_bind, run_lookupHost_of_get (by simpa using hp) hget]; rfl⟩
  · exact Or.inl ⟨.admitted request, by simp [TaskState.left], rfl⟩
  · exact Or.inr (by rw [Program.run_bind, run_withInner_of_replaced (by simpa using h) hreplaced])

/-- **A step that has not** what it needs fails, and not as stale. -/
theorem run_step_of_not_admits {task : Task} (h : task.admits faults storage.hosts = false) :
    ∃ e, e ≠ .staleGeneration ∧
      Program.run (task.step faults now now') storage = (.error e, storage) := by
  rcases hstate : task.state with - | ⟨hostId, snapshot⟩ | request | request <;>
    simp only [Task.admits, hstate] at h <;> simp only [Task.step, hstate]
  · obtain ⟨e, hne, hrun⟩ := run_begin_of_unlisted h
    exact ⟨e, hne, by rw [Program.run_bind, hrun]⟩
  · obtain ⟨e, hne, hrun⟩ := run_lookupHost_of_unlisted h
    exact ⟨e, hne, by rw [Program.run_bind, hrun]⟩
  · cases h
  · exact ⟨.lockPoisoned, by simp, by
      rw [Program.run_bind, run_withInner_of_poisoned (by simpa using h)]⟩

/-- **A call in a replaced generation** that finds what it looks for comes to
the writer mutex. -/
theorem run_call_of_listed {write : Write} {handle : ℕ}
    (hreplaced : storage.inner.generation ≠ handle) (hp : faults.poisoned .hosts = false)
    (hlisted : write.listed storage.hosts = true) :
    (Program.run (write.call (some handle) faults now now') storage).1 =
      .error (if faults.poisoned .inner then .lockPoisoned else .staleGeneration) := by
  have hinner : ∀ {α : Type} (f : Inner → Except StorageError α × Inner),
      Program.run (withInner (some handle) faults f) storage =
        (.error (if faults.poisoned .inner then .lockPoisoned else .staleGeneration), storage) :=
      fun f => by
    rcases hi : faults.poisoned .inner with - | -
    · exact run_withInner_of_replaced hi hreplaced
    · exact run_withInner_of_poisoned hi
  cases write with
  | checkResult hostId state transition =>
    rw [Write.call, updateCheckResult, Program.run_bind, run_ensureHostExists_of_listed hp hlisted]
    simp only [hinner]
  | usage hostId snapshot =>
    obtain ⟨hkey, hvalid⟩ := Bool.and_eq_true_iff.mp hlisted
    obtain ⟨host, hget⟩ := Option.isSome_iff_exists.mp hkey
    simp only [Write.call, updateUsage, Program.run_bind, Program.run_mk,
      run_ensureHostExists_of_listed hp hkey, orInvalidData_eq_ok.mpr (of_decide_eq_true hvalid),
      run_lookupHost_of_get hp hget, hinner]
  | tcp hostId checkId snapshot =>
    obtain ⟨host, hget, hcheck⟩ := (Option.any_eq_true _ _).mp hlisted
    obtain ⟨check, hfind⟩ := findCheck_of_listed hcheck
    simp only [Write.call, updateTcp, Program.run_bind, Program.run_mk,
      run_lookupHost_of_get hp hget, hfind, hinner]

/-- One that does not find it fails, and not as stale. -/
theorem run_call_of_unlisted {write : Write} (handle : ℕ)
    (h : (!faults.poisoned .hosts && write.listed storage.hosts) = false) :
    ∃ e, e ≠ .staleGeneration ∧
      (Program.run (write.call (some handle) faults now now') storage).1 = .error e := by
  obtain ⟨e, hne, hbegin⟩ := run_begin_of_unlisted h
  refine ⟨e, hne, ?_⟩
  rw [← run_runAlone, Task.runAlone]
  simp only [Task.step, Program.run_bind, hbegin]

/-- **When an attempt in a replaced generation is told of it**: where no lock
it takes is poisoned, and the catalog lists what it is on. -/
theorem run_call_stale_iff {write : Write} {handle : ℕ}
    (hreplaced : storage.inner.generation ≠ handle) :
    (Program.run (write.call (some handle) faults now now') storage).1 =
        .error .staleGeneration ↔
      faults.poisoned .hosts = false ∧ faults.poisoned .inner = false ∧
        write.listed storage.hosts = true := by
  rcases hlook : !faults.poisoned .hosts && write.listed storage.hosts with - | -
  · obtain ⟨e, hne, hrun⟩ := run_call_of_unlisted now now' handle hlook
    rw [hrun]
    refine ⟨fun heq => absurd (Except.error.inj heq) hne, fun ⟨hp, _, hlisted⟩ => ?_⟩
    rw [hp, hlisted] at hlook
    cases hlook
  · obtain ⟨hp, hlisted⟩ := Bool.and_eq_true_iff.mp hlook
    have hp : faults.poisoned .hosts = false := by simpa using hp
    rw [run_call_of_listed now now' hreplaced hp hlisted]
    rcases faults.poisoned .inner with - | -
    · simp [hp, hlisted]
    · simp

/-! ## Generations only grow -/

theorem generation_step (task : Task) (faults : Faults) (now now' : ℤ) (storage : SqliteStorage) :
    (Program.run (task.step faults now now') storage).2.inner.generation =
      storage.inner.generation := by
  rcases hstate : task.state with - | ⟨hostId, snapshot⟩ | request | request <;>
    simp only [Task.step, hstate]
  · rw [Program.run_bind]
    rcases begin_cases task.write faults storage with ⟨e, h⟩ | ⟨state, -, h⟩ <;> rw [h]
    rfl
  · rw [Program.run_bind]
    rcases run_lookupHost_cases faults hostId storage with ⟨e, h⟩ | ⟨host, -, h⟩ <;> rw [h]
    rfl
  · rfl
  · rw [Program.run_bind, run_withInner]
    split_ifs with hp hg
    · rfl
    · rfl
    · rcases perform_cases request faults now now' storage.inner with ⟨e, h⟩ | ⟨inner, hdone, h⟩ <;>
        rw [h]
      exact hdone.generation

namespace World

variable {w : World}

theorem generation_advance (w : World) (i : ℕ) (faults : Faults) (now now' : ℤ) :
    (w.advance i faults now now').storage.inner.generation = w.storage.inner.generation := by
  unfold advance
  split
  · rfl
  · next task _ =>
    split_ifs
    · rfl
    · have h := generation_step task faults now now' w.storage
      generalize Program.run (task.step faults now now') w.storage = r at h
      rcases r with ⟨_ | _ | state, storage⟩ <;> exact h

theorem generation_reloadStep (w : World) (faults : Faults) (now now' : ℤ) :
    w.storage.inner.generation ≤ (w.reloadStep faults now now').storage.inner.generation := by
  unfold reloadStep
  split
  · exact le_rfl
  · next reload _ =>
    rcases reload.stage
    · split_ifs <;> exact le_rfl
    · split_ifs <;> exact le_rfl
    · rcases w.storage.inner.transaction_cases
          (reloadTransaction reload.hostMap reload.policies now now') faults with
        ⟨e, h⟩ | ⟨⟨⟩, conn, -, h⟩
      · rw [h]
      · rw [h]
        exact le_rfl
    · rcases reload.policies with - | config <;> exact le_rfl
    · exact Nat.le_succ _
    all_goals exact le_rfl

/-- **No event but the end of the process** takes a generation back. -/
theorem generation_le_step (event : Event)
    (h : ∀ faults now hosts, event ≠ .restart faults now hosts) :
    w.storage.inner.generation ≤ (w.step event).storage.inner.generation := by
  cases event with
  | monitorGeneration faults =>
    simp only [step]
    split_ifs
    · exact le_rfl
    · split <;> exact le_rfl
  | call handle write =>
    simp only [step]
    split_ifs <;> exact le_rfl
  | advance i faults now now' => exact (generation_advance w i faults now now').ge
  | cancel i =>
    simp only [step]
    split
    · split_ifs <;> exact le_rfl
    · exact le_rfl
  | reload faults hosts policies =>
    simp only [step]
    split_ifs <;> exact le_rfl
  | reloadStep faults now now' => exact generation_reloadStep w faults now now'
  | maintain op =>
    simp only [step]
    split_ifs with hop
    · exact (maintained_apply (Bool.and_eq_true_iff.mp hop).1 w.storage).generation.ge
    · exact le_rfl
  | clone read =>
    simp only [step]
    split_ifs <;> exact le_rfl
  | query reader =>
    simp only [step]
    split <;> exact le_rfl
  | restart faults now hosts => exact absurd rfl (h faults now hosts)

end World

end Storage

namespace App

open Storage (World Write Task Faults SqliteStorage)

namespace Monitored

variable {m : Monitored}

/-! ## A job that was replaced -/

/-- The generation of the job is no longer the current one. -/
def Replaced (m : Monitored) : Prop := m.world.storage.inner.generation ≠ m.handle

/-- **A turn finds what it looks for**: a step of an attempt that is taken in
a later generation still has what it needs. -/
def finds (m : Monitored) (turn : Turn) : Bool :=
  match turn, m.phase with
  | .persist faults _ _, .storing write =>
    decide (m.world.storage.inner.generation = m.handle) || m.world.blocked (m.task write) ||
      (m.task write).admits faults m.world.storage.hosts
  | _, _ => true

/-- A step of an attempt is taken. -/
def takes (m : Monitored) (turn : Turn) : Bool :=
  match turn, m.phase with
  | .persist .., .storing write => !m.world.blocked (m.task write)
  | _, _ => false

/-- The steps of attempts that a run takes. -/
def taken (m : Monitored) : List Turn → ℕ
  | [] => 0
  | turn :: turns => (m.takes turn).toNat + (m.step turn).taken turns

/-- Every turn of a run does. -/
def findsAll (m : Monitored) : List Turn → Bool
  | [] => true
  | turn :: turns => m.finds turn && (m.step turn).findsAll turns

/-- **A job stops by itself**: it gets one more answer at most, which tells
it that it is stale, and with it has returned. -/
def Stops (m m' : Monitored) : Prop :=
  ∃ further, m'.answers = m.answers ++ further ∧ further.length ≤ 1 ∧
    ∀ answer ∈ further, answer.result = .error .staleGeneration ∧ m'.phase = .returned

/-- The job has returned, or a later generation than its own is current. -/
def Behind (m : Monitored) : Prop :=
  m.phase = .returned ∨ m.handle < m.world.storage.inner.generation

/-- The job has returned, or is of no later generation than the current. -/
def Started (m : Monitored) : Prop :=
  m.phase = .returned ∨ m.handle ≤ m.world.storage.inner.generation

/-! ## One turn -/

theorem handle_step (turn : Turn) : (m.step turn).handle = m.handle := by
  rcases turn with event | event | ⟨faults, now, now'⟩
  · cases event <;> rfl
  · cases event <;> rfl
  · simp only [step]
    split
    · split_ifs
      · rfl
      · split <;> rfl
    · rfl

/-- **A job that has returned** does nothing more. -/
theorem step_of_returned (h : m.phase = .returned) (turn : Turn) :
    (m.step turn).phase = .returned ∧ (m.step turn).answers = m.answers := by
  rcases m with ⟨world, kind, handle, phase, attempt, metrics, answers⟩
  obtain rfl : phase = .returned := h
  rcases turn with event | event | ⟨faults, now, now'⟩
  · cases event <;> exact ⟨rfl, rfl⟩
  · cases event <;> exact ⟨rfl, rfl⟩
  · exact ⟨rfl, rfl⟩

/-- A turn that is no step of an attempt gets no answer. -/
theorem answers_of_ne_persist (turn : Turn)
    (h : ∀ faults now now', turn ≠ .persist faults now now') :
    (m.step turn).answers = m.answers := by
  rcases turn with event | event | ⟨faults, now, now'⟩
  · cases event <;> rfl
  · cases event <;> rfl
  · exact absurd rfl (h faults now now')

/-- It leaves the attempt as it is, unless it ends the job. -/
theorem attempt_of_ne_persist (turn : Turn)
    (h : ∀ faults now now', turn ≠ .persist faults now now') {write : Write}
    (hphase : m.phase = .storing write) :
    (m.step turn).phase = .returned ∨
      (m.step turn).phase = .storing write ∧ (m.step turn).attempt = m.attempt := by
  rcases turn with event | event | ⟨faults, now, now'⟩
  · cases event
    case restart => exact Or.inl rfl
    all_goals exact Or.inr ⟨hphase, rfl⟩
  · cases event
    case aborted => exact Or.inl rfl
    all_goals exact Or.inr ⟨by simp only [step, goOn, runJob, hphase], rfl⟩
  · exact absurd rfl (h faults now now')

/-- The generation only grows as long as the job lives. -/
theorem generation_step (turn : Turn) :
    (m.step turn).phase = .returned ∨
      m.world.storage.inner.generation ≤ (m.step turn).world.storage.inner.generation := by
  rcases turn with event | event | ⟨faults, now, now'⟩
  · rcases event
    case restart => exact Or.inl rfl
    all_goals exact Or.inr (World.generation_le_step _ (by simp))
  · cases event <;> exact Or.inr le_rfl
  · refine Or.inr ?_
    simp only [step]
    split
    · next write _ =>
      split_ifs
      · exact le_rfl
      · have h := Storage.generation_step (m.task write) faults now now' m.world.storage
        generalize Program.run ((m.task write).step faults now now') m.world.storage = r at h
        rcases r with ⟨e | ⟨- | attempt⟩, storage⟩ <;> exact h.ge
    · exact le_rfl

theorem Behind.step (h : m.Behind) (turn : Turn) : (m.step turn).Behind := by
  rcases h with h | h
  · exact Or.inl (step_of_returned h turn).1
  · refine (generation_step turn).imp_right fun hle => ?_
    rw [handle_step]
    exact h.trans_le hle

theorem Started.step (h : m.Started) (turn : Turn) : (m.step turn).Started := by
  rcases h with h | h
  · exact Or.inl (step_of_returned h turn).1
  · refine (generation_step turn).imp_right fun hle => ?_
    rw [handle_step]
    exact h.trans hle

/-- **What a job that was replaced is told** on a turn. -/
inductive Told (m : Monitored) (turn : Turn) : Prop where
  /-- Nothing, and what is left of its attempt is less by the step it takes. -/
  | nothing (finds : m.finds turn = true) (answers : (m.step turn).answers = m.answers)
      (left : ∀ write, m.phase = .storing write → (m.step turn).phase = .returned ∨
        (m.step turn).phase = .storing write ∧
          (m.takes turn).toNat + (m.step turn).attempt.left write ≤ m.attempt.left write)
  /-- That it is stale, and it returns. -/
  | stale (finds : m.finds turn = true) (phase : (m.step turn).phase = .returned)
      (answer : Answer) (result : answer.result = .error .staleGeneration)
      (answers : (m.step turn).answers = m.answers ++ [answer])
  /-- That it looks for what is not there. -/
  | otherwise (finds : m.finds turn = false) (answer : Answer)
      (result : answer.result ≠ .error .staleGeneration)
      (answers : (m.step turn).answers = m.answers ++ [answer])

theorem told_of_ne_persist {turn : Turn} (h : ∀ faults now now', turn ≠ .persist faults now now') :
    m.Told turn := by
  have hidle : m.finds turn = true ∧ m.takes turn = false := by
    rcases turn with event | event | ⟨faults, now, now'⟩
    · exact ⟨rfl, rfl⟩
    · exact ⟨rfl, rfl⟩
    · exact absurd rfl (h faults now now')
  refine .nothing hidle.1 (answers_of_ne_persist turn h) fun write hphase => ?_
  refine (attempt_of_ne_persist turn h hphase).imp_right fun ⟨hstays, hattempt⟩ => ?_
  rw [hattempt, hidle.2]
  exact ⟨hstays, (Nat.zero_add _).le⟩

/-- A step of an attempt in a later generation. -/
theorem told_persist {write : Write} (hphase : m.phase = .storing write)
    (hlt : m.handle < m.world.storage.inner.generation) (faults : Faults) (now now' : ℤ) :
    m.Told (.persist faults now now') := by
  have hstep : ∀ write', m.phase = .storing write' → write' = write := fun write' h =>
    Phase.storing.inj (h.symm.trans hphase)
  rcases hblocked : m.world.blocked (m.task write) with - | -
  · rcases hadmits : (m.task write).admits faults m.world.storage.hosts with - | -
    · obtain ⟨e, hne, hrun⟩ := Storage.run_step_of_not_admits now now' hadmits
      refine .otherwise ?_ ⟨.error e, m.world.storage.inner.generation⟩ (by simpa using hne) ?_
      · simp only [finds, hphase, hblocked, hadmits, decide_eq_false hlt.ne', Bool.or_false]
      · simp only [step, hphase, hblocked, hrun, if_neg Bool.false_ne_true]
        rfl
    · have hfinds : m.finds (.persist faults now now') = true := by
        simp only [finds, hphase, hadmits, Bool.or_true]
      rcases Storage.run_step_of_admits now now' hlt.ne' hadmits with ⟨attempt, hleft, hrun⟩ | hrun
      · have hnext : m.step (.persist faults now now') = { m with attempt } := by
          simp only [step, hphase, hblocked, hrun, if_neg Bool.false_ne_true]
        refine .nothing hfinds (by rw [hnext]) fun write' hwrite => Or.inr ?_
        rw [hnext, hstep write' hwrite]
        refine ⟨hphase, ?_⟩
        simp only [takes, hphase, hblocked]
        exact (Nat.add_comm _ _).trans_le hleft
      · refine .stale hfinds ?_ ⟨.error .staleGeneration, m.world.storage.inner.generation⟩ rfl ?_
        · simp only [step, hphase, hblocked, hrun, if_neg Bool.false_ne_true, answered, goOn,
            runJob]
        · simp only [step, hphase, hblocked, hrun, if_neg Bool.false_ne_true]
          rfl
  · have hnext : m.step (.persist faults now now') = m := by
      simp only [step, hphase, hblocked, if_pos]
    refine .nothing ?_ (by rw [hnext]) fun write' hwrite => Or.inr ?_
    · simp only [finds, hphase, hblocked, Bool.or_true, Bool.true_or]
    · rw [hnext, hstep write' hwrite]
      refine ⟨hphase, ?_⟩
      simp only [takes, hphase, hblocked]
      exact (Nat.zero_add _).le

/-- **Every turn of a job that was replaced.** -/
theorem Behind.told (h : m.Behind) (turn : Turn) : m.Told turn := by
  rcases turn with event | event | ⟨faults, now, now'⟩
  · exact told_of_ne_persist (by simp)
  · exact told_of_ne_persist (by simp)
  · rcases hphase : m.phase with - | - | write | -
    case storing => exact told_persist hphase (h.resolve_left (by simp [hphase])) faults now now'
    all_goals
      exact .nothing (by simp only [finds, hphase]) (by simp only [Monitored.step, hphase])
        fun write hstoring => by simp [hphase] at hstoring

/-! ## Runs -/

theorem run_of_returned (h : m.phase = .returned) (turns : List Turn) :
    (m.run turns).phase = .returned ∧ (m.run turns).answers = m.answers ∧
      m.findsAll turns = true := by
  induction turns generalizing m with
  | nil => exact ⟨h, rfl, rfl⟩
  | cons turn turns ih =>
    obtain ⟨hphase, hanswers⟩ := step_of_returned h turn
    obtain ⟨hrun, hall, hfinds⟩ := ih hphase
    have hturn : m.finds turn = true := by cases turn <;> simp only [finds, h]
    exact ⟨hrun, hall.trans hanswers, by rw [findsAll, hturn, hfinds]; rfl⟩

/-- The answers only grow. -/
theorem Behind.answers_grow (h : m.Behind) (turns : List Turn) :
    m.answers <+: (m.run turns).answers := by
  induction turns generalizing m with
  | nil => exact List.prefix_rfl
  | cons turn turns ih =>
    refine List.IsPrefix.trans ?_ (ih (h.step turn))
    cases h.told turn with
    | nothing _ hanswers => rw [hanswers]
    | stale _ _ answer _ hanswers => exact hanswers ▸ List.prefix_append m.answers [answer]
    | otherwise _ answer _ hanswers => exact hanswers ▸ List.prefix_append m.answers [answer]

/-- **A job that was replaced stops by itself** in just the runs whose steps
find what they look for. -/
theorem Behind.stops_iff (h : m.Behind) (turns : List Turn) :
    m.Stops (m.run turns) ↔ m.findsAll turns = true := by
  induction turns generalizing m with
  | nil => exact iff_of_true ⟨[], (List.append_nil _).symm, Nat.zero_le 1, by simp⟩ rfl
  | cons turn turns ih =>
    rw [findsAll]
    cases h.told turn with
    | nothing hfinds hanswers =>
      rw [hfinds, Bool.true_and, ← ih (h.step turn), Stops, Stops, hanswers]
      rfl
    | stale hfinds hphase answer hstale hanswers =>
      obtain ⟨hreturned, hall, hrest⟩ := run_of_returned hphase turns
      refine iff_of_true ⟨[answer], hall.trans hanswers, le_rfl, fun other hmem => ?_⟩
        (by rw [hfinds, hrest]; rfl)
      rw [List.mem_singleton.mp hmem]
      exact ⟨hstale, hreturned⟩
    | otherwise hfinds answer hne hanswers =>
      rw [hfinds, Bool.false_and]
      refine iff_of_false ?_ Bool.false_ne_true
      rintro ⟨further, heq, -, hall⟩
      -- the answer it got is the first of those that follow
      obtain ⟨rest, hrest⟩ := (h.step turn).answers_grow turns
      rw [hanswers, List.append_assoc, List.singleton_append] at hrest
      obtain rfl : answer :: rest = further := List.append_cancel_left (hrest.trans heq)
      exact hne (hall answer List.mem_cons_self).1

/-- **An attempt comes to its end**: the steps it takes are no more than it had
left. -/
theorem Behind.taken_le (h : m.Behind) {write : Write} (hphase : m.phase = .storing write)
    (turns : List Turn) (hfinds : m.findsAll turns = true) :
    (m.run turns).phase = .returned ∨
      m.taken turns + (m.run turns).attempt.left write ≤ m.attempt.left write := by
  induction turns generalizing m with
  | nil => exact Or.inr (Nat.zero_add _).le
  | cons turn turns ih =>
    rw [findsAll, Bool.and_eq_true] at hfinds
    cases h.told turn with
    | nothing _ _ hleft =>
      rcases hleft write hphase with hreturned | ⟨hstays, hleft⟩
      · exact Or.inl (run_of_returned hreturned turns).1
      · refine (ih (h.step turn) hstays hfinds.2).imp_right fun hle => ?_
        rw [taken, Nat.add_assoc]
        exact (Nat.add_le_add_left hle _).trans hleft
    | stale _ hreturned => exact Or.inl (run_of_returned hreturned turns).1
    | otherwise hnot =>
      rw [hnot] at hfinds
      exact absurd hfinds.1 Bool.false_ne_true

theorem Started.run (h : m.Started) (turns : List Turn) : (m.run turns).Started := by
  induction turns generalizing m with
  | nil => exact h
  | cons turn turns ih => exact ih (h.step turn)

end Monitored

/-- **When a replaced job stops by itself.** An attempt through its handle is
told that it is stale just where no lock that it takes is poisoned and the
catalog of the later generation still lists what it is on. So the job gets no
other answer in just the runs whose steps find that; and in these, whatever
else goes on, it has returned once its attempt has taken the steps it had
left. -/
theorem replaced_stops_iff (before : List Storage.Event) (kind : String) (handle : ℕ)
    (turns : List Turn) (hhandle : handle ∈ (World.run before).handles)
    (hreplaced : ((Monitored.start (World.run before) kind handle).run turns).Replaced) :
    let m := (Monitored.start (World.run before) kind handle).run turns
    (∀ (write : Write) (faults : Faults) (now now' : ℤ),
      (Program.run (write.call (some m.handle) faults now now') m.world.storage).1 =
          .error .staleGeneration ↔
        faults.poisoned .hosts = false ∧ faults.poisoned .inner = false ∧
          write.listed m.world.storage.hosts = true) ∧
      ∀ turns' : List Turn,
        (m.Stops (m.run turns') ↔ m.findsAll turns' = true) ∧
          ∀ write, m.phase = .storing write → m.findsAll turns' = true →
            m.attempt.left write ≤ m.taken turns' → (m.run turns').phase = .returned := by
  intro m
  have hstarted : m.Started :=
    Monitored.Started.run (Or.inr ((World.coherent_run before).handles handle hhandle)) turns
  have hbehind : m.Behind := hstarted.imp_right fun hle => hle.lt_of_ne hreplaced.symm
  refine ⟨fun write faults now now' => Storage.run_call_stale_iff now now' hreplaced,
    fun turns' => ⟨hbehind.stops_iff turns', fun write hphase hfinds htaken => ?_⟩⟩
  refine (hbehind.taken_le hphase turns' hfinds).resolve_right fun hle => ?_
  have hpos := (m.run turns').attempt.left_pos write
  omega

/-! ## A sample -/

/-- A host that is pinged. -/
def samplePinged (address : String) : Host where
  id := "r1"
  address := address
  name := "r1"
  groups := []
  modules := { icmp := { enabled := true } }

def sampleUp : HostRuntimeState where
  status := .up
  lastCheckedAt := some 2000000000
  consecutiveSuccesses := 1

/-- A job has pinged it, and the configuration is replaced. -/
def sampleReplaced (hosts : List Host) : Monitored :=
  (Monitored.start
    (World.run [.restart {} 0 [samplePinged "192.0.2.1"], .monitorGeneration {}]) "icmp" 0).run
    (([.job .admitted, .job (.observed (.checkResult "r1" sampleUp none) true 1),
      .other (.reload {} hosts none)] : List Turn) ++
        List.replicate 10 (.other (.reloadStep {} 1000000000 1000000000)))

/-- The job is given time to store what it has observed. -/
def sampleAttempts : List Turn := List.replicate 6 (.persist {} 2000000000 2000000000)

theorem sampleReplaced_stops :
    let m := sampleReplaced [samplePinged "192.0.2.2"]
    m.Replaced ∧ m.Stops (m.run sampleAttempts) ∧ (m.run sampleAttempts).phase = .returned := by
  have hreplaced : (sampleReplaced [samplePinged "192.0.2.2"]).Replaced := by
    unfold Monitored.Replaced
    decide +kernel
  have hfinds : (sampleReplaced [samplePinged "192.0.2.2"]).findsAll sampleAttempts = true := by
    decide +kernel
  obtain ⟨hstops, hends⟩ :=
    (replaced_stops_iff _ "icmp" 0 _ (by decide +kernel) hreplaced).2 sampleAttempts
  exact ⟨hreplaced, hstops.mpr hfinds,
    hends (.checkResult "r1" sampleUp none) (by decide +kernel) hfinds (by decide +kernel)⟩

/-- **The job of a host that is removed goes on**: it is told that there is no
such host, and tries again. -/
theorem sampleRemoved_not_stops :
    ¬ ∀ (before : List Storage.Event) (kind : String) (handle : ℕ) (turns turns' : List Turn),
      handle ∈ (World.run before).handles →
        let m := (Monitored.start (World.run before) kind handle).run turns
        m.Replaced → m.Stops (m.run turns') := by
  intro h
  have hreplaced : (sampleReplaced []).Replaced := by
    unfold Monitored.Replaced
    decide +kernel
  obtain ⟨further, hfurther, hlength, -⟩ :
      (sampleReplaced []).Stops ((sampleReplaced []).run sampleAttempts) :=
    h _ "icmp" 0 _ sampleAttempts (by decide +kernel) hreplaced
  -- three steps would do, and six have each got an answer
  have hanswers : (sampleReplaced []).answers.length = 0 ∧
      ((sampleReplaced []).run sampleAttempts).answers.length = 6 := by decide +kernel
  have hsum := congrArg List.length hfurther
  rw [List.length_append, hanswers.1, hanswers.2] at hsum
  omega

end App

end SimpleNetworkMonitor
