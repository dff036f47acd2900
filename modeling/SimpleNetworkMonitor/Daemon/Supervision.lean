import SimpleNetworkMonitor.Daemon.Coverage
/-!
# The end of a monitor

A monitor that ends by itself ends the process, and nothing else does. A
reload ends monitors of its own accord, and the generations keep the two
apart. A job of the generation in force is let down by nothing but its own
failure: no write of it is refused.
-/

namespace SimpleNetworkMonitor.Daemon

open Storage

variable {V : Type} {toml : Toml V} {p p₀ : Process}

/-! ## Writes -/

section Started

variable {path : String} {file : Except String String} {backend : Except String Unit}
variable {faults : StartFaults} {now now' : ℤ} {conn : Database}

/-- **No write of the generation in force is refused.** In every state that a
process comes to, an attempt to store what a job of the generation in force
observed succeeds, or a lock is poisoned, or a statement fails, or the
retention of samples reaches back further than a time can. It is never told
that its host or its check is not there, or that its generation was
replaced; the job goes on. -/
theorem writes_not_refused (hstart : main toml path file backend faults now now' conn = some p₀)
    {events : List ProcessEvent} (hsqlite : SqliteFaults events)
    (hsettled : (p₀.run toml events).manager.phase.settled = true) :
    let p := p₀.run toml events
    ∀ m ∈ p.current, ∀ task ∈ m.tasks, ∀ write, task.state = .running (.storing write) →
      ∀ faults now now',
        (Program.run (write.call (some m.handle) faults now now') p.storage).1 = .ok () ∨
          ∃ e, (Program.run (write.call (some m.handle) faults now now') p.storage).1 = .error e ∧
            Excused faults now' p.storage e := by
  intro p m hm task htask write hstoring faults now now'
  have h : Supervised p := supervised_run (supervised_main hstart) hsqlite
  have hforce := h.inForce hsettled m hm
  have hjob : task.job ∈ p.jobs := List.mem_flatMap.mpr ⟨m, hm, List.mem_map_of_mem htask⟩
  obtain ⟨host, hmem, hjob⟩ := List.mem_flatMap.mp ((h.monitored hsettled).1.subset hjob)
  exact run_call_of_current now now' hforce.handle
    (listed_of_writes h.installed hmem hjob ((hforce.healthy task htask).own write hstoring))

end Started

/-! ## Ends -/

/-- **A task that failed by itself**: it panicked, or the state its host was
left in could not be read. -/
def TaskState.failed : TaskState → Bool
  | .unreadable e => e ≠ .busy
  | .panicked => true
  | _ => false

theorem Healthy.failed_iff {task : MonitorTask} (h : Healthy task) :
    task.state.failed = true ↔ task.state.ended = true := by
  obtain ⟨job, state⟩ := task
  cases state with
  | loading => simp [TaskState.failed, TaskState.ended]
  | running phase =>
    have hne : phase ≠ .returned := fun heq => h.current (congrArg TaskState.running heq)
    simp [TaskState.failed, TaskState.ended, hne]
  | missing => exact absurd rfl h.found
  | unreadable e =>
    have hne : e ≠ .busy := fun heq => h.read (congrArg TaskState.unreadable heq)
    simp [TaskState.failed, TaskState.ended, hne]
  | panicked => simp [TaskState.failed, TaskState.ended]

namespace Process

/-- A monitor of the generation in force has a task that failed by itself. -/
def Failed (p : Process) : Prop := ∃ m ∈ p.current, ∃ task ∈ m.tasks, task.state.failed = true

end Process

/-- **A monitor in force is over** where a task of it failed. -/
theorem InForce.finished_iff {storage : SqliteStorage} {m : SpawnedMonitor} (h : InForce storage m) :
    m.finished = true ↔ ∃ task ∈ m.tasks, task.state.failed = true := by
  have hbusy : m.tasks.isEmpty = false := by simpa using h.busy
  rw [SpawnedMonitor.finished, h.aborted, hbusy, Bool.or_self, Bool.false_or, List.any_eq_true]
  exact exists_congr fun task => and_congr_right fun hmem => ((h.healthy task hmem).failed_iff).symm

/-- What ends the loop is the end of a monitor in force. -/
theorem Supervised.failed_of_exit (h : Supervised p) (hwait : p.manager.phase = .waiting)
    (hexit : (p.step toml .exit).manager.phase = .exited) : p.Failed := by
  have hsettled : p.manager.phase.settled = true := by rw [hwait]; rfl
  simp only [Process.step, hwait] at hexit
  rcases hexits : p.exits with - | ⟨⟨generation, kind⟩, exits⟩
  · simp [hexits, hwait] at hexit
  · simp only [hexits, Manager.step, hwait] at hexit
    split_ifs at hexit with hgeneration
    · obtain ⟨m, hm, hexited, heq⟩ := h.told (generation, kind) (hexits ▸ List.mem_cons_self)
      have hcurrent : m ∈ p.current := by
        refine List.mem_filter.mpr ⟨hm, decide_eq_true ?_⟩
        exact (Prod.mk.inj heq).1.trans hgeneration
      exact ⟨m, hcurrent, (h.inForce hsettled m hcurrent).finished_iff.mp (h.finished m hm hexited)⟩
    · rw [hwait] at hexit
      cases hexit

/-! ## What is under way arrives -/

namespace Process

/-- **Everything that is under way**: the monitors that are over end, and the
manager takes what it is told. -/
def deliveries (p : Process) : List ProcessEvent :=
  (List.range p.monitors.length).map .watchExit ++
    List.replicate (p.exits.length + p.monitors.length) .exit

end Process

/-- Taking an end where the loop has ended changes nothing. -/
theorem exit_of_exited (h : p.manager.phase = .exited) : p.step toml .exit = p := by
  simp only [Process.step, h]

theorem run_exit_of_exited (h : p.manager.phase = .exited) (n : ℕ) :
    p.run toml (List.replicate n .exit) = p := by
  induction n with
  | zero => rfl
  | succ n ih =>
    rw [List.replicate_succ, Process.run_cons, exit_of_exited h, ih]

/-- **The end of a monitor in force is taken**, however many are before it in
the channel. -/
theorem exited_of_told (n : ℕ) (hwait : p.manager.phase = .waiting) (hn : p.exits.length ≤ n)
    (htold : ∃ e ∈ p.exits, e.1 = p.manager.generation) :
    (p.run toml (List.replicate n .exit)).manager.phase = .exited := by
  induction n generalizing p with
  | zero =>
    obtain ⟨e, he, -⟩ := htold
    rw [List.length_eq_zero_iff.mp (Nat.le_zero.mp hn)] at he
    cases he
  | succ n ih =>
    rw [List.replicate_succ, Process.run_cons]
    obtain ⟨e, he, hgeneration⟩ := htold
    rcases hexits : p.exits with - | ⟨⟨generation, kind⟩, exits⟩
    · rw [hexits] at he
      cases he
    · simp only [Process.step, hwait, hexits, Manager.step]
      split_ifs with heq
      · rw [run_exit_of_exited rfl]
      · -- the first is of an older generation, and the one that counts is behind it
        rw [hexits] at he hn
        refine ih hwait (Nat.le_of_succ_le_succ hn) ⟨e, ?_, hgeneration⟩
        refine (List.mem_cons.mp he).resolve_left ?_
        rintro rfl
        exact heq hgeneration

/-- A monitor that is over and has not ended ends. -/
theorem watchExit_cases (p : Process) (n : ℕ) :
    (p.step toml (.watchExit n) = p ∧
        ∀ m, p.monitors[n]? = some m → m.finished = true → m.exited = true) ∨
      ∃ m, p.monitors[n]? = some m ∧ p.step toml (.watchExit n) = { p with
        monitors := p.monitors.set n { m with exited := true }
        exits := p.exits ++ [(m.generation, m.kind)] } := by
  simp only [Process.step]
  rcases hn : p.monitors[n]? with - | m
  · exact Or.inl ⟨rfl, fun m h => by cases h⟩
  · simp only
    split_ifs with hover
    · exact Or.inr ⟨m, rfl, rfl⟩
    · refine Or.inl ⟨rfl, fun m' h hm => ?_⟩
      obtain rfl := Option.some.inj h
      simpa [hm] using hover

/-- **The monitors that are over end**: nothing else changes, and each of them
has told of it. -/
theorem run_watchExit (p : Process) (l : List ℕ) :
    let q := p.run toml (l.map .watchExit)
    q.manager = p.manager ∧ q.exits.length ≤ p.exits.length + l.length ∧
      ∀ n m, p.monitors[n]? = some m → ∃ exited,
        q.monitors[n]? = some { m with exited := exited } ∧
          (n ∈ l → m.finished = true → exited = true) := by
  induction l using List.reverseRecOn with
  | nil => exact ⟨rfl, le_rfl, fun n m hn => ⟨m.exited, hn, fun h => absurd h List.not_mem_nil⟩⟩
  | append_singleton l i ih =>
    obtain ⟨hmanager, hlength, hmonitors⟩ := ih
    intro q
    have hq : q = (p.run toml (l.map .watchExit)).step toml (.watchExit i) := by
      show p.run toml ((l ++ [i]).map .watchExit) = _
      rw [List.map_append, Process.run_append]
      rfl
    generalize p.run toml (l.map .watchExit) = before at hmanager hlength hmonitors hq
    rw [List.length_append, List.length_singleton, ← Nat.add_assoc]
    rcases @watchExit_cases V toml before i with ⟨hsame, hended⟩ | ⟨monitor, hi, hstep⟩
    · rw [hq, hsame]
      refine ⟨hmanager, Nat.le_succ_of_le hlength, fun n m hn => ?_⟩
      obtain ⟨exited, hbefore, hover⟩ := hmonitors n m hn
      refine ⟨exited, hbefore, fun hmem hm => ?_⟩
      rcases List.mem_append.mp hmem with hmem | hni
      · exact hover hmem hm
      · -- one that is over and does not end has ended before
        rw [List.mem_singleton.mp hni] at hbefore
        exact hended _ hbefore hm
    · rw [hq, hstep]
      refine ⟨hmanager, by simpa using hlength, fun n m hn => ?_⟩
      obtain ⟨exited, hbefore, hover⟩ := hmonitors n m hn
      by_cases hni : n = i
      · subst hni
        obtain rfl := Option.some.inj (hi.symm.trans hbefore)
        exact ⟨true, List.getElem?_set_self (List.getElem?_eq_some_iff.mp hi).1, fun _ _ => rfl⟩
      · refine ⟨exited, by rw [List.getElem?_set_ne (Ne.symm hni), hbefore], fun hmem => hover ?_⟩
        exact (List.mem_append.mp hmem).resolve_right fun h => hni (List.mem_singleton.mp h)

/-- Neither of the two steps makes a task fail. -/
theorem failed_of_watchExit {n : ℕ} (h : (p.step toml (.watchExit n)).Failed) : p.Failed := by
  rcases @watchExit_cases V toml p n with ⟨hsame, -⟩ | ⟨monitor, hn, hstep⟩
  · rwa [hsame] at h
  · rw [hstep] at h
    obtain ⟨m, hm, hfailed⟩ := h
    obtain ⟨hm, hgeneration⟩ := List.mem_filter.mp hm
    rcases List.mem_or_eq_of_mem_set hm with hm | rfl
    · exact ⟨m, List.mem_filter.mpr ⟨hm, hgeneration⟩, hfailed⟩
    · exact ⟨monitor, List.mem_filter.mpr ⟨List.mem_of_getElem? hn, hgeneration⟩, hfailed⟩

theorem failed_of_step_exit (h : (p.step toml .exit).Failed) : p.Failed := by
  have hsame : (p.step toml .exit).current = p.current := by
    simp only [Process.step]
    split
    · next hwait _ =>
      simp only [Process.current, Manager.step, hwait]
      split_ifs <;> rfl
    · rfl
  rwa [Process.Failed, hsame] at h

/-- The deliveries end the loop only where a task failed. -/
theorem Supervised.failed_of_deliveries (h : Supervised p) {events : List ProcessEvent}
    (hevents : ∀ event ∈ events, event = .exit ∨ ∃ n, event = .watchExit n)
    (hwait : p.manager.phase = .waiting)
    (hexited : (p.run toml events).manager.phase = .exited) : p.Failed := by
  induction events generalizing p with
  | nil =>
    rw [show p.run toml [] = p from rfl, hwait] at hexited
    cases hexited
  | cons event events ih =>
    rw [Process.run_cons] at hexited
    have hrest := fun e he => hevents e (List.mem_cons_of_mem _ he)
    rcases hevents event List.mem_cons_self with rfl | ⟨n, rfl⟩
    · by_cases hnext : (p.step toml .exit).manager.phase = .exited
      · exact h.failed_of_exit hwait hnext
      · refine failed_of_step_exit (ih (supervised_exit h) hrest ?_ hexited)
        -- an end that does not end the loop leaves the manager as it is
        simp only [Process.step] at hnext ⊢
        split at hnext
        · simp only [Manager.step, hwait] at hnext ⊢
          split_ifs at hnext ⊢
          · exact absurd rfl hnext
          · exact hwait
        · exact hwait
    · refine failed_of_watchExit (ih (supervised_watchExit h n) hrest ?_ hexited)
      rcases @watchExit_cases V toml p n with ⟨hsame, -⟩ | ⟨monitor, -, hstep⟩
      · rw [hsame, hwait]
      · rw [hstep, hwait]

/-- A task that failed is told of, once everything under way has arrived. -/
theorem Supervised.exited_of_failed (h : Supervised p) (hwait : p.manager.phase = .waiting)
    (hfailed : p.Failed) : (p.run toml p.deliveries).manager.phase = .exited := by
  have hsettled : p.manager.phase.settled = true := by rw [hwait]; rfl
  obtain ⟨hmanager, hlength, hmonitors⟩ := @run_watchExit V toml p
    (List.range p.monitors.length)
  have hq : Supervised (p.run toml ((List.range p.monitors.length).map .watchExit)) := by
    refine supervised_run h fun n i faults now now' hmem => ?_
    obtain ⟨_, -, heq⟩ := List.mem_map.mp hmem
    cases heq
  rw [Process.deliveries, Process.run_append]
  set q := p.run toml ((List.range p.monitors.length).map .watchExit)
  rw [List.length_range] at hlength
  obtain ⟨m, hm, hfailed⟩ := hfailed
  have hover := (h.inForce hsettled m hm).finished_iff.mpr hfailed
  obtain ⟨hm, hgeneration⟩ := List.mem_filter.mp hm
  obtain ⟨n, hn⟩ := List.getElem?_of_mem hm
  obtain ⟨exited, hqn, hended⟩ := hmonitors n m hn
  obtain rfl := hended (List.mem_range.mpr (List.getElem?_eq_some_iff.mp hn).1) hover
  refine exited_of_told _ (hmanager ▸ hwait) hlength
    ⟨(m.generation, m.kind), hq.telling (by simp [hmanager, hwait]) { m with exited := true }
      (List.mem_filter.mpr ⟨List.mem_of_getElem? hqn, ?_⟩) rfl, ?_⟩
  · rw [hmanager]
    exact hgeneration
  · rw [hmanager]
    exact of_decide_eq_true hgeneration

/-- **A monitor that fails ends the process, and nothing else does.** In every
state in which the manager waits: the next end in the channel ends the loop
only where a task of the generation in force panicked or could not read the
state of its host, so neither a reload nor what it aborts ever does; where a
task failed so, the loop ends once what is under way has arrived, however
many ends of older generations are before it, and otherwise it does not; and
every monitor of an older generation has been aborted. -/
theorem monitor_ends_supervised {path : String} {file : Except String String}
    {backend : Except String Unit} {faults : StartFaults} {now now' : ℤ} {conn : Database}
    (hstart : main toml path file backend faults now now' conn = some p₀)
    {events : List ProcessEvent} (hsqlite : SqliteFaults events)
    (hwait : (p₀.run toml events).manager.phase = .waiting) :
    let p := p₀.run toml events
    ((p.step toml .exit).manager.phase = .exited → p.Failed) ∧
      ((p.run toml p.deliveries).manager.phase = .exited ↔ p.Failed) ∧
      ∀ m ∈ p.monitors, m.aborted = false → m ∈ p.current := by
  intro p
  have h : Supervised p := supervised_run (supervised_main hstart) hsqlite
  refine ⟨h.failed_of_exit hwait, ⟨h.failed_of_deliveries ?_ hwait, h.exited_of_failed hwait⟩,
    fun m hm haborted => List.mem_filter.mpr ⟨hm, decide_eq_true (h.old m hm haborted)⟩⟩
  intro event hmem
  rcases List.mem_append.mp hmem with hmem | hmem
  · obtain ⟨n, -, rfl⟩ := List.mem_map.mp hmem
    exact Or.inr ⟨n, rfl⟩
  · exact Or.inl (List.eq_of_mem_replicate hmem)

/-! ## Samples -/

/-- The answer of the host is about to be stored. -/
theorem sampleMain_stores : ∃ p : Process, sampleMain = some p ∧
    let p := p.run sampleToml (sampleRun.take 3)
    ∃ m ∈ p.current, ∃ task ∈ m.tasks, ∃ write, task.state = .running (.storing write) ∧
      ∀ faults now now',
        (Program.run (write.call (some m.handle) faults now now') p.storage).1 = .ok () ∨
          ∃ e, (Program.run (write.call (some m.handle) faults now now') p.storage).1 = .error e ∧
            Excused faults now' p.storage e := by
  have hstart : sampleMain.isSome = true := by decide +kernel
  obtain ⟨p, hp⟩ := Option.isSome_iff_exists.mp hstart
  have hrun : sampleMain.all fun p =>
      (p.run sampleToml (sampleRun.take 3)).manager.phase.settled &&
        (p.run sampleToml (sampleRun.take 3)).current.any fun m => m.tasks.any fun task =>
          task.state = .running (.storing (.checkResult "r1" {} none)) := by decide +kernel
  rw [hp, Option.all_some, Bool.and_eq_true, List.any_eq_true] at hrun
  obtain ⟨hsettled, m, hm, hany⟩ := hrun
  obtain ⟨task, htask, hstoring⟩ := List.any_eq_true.mp hany
  refine ⟨p, hp, m, hm, task, htask, _, of_decide_eq_true hstoring, fun faults now now' => ?_⟩
  have hsqlite : SqliteFaults (sampleRun.take 3) := fun n i faults now now' hmem =>
    sqliteFaults_sampleRun n i faults now now' (List.mem_of_mem_take hmem)
  exact writes_not_refused hp hsqlite hsettled m hm task htask _ (of_decide_eq_true hstoring) faults
    now now'

/-- A job of the generation that was replaced ends, and the process goes on.
One of the new generation panics, and the process ends. -/
theorem sampleMain_supervised : ∃ p : Process, sampleMain = some p ∧
    ¬ (p.run sampleToml sampleRun).Failed ∧
      (p.run sampleToml (sampleRun ++ [.task 1 0 .panic])).Failed := by
  have hstart : sampleMain.isSome = true := by decide +kernel
  obtain ⟨p, hp⟩ := Option.isSome_iff_exists.mp hstart
  have hrun : sampleMain.all fun p =>
      let q := p.run sampleToml sampleRun
      q.manager.phase = .waiting && (q.run sampleToml q.deliveries).manager.phase ≠ .exited := by
    decide +kernel
  have hpanic : sampleMain.all fun p =>
      let q := p.run sampleToml (sampleRun ++ [.task 1 0 .panic])
      q.manager.phase = .waiting && (q.run sampleToml q.deliveries).manager.phase = .exited := by
    decide +kernel
  rw [hp, Option.all_some, Bool.and_eq_true, decide_eq_true_eq, decide_eq_true_eq] at hrun hpanic
  have hsqlite : SqliteFaults (sampleRun ++ [.task 1 0 .panic]) := by
    intro n i faults now now' hmem
    refine sqliteFaults_sampleRun n i faults now now' ((List.mem_append.mp hmem).resolve_right ?_)
    simp
  exact ⟨p, hp,
    fun hfailed => hrun.2 ((monitor_ends_supervised hp sqliteFaults_sampleRun hrun.1).2.1.mpr hfailed),
    (monitor_ends_supervised hp hsqlite hpanic.1).2.1.mp hpanic.2⟩

end SimpleNetworkMonitor.Daemon
