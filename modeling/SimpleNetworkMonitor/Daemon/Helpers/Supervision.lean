import SimpleNetworkMonitor.Common.Replace
import SimpleNetworkMonitor.Daemon.Helpers.Process
/-!
# The process, step by step

The invariant of every run: the monitors of the generation in force have the
jobs of the configuration in force, none of these was let down, and what was
told to the manager is what has ended.
-/

namespace SimpleNetworkMonitor.Daemon

open Storage

variable {V : Type} {toml : Toml V}

def SpawnedMonitor.jobs (monitor : SpawnedMonitor) : List MonitorJob := monitor.tasks.map (·.job)

namespace Process

/-- The monitors of the generation in force. -/
def current (p : Process) : List SpawnedMonitor :=
  p.monitors.filter (·.generation = p.manager.generation)

/-- Their jobs. -/
def jobs (p : Process) : List MonitorJob := p.current.flatMap (·.jobs)

theorem run_cons (event : ProcessEvent) (events : List ProcessEvent) (p : Process) :
    p.run toml (event :: events) = (p.step toml event).run toml events := rfl

theorem run_append (events events' : List ProcessEvent) (p : Process) :
    p.run toml (events ++ events') = (p.run toml events).run toml events' := List.foldl_append

end Process

/-- No configuration is applied whose monitors are not spawned, and the loop
has not ended. -/
def Phase.settled : Phase → Bool
  | .waiting | .prepared _ => true
  | .applied _ | .exited => false

/-- What was prepared is what an inventory asks for. -/
structure Prepares (prepared : List PreparedMonitor) (hosts : List Host) : Prop where
  jobs : (prepared.flatMap (·.jobs)).Perm (hosts.flatMap hostJobs)
  busy : ∀ monitor ∈ prepared, monitor.jobs ≠ []

/-- **A monitor of the generation in force**: its handle is for the storage as
it is, and none of its tasks was let down. -/
structure InForce (storage : SqliteStorage) (monitor : SpawnedMonitor) : Prop where
  aborted : monitor.aborted = false
  handle : monitor.handle = storage.inner.generation
  busy : monitor.tasks ≠ []
  healthy : ∀ task ∈ monitor.tasks, Healthy task

/-- **The invariant.** -/
structure Supervised (p : Process) : Prop where
  installed : Installed p.storage p.manager.accepted.hosts
  accepted : p.manager.phase.settled = true → p.manager.accepted = p.manager.config
  inForce : p.manager.phase.settled = true → ∀ m ∈ p.current, InForce p.storage m
  prepared : ∀ next, p.manager.phase = .prepared next → Prepares p.prepared next.hosts
  applied : ∀ next, p.manager.phase = .applied next →
    p.manager.accepted = next ∧ Prepares p.prepared next.hosts
  jobs : p.manager.phase ≠ .exited → p.jobs.Perm (p.manager.config.hosts.flatMap hostJobs)
  generations : ∀ m ∈ p.monitors, m.generation ≤ p.manager.generation
  old : ∀ m ∈ p.monitors, m.aborted = false → m.generation = p.manager.generation
  finished : ∀ m ∈ p.monitors, m.exited = true → m.finished = true
  told : ∀ e ∈ p.exits, ∃ m ∈ p.monitors, m.exited = true ∧ (m.generation, m.kind) = e
  telling : p.manager.phase ≠ .exited → ∀ m ∈ p.current, m.exited = true →
    (m.generation, m.kind) ∈ p.exits

variable {p : Process}

/-- A file that is read gates its hosts, and prepares what they ask for. -/
theorem prepares_of_fromPath {path : String} {file : Except String String}
    {backend : Except String Unit} {config : AppConfig} {prepared : List PreparedMonitor}
    (hconfig : fromPath toml path file = .ok config)
    (hprepared : prepareMonitorConfig backend config = .ok prepared) :
    Prepares prepared config.hosts := by
  obtain ⟨contents, -, hcontents⟩ := Except.bind_eq_ok_iff.mp hconfig
  obtain ⟨raw, -, hvalidate⟩ := Except.bind_eq_ok_iff.mp (Except.mapError_eq_ok_iff.mp hcontents)
  obtain ⟨_, haccepts⟩ := validate_eq_ok_iff.mp hvalidate
  obtain ⟨hjobs, hbusy⟩ := perm_jobs_of_prepare haccepts.gated hprepared
  exact ⟨hjobs, hbusy⟩

/-! ## The steps of the manager -/

theorem supervised_reload (h : Supervised p) (path : String) (file : Except String String)
    (backend : Except String Unit) :
    Supervised (p.step toml (.reload path file backend)) := by
  simp only [Process.step]
  rcases hphase : p.manager.phase with - | next | next | - <;>
    rcases hnext : fromPath toml path file with e | next' <;> try exact h
  rcases hprepared : prepareMonitorConfig backend next' with e | prepared
  · simpa only [hprepared] using h
  · have hstep : p.manager.step toml (.reload path file none) =
        { p.manager with phase := .prepared next' } := by
      simp only [Manager.step, hphase, hnext]
    simp only [hprepared, hstep]
    have hsettled : p.manager.phase.settled = true := by rw [hphase]; rfl
    have hrunning : p.manager.phase ≠ .exited := by simp [hphase]
    refine { h with
      accepted := fun _ => h.accepted hsettled
      inForce := fun _ => h.inForce hsettled
      prepared := fun next heq => ?_
      applied := fun _ heq => by cases heq
      jobs := fun _ => h.jobs hrunning
      telling := fun _ => h.telling hrunning }
    obtain rfl := Phase.prepared.inj heq
    exact prepares_of_fromPath hnext hprepared

theorem supervised_apply (h : Supervised p) (faults : ReloadFaults) (now now' : ℤ) :
    Supervised (p.step toml (.apply faults now now')) := by
  simp only [Process.step, Manager.step]
  rcases hphase : p.manager.phase with - | next | next | - <;> try exact h
  have hsettled : p.manager.phase.settled = true := by rw [hphase]; rfl
  have hrunning : p.manager.phase ≠ .exited := by simp [hphase]
  -- a reload that is refused leaves everything as it was
  have hrefused : Supervised { p with manager := { p.manager with phase := .waiting } } :=
    { h with
      accepted := fun _ => h.accepted hsettled
      inForce := fun _ => h.inForce hsettled
      prepared := fun _ heq => by cases heq
      applied := fun _ heq => by cases heq
      jobs := fun _ => h.jobs hrunning
      telling := fun _ => h.telling hrunning }
  simp only
  rcases hreload : forReload next p.manager.config with e | published
  · exact hrefused
  · rcases applyReloadedConfig_cases faults now now' published p.manager.shared with
      ⟨e, hrun⟩ | ⟨conn, hnd, hexec, hrun⟩ <;> simp only [hrun]
    · exact hrefused
    · refine { h with
        installed := installed_of_reload hnd hexec
        accepted := fun hs => by cases hs
        inForce := fun hs => by cases hs
        prepared := fun _ heq => by cases heq
        applied := fun next' heq => ?_
        jobs := fun _ => h.jobs hrunning
        telling := fun _ => h.telling hrunning }
      obtain rfl := Phase.applied.inj heq
      refine ⟨rfl, ?_⟩
      rw [(publishes_of_forReload hreload).1]
      exact h.prepared next hphase

/-- A monitor that was just spawned. -/
theorem inForce_spawn {prepared : PreparedMonitor} {storage : SqliteStorage} (generation : ℕ)
    (hbusy : prepared.jobs ≠ []) :
    InForce storage (prepared.spawn generation storage.inner.generation) := by
  refine ⟨rfl, rfl, by simpa [PreparedMonitor.spawn] using hbusy, fun task hmem => ?_⟩
  obtain ⟨job, -, rfl⟩ := List.mem_map.mp hmem
  exact healthy_start job

theorem jobs_spawn (prepared : List PreparedMonitor) (manager : Manager) :
    (spawnMonitorGeneration manager prepared).flatMap (·.jobs) = prepared.flatMap (·.jobs) := by
  rw [spawnMonitorGeneration, List.flatMap_map]
  refine List.flatMap_congr fun monitor _ => ?_
  simp [SpawnedMonitor.jobs, PreparedMonitor.spawn, MonitorTask.start, Function.comp_def]

theorem generation_spawn {prepared : List PreparedMonitor} {manager : Manager}
    {monitor : SpawnedMonitor} (hmem : monitor ∈ spawnMonitorGeneration manager prepared) :
    monitor.generation = manager.generation ∧ monitor.exited = false := by
  obtain ⟨_, -, rfl⟩ := List.mem_map.mp hmem
  exact ⟨rfl, rfl⟩

/-- **A generation that was just spawned** is all that is in force. -/
theorem current_spawn {old : List SpawnedMonitor} {manager : Manager}
    (prepared : List PreparedMonitor) (hold : ∀ m ∈ old, m.generation < manager.generation) :
    (old ++ spawnMonitorGeneration manager prepared).filter
        (fun m => m.generation = manager.generation) = spawnMonitorGeneration manager prepared := by
  rw [List.filter_append, List.filter_eq_nil_iff.mpr fun m hm => by simpa using (hold m hm).ne,
    List.nil_append, List.filter_eq_self]
  exact fun m hm => decide_eq_true (generation_spawn hm).1

theorem supervised_spawn (h : Supervised p) (poisoned : Bool) :
    Supervised (p.step toml (.spawn poisoned)) := by
  simp only [Process.step]
  rcases hphase : p.manager.phase with - | next | next | - <;> try exact h
  obtain ⟨haccepted, hprepares⟩ := h.applied next hphase
  have hold : ∀ m ∈ p.monitors.map fun monitor => { monitor with aborted := true },
      m.generation < p.manager.generation + 1 := by
    intro m hm
    obtain ⟨m', hm', rfl⟩ := List.mem_map.mp hm
    exact Nat.lt_succ_of_le (h.generations m' hm')
  have haborted : ∀ m ∈ p.monitors.map fun monitor => { monitor with aborted := true },
      m.aborted = true := by
    intro m hm
    obtain ⟨_, -, rfl⟩ := List.mem_map.mp hm
    rfl
  -- what has ended has ended, and was aborted as well
  have hover : ∀ m ∈ p.monitors.map fun monitor => { monitor with aborted := true },
      m.exited = true → m.finished = true := by
    intro m hm _
    obtain ⟨_, -, rfl⟩ := List.mem_map.mp hm
    rfl
  have htold : ∀ e ∈ p.exits, ∃ m ∈ p.monitors.map fun monitor => { monitor with aborted := true },
      m.exited = true ∧ (m.generation, m.kind) = e := by
    intro e he
    obtain ⟨m, hm, hexited, heq⟩ := h.told e he
    exact ⟨_, List.mem_map_of_mem hm, hexited, heq⟩
  cases poisoned with
  | true =>
    have hstep : p.manager.step toml (.spawn true) =
        { p.manager with generation := p.manager.generation + 1, phase := .exited } := by
      simp only [Manager.step, hphase, if_true]
    simp only [hstep, if_true]
    exact
      { installed := h.installed
        accepted := fun hs => by cases hs
        inForce := fun hs => by cases hs
        prepared := fun _ heq => by cases heq
        applied := fun _ heq => by cases heq
        jobs := fun hne => absurd rfl hne
        generations := fun m hm => (hold m hm).le
        old := fun m hm hnot => by rw [haborted m hm] at hnot; cases hnot
        finished := hover
        told := htold
        telling := fun hne => absurd rfl hne }
  | false =>
    have hstep : p.manager.step toml (.spawn false) = { p.manager with
        config := next, generation := p.manager.generation + 1, phase := .waiting } := by
      simp only [Manager.step, hphase, Bool.false_eq_true, if_false]
    simp only [hstep, Bool.false_eq_true, if_false]
    have hcurrent := @current_spawn _ { p.manager with
      config := next, generation := p.manager.generation + 1, phase := .waiting } p.prepared hold
    refine
      { installed := h.installed
        accepted := fun _ => haccepted
        inForce := fun _ m hm => ?_
        prepared := fun _ heq => by cases heq
        applied := fun _ heq => by cases heq
        jobs := fun _ => ?_
        generations := fun m hm => ?_
        old := fun m hm hnot => ?_
        finished := fun m hm hexited => ?_
        told := fun e he => ?_
        telling := fun _ m hm hexited => ?_ }
    · rw [Process.current, hcurrent] at hm
      obtain ⟨monitor, hmonitor, rfl⟩ := List.mem_map.mp hm
      exact inForce_spawn _ (hprepares.busy monitor hmonitor)
    · rw [Process.jobs, Process.current, hcurrent, jobs_spawn]
      exact hprepares.jobs
    · rcases List.mem_append.mp hm with hm | hm
      · exact (hold m hm).le
      · exact (generation_spawn hm).1.le
    · rcases List.mem_append.mp hm with hm | hm
      · rw [haborted m hm] at hnot
        cases hnot
      · exact (generation_spawn hm).1
    · rcases List.mem_append.mp hm with hm | hm
      · exact hover m hm hexited
      · rw [(generation_spawn hm).2] at hexited
        cases hexited
    · obtain ⟨m, hm, hexited, heq⟩ := htold e he
      exact ⟨m, List.mem_append_left _ hm, hexited, heq⟩
    · rw [Process.current, hcurrent] at hm
      rw [(generation_spawn hm).2] at hexited
      cases hexited

/-- **The manager takes an end from the channel.** That of its own generation
ends the loop. -/
theorem supervised_exit (h : Supervised p) : Supervised (p.step toml .exit) := by
  simp only [Process.step]
  rcases hphase : p.manager.phase with - | next | next | - <;>
    rcases hexits : p.exits with - | ⟨⟨generation, kind⟩, exits⟩ <;> try exact h
  have hsub : ∀ e ∈ exits, e ∈ p.exits := fun e he => hexits ▸ List.mem_cons_of_mem _ he
  have hrunning : p.manager.phase ≠ .exited := by simp [hphase]
  simp only [Manager.step, hphase]
  split_ifs with hgeneration
  · exact { h with
      accepted := fun hs => by cases hs
      inForce := fun hs => by cases hs
      prepared := fun _ heq => by cases heq
      applied := fun _ heq => by cases heq
      jobs := fun hne => absurd rfl hne
      told := fun e he => h.told e (hsub e he)
      telling := fun hne => absurd rfl hne }
  · refine { h with
      told := fun e he => h.told e (hsub e he)
      telling := fun _ m hm hexited => ?_ }
    -- the end that was taken is of another generation
    have hmem := h.telling hrunning m hm hexited
    rw [hexits] at hmem
    refine (List.mem_cons.mp hmem).resolve_left fun heq => hgeneration ?_
    rw [← (Prod.mk.inj heq).1]
    exact of_decide_eq_true (List.mem_filter.mp hm).2

/-! ## The steps of the others -/

/-- **The storage changes**, but for a reload. -/
theorem supervised_storage (h : Supervised p) {storage : SqliteStorage}
    (hu : Undisturbed p.storage storage) :
    Supervised { p with manager := Process.withStorage p.manager storage } :=
  { h with
    installed := h.installed.undisturbed hu
    inForce := fun hs m hm =>
      let hm := h.inForce hs m hm
      ⟨hm.aborted, hm.handle.trans hu.generation.symm, hm.busy, hm.healthy⟩ }

theorem supervised_call (h : Supervised p) (op : StorageOp) :
    Supervised (p.step toml (.call op)) := by
  simp only [Process.step]
  split_ifs with hop
  · exact h
  · have hstep : p.manager.step toml (.call op) =
        Process.withStorage p.manager (op.apply p.storage) := by
      simp only [Manager.step]
      rfl
    rw [hstep]
    exact supervised_storage h (undisturbed_apply (by simpa using hop) p.storage)

/-- One monitor goes on, under the name it has. -/
structure Succeeds (m m' : SpawnedMonitor) : Prop where
  generation : m'.generation = m.generation
  kind : m'.kind = m.kind
  handle : m'.handle = m.handle
  aborted : m'.aborted = m.aborted
  jobs : m'.jobs = m.jobs
  finished : m'.exited = true → m'.finished = true

/-- **A monitor that has not ended takes a step.** It tells of its end. -/
theorem supervised_set (h : Supervised p) {n : ℕ} {m m' : SpawnedMonitor}
    (hn : p.monitors[n]? = some m) (hrunning : m.exited = false) (hm : Succeeds m m')
    (hhealthy : p.manager.phase.settled = true → m ∈ p.current → ∀ task ∈ m'.tasks, Healthy task) :
    Supervised { p with
      monitors := p.monitors.set n m'
      exits := p.exits ++ if m'.exited then [(m'.generation, m'.kind)] else [] } := by
  have hmem : m ∈ p.monitors := List.mem_of_getElem? hn
  -- what has ended is another one
  have hkept : ∀ x ∈ p.monitors, x.exited = true → x ∈ p.monitors.set n m' := by
    refine fun x hx hexited => List.mem_set_of_ne hn hx ?_
    rintro rfl
    rw [hrunning] at hexited
    cases hexited
  have hcurrent : ∀ x, x ∈ (p.monitors.set n m').filter
      (fun x => x.generation = p.manager.generation) → x ∈ p.current ∨ x = m' ∧ m ∈ p.current := by
    intro x hx
    obtain ⟨hx, hgeneration⟩ := List.mem_filter.mp hx
    rcases List.mem_or_eq_of_mem_set hx with hx | rfl
    · exact Or.inl (List.mem_filter.mpr ⟨hx, hgeneration⟩)
    · exact Or.inr ⟨rfl, List.mem_filter.mpr ⟨hmem, hm.generation ▸ hgeneration⟩⟩
  refine { h with
    inForce := fun hs x hx => ?_
    jobs := fun hne => ?_
    generations := fun x hx => ?_
    old := fun x hx hnot => ?_
    finished := fun x hx hexited => ?_
    told := fun e he => ?_
    telling := fun hne x hx hexited => ?_ }
  · rcases hcurrent x hx with hx | ⟨rfl, hm'⟩
    · exact h.inForce hs x hx
    · have hforce := h.inForce hs m hm'
      refine ⟨hm.aborted.trans hforce.aborted, hm.handle.trans hforce.handle, ?_, hhealthy hs hm'⟩
      intro hnil
      have hjobs := hm.jobs
      rw [SpawnedMonitor.jobs, hnil] at hjobs
      exact hforce.busy (List.map_eq_nil_iff.mp hjobs.symm)
  · rw [Process.jobs, Process.current, List.filter_flatMap_set hn (by rw [hm.generation]) hm.jobs]
    exact h.jobs hne
  · rcases List.mem_or_eq_of_mem_set hx with hx | rfl
    · exact h.generations x hx
    · exact hm.generation ▸ h.generations m hmem
  · rcases List.mem_or_eq_of_mem_set hx with hx | rfl
    · exact h.old x hx hnot
    · exact hm.generation.trans (h.old m hmem (hm.aborted ▸ hnot))
  · rcases List.mem_or_eq_of_mem_set hx with hx | rfl
    · exact h.finished x hx hexited
    · exact hm.finished hexited
  · rcases List.mem_append.mp he with he | he
    · obtain ⟨x, hx, hexited, heq⟩ := h.told e he
      exact ⟨x, hkept x hx hexited, hexited, heq⟩
    · split_ifs at he with hexited
      · obtain rfl := List.mem_singleton.mp he
        exact ⟨m', List.mem_set_of_getElem? hn m', hexited, rfl⟩
      · cases he
  · rcases hcurrent x hx with hx | ⟨rfl, -⟩
    · exact List.mem_append_left _ (h.telling hne x hx hexited)
    · rw [if_pos hexited]
      exact List.mem_append_right _ (List.mem_singleton.mpr rfl)

theorem supervised_watchExit (h : Supervised p) (n : ℕ) :
    Supervised (p.step toml (.watchExit n)) := by
  simp only [Process.step]
  rcases hn : p.monitors[n]? with - | m
  · exact h
  · simp only
    split_ifs with hover
    · obtain ⟨hover, hrunning⟩ := Bool.and_eq_true_iff.mp hover
      have hsucceeds : Succeeds m { m with exited := true } :=
        ⟨rfl, rfl, rfl, rfl, rfl, fun _ => hover⟩
      exact supervised_set h hn (by simpa using hrunning) hsucceeds
        fun hs hm => (h.inForce hs m hm).healthy
    · exact h

theorem supervised_task (h : Supervised p) (n i : ℕ) {event : TaskEvent}
    (hsqlite : ∀ faults now now', event = .persist faults now now' → faults.OfSqlite) :
    Supervised (p.step toml (.task n i event)) := by
  simp only [Process.step, Process.stepTask]
  rcases hn : p.monitors[n]? with - | m
  · exact h
  rcases hi : m.tasks[i]? with - | task
  · simpa only [hi] using h
  simp only [hi]
  split_ifs with hexited
  · exact h
  have hu := undisturbed_task m.handle task p.storage p.metrics event
  let next : MonitorTask := ⟨task.job, (task.step m.handle p.storage p.metrics event).1⟩
  -- the job of a task stays
  have hjobs : (m.tasks.set i next).map (·.job) = m.tasks.map (·.job) := by
    rw [List.map_set]
    exact List.set_eq_of_getElem? (by rw [List.getElem?_map, hi]; rfl)
  have hsucceeds : Succeeds m { m with tasks := m.tasks.set i next } :=
    ⟨rfl, rfl, rfl, rfl, hjobs, fun h => absurd h hexited⟩
  have hset := supervised_set h hn (by simpa using hexited) hsucceeds fun hs hm t ht => ?_
  · rw [if_neg hexited, List.append_nil] at hset
    exact { supervised_storage hset hu with }
  · have hforce := h.inForce hs m hm
    have htask : task ∈ m.tasks := List.mem_of_getElem? hi
    rcases List.mem_or_eq_of_mem_set ht with ht | rfl
    · exact hforce.healthy t ht
    · have hrunning : p.manager.phase ≠ .exited := by
        intro heq
        rw [heq] at hs
        cases hs
      have hjob : task.job ∈ p.jobs :=
        List.mem_flatMap.mpr ⟨m, hm, List.mem_map_of_mem htask⟩
      obtain ⟨host, hmem, hjob⟩ := List.mem_flatMap.mp ((h.jobs hrunning).subset hjob)
      exact (hforce.healthy task htask).step h.installed (h.accepted hs ▸ hmem) hjob hforce.handle
        p.metrics event hsqlite

/-! ## Runs -/

theorem Undisturbed.trans {a b c : SqliteStorage} (h : Undisturbed a b) (h' : Undisturbed b c) :
    Undisturbed a c :=
  ⟨h'.hosts.trans h.hosts, h'.generation.trans h.generation, fun l hs => h'.serving l (h.serving l hs)⟩

/-- A program of two calls disturbs nothing where neither does. -/
theorem undisturbed_bind {α β : Type} {c : Call α} {k : α → Call β} {storage : SqliteStorage}
    (hc : Undisturbed storage (Program.run c storage).2)
    (hk : ∀ a storage, Undisturbed storage (Program.run (k a) storage).2) :
    Undisturbed storage (Program.run (c >>= k) storage).2 := by
  rw [Program.run_bind]
  rcases h : Program.run c storage with ⟨e | a, storage'⟩ <;> rw [h] at hc
  · exact hc
  · exact hc.trans (hk a storage')

theorem undisturbed_setPolicies (faults : StartFaults) (now : ℤ) (config : AppConfig)
    (storage : SqliteStorage) :
    Undisturbed storage (Program.run (setPolicies faults now config) storage).2 :=
  undisturbed_bind (undisturbed_of_sameData (sameData_setUsageSampleRetention _ _)) fun _ _ =>
    undisturbed_bind (undisturbed_of_sameData (sameData_setHistoryRetention _ _)) fun _ _ =>
      undisturbed_of_sameData (sameData_configureMaintenance _ _ _ _)

section Run

variable {path : String} {file : Except String String} {backend : Except String Unit}
variable {faults : StartFaults} {now now' : ℤ} {conn : Database}

/-- **A process that has started** supervises the monitors of its file. -/
theorem supervised_main (h : main toml path file backend faults now now' conn = some p) :
    Supervised p := by
  unfold main at h
  obtain ⟨config, hconfig, h⟩ := Option.bind_eq_some_iff.mp h
  obtain ⟨prepared, hprepared, h⟩ := Option.bind_eq_some_iff.mp h
  obtain ⟨storage, hstorage, h⟩ := Option.bind_eq_some_iff.mp h
  have hconfig := Except.toOption_eq_some_iff.mp hconfig
  have hprepared := Except.toOption_eq_some_iff.mp hprepared
  have hstorage := Except.toOption_eq_some_iff.mp hstorage
  have hprepares := prepares_of_fromPath hconfig hprepared
  obtain ⟨hsynced, rfl⟩ := opened_of_newInitialized (Prod.ext hstorage rfl)
  have hu := undisturbed_setPolicies faults now' config (opened config.hosts
    (newInitialized faults.opening faults.readError now conn config.hosts).2)
  have hinstalled := (installed_opened hsynced).undisturbed hu
  rcases hrun : Program.run (setPolicies faults now' config) (opened config.hosts
    (newInitialized faults.opening faults.readError now conn config.hosts).2) with
    ⟨e | ⟨⟨⟩⟩, storage⟩ <;> simp only [hrun] at h
  · cases h
  · rw [hrun] at hinstalled
    split_ifs at h
    obtain rfl := Option.some.inj h
    have hcurrent := @current_spawn [] (Manager.start config storage) prepared
      fun m hm => absurd hm List.not_mem_nil
    refine
      { installed := hinstalled
        accepted := fun _ => rfl
        inForce := fun _ m hm => ?_
        prepared := fun _ heq => by cases heq
        applied := fun _ heq => by cases heq
        jobs := fun _ => ?_
        generations := fun m hm => (generation_spawn hm).1.le
        old := fun m hm _ => (generation_spawn hm).1
        finished := fun m hm hexited => ?_
        told := fun e he => absurd he List.not_mem_nil
        telling := fun _ m hm hexited => ?_ }
    · obtain ⟨monitor, hmonitor, rfl⟩ := List.mem_map.mp (List.mem_filter.mp hm).1
      exact inForce_spawn _ (hprepares.busy monitor hmonitor)
    · rw [Process.jobs, Process.current]
      rw [List.nil_append] at hcurrent
      rw [hcurrent, jobs_spawn]
      exact hprepares.jobs
    · rw [(generation_spawn hm).2] at hexited
      cases hexited
    · rw [(generation_spawn (List.mem_filter.mp hm).1).2] at hexited
      cases hexited

/-- **In a run only SQLite fails** where a statement does. -/
def SqliteFaults (events : List ProcessEvent) : Prop :=
  ∀ n i faults now now', .task n i (.persist faults now now') ∈ events → faults.OfSqlite

theorem supervised_step (h : Supervised p) {event : ProcessEvent} (hsqlite : SqliteFaults [event]) :
    Supervised (p.step toml event) := by
  cases event with
  | reload path file backend => exact supervised_reload h path file backend
  | apply faults now now' => exact supervised_apply h faults now now'
  | spawn poisoned => exact supervised_spawn h poisoned
  | exit => exact supervised_exit h
  | task n i event =>
    refine supervised_task h n i fun faults now now' heq => hsqlite n i faults now now' ?_
    rw [heq]
    exact List.mem_singleton_self _
  | watchExit n => exact supervised_watchExit h n
  | call op => exact supervised_call h op

/-- **The invariant holds in every run.** -/
theorem supervised_run (h : Supervised p) {events : List ProcessEvent}
    (hsqlite : SqliteFaults events) : Supervised (p.run toml events) := by
  refine List.foldl_invariant (l := events) (P := fun _ p => Supervised p)
    (fun done rest p event hl hp => supervised_step hp ?_) h
  intro n i faults now now' hmem
  rw [List.mem_singleton] at hmem
  exact hsqlite n i faults now now' (by rw [hl, hmem]; exact List.mem_append_right _ List.mem_cons_self)

end Run

end SimpleNetworkMonitor.Daemon
