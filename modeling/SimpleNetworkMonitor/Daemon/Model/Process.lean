import SimpleNetworkMonitor.App.Model.Runner
import SimpleNetworkMonitor.Daemon.Model.Manager
import SimpleNetworkMonitor.Daemon.Model.Modules
import SimpleNetworkMonitor.Storage.Model.World
/-!
# The process and its monitors

The manager, the monitors it has spawned, and the channel on which they tell
it that they ended. Every monitor is a set of tasks, one for each of its
jobs, and it is over with the first of them. The manager takes the end of a
monitor of its own generation for the end of the process, and that of an
older one for nothing.
-/

namespace SimpleNetworkMonitor.Daemon

open Storage

/-! ## Tasks -/

/-- **How far a task of a monitor has come.** -/
inductive TaskState where
  /-- The job of a host reads the state its host was left in. -/
  | loading
  | running (phase : App.Phase Write)
  /-- The configured host is missing. -/
  | missing
  /-- The initial state of the host cannot be loaded. -/
  | unreadable (error : StorageError)
  | panicked
  deriving DecidableEq

def TaskState.ended : TaskState → Bool
  | .loading => false
  | .running phase => phase = .returned
  | .missing | .unreadable _ | .panicked => true

structure MonitorTask where
  job : MonitorJob
  state : TaskState
  deriving DecidableEq

/-- What happens to a task. -/
inductive TaskEvent where
  | load (readError : Option StorageError)
  | admitted
  | observed (write : Write) (success : Bool) (elapsed : ℕ)
  /-- An attempt to store what was observed. -/
  | persist (faults : Faults) (now now' : ℤ)
  | panic

/-- A job stores what it observed under the names it was spawned with. -/
def MonitorJob.writes : MonitorJob → Write → Bool
  | .icmp host, .checkResult hostId _ _ => hostId = host.id
  | .usage host, .usage hostId snapshot => hostId = host.id && snapshot.validate = .ok ()
  | .tcp hostId checkId _ _, .tcp hostId' checkId' _ => hostId' = hostId && checkId' = checkId
  | _, _ => false

namespace MonitorTask

def start (job : MonitorJob) : MonitorTask where
  job
  state :=
    match job with
    | .icmp _ => .loading
    | _ => .running .waiting

/-- Load the state of a host. A busy reader is asked again. -/
def load (task : MonitorTask) (storage : SqliteStorage) (readError : Option StorageError) :
    TaskState :=
  match readError with
  | some .busy => .loading
  | some e => .unreadable e
  | none =>
    match host storage.inner.conn storage.hosts task.job.key.hostId with
    | some _ => .running .waiting
    | none => .missing

/-- **A step of a task**, with the handle of its monitor. An event that is
not its turn changes nothing. -/
def step (handle : ℕ) (task : MonitorTask) (storage : SqliteStorage) (metrics : App.RuntimeMetrics)
    (event : TaskEvent) : TaskState × SqliteStorage × App.RuntimeMetrics :=
  match event, task.state with
  | .load readError, .loading => (task.load storage readError, storage, metrics)
  | .admitted, .running phase =>
    let (phase, metrics) := App.runJob task.job.kind phase metrics .admitted
    (.running phase, storage, metrics)
  | .observed write success elapsed, .running phase =>
    if task.job.writes write then
      let (phase, metrics) := App.runJob task.job.kind phase metrics (.observed write success elapsed)
      (.running phase, storage, metrics)
    else (task.state, storage, metrics)
  | .persist faults now now', .running (.storing write) =>
    let (result, storage) := Program.run (write.call (some handle) faults now now') storage
    let (phase, metrics) := App.runJob task.job.kind (.storing write) metrics (.persisted result)
    (.running phase, storage, metrics)
  | .panic, state => (if state.ended then state else .panicked, storage, metrics)
  | _, state => (state, storage, metrics)

end MonitorTask

/-! ## Monitors -/

/-- **A monitor that was spawned**: its generation, by the count of the
manager, and the one of the storage that its handle is for. -/
structure SpawnedMonitor where
  generation : ℕ
  handle : ℕ
  kind : String
  tasks : List MonitorTask
  aborted : Bool := false
  /-- It has ended, and its tasks with it. -/
  exited : Bool := false
  deriving DecidableEq

/-- `supervise`: the first task that is over ends the monitor. One that has
no task ends at once. -/
def SpawnedMonitor.finished (monitor : SpawnedMonitor) : Bool :=
  monitor.aborted || monitor.tasks.isEmpty || monitor.tasks.any (·.state.ended)

def PreparedMonitor.spawn (prepared : PreparedMonitor) (generation handle : ℕ) : SpawnedMonitor where
  generation
  handle
  kind := prepared.kind
  tasks := prepared.jobs.map .start

/-! ## The process -/

/-- **The process.** -/
structure Process where
  manager : Manager
  metrics : App.RuntimeMetrics := ∅
  /-- What the reload under way has prepared. -/
  prepared : List PreparedMonitor := []
  /-- The monitors that were spawned, of every generation. -/
  monitors : List SpawnedMonitor
  exits : List (ℕ × String) := []

/-- **What may happen next.** -/
inductive ProcessEvent where
  | reload (path : String) (file : Except String String) (backend : Except String Unit)
  | apply (faults : ReloadFaults) (now now' : ℤ)
  | spawn (poisoned : Bool)
  /-- The manager takes the next end of a monitor from the channel. -/
  | exit
  | task (monitor i : ℕ) (event : TaskEvent)
  /-- A monitor ends, and what watches it tells the manager. -/
  | watchExit (monitor : ℕ)
  /-- Another task calls the storage, but for a reload. -/
  | call (op : StorageOp)

/-- The calls that publish an inventory. Only a reload makes them. -/
def publishes : StorageOp → Bool
  | .updateHosts .. | .updateConfiguration .. => true
  | _ => false

/-- The monitors of a generation, with handles for the storage as it is. -/
def spawnMonitorGeneration (manager : Manager) (prepared : List PreparedMonitor) :
    List SpawnedMonitor :=
  prepared.map (·.spawn manager.generation manager.shared.storage.inner.generation)

namespace Process

variable {V : Type} (toml : Toml V)

def storage (p : Process) : SqliteStorage := p.manager.shared.storage

/-- A manager beside a storage that another task has written to. -/
def withStorage (manager : Manager) (storage : SqliteStorage) : Manager :=
  { manager with shared := { manager.shared with storage } }

/-- One task of a monitor takes a step. -/
def stepTask (p : Process) (n i : ℕ) (event : TaskEvent) : Process :=
  match p.monitors[n]? with
  | none => p
  | some monitor =>
    match monitor.tasks[i]? with
    | none => p
    | some task =>
      if monitor.exited then p
      else
        let (state, storage, metrics) := task.step monitor.handle p.storage p.metrics event
        { p with
          manager := withStorage p.manager storage
          metrics
          monitors := p.monitors.set n
            { monitor with tasks := monitor.tasks.set i { task with state } } }

/-- **A step of the process.** An event that cannot happen changes nothing. -/
def step (event : ProcessEvent) (p : Process) : Process :=
  match event with
  | .reload path file backend =>
    match p.manager.phase, fromPath toml path file with
    | .waiting, .ok next =>
      match prepareMonitorConfig backend next with
      | .ok prepared => { p with manager := p.manager.step toml (.reload path file none), prepared }
      | .error _ => p
    | _, _ => p
  | .apply faults now now' => { p with manager := p.manager.step toml (.apply faults now now') }
  | .spawn poisoned =>
    match p.manager.phase with
    | .applied _ =>
      let manager := p.manager.step toml (.spawn poisoned)
      -- the old monitors are aborted first; they end when they come to it
      let monitors := p.monitors.map fun monitor => { monitor with aborted := true }
      if poisoned then { p with manager, monitors }
      else
        { p with
          manager
          prepared := []
          monitors := monitors ++ spawnMonitorGeneration manager p.prepared }
    | _ => p
  | .exit =>
    match p.manager.phase, p.exits with
    | .waiting, (generation, _) :: exits =>
      { p with manager := p.manager.step toml (.exit generation), exits }
    | _, _ => p
  | .task n i event => p.stepTask n i event
  | .watchExit n =>
    match p.monitors[n]? with
    | some monitor =>
      if monitor.finished && !monitor.exited then
        { p with
          monitors := p.monitors.set n { monitor with exited := true }
          exits := p.exits ++ [(monitor.generation, monitor.kind)] }
      else p
    | none => p
  | .call op =>
    if publishes op then p else { p with manager := p.manager.step toml (.call op) }

def run (events : List ProcessEvent) (p : Process) : Process :=
  events.foldl (fun p event => step toml event p) p

end Process

/-! ## Starting -/

/-- What goes wrong while the process starts. -/
structure StartFaults where
  opening : Faults := {}
  readError : Option StorageError := none
  sampleRetention : Faults := {}
  retention : Faults := {}
  maintenance : Faults := {}
  spawnPoisoned : Bool := false

/-- The policies that are set once the database is open. -/
def setPolicies (faults : StartFaults) (now : ℤ) (config : AppConfig) : Call Unit := do
  setUsageSampleRetention faults.sampleRetention (some config.modules.usage.sampleRetention)
  setHistoryRetention faults.retention config.historyRetention
  configureMaintenance faults.maintenance now config.history config.maintenance

/-- **The start of the process**, on the database it finds; none where
something fails. -/
def main {V : Type} (toml : Toml V) (path : String) (file : Except String String)
    (backend : Except String Unit) (faults : StartFaults) (now now' : ℤ) (conn : Database) :
    Option Process := do
  let config ← (fromPath toml path file).toOption
  let prepared ← (prepareMonitorConfig backend config).toOption
  let storage ← (newInitialized faults.opening faults.readError now conn config.hosts).1.toOption
  match Program.run (setPolicies faults now' config) storage with
  | (.error _, _) => none
  | (.ok (), storage) =>
    if faults.spawnPoisoned then none
    else
      let manager := Manager.start config storage
      some { manager, monitors := spawnMonitorGeneration manager prepared }

end SimpleNetworkMonitor.Daemon
