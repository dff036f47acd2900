import SimpleNetworkMonitor.Daemon.Model.Config
import SimpleNetworkMonitor.Daemon.Model.Reload
import SimpleNetworkMonitor.Storage.Model.Run
/-!
# The monitor manager

The loop that waits for reloads. A reload reads the file and prepares the
modules, asks whether the new configuration may replace the one that is
running, applies it, and spawns a new generation of monitors. It may end at
each of these points.
-/

namespace SimpleNetworkMonitor.Daemon

open Storage

/-- Where the loop is. -/
inductive Phase where
  /-- It waits for a signal. -/
  | waiting
  /-- A file was read and its modules are prepared. -/
  | prepared (next : AppConfig)
  /-- A configuration is applied, its monitors are not spawned. -/
  | applied (next : AppConfig)
  /-- The loop has ended, and with it the process. -/
  | exited
  deriving DecidableEq

/-- **The state of the manager.** The listener was bound when the process
started; what is recorded of it is in the running configuration. -/
structure Manager where
  shared : Shared
  config : AppConfig
  generation : ℕ := 0
  phase : Phase := .waiting
  /-- The configuration that was accepted last; the code keeps no record of
  it before the monitors are spawned. -/
  accepted : AppConfig
  deriving DecidableEq

/-- **What may happen next.** -/
inductive ManagerEvent where
  /-- A signal; the file is read, checked, and its modules are prepared,
  which may fail too. -/
  | reload (path : String) (file : Except String String) (prepareError : Option String)
  | apply (faults : ReloadFaults) (now now' : ℤ)
  /-- The handle of the new generation is asked for. -/
  | spawn (poisoned : Bool)
  /-- A monitor ends. -/
  | exit (generation : ℕ)
  /-- Another task calls the storage. -/
  | call (op : StorageOp)

namespace Manager

/-- The manager of a process that starts with a configuration. -/
def start (config : AppConfig) (storage : SqliteStorage) : Manager where
  shared := { apiToken := config.apiToken, moduleConfig := config.modules, storage }
  config
  accepted := config

variable {V : Type} (toml : Toml V)

def step (event : ManagerEvent) (m : Manager) : Manager :=
  match event, m.phase with
  | .reload path file prepareError, .waiting =>
    match fromPath toml path file, prepareError with
    | .ok next, none => { m with phase := .prepared next }
    | _, _ => m
  | .apply faults now now', .prepared next =>
    match forReload next m.config with
    | .error _ => { m with phase := .waiting }
    | .ok next =>
      match Program.run (applyReloadedConfig faults now now' next) m.shared with
      | (.error _, shared) => { m with shared, phase := .waiting }
      | (.ok (), shared) => { m with shared, phase := .applied next, accepted := next }
  | .spawn poisoned, .applied next =>
    if poisoned then { m with generation := m.generation + 1, phase := .exited }
    else { m with config := next, generation := m.generation + 1, phase := .waiting }
  | .exit generation, .waiting =>
    if generation = m.generation then { m with phase := .exited } else m
  | .call op, _ =>
    { m with shared := { m.shared with storage := op.apply m.shared.storage } }
  | _, _ => m

/-- The manager after a run. -/
def run (events : List ManagerEvent) (m : Manager) : Manager :=
  events.foldl (fun m event => step toml event m) m

end Manager

end SimpleNetworkMonitor.Daemon
