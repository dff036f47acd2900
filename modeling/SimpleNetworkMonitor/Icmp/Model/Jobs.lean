import SimpleNetworkMonitor.Icmp.Model.Monitor
import SimpleNetworkMonitor.Storage.Model.Read
import SimpleNetworkMonitor.Storage.Model.Run
/-!
# ICMP jobs

A monitor has a job for every host. A job loads the state of its host, and
then checks the host and stores what the check found, again and again until
the storage has it. Monitors are spawned a generation at a time; their jobs
may be aborted at any point, the process may end, and what a job has handed
to a blocking thread goes on without it.
-/

namespace SimpleNetworkMonitor.Icmp

open Storage

/-! ## One job -/

/-- What a check found, as it is stored. -/
structure Observation where
  state : HostRuntimeState
  transition : Option IcmpTransition
  deriving DecidableEq

/-- **How far a job has come.** -/
inductive Phase where
  | loading
  /-- It waits for the next check. -/
  | ready (state : HostRuntimeState)
  /-- An observation is to be stored, for the first time or again. -/
  | storing (observation : Observation)
  /-- An attempt waits for its permit. -/
  | queued (observation : Observation)
  /-- An attempt is handed to a blocking thread. -/
  | running (observation : Observation)
  /-- The same, and the job was aborted. -/
  | orphaned (observation : Observation)
  | ended
  deriving DecidableEq

structure IcmpJob where
  host : Host
  config : IcmpMonitorConfig
  /-- The generation that its handle of the storage is for. -/
  generation : ℕ
  phase : Phase := .loading

/-- What one job may do next. -/
inductive JobStep where
  | load (readError : Option StorageError)
  | check (check : Check)
  /-- An attempt asks the catalog. -/
  | attempt (faults : Faults)
  | acquire
  /-- The closure of an attempt runs. Its answer may get lost. -/
  | write (faults : Faults) (now : ℤ) (lost : Option StorageError)
  | abort

namespace IcmpJob

/-- An attempt that failed is made again, but for a stale generation. -/
def failed (observation : Observation) (error : StorageError) : Phase :=
  if error = .staleGeneration then .ended else .storing observation

/-- Load the state of the host. A busy reader is asked again. -/
def load (job : IcmpJob) (storage : SqliteStorage) (readError : Option StorageError) : Phase :=
  match readError with
  | some .busy => .loading
  | some _ => .ended
  | none =>
    match Storage.host storage.inner.conn storage.hosts job.host.id with
    | some record => .ready record.state
    | none => .ended

/-- The closure of an attempt, under the writer mutex. -/
def persist (job : IcmpJob) (observation : Observation) (faults : Faults) (now : ℤ) : Call Unit :=
  withInner (some job.generation) faults fun inner =>
    inner.transaction (checkResultTransaction job.host.id observation.state observation.transition now)
      faults

/-- **A step of a job**: its phase, the storage, and the transition that it
has made. A step that is not its turn does nothing. -/
def step (job : IcmpJob) (storage : SqliteStorage) (step : JobStep) :
    Phase × SqliteStorage × Option IcmpTransition :=
  match step, job.phase with
  | .load readError, .loading => (job.load storage readError, storage, none)
  | .check check, .ready state =>
    let (state, transition) := checkOnce job.host job.config check state
    (.storing ⟨state, transition⟩, storage, transition)
  | .attempt faults, .storing observation =>
    match (Program.run (ensureHostExists faults job.host.id) storage).1 with
    | .ok () => (.queued observation, storage, none)
    | .error e => (failed observation e, storage, none)
  | .acquire, .queued observation => (.running observation, storage, none)
  | .write faults now lost, .running observation =>
    let (result, storage) := Program.run (job.persist observation faults now) storage
    match result, lost with
    | .ok (), none => (.ready observation.state, storage, none)
    | .ok (), some e => (failed observation e, storage, none)
    | .error e, _ => (failed observation e, storage, none)
  | .write faults now _, .orphaned observation =>
    (.ended, (Program.run (job.persist observation faults now) storage).2, none)
  | .abort, .running observation => (.orphaned observation, storage, none)
  | .abort, .orphaned observation => (.orphaned observation, storage, none)
  | .abort, _ => (.ended, storage, none)
  | _, phase => (phase, storage, none)

end IcmpJob

/-! ## All of them -/

/-- What a configuration prepares: a job for every host whose module is
enabled, where the module is enabled at all. -/
def prepare (hosts : List Host) (config : Option IcmpMonitorConfig) :
    List (Host × IcmpMonitorConfig) :=
  match config with
  | some config => (hosts.filter (·.modules.icmp.enabled)).map (·, config)
  | none => []

/-- **The monitors of a service**, with what an observer has noted: the
transitions that checks have made, and for every ID the last row of the log
when the ID was last reset. -/
structure Monitors where
  service : Service := .down {}
  jobs : List IcmpJob := []
  /-- Prepared with the configuration in force, and not spawned. -/
  prepared : Option (List (Host × IcmpMonitorConfig)) := none
  made : List IcmpTransition := []
  resetAt : String → ℕ := fun _ => 0

/-- What may happen next. -/
inductive Event where
  /-- The process ends, and another opens the database. -/
  | restart (faults : Faults) (readError : Option StorageError) (now : ℤ) (hosts : List Host)
      (config : Option IcmpMonitorConfig)
  | reload (faults : Faults) (now now' : ℤ) (hosts : List Host) (policies : StoragePolicies)
      (config : Option IcmpMonitorConfig)
  /-- The monitors of a new generation are spawned. -/
  | spawn (faults : Faults)
  | job (i : ℕ) (step : JobStep)
  /-- Another task of the process calls the storage. -/
  | call (op : StorageOp)

/-- The calls that other tasks make. -/
def isOther : StorageOp → Bool
  | .updateCheckResult .. | .updateHosts .. | .updateConfiguration .. => false
  | _ => true

namespace Monitors

/-- What happens in an event. -/
def act (m : Monitors) (event : Event) : Monitors :=
  match event, m.service with
  | .restart faults readError now hosts config, service =>
    match ServiceOp.apply (.start faults readError now hosts) service with
    | .up storage => { m with service := .up storage, jobs := [], prepared := prepare hosts config }
    | .down conn => { m with service := .down conn, jobs := [], prepared := none }
  | .reload faults now now' hosts policies config, .up storage =>
    match Program.run (updateConfiguration faults now now' hosts policies) storage with
    | (.ok (), storage) => { m with service := .up storage, prepared := prepare hosts config }
    | (.error _, storage) => { m with service := .up storage }
  | .spawn faults, .up storage =>
    match m.prepared, (Program.run (monitorGeneration faults) storage).1 with
    | some prepared, .ok generation =>
      { m with
        jobs := m.jobs ++ prepared.map fun (host, config) => { host, config, generation }
        prepared := none }
    | _, _ => { m with prepared := none }
  | .job i step, .up storage =>
    match m.jobs[i]? with
    | some job =>
      let (phase, storage, transition) := job.step storage step
      { m with
        service := .up storage
        jobs := m.jobs.set i { job with phase }
        made := m.made ++ transition.toList }
    | none => m
  | .call op, .up storage => if isOther op then { m with service := .up (op.apply storage) } else m
  | _, _ => m

/-- What an ID stands for. -/
def addressOf (db : Database) (id : String) : Option String :=
  (db.hostIdentity.find? id).map (·.address)

/-- An ID is reset where it stands for another address than before, or for
one where it stood for none. -/
def noted (m : Monitors) (before : Database) : Monitors :=
  { m with
    resetAt := fun id =>
      if addressOf m.service.conn id = addressOf before id then m.resetAt id
      else m.service.conn.transitions.seq }

def step (m : Monitors) (event : Event) : Monitors := (m.act event).noted m.service.conn

/-- **A run**, from an empty database. -/
def run (events : List Event) : Monitors := events.foldl step {}

end Monitors

end SimpleNetworkMonitor.Icmp
