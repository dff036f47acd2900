import SimpleNetworkMonitor.App.Model.Runner
import SimpleNetworkMonitor.Storage.Model.World
/-!
# A job among all else

One job of a monitor, with its handle of the storage, in a world where all
else goes on: other jobs write, the inventory is reloaded, the process ends.
An attempt to store an observation is a write whose steps are taken among
those of the others, and its answer goes to `run_job`.
-/

namespace SimpleNetworkMonitor.App

open Storage (World Write Task TaskState Faults SqliteStorage)

/-- The answer to an attempt, and the generation it was given in. -/
structure Answer where
  result : Except StorageError Unit
  generation : ℕ

/-- **A job and its world**, with the answers it has got. -/
structure Monitored where
  world : World
  kind : String
  /-- The generation that its handle of the storage is for. -/
  handle : ℕ
  phase : Phase Write := .waiting
  /-- How far the attempt to store has come. -/
  attempt : TaskState := .called
  metrics : RuntimeMetrics := ∅
  answers : List Answer := []

/-- What happens next. -/
inductive Turn where
  /-- To anything but the job. -/
  | other (event : Storage.Event)
  /-- To the job, the answers of the storage apart. -/
  | job (event : Event Write)
  /-- The next step of the attempt. -/
  | persist (faults : Faults) (now now' : ℤ)

namespace Monitored

/-- The write that the attempt of the job is. -/
def task (m : Monitored) (write : Write) : Task := ⟨m.handle, write, m.attempt⟩

/-- What goes on without the job: a write that has its permit. -/
def orphans (m : Monitored) : List Task :=
  match m.phase with
  | .storing write => [m.task write].filter World.hasPermit
  | _ => []

/-- The job goes on as `run_job` does. -/
def goOn (m : Monitored) (event : Event Write) : Monitored :=
  let (phase, metrics) := runJob m.kind m.phase m.metrics event
  { m with phase, metrics }

/-- The storage answers, and the next attempt is a call of its own. -/
def answered (m : Monitored) (result : Except StorageError Unit) (storage : SqliteStorage) :
    Monitored :=
  goOn
    { m with
      world := { m.world with storage }
      attempt := .called
      answers := m.answers ++ [⟨result, storage.inner.generation⟩] }
    (.persisted result)

/-- **One turn.** A job does not outlive its process, and the write of one
that is dropped goes on where it has its permit. The permit of the job is not
kept from the others, which lets no less happen. -/
def step (m : Monitored) (turn : Turn) : Monitored :=
  match turn with
  | .other event =>
    match event with
    | .restart .. => { m with world := m.world.step event, phase := .returned }
    | _ => { m with world := m.world.step event }
  | .job event =>
    match event with
    | .persisted _ => m
    | .aborted =>
      goOn { m with world := { m.world with tasks := m.world.tasks ++ m.orphans } } .aborted
    | event => m.goOn event
  | .persist faults now now' =>
    match m.phase with
    | .storing write =>
      if m.world.blocked (m.task write) then m
      else
        match Program.run ((m.task write).step faults now now') m.world.storage with
        | (.ok (some attempt), storage) => { m with world := { m.world with storage }, attempt }
        | (.ok none, storage) => m.answered (.ok ()) storage
        | (.error e, storage) => m.answered (.error e) storage
    | _ => m

def run (m : Monitored) (turns : List Turn) : Monitored := turns.foldl step m

/-- A job that is started with a handle. -/
def start (world : World) (kind : String) (handle : ℕ) : Monitored := { world, kind, handle }

end Monitored

end SimpleNetworkMonitor.App
