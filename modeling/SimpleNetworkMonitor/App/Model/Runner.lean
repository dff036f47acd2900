import SimpleNetworkMonitor.App.Model.Telemetry
import SimpleNetworkMonitor.Domain.Host
/-!
# The runner

`run_job` observes, counts the execution, and stores the observation before
it observes again. What a job observes and what its writes answer are up to
the job; jobs take their steps in any order and share the counters alone. The
permits only bound how many of them are between admission and storage.
-/

namespace SimpleNetworkMonitor.App

/-! ## One job -/

/-- **How far `run_job` has come.** -/
inductive Phase (ο : Type) where
  /-- It waits for its delay, its tick or a permit. -/
  | waiting
  /-- It has a permit and observes. -/
  | observing
  /-- The observation is to be stored, for the first time or again. -/
  | storing (observation : ο)
  | returned
  deriving DecidableEq

/-- What happens to a job. -/
inductive Event (ο : Type) where
  | admitted
  /-- The semaphore is closed. -/
  | closed
  | observed (observation : ο) (success : Bool) (elapsed : ℕ)
  | persisted (result : Except StorageError Unit)
  /-- The task is dropped where it waits. -/
  | aborted

/-- A call a job has completed. -/
inductive Call (ο : Type) where
  | observe (observation : ο) (success : Bool) (elapsed : ℕ)
  | persist (observation : ο) (result : Except StorageError Unit)

variable {ο ι : Type}

/-- The call that an event completes. -/
def Phase.call : Phase ο → Event ο → Option (Call ο)
  | .observing, .observed observation success elapsed => some (.observe observation success elapsed)
  | .storing observation, .persisted result => some (.persist observation result)
  | _, _ => none

/-- **A step of `run_job`.** An event that is not its turn changes nothing. -/
def runJob (kind : String) (phase : Phase ο) (metrics : RuntimeMetrics) :
    Event ο → Phase ο × RuntimeMetrics
  | .admitted =>
    match phase with
    | .waiting => (.observing, metrics)
    | _ => (phase, metrics)
  | .closed =>
    match phase with
    | .waiting => (.returned, metrics)
    | _ => (phase, metrics)
  | .observed observation success elapsed =>
    match phase with
    | .observing => (.storing observation, metrics.observe kind success elapsed)
    | _ => (phase, metrics)
  | .persisted result =>
    match phase with
    | .storing observation =>
      match result with
      | .ok () => (.waiting, metrics)
      | .error .staleGeneration => (.returned, metrics)
      | .error _ => (.storing observation, metrics.storageRetry kind)
    | _ => (phase, metrics)
  | .aborted => (.returned, metrics)

/-! ## Jobs side by side -/

/-- The jobs and the counters they share. A job that is not started yet waits. -/
structure Jobs (ι ο : Type) where
  phases : ι → Phase ο
  metrics : RuntimeMetrics

def Jobs.start : Jobs ι ο := ⟨fun _ => .waiting, ∅⟩

section Run

variable [DecidableEq ι]

/-- One job takes a step. -/
def Jobs.step (kind : ι → String) (jobs : Jobs ι ο) (event : ι × Event ο) : Jobs ι ο :=
  let (phase, metrics) := runJob (kind event.1) (jobs.phases event.1) jobs.metrics event.2
  ⟨fun i => if i = event.1 then phase else jobs.phases i, metrics⟩

/-- The jobs after some events, from the start of the process. -/
def Jobs.run (kind : ι → String) (events : List (ι × Event ο)) : Jobs ι ο :=
  events.foldl (Jobs.step kind) Jobs.start

/-- The calls that some events complete, each with its job. -/
def Jobs.callsFrom (kind : ι → String) : Jobs ι ο → List (ι × Event ο) → List (ι × Call ο)
  | _, [] => []
  | jobs, event :: events =>
    ((jobs.phases event.1).call event.2).toList.map (event.1, ·) ++
      callsFrom kind (jobs.step kind event) events

/-- **The calls that were completed** since the start of the process. -/
def Jobs.calls (kind : ι → String) (events : List (ι × Event ο)) : List (ι × Call ο) :=
  Jobs.callsFrom kind Jobs.start events

end Run

end SimpleNetworkMonitor.App
