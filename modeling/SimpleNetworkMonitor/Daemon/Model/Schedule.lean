import SimpleNetworkMonitor.App.Model.Runner
import SimpleNetworkMonitor.Common.Semaphore
import SimpleNetworkMonitor.Daemon.Model.Modules
/-!
# The schedule of a monitor

`run_job` in time: its delay, its interval, and the permits that the jobs of
one monitor share. Time is that of the daemon's clock, in nanoseconds. The
runtime runs what is ready, so time passes only where every job waits for it.
-/

namespace SimpleNetworkMonitor.Daemon

/-! ## Jobs in time -/

/-- **Where a job is** in its cycle. -/
inductive Turn where
  /-- `run_job` is not called yet. -/
  | unstarted
  /-- It sleeps for the delay it drew. -/
  | delayed (due : ℕ)
  | ticking (deadline : ℕ)
  /-- It has asked for a permit, and has it or not. The next tick has its
  deadline already. -/
  | asking (deadline : ℕ)
  deriving DecidableEq

structure ScheduledJob (ο : Type) where
  interval : ℕ
  turn : Turn := .unstarted
  phase : App.Phase ο := .waiting
  started : ℕ := 0
  /-- When the observation under way began. It bears that time. -/
  began : ℕ := 0
  /-- When the observation that was stored last began. -/
  stored : Option ℕ := none
  deriving DecidableEq

/-- What happens to a job. -/
inductive JobEvent (ο : Type) where
  | start (delay : ℕ)
  | wake
  | tick
  | admitted
  | observed (observation : ο) (success : Bool)
  /-- An attempt to store it has answered. -/
  | persisted (result : Except StorageError Unit)
  | aborted

/-- The longest delay before the first tick, in milliseconds. -/
def maxMillis (interval : ℕ) : ℕ := min (asMillis interval / 10) 2000

/-- `MissedTickBehavior::Delay`, by the documented behaviour of the asynchronous
runtime's interval: a tick that is more than 5 ms late moves the ticks after
it, and one that is not leaves them where they were. -/
def nextDeadline (interval deadline now : ℕ) : ℕ :=
  if now > deadline + fromMillis 5 then now + interval else deadline + interval

namespace ScheduledJob

variable {ο : Type}

/-- **A step of a job**, with the semaphore and the counters it shares. An
event that is not its turn changes nothing. -/
def step (kind : String) (now i : ℕ) (job : ScheduledJob ο) (semaphore : Semaphore ℕ)
    (metrics : App.RuntimeMetrics) (event : JobEvent ο) :
    ScheduledJob ο × Semaphore ℕ × App.RuntimeMetrics :=
  match event, job.turn, job.phase with
  | .start delay, .unstarted, .waiting =>
    if delay ≤ maxMillis job.interval then
      ({ job with turn := .delayed (now + fromMillis delay), started := now }, semaphore, metrics)
    else (job, semaphore, metrics)
  | .wake, .delayed due, .waiting =>
    -- the first tick of an interval is due at once
    if due ≤ now then ({ job with turn := .ticking now }, semaphore, metrics)
    else (job, semaphore, metrics)
  | .tick, .ticking deadline, .waiting =>
    if deadline ≤ now then
      ({ job with turn := .asking (nextDeadline job.interval deadline now) },
        semaphore.acquire i now, metrics)
    else (job, semaphore, metrics)
  | .admitted, .asking _, .waiting =>
    if semaphore.holds i then
      let (phase, metrics) := App.runJob kind job.phase metrics .admitted
      ({ job with phase, began := now }, semaphore, metrics)
    else (job, semaphore, metrics)
  | .observed observation success, .asking _, .observing =>
    let (phase, metrics) :=
      App.runJob kind job.phase metrics (.observed observation success (now - job.began))
    ({ job with phase }, semaphore, metrics)
  | .persisted result, .asking deadline, .storing _ =>
    let (phase, metrics) := App.runJob kind job.phase metrics (.persisted result)
    match result with
    | .ok () =>
      ({ job with phase, turn := .ticking deadline, stored := some job.began },
        semaphore.leave i now, metrics)
    | .error .staleGeneration => ({ job with phase }, semaphore.leave i now, metrics)
    | .error _ => ({ job with phase }, semaphore, metrics)
  | .aborted, _, phase =>
    let (phase, metrics) := App.runJob kind phase metrics .aborted
    ({ job with phase }, semaphore.leave i now, metrics)
  | _, _, _ => (job, semaphore, metrics)

/-- A job lets time pass up to what it waits for. -/
def idle (job : ScheduledJob ο) (admitted : Bool) (later : ℕ) : Bool :=
  match job.phase, job.turn with
  | .waiting, .delayed due => later ≤ due
  | .waiting, .ticking deadline => later ≤ deadline
  | .waiting, .asking _ => !admitted
  | _, _ => true

end ScheduledJob

/-! ## The jobs of a monitor -/

/-- **A monitor in time.** -/
structure Schedule (ο : Type) where
  kind : String
  now : ℕ := 0
  semaphore : Semaphore ℕ
  metrics : App.RuntimeMetrics := ∅
  jobs : List (ScheduledJob ο)

inductive ScheduleEvent (ο : Type) where
  | elapse (duration : ℕ)
  | job (i : ℕ) (event : JobEvent ο)

namespace Schedule

variable {ο : Type}

/-- Every job waits until then. -/
def idle (s : Schedule ο) (later : ℕ) : Bool :=
  s.jobs.zipIdx.all fun (job, i) => job.idle (s.semaphore.holds i) later

/-- **A step of a monitor.** -/
def step (event : ScheduleEvent ο) (s : Schedule ο) : Schedule ο :=
  match event with
  | .elapse duration =>
    if s.idle (s.now + duration) then { s with now := s.now + duration } else s
  | .job i event =>
    match s.jobs[i]? with
    | none => s
    | some job =>
      let (job, semaphore, metrics) := job.step s.kind s.now i s.semaphore s.metrics event
      { s with semaphore, metrics, jobs := s.jobs.set i job }

def run (events : List (ScheduleEvent ο)) (s : Schedule ο) : Schedule ο :=
  events.foldl (fun s event => step event s) s

/-- The jobs of a monitor that was spawned. -/
def start (kind : String) (concurrency : ℕ) (intervals : List ℕ) : Schedule ο where
  kind
  semaphore := { permits := concurrency }
  jobs := intervals.map fun interval => { interval }

end Schedule

def PreparedMonitor.schedule {ο : Type} (prepared : PreparedMonitor) : Schedule ο :=
  .start prepared.kind prepared.concurrency (prepared.jobs.map (·.interval))

end SimpleNetworkMonitor.Daemon
