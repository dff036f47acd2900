import SimpleNetworkMonitor.Common.Queue
import SimpleNetworkMonitor.Storage.Model.Run
import Mathlib.Data.String.Basic
/-!
# Maintenance jobs

A job is claimed in one transaction and completed in another. Between the
two the job does its own writes, which are calls of the storage like any
other. Clones of the storage share one admission, which the call that
claimed a job holds until it has tried to complete it.
-/

namespace SimpleNetworkMonitor.Storage

/-! ## Restarts -/

def JobRow.interrupted (nowMs : ℤ) (row : JobRow) : JobRow :=
  if row.status = .running then
    { row with
      status := .interrupted
      message := some "Interrupted by service restart; retry scheduled"
      nextRunMs := nowMs }
  else row

def recoverMaintenance (handle : WriteGeneration) (faults : Faults) (now : ℤ) : Call Unit :=
  withInner handle faults fun inner =>
    inner.transaction
      (Txn.update fun db =>
        { db with
          maintenanceJobs := db.maintenanceJobs.mapVals fun _ row =>
            row.interrupted (timestampMillis now) })
      faults

/-! ## Claims -/

/-- An earlier operation finished but its completion transaction failed. -/
def JobRow.abandoned (nowMs : ℤ) (row : JobRow) : JobRow :=
  if row.status = .running then
    { row with
      status := .error
      failures := row.failures + 1
      nextRunMs := nowMs + 5000
      message := some "Completion could not be persisted; retry scheduled" }
  else row

/-- The job that is due first. -/
def dueJob (nowMs : ℤ) (jobs : Table String JobRow) : Option String :=
  (jobs.firstBy? (·.nextRunMs) (·.nextRunMs ≤ nowMs)).map Prod.fst

def JobRow.claimed (nowMs : ℤ) (row : JobRow) : JobRow :=
  { row with status := .running, lastStartedMs := some nowMs, message := none }

/-- The kind of job an ID stands for. -/
def jobKindOf (id : String) : Option JobKind := JobKind.ALL.find? fun kind => kind.id = id

def settleRunning (nowMs : ℤ) : Sql Unit := do
  let running ← Txn.query fun db => db.maintenanceJobs.rows.any fun r => r.2.status = .running
  if running then
    Txn.update fun db =>
      { db with maintenanceJobs := db.maintenanceJobs.mapVals fun _ row => row.abandoned nowMs }

def startDueJob (nowMs : ℤ) : Sql (Option JobKind) := do
  let id ← Txn.query fun db => dueJob nowMs db.maintenanceJobs
  let kind := id.bind jobKindOf
  if let some kind := kind then
    Txn.update fun db =>
      { db with maintenanceJobs := db.maintenanceJobs.modify kind.id (·.claimed nowMs) }
  return kind

def claimTransaction (nowMs : ℤ) : Sql (Option JobKind) := do
  settleRunning nowMs
  startDueJob nowMs

def claimJob (handle : WriteGeneration) (faults : Faults) (now : ℤ) : Call (Option JobKind) :=
  withInner handle faults fun inner =>
    inner.transaction (claimTransaction (timestampMillis now)) faults

/-! ## Completions -/

/-- What a job comes to: the work done, whether there is more, and a
message. -/
abbrev JobOutcome := Except StorageError (ℕ × Bool × Option String)

structure JobCompletion where
  status : JobStatus
  work : ℕ
  delay : ℕ
  message : Option String
  deriving DecidableEq

def jobFailures (kind : JobKind) : Sql ℕ :=
  Txn.exec1 fun db =>
    match db.maintenanceJobs.find? kind.id with
    | some row => .ok (row.failures, db)
    | none => .error (.sqlite "Query returned no rows")

/-- A job with more to do runs again in a second, one that failed later and
later. -/
def jobCompletion (kind : JobKind) (intervalMs : ℕ) : JobOutcome → Sql JobCompletion
  | .ok (work, more, message) =>
    pure { status := .ok, work, delay := if more then 1000 else intervalMs, message }
  | .error _ => do
    let failures ← jobFailures kind
    return {
      status := .error
      work := 0
      delay := min (5000 * 2 ^ min failures 9) 3600000
      message := some "Database maintenance failed; see server logs. Retry scheduled." }

def JobRow.completed (completion : JobCompletion) (nowMs : ℤ) (durationMs : ℕ) (row : JobRow) :
    JobRow :=
  { row with
    status := completion.status
    lastSuccessMs := if completion.status = .ok then some nowMs else row.lastSuccessMs
    nextRunMs := nowMs + completion.delay
    durationMs := some durationMs
    workDone := completion.work
    failures := if completion.status = .ok then 0 else row.failures + 1
    message := completion.message }

def completeTransaction (kind : JobKind) (intervalMs : ℕ) (nowMs : ℤ) (durationMs : ℕ)
    (outcome : JobOutcome) : Sql Unit := do
  let completion ← jobCompletion kind intervalMs outcome
  Txn.update fun db =>
    { db with
      maintenanceJobs :=
        db.maintenanceJobs.modify kind.id (·.completed completion nowMs durationMs) }

def completeJob (handle : WriteGeneration) (faults : Faults) (now : ℤ) (elapsed : ℕ)
    (kind : JobKind) (outcome : JobOutcome) : Call Unit :=
  withInner handle faults fun inner =>
    inner.transaction
      (completeTransaction kind (asMillis (kind.interval inner.maintenanceConfig))
        (timestampMillis now) (min (asMillis elapsed) 9223372036854775807) outcome)
      faults

/-! ## The scheduler -/

/-- A claim whose job is not completed yet: by which handle, and of what. -/
structure JobClaim where
  handle : WriteGeneration
  kind : JobKind
  deriving DecidableEq

/-- **The service and its maintenance admission**, held where a claim is. -/
structure Scheduler where
  service : Service := .down {}
  admitted : Option JobClaim := none
  deriving DecidableEq

/-- **What may happen next.** A call of `runDueMaintenance` is two steps: up
to its claim, and from the outcome of the job on. -/
inductive JobEvent where
  /-- The process ends, and another opens the database. -/
  | restart (faults : Faults) (readError : Option StorageError) (now : ℤ) (hosts : List Host)
  | recoverMaintenance (handle : WriteGeneration) (faults : Faults) (now : ℤ)
  | runDueMaintenance (handle : WriteGeneration) (faults : Faults) (now : ℤ)
  | complete (faults : Faults) (now : ℤ) (elapsed : ℕ) (outcome : JobOutcome)
  /-- Any other call, what a job writes among them. -/
  | call (op : StorageOp)

namespace Scheduler

def step (event : JobEvent) (s : Scheduler) : Scheduler :=
  match event, s.service with
  | .restart faults readError now hosts, service =>
    { service := ServiceOp.apply (.start faults readError now hosts) service }
  | _, .down _ => s
  | .recoverMaintenance handle faults now, .up storage =>
    match s.admitted with
    -- the task that runs the jobs recovers them before its first claim
    | some _ => s
    | none => { service := .up (Program.run (recoverMaintenance handle faults now) storage).2 }
  | .runDueMaintenance handle faults now, .up storage =>
    match s.admitted with
    -- another call holds the admission
    | some _ => s
    | none =>
      match Program.run (claimJob handle faults now) storage with
      | (.ok (some kind), storage) => { service := .up storage, admitted := some ⟨handle, kind⟩ }
      | (_, storage) => { service := .up storage }
  | .complete faults now elapsed outcome, .up storage =>
    match s.admitted with
    | none => s
    | some claim =>
      { service := .up (Program.run
          (completeJob claim.handle faults now elapsed claim.kind outcome) storage).2 }
  -- the table of the jobs is written by the steps above
  | .call (.scheduleJobs _), .up _ => s
  | .call op, .up storage => { s with service := .up (op.apply storage) }

/-- What a step claims. -/
def claimed (event : JobEvent) (s : Scheduler) : Option JobKind :=
  match event, s.service, s.admitted with
  | .runDueMaintenance handle faults now, .up storage, none =>
    match (Program.run (claimJob handle faults now) storage).1 with
    | .ok kind => kind
    | .error _ => none
  | _, _, _ => none

/-- The scheduler after a run, from an empty database. -/
def run (events : List JobEvent) (s : Scheduler) : Scheduler :=
  events.foldl (fun s event => step event s) s

end Scheduler

end SimpleNetworkMonitor.Storage
