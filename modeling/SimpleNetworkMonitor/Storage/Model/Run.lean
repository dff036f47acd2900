import SimpleNetworkMonitor.Common.Fold
import SimpleNetworkMonitor.Storage.Model.Reload
/-!
# Runs of the service

A service is a database, and a process that has it open or none. A process
may end at any time; the next one opens what it left.
-/

namespace SimpleNetworkMonitor.Storage

/-- **A call** that writes, with everything it is given and everything that
goes wrong during it. -/
inductive StorageOp where
  | updateCheckResult (handle : WriteGeneration) (faults : Faults) (now : ℤ) (hostId : String)
      (state : HostRuntimeState) (transition : Option IcmpTransition)
  | updateUsage (handle : WriteGeneration) (faults : Faults) (now now' : ℤ) (hostId : String)
      (snapshot : UsageSnapshot)
  | updateTcp (handle : WriteGeneration) (faults : Faults) (now : ℤ) (hostId : String)
      (checkId : CheckId) (snapshot : TcpSnapshot)
  | pruneHistory (scan : Table.LimitScan) (faults : Faults) (now : ℤ)
  | rollup (faults : Faults) (now : ℤ)
  | prune (scan : Table.LimitScan) (faults : Faults) (now : ℤ)
  | updateHosts (faults : Faults) (now now' : ℤ) (hosts : List Host)
  | updateConfiguration (faults : Faults) (now now' : ℤ) (hosts : List Host)
      (policies : StoragePolicies)
  | setHistoryRetention (faults : Faults) (duration : ℕ)
  | setUsageSampleRetention (faults : Faults) (retention : Option ℕ)
  | configureMaintenance (faults : Faults) (now : ℤ) (history : HistoryConfig)
      (maintenance : MaintenanceConfig)
  /-- What the scheduler writes to its own table. -/
  | scheduleJobs (jobs : Table String JobRow)

/-- The storage after a call, whatever it returned. -/
def StorageOp.apply (op : StorageOp) (storage : SqliteStorage) : SqliteStorage :=
  match op with
  | .updateCheckResult handle faults now hostId state transition =>
    (Program.run (Storage.updateCheckResult handle faults now hostId state transition) storage).2
  | .updateUsage handle faults now now' hostId snapshot =>
    (Program.run (Storage.updateUsage handle faults now now' hostId snapshot) storage).2
  | .updateTcp handle faults now hostId checkId snapshot =>
    (Program.run (Storage.updateTcp handle faults now hostId checkId snapshot) storage).2
  | .pruneHistory scan faults now => (Program.run (Storage.pruneHistory scan faults now) storage).2
  | .rollup faults now => (Program.run (Storage.rollup faults now) storage).2
  | .prune scan faults now => (Program.run (Storage.prune scan faults now) storage).2
  | .updateHosts faults now now' hosts =>
    (Program.run (Storage.updateHosts faults now now' hosts) storage).2
  | .updateConfiguration faults now now' hosts policies =>
    (Program.run (Storage.updateConfiguration faults now now' hosts policies) storage).2
  | .setHistoryRetention faults duration =>
    (Program.run (Storage.setHistoryRetention faults duration) storage).2
  | .setUsageSampleRetention faults retention =>
    (Program.run (Storage.setUsageSampleRetention faults retention) storage).2
  | .configureMaintenance faults now history maintenance =>
    (Program.run (Storage.configureMaintenance faults now history maintenance) storage).2
  | .scheduleJobs jobs =>
    { storage with
      inner := { storage.inner with conn := { storage.inner.conn with maintenanceJobs := jobs } } }

/-! ## Observations -/

/-- A usage collection that was committed, and its host as it was configured
then. -/
structure UsageObservation where
  host : Host
  snapshot : UsageSnapshot
  deriving DecidableEq

def UsageObservation.collectedAt (observation : UsageObservation) : ℤ :=
  observation.snapshot.collectedAt

/-- What a call commits of the usage of a host. -/
def StorageOp.observed (op : StorageOp) (storage : SqliteStorage) : Option UsageObservation :=
  match op with
  | .updateUsage handle faults now now' hostId snapshot =>
    match (Program.run (Storage.updateUsage handle faults now now' hostId snapshot) storage).1 with
    | .ok _ => (storage.hosts.get hostId).map (⟨·, snapshot⟩)
    | .error _ => none
  | _ => none

/-! ## The service -/

/-- **The service**: the database alone, or open in a process. -/
inductive Service where
  | down (conn : Database)
  | up (storage : SqliteStorage)
  deriving DecidableEq

/-- The storage of the process, an empty one where there is no process. -/
def Service.storage : Service → SqliteStorage
  | .down _ => {}
  | .up storage => storage

def Service.conn : Service → Database
  | .down conn => conn
  | .up storage => storage.inner.conn

inductive ServiceOp where
  /-- The process ends, and another opens the database. -/
  | start (faults : Faults) (readError : Option StorageError) (now : ℤ) (hosts : List Host)
  | call (op : StorageOp)

def ServiceOp.apply (op : ServiceOp) (service : Service) : Service :=
  match op with
  | .start faults readError now hosts =>
    match newInitialized faults readError now service.conn hosts with
    | (.ok storage, _) => .up storage
    | (.error _, conn) => .down conn
  | .call op =>
    match service with
    | .up storage => .up (op.apply storage)
    | .down conn => .down conn

/-- **A run** of the service, from an empty database. -/
def Service.run (ops : List ServiceOp) : Service :=
  ops.foldl (fun service op => ServiceOp.apply op service) (.down {})

/-- What a step commits of the usage of a host. -/
def ServiceOp.observed (op : ServiceOp) (service : Service) : Option UsageObservation :=
  match op, service with
  | .call op, .up storage => op.observed storage
  | _, _ => none

def observationsFrom : Service → List ServiceOp → List UsageObservation
  | _, [] => []
  | service, op :: ops =>
    (ServiceOp.observed op service).toList ++ observationsFrom (ServiceOp.apply op service) ops

/-- **The usage collections of a run**, in the order they were committed. -/
def observations (ops : List ServiceOp) : List UsageObservation := observationsFrom (.down {}) ops

/-- What the empty database has and every step keeps, with the collections
committed so far at hand, a run has. -/
theorem Service.run_observing {P : Service → List UsageObservation → Prop} (h0 : P (.down {}) [])
    (step : ∀ op service observed, P service observed →
      P (ServiceOp.apply op service) (observed ++ (ServiceOp.observed op service).toList))
    (ops : List ServiceOp) : P (Service.run ops) (observations ops) := by
  have key : ∀ (ops : List ServiceOp) (service : Service) (observed : List UsageObservation),
      P service observed → P (ops.foldl (fun service op => ServiceOp.apply op service) service)
        (observed ++ observationsFrom service ops) := by
    intro ops
    induction ops with
    | nil =>
      intro service observed h
      rwa [observationsFrom, List.append_nil]
    | cons op ops ih =>
      intro service observed h
      have hnext := ih _ _ (step op service observed h)
      rwa [List.append_assoc] at hnext
  exact key ops (.down {}) [] h0

/-- What the empty database has and every step keeps, a run has. -/
theorem Service.run_induction {P : Service → Prop} (h0 : P (.down {}))
    (step : ∀ op service, P service → P (ServiceOp.apply op service)) (ops : List ServiceOp) :
    P (Service.run ops) :=
  List.foldl_invariant (P := fun _ service => P service) (fun _ _ service op _ => step op service) h0

end SimpleNetworkMonitor.Storage
