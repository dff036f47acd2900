import SimpleNetworkMonitor.Storage.Model.Read
import SimpleNetworkMonitor.Storage.Model.Run
/-!
# Writes, reads and reloads at once

One process, many calls in flight. A step of the world is what a call does
between two points where another may slip in: under one lock, or under none.
A reload holds the catalog and then the writer mutex over several steps; a
step that needs a lock another call holds is not taken.
-/

namespace SimpleNetworkMonitor.Storage

/-! ## Writes -/

/-- An observation that a monitor writes through its handle. -/
inductive Write where
  | checkResult (hostId : String) (state : HostRuntimeState) (transition : Option IcmpTransition)
  | usage (hostId : String) (snapshot : UsageSnapshot)
  | tcp (hostId : String) (checkId : CheckId) (snapshot : TcpSnapshot)
  deriving DecidableEq

/-- The call that writes it. -/
def Write.call (write : Write) (handle : WriteGeneration) (faults : Faults) (now now' : ℤ) :
    Call Unit :=
  match write with
  | .checkResult hostId state transition =>
    updateCheckResult handle faults now hostId state transition
  | .usage hostId snapshot => do
    let _ ← updateUsage handle faults now now' hostId snapshot
    return ()
  | .tcp hostId checkId snapshot => updateTcp handle faults now hostId checkId snapshot

/-- What a write takes to the writer mutex: what it has read of the catalog,
and the observation. -/
inductive Request where
  | checkResult (hostId : String) (state : HostRuntimeState) (transition : Option IcmpTransition)
  | usage (host : Host) (snapshot : UsageSnapshot)
  | tcp (host : Host) (check : TcpCheckConfig) (snapshot : TcpSnapshot)
  deriving DecidableEq

/-- The closure that runs under the mutex. -/
def Request.perform (request : Request) (faults : Faults) (now now' : ℤ) (inner : Inner) :
    Except StorageError Unit × Inner :=
  match request with
  | .checkResult hostId state transition =>
    inner.transaction (checkResultTransaction hostId state transition now) faults
  | .usage host snapshot =>
    let (result, inner) := inner.writeUsage host snapshot faults now now'
    (result.map fun _ => (), inner)
  | .tcp host check snapshot => inner.transaction (tcpTransaction host check snapshot now) faults

/-- **The request a write makes of a catalog.** -/
def Write.request (write : Write) (catalog : Catalog) : Except StorageError Request :=
  match write with
  | .checkResult hostId state transition =>
    if catalog.containsKey hostId then .ok (.checkResult hostId state transition)
    else .error (.notFound hostId)
  | .usage hostId snapshot =>
    match catalog.get hostId with
    | some host => .ok (.usage host snapshot)
    | none => .error (.notFound hostId)
  | .tcp hostId checkId snapshot =>
    match catalog.get hostId with
    | some host => (findCheck host checkId).map (.tcp host · snapshot)
    | none => .error (.notFound hostId)

/-! ## Tasks -/

/-- How far a write has come. A write of usage reads the catalog twice. -/
inductive TaskState where
  | called
  | checked (hostId : String) (snapshot : UsageSnapshot)
  | queued (request : Request)
  /-- With the one permit to write. -/
  | admitted (request : Request)
  deriving DecidableEq

structure Task where
  handle : ℕ
  write : Write
  state : TaskState := .called
  deriving DecidableEq

/-- What a write does before it waits for its permit, up to the second time
it reads the catalog. -/
def Write.begin (write : Write) (faults : Faults) : Call TaskState :=
  match write with
  | .checkResult hostId state transition => do
    ensureHostExists faults hostId
    return .queued (.checkResult hostId state transition)
  | .usage hostId snapshot => do
    ensureHostExists faults hostId
    ExceptT.mk (pure (orInvalidData snapshot.validate))
    return .checked hostId snapshot
  | .tcp hostId checkId snapshot => do
    let host ← lookupHost faults hostId
    let check ← ExceptT.mk (pure (findCheck host checkId))
    return .queued (.tcp host check snapshot)

/-- **The next step of a write**: the state it comes to, or none where it is
done. -/
def Task.step (task : Task) (faults : Faults) (now now' : ℤ) : Call (Option TaskState) :=
  match task.state with
  | .called => do return some (← task.write.begin faults)
  | .checked hostId snapshot => do
    let host ← lookupHost faults hostId
    return some (.queued (.usage host snapshot))
  | .queued request => return some (.admitted request)
  | .admitted request => do
    withInner (some task.handle) faults (request.perform faults now now')
    return none

/-! ## Reloads -/

/-- How far a reload has come. -/
inductive ReloadStage where
  | catalogLocked
  | innerLocked
  | locked
  | committed
  | policiesPublished
  | generationBumped
  | usageRetained
  | catalogReplaced
  | cacheTrimmed
  | innerReleased
  deriving DecidableEq

structure Reload where
  hosts : List Host
  policies : Option StoragePolicies
  stage : ReloadStage := .catalogLocked

def Reload.hostMap (reload : Reload) : Catalog := Catalog.ofHosts reload.hosts

/-- Whether a reload holds the writer mutex. -/
def Reload.holdsInner (reload : Reload) : Bool :=
  reload.stage ≠ .catalogLocked && reload.stage ≠ .innerReleased

/-! ## Reads -/

inductive Read where
  | hosts (filter : HostFilter)
  | hostsPage (after : Option String) (limit : ℕ)
  | host (id : String)
  | usageReport (filter : UsageFilter)

/-- One entry of what a read returns. -/
inductive Item where
  | record (record : HostRecord)
  | usage (usage : HostUsage)
  deriving DecidableEq

def Item.id : Item → String
  | .record entry => entry.host.id
  | .usage entry => entry.id

def Item.address : Item → String
  | .record entry => entry.host.address
  | .usage entry => entry.address

/-- **What a read returns**, on a catalog and a state of the database. -/
def Read.items (read : Read) (db : Database) (catalog : Catalog) : Except StorageError (List Item) :=
  match read with
  | .hosts filter => (sortedRecords db catalog filter).map (·.map .record)
  | .hostsPage after limit => .ok ((Storage.hostsPage db catalog after limit).map .record)
  | .host id => .ok ((Storage.host db catalog id).toList.map .record)
  | .usageReport filter => (Storage.usageReport db catalog filter).map (·.hosts.map .usage)

/-! ## The world -/

/-- **What the current rows were observed on**: the address, and for a check
the port, that the monitor of each row's last write probed. -/
structure Targets where
  status : Table String String := ∅
  usage : Table String String := ∅
  tcp : Table (String × String) (String × ℕ) := ∅

/-- A monitor probes the targets of the catalog its generation is of. -/
def Targets.record (targets : Targets) (catalog : Catalog) (write : Write) : Targets :=
  match write with
  | .checkResult hostId _ _ =>
    match catalog.get hostId with
    | some host => { targets with status := targets.status.upsert hostId host.address }
    | none => targets
  | .usage hostId _ =>
    match catalog.get hostId with
    | some host => { targets with usage := targets.usage.upsert hostId host.address }
    | none => targets
  | .tcp hostId checkId _ =>
    match catalog.get hostId with
    | some host =>
      match findCheck host checkId with
      | .ok check =>
        { targets with
          tcp := targets.tcp.upsert (hostId, checkId.value) (host.address, check.port.get) }
      | .error _ => targets
    | none => targets

/-- A write that is over, and the world it ended in. -/
structure Outcome where
  task : Task
  result : Except StorageError Unit
  faults : Faults
  now : ℤ
  now' : ℤ
  before : SqliteStorage
  after : SqliteStorage
  published : List Catalog

/-- A read that has cloned the catalog. -/
structure Reader where
  read : Read
  catalog : Catalog

/-- A read that is over, and the state of the database it ran on. -/
structure Answer where
  reader : Reader
  db : Database
  targets : Targets

def Answer.items (answer : Answer) : Except StorageError (List Item) :=
  answer.reader.read.items answer.db answer.reader.catalog

/-- **The world**: the storage, the calls in flight, and what an observer
has noted: the catalogs published, by generation, what the rows were
observed on, and how each call ended. -/
structure World where
  storage : SqliteStorage := {}
  reload : Option Reload := none
  handles : List ℕ := []
  tasks : List Task := []
  readers : List Reader := []
  published : List Catalog := [∅]
  targets : Targets := {}
  outcomes : List Outcome := []
  answers : List Answer := []

namespace World

/-- The catalog can be read. -/
def catalogFree (w : World) : Bool := w.reload.isNone

/-- The writer mutex can be taken. -/
def innerFree (w : World) : Bool := !w.reload.any (·.holdsInner)

def hasPermit (task : Task) : Bool :=
  match task.state with
  | .admitted _ => true
  | _ => false

/-- A step of a write that has to wait. -/
def blocked (w : World) (task : Task) : Bool :=
  match task.state with
  | .called | .checked _ _ => !w.catalogFree
  | .queued _ => w.tasks.any hasPermit
  | .admitted _ => !w.innerFree

/-- A task is over. -/
def finish (w : World) (i : ℕ) (task : Task) (result : Except StorageError Unit) (faults : Faults)
    (now now' : ℤ) (storage : SqliteStorage) : World :=
  { w with
    storage
    tasks := w.tasks.eraseIdx i
    targets :=
      match result, w.published[task.handle]? with
      | .ok (), some catalog => w.targets.record catalog task.write
      | _, _ => w.targets
    outcomes := w.outcomes ++ [⟨task, result, faults, now, now', w.storage, storage, w.published⟩] }

/-- One step of a write. -/
def advance (w : World) (i : ℕ) (faults : Faults) (now now' : ℤ) : World :=
  match w.tasks[i]? with
  | none => w
  | some task =>
    if w.blocked task then w
    else
      match Program.run (task.step faults now now') w.storage with
      | (.ok (some state), storage) => { w with storage, tasks := w.tasks.set i { task with state } }
      | (.ok none, storage) => w.finish i task (.ok ()) faults now now' storage
      | (.error e, storage) => w.finish i task (.error e) faults now now' storage

/-- The reload goes on to a stage. -/
def reloadTo (w : World) (reload : Reload) (stage : ReloadStage) (storage : SqliteStorage) : World :=
  { w with storage, reload := some { reload with stage } }

/-- One step of a reload; a failure drops its locks. -/
def reloadStep (w : World) (faults : Faults) (now now' : ℤ) : World :=
  match w.reload with
  | none => w
  | some reload =>
    match reload.stage with
    | .catalogLocked =>
      if faults.poisoned .inner then { w with reload := none }
      else w.reloadTo reload .innerLocked w.storage
    | .innerLocked =>
      if faults.poisoned .historyPolicy then { w with reload := none }
      else w.reloadTo reload .locked w.storage
    | .locked =>
      match w.storage.inner.transaction
        (reloadTransaction reload.hostMap reload.policies now now') faults with
      | (.error _, inner) => { w with storage := { w.storage with inner }, reload := none }
      | (.ok (), inner) => w.reloadTo reload .committed { w.storage with inner }
    | .committed =>
      w.reloadTo reload .policiesPublished
        (reload.policies.elim w.storage fun config => w.storage.publishPolicies config)
    | .policiesPublished =>
      { w.reloadTo reload .generationBumped w.storage.bumpGeneration with
        published := w.published ++ [reload.hostMap] }
    | .generationBumped =>
      w.reloadTo reload .usageRetained
        (w.storage.retainUsage (sameAddress w.storage.hosts reload.hostMap))
    | .usageRetained =>
      w.reloadTo reload .catalogReplaced { w.storage with hosts := reload.hostMap }
    | .catalogReplaced =>
      w.reloadTo reload .cacheTrimmed
        (w.storage.retainUsage ((reload.hosts.map (·.id)).dedup.contains ·))
    | .cacheTrimmed => w.reloadTo reload .innerReleased w.storage
    | .innerReleased => { w with reload := none }

end World

/-- The calls that neither write observations nor publish a configuration. -/
def StorageOp.isMaintenance : StorageOp → Bool
  | .pruneHistory .. | .rollup .. | .prune .. | .setHistoryRetention ..
  | .setUsageSampleRetention .. | .configureMaintenance .. | .scheduleJobs .. => true
  | _ => false

/-- What may happen next. -/
inductive Event where
  /-- A handle for the current generation is handed out. -/
  | monitorGeneration (faults : Faults)
  | call (handle : ℕ) (write : Write)
  | advance (task : ℕ) (faults : Faults) (now now' : ℤ)
  /-- A write is given up before it has its permit. -/
  | cancel (task : ℕ)
  | reload (faults : Faults) (hosts : List Host) (policies : Option StoragePolicies)
  | reloadStep (faults : Faults) (now now' : ℤ)
  | maintain (op : StorageOp)
  /-- A read clones the catalog. -/
  | clone (read : Read)
  /-- A read runs its transaction. -/
  | query (reader : ℕ)
  /-- The process ends, and another opens the database. One that cannot read
  what it opened is as one that ends at once. -/
  | restart (faults : Faults) (now : ℤ) (hosts : List Host)

/-- **One step of the world.** An event that cannot happen changes nothing. -/
def World.step (w : World) (event : Event) : World :=
  match event with
  | .monitorGeneration faults =>
    if !w.innerFree then w
    else
      match (Program.run (Storage.monitorGeneration faults) w.storage).1 with
      | .ok generation => { w with handles := generation :: w.handles }
      | .error _ => w
  | .call handle write =>
    if handle ∈ w.handles then { w with tasks := w.tasks ++ [⟨handle, write, .called⟩] } else w
  | .advance task faults now now' => w.advance task faults now now'
  | .cancel task =>
    match w.tasks[task]? with
    | some t => if World.hasPermit t then w else { w with tasks := w.tasks.eraseIdx task }
    | none => w
  | .reload faults hosts policies =>
    if (hosts.map (·.id)).dedup.length ≠ hosts.length || faults.poisoned .hosts
        || !w.catalogFree then w
    else { w with reload := some ⟨hosts, policies, .catalogLocked⟩ }
  | .reloadStep faults now now' => w.reloadStep faults now now'
  | .maintain op =>
    if op.isMaintenance && w.innerFree then { w with storage := op.apply w.storage } else w
  | .clone read =>
    if w.catalogFree then { w with readers := w.readers ++ [⟨read, w.storage.hosts⟩] } else w
  | .query reader =>
    match w.readers[reader]? with
    | some r =>
      { w with
        readers := w.readers.eraseIdx reader
        answers := w.answers ++ [⟨r, w.storage.inner.conn, w.targets⟩] }
    | none => w
  | .restart faults now hosts =>
    match newInitialized faults none now w.storage.inner.conn hosts with
    | (.ok storage, _) =>
      { storage, published := [storage.hosts], targets := w.targets, outcomes := w.outcomes
        answers := w.answers }
    | (.error _, _) => w

/-- **A run of the world**, from an empty database and an empty catalog. -/
def World.run (events : List Event) : World := events.foldl World.step {}

theorem World.run_induction {P : World → Prop} (h0 : P {}) (step : ∀ event w, P w → P (w.step event))
    (events : List Event) : P (World.run events) :=
  List.foldl_invariant (P := fun _ w => P w) (fun _ _ w event _ => step event w) h0

end SimpleNetworkMonitor.Storage
