import SimpleNetworkMonitor.Common.Register
import SimpleNetworkMonitor.Storage.Helpers.Sync
import SimpleNetworkMonitor.Storage.Model.Run
/-!
# What a run commits

An abstract service: the current state of each host, its latest usage and
the latest attempt on each of its checks are registers, which stand for the
address or the target that the inventory gives them.
-/

namespace SimpleNetworkMonitor.Storage

/-- **What one transaction commits**, of the current observations. -/
inductive Commit where
  | status (hostId : String) (state : HostRuntimeState)
  | usage (hostId : String) (snapshot : UsageSnapshot)
  | tcp (hostId checkId : String) (snapshot : TcpSnapshot)
  | inventory (hosts : List Host)
  deriving DecidableEq

/-- What a call commits, where it succeeds. -/
def StorageOp.commit (op : StorageOp) (storage : SqliteStorage) : Option Commit :=
  match op with
  | .updateCheckResult handle faults now hostId state transition =>
    (Program.run (Storage.updateCheckResult handle faults now hostId state transition)
      storage).1.toOption.map fun _ => .status hostId state
  | .updateUsage handle faults now now' hostId snapshot =>
    (Program.run (Storage.updateUsage handle faults now now' hostId snapshot)
      storage).1.toOption.map fun _ => .usage hostId snapshot
  | .updateTcp handle faults now hostId checkId snapshot =>
    (Program.run (Storage.updateTcp handle faults now hostId checkId snapshot)
      storage).1.toOption.map fun _ => .tcp hostId checkId.value snapshot
  | .updateHosts faults now now' hosts =>
    (Program.run (Storage.updateHosts faults now now' hosts) storage).1.toOption.map
      fun _ => .inventory hosts
  | .updateConfiguration faults now now' hosts policies =>
    (Program.run (Storage.updateConfiguration faults now now' hosts policies)
      storage).1.toOption.map fun _ => .inventory hosts
  | _ => none

/-- What a step of the service commits: a start that fails to read what it
opened has aligned the database all the same. -/
def ServiceOp.commit (op : ServiceOp) (service : Service) : Option Commit :=
  match op with
  | .start faults _ now hosts =>
    ((syncIdentitiesInTransaction hosts now).transact faults.sql service.conn).1.toOption.map
      fun _ => .inventory hosts
  | .call op =>
    match service with
    | .up storage => op.commit storage
    | .down _ => none

/-- **What a run commits**, in order. -/
def commits (ops : List ServiceOp) : List Commit :=
  List.emitted (fun service op => ServiceOp.apply op service)
    (fun service op => (ServiceOp.commit op service).toList) (.down {}) ops

/-! ## The registers -/

/-- The inventory committed last. -/
def inventory (commits : List Commit) : List Host :=
  commits.foldl (fun hosts commit =>
    match commit with
    | .inventory hosts => hosts
    | _ => hosts) []

/-- What a commit is to the state of a host. -/
def statusEvent (id : String) : Commit → Option (RegisterEvent String HostRuntimeState)
  | .status hostId state => if hostId = id then some (.write state) else none
  | .inventory hosts => some (.stands ((listed hosts id).map (·.address)))
  | _ => none

/-- What a commit is to the usage of a host. -/
def usageEvent (id : String) : Commit → Option (RegisterEvent String UsageSnapshot)
  | .usage hostId snapshot => if hostId = id then some (.write snapshot) else none
  | .inventory hosts => some (.stands ((listed hosts id).map (·.address)))
  | _ => none

/-- The target of a check in an inventory. -/
def targetOf (hosts : List Host) (key : String × String) : Option (String × ℕ) :=
  (listed hosts key.1).bind fun host =>
    if host.modules.tcp.enabled then
      (host.modules.tcp.checks.find? fun check => check.id.value = key.2).map
        fun check => (host.address, check.port.get)
    else none

/-- What a commit is to the attempts on a check. -/
def tcpEvent (key : String × String) : Commit → Option (RegisterEvent (String × ℕ) TcpSnapshot)
  | .tcp hostId checkId snapshot => if (hostId, checkId) = key then some (.write snapshot) else none
  | .inventory hosts => some (.stands (targetOf hosts key))
  | _ => none

def statusRegister (commits : List Commit) (id : String) : Register String HostRuntimeState :=
  Register.run (commits.filterMap (statusEvent id))

def usageRegister (commits : List Commit) (id : String) : Register String UsageSnapshot :=
  Register.run (commits.filterMap (usageEvent id))

def tcpRegister (commits : List Commit) (key : String × String) :
    Register (String × ℕ) TcpSnapshot :=
  Register.run (commits.filterMap (tcpEvent key))

end SimpleNetworkMonitor.Storage
