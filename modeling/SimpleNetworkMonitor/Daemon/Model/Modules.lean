import SimpleNetworkMonitor.Backends.Model.Tcp
import SimpleNetworkMonitor.Domain.Config
import SimpleNetworkMonitor.History.Model.Store
/-!
# The monitor modules

What a configuration prepares: a monitor for every module that is enabled
and has a host to check, and in it a job for every check. Preparing opens
sockets and may fail; it starts nothing.
-/

namespace SimpleNetworkMonitor.Daemon

open Backends (TcpRequest)
open History (CheckKey Module)

/-! ## Jobs -/

/-- **A job** of a monitor: what it observes, again and again. -/
inductive MonitorJob where
  | icmp (host : Host)
  | usage (host : Host)
  | tcp (hostId : String) (checkId : CheckId) (interval : ℕ) (request : TcpRequest)
  deriving DecidableEq

namespace MonitorJob

def kind : MonitorJob → String
  | .icmp _ => "icmp"
  | .usage _ => "usage"
  | .tcp .. => "tcp"

def interval : MonitorJob → ℕ
  | .icmp host => host.modules.icmp.interval
  | .usage host => host.modules.usage.interval
  | .tcp _ _ interval _ => interval

/-- The check that its observations are of. -/
def key : MonitorJob → CheckKey
  | .icmp host => ⟨host.id, .icmp, ""⟩
  | .usage host => ⟨host.id, .usage, ""⟩
  | .tcp hostId checkId _ _ => ⟨hostId, .tcp, checkId.value⟩

end MonitorJob

/-! ## Monitors -/

/-- **A module that is prepared**, with the hosts it was prepared for. -/
inductive PreparedMonitor where
  | icmp (hosts : List Host) (concurrency failureThreshold successThreshold : ℕ)
  | usage (hosts : List Host) (concurrency : ℕ)
  | tcp (hosts : List Host) (concurrency : ℕ)
  deriving DecidableEq

namespace PreparedMonitor

def kind : PreparedMonitor → String
  | .icmp .. => "icmp"
  | .usage .. => "usage"
  | .tcp .. => "tcp"

/-- The permits that its jobs share. -/
def concurrency : PreparedMonitor → ℕ
  | .icmp _ concurrency _ _ => concurrency
  | .usage _ concurrency => concurrency
  | .tcp _ concurrency => concurrency

/-- The jobs of a host in the monitor of TCP checks. -/
def tcpJobs (host : Host) : List MonitorJob :=
  host.modules.tcp.checks.map fun check =>
    .tcp host.id check.id host.modules.tcp.interval
      ⟨host.address, check.port, host.modules.tcp.timeout⟩

/-- **The jobs it spawns**, in the order it spawns them. -/
def jobs : PreparedMonitor → List MonitorJob
  | .icmp hosts _ _ _ => hosts.map .icmp
  -- the monitor filters what its module has filtered
  | .usage hosts _ => (hosts.filter (·.modules.usage.enabled)).map .usage
  | .tcp hosts _ => hosts.flatMap tcpJobs

end PreparedMonitor

/-! ## Modules -/

structure MonitorModule where
  globallyEnabled : AppConfig → Bool
  hasEnabledHosts : AppConfig → Bool
  /-- What is left to do, or to fail at, where there is something to check. -/
  monitor : AppConfig → Except String PreparedMonitor

/-- A module that is off, or has no host to check, prepares nothing. -/
def MonitorModule.prepare (module : MonitorModule) (config : AppConfig) :
    Except String (Option PreparedMonitor) :=
  if !module.globallyEnabled config || !module.hasEnabledHosts config then .ok none
  else (module.monitor config).map some

/-- What building the ping backend answers is an input. -/
def IcmpModule (backend : Except String Unit) : MonitorModule where
  globallyEnabled config := config.modules.icmp.enabled
  hasEnabledHosts config := config.hosts.any (·.modules.icmp.enabled)
  monitor config := do
    backend
    return .icmp (config.hosts.filter (·.modules.icmp.enabled)) config.modules.icmp.concurrency
      config.modules.icmp.failureThreshold config.modules.icmp.successThreshold

def UsageModule : MonitorModule where
  globallyEnabled config := config.modules.usage.enabled
  hasEnabledHosts config := config.hosts.any (·.modules.usage.enabled)
  monitor config :=
    .ok (.usage (config.hosts.filter (·.modules.usage.enabled)) config.modules.usage.concurrency)

/-- A host whose TCP module is enabled may list no check. -/
def TcpModule : MonitorModule where
  globallyEnabled config := config.modules.tcp.enabled
  hasEnabledHosts config := config.hosts.any fun host =>
    host.modules.tcp.enabled && !host.modules.tcp.checks.isEmpty
  monitor config :=
    .ok (.tcp (config.hosts.filter (·.modules.tcp.enabled)) config.modules.tcp.concurrency)

def registry (backend : Except String Unit) : List MonitorModule :=
  [IcmpModule backend, UsageModule, TcpModule]

/-- **The monitors of a configuration**, in the order of the registry. -/
def prepareMonitorConfig (backend : Except String Unit) (config : AppConfig) :
    Except String (List PreparedMonitor) := do
  let prepared ← (registry backend).mapM (·.prepare config)
  return prepared.reduceOption

end SimpleNetworkMonitor.Daemon
