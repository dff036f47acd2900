import SimpleNetworkMonitor.Domain.Host
import SimpleNetworkMonitor.Domain.Maintenance
/-!
# The configuration

What a configuration holds once it is read and checked: where the process
listens and stores, the settings of the modules, the API token, the
retention and maintenance policies, and the inventory.
-/

namespace SimpleNetworkMonitor

inductive BackendKind where
  | auto
  | raw
  | system
  deriving DecidableEq

structure IcmpModuleConfig where
  enabled : Bool := true
  backend : BackendKind := .auto
  interval : ℕ := fromSecs 30
  timeout : ℕ := fromSecs 1
  concurrency : ℕ := 128
  failureThreshold : ℕ := 2
  successThreshold : ℕ := 1
  deriving DecidableEq

structure UsageModuleConfig where
  enabled : Bool := false
  interval : ℕ := fromSecs 300
  timeout : ℕ := fromSecs 5
  concurrency : ℕ := 32
  sshVerifyHostKey : Bool := true
  sampleRetention : ℕ := fromSecs (30 * 24 * 60 * 60)
  linuxMinUid : ℕ := 1000
  macosMinUid : ℕ := 500
  deriving DecidableEq

structure TcpModuleConfig where
  enabled : Bool := false
  interval : ℕ := fromSecs 30
  timeout : ℕ := fromSecs 3
  concurrency : ℕ := 64
  deriving DecidableEq

structure ModuleConfigs where
  icmp : IcmpModuleConfig := {}
  usage : UsageModuleConfig := {}
  tcp : TcpModuleConfig := {}
  deriving DecidableEq

/-- What `ApiToken::new` accepts: visible ASCII characters. -/
def ApiToken.accepts (value : String) : Bool :=
  !value.isEmpty && value.utf8ByteSize ≤ 4096
    && value.toList.all fun c => 0x21 ≤ c.toNat && c.toNat ≤ 0x7e

/-- **A bearer credential**, valid by construction. -/
structure ApiToken where
  value : String
  valid : ApiToken.accepts value = true
  deriving DecidableEq

/-! ## Where the process listens -/

inductive IpAddr where
  | v4 (bits : BitVec 32)
  | v6 (bits : BitVec 128)
  deriving DecidableEq

/-- `IpAddr::is_loopback`: a network of IPv4, one address of IPv6. -/
def IpAddr.isLoopback : IpAddr → Bool
  | .v4 bits => bits.extractLsb 31 24 = 127
  | .v6 bits => bits = 1

structure SocketAddr where
  ip : IpAddr
  port : UInt16
  deriving DecidableEq

/-- 127.0.0.1:3000 -/
def defaultBind : SocketAddr := ⟨.v4 0x7f000001, 3000⟩

def defaultDatabasePath : String := "./network-monitor.sqlite3"

def defaultHistoryRetention : ℕ := fromSecs (365 * 86400)

structure AppConfig where
  bind : SocketAddr := defaultBind
  databasePath : String := defaultDatabasePath
  historyRetention : ℕ := defaultHistoryRetention
  history : HistoryConfig := {}
  maintenance : MaintenanceConfig := {}
  apiWorkers : Option ℕ := none
  modules : ModuleConfigs := {}
  apiToken : Option ApiToken := none
  allowUnauthenticatedNonLoopback : Bool := false
  hosts : List Host
  deriving DecidableEq

end SimpleNetworkMonitor
