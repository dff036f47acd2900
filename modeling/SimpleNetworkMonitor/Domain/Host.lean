import SimpleNetworkMonitor.Common.Fallible
import SimpleNetworkMonitor.Common.Table
import SimpleNetworkMonitor.Domain.Address
import SimpleNetworkMonitor.Domain.Duration
import Mathlib.Control.Monad.Basic
import Mathlib.Data.Rat.Defs
/-!
# Hosts, their checks, and what is observed of them

The inventory a configuration publishes, the observations a monitor hands
to storage, and the records a read returns. A check ID and a port are
valid by construction; a host is checked where it is stored.
-/

namespace SimpleNetworkMonitor

/-! ## Checks -/

/-- What `CheckId::new` accepts. -/
def CheckId.accepts (value : String) : Bool :=
  !value.isEmpty && value.utf8ByteSize ≤ 128 && value ≠ "." && value ≠ ".."
    && value.toList.all identifierChar

/-- **A stable check ID** within one host's TCP module. -/
structure CheckId where
  value : String
  valid : CheckId.accepts value = true
  deriving DecidableEq

def CheckId.new (value : String) : Except String CheckId :=
  if h : CheckId.accepts value = true then .ok ⟨value, h⟩
  else .error "check ID must contain 1..128 ASCII letters, digits, dash, underscore, or dot"

/-- A port: a positive 16-bit number. -/
structure Port where
  get : ℕ
  pos : 0 < get
  lt : get < 65536
  deriving DecidableEq

structure TcpCheckConfig where
  id : CheckId
  port : Port
  deriving DecidableEq

structure ResolvedIcmpHostConfig where
  enabled : Bool := true
  interval : ℕ := fromSecs 30
  timeout : ℕ := fromSecs 1
  deriving DecidableEq

inductive UsageOs where
  | auto
  | linux
  | macos
  deriving DecidableEq

structure ResolvedUsageHostConfig where
  enabled : Bool := false
  os : UsageOs := .auto
  sshVerifyHostKey : Bool := true
  interval : ℕ := fromSecs 300
  timeout : ℕ := fromSecs 5
  linuxMinUid : ℕ := 1000
  macosMinUid : ℕ := 500
  deriving DecidableEq

structure ResolvedTcpHostConfig where
  enabled : Bool := false
  interval : ℕ := fromSecs 30
  timeout : ℕ := fromSecs 3
  checks : List TcpCheckConfig := []
  deriving DecidableEq

def ResolvedTcpHostConfig.validate (config : ResolvedTcpHostConfig) : Except String Unit := do
  validateDuration config.interval
  validateDuration config.timeout
  if config.checks.length > 64 then
    throw "at most 64 TCP checks are allowed per host"
  if ¬ (config.checks.map (·.id)).Nodup then
    throw "duplicate TCP check ID"

structure HostModuleConfig where
  icmp : ResolvedIcmpHostConfig := {}
  usage : ResolvedUsageHostConfig := {}
  tcp : ResolvedTcpHostConfig := {}
  deriving DecidableEq

/-! ## Hosts -/

/-- A metadata value, as far as a filter reads it: a number by its
rendering, an array or an object by being one. -/
inductive Value where
  | null
  | bool (value : Bool)
  | number (rendered : String)
  | string (value : String)
  | array
  | object
  deriving DecidableEq

structure Host where
  id : String
  address : String
  name : String
  groups : List String
  metadata : List (String × Value) := []
  modules : HostModuleConfig := {}
  deriving DecidableEq

/-- **The checks at the persistence and configuration boundaries.** -/
def Host.validate (host : Host) : Except String Unit := do
  if host.id.isEmpty ∨ host.id = "." ∨ host.id = ".." ∨ !(host.id.toList.all identifierChar) then
    throw "invalid host ID"
  validateAddress host.address
  validateDuration host.modules.icmp.interval
  validateDuration host.modules.icmp.timeout
  validateDuration host.modules.usage.interval
  validateDuration host.modules.usage.timeout
  host.modules.tcp.validate

theorem ResolvedTcpHostConfig.nodup_of_validate {config : ResolvedTcpHostConfig}
    (h : config.validate = .ok ()) : (config.checks.map (·.id)).Nodup := by
  unfold validate at h
  obtain ⟨⟨⟩, -, h₁⟩ := Except.bind_eq_ok_iff.mp h
  obtain ⟨⟨⟩, -, h₂⟩ := Except.bind_eq_ok_iff.mp h₁
  by_contra hnd
  split_ifs at h₂ with hlen
  obtain ⟨⟨⟩, h₃, -⟩ := Except.bind_eq_ok_iff.mp h₂
  cases h₃

theorem Host.tcp_validate_of_validate {host : Host} (h : host.validate = .ok ()) :
    host.modules.tcp.validate = .ok () := by
  unfold validate at h
  split_ifs at h with hid
  · obtain ⟨⟨⟩, h₁, -⟩ := Except.bind_eq_ok_iff.mp h
    cases h₁
  · obtain ⟨⟨⟩, -, h₁⟩ := Except.bind_eq_ok_iff.mp h
    obtain ⟨⟨⟩, -, h₂⟩ := Except.bind_eq_ok_iff.mp h₁
    obtain ⟨⟨⟩, -, h₃⟩ := Except.bind_eq_ok_iff.mp h₂
    obtain ⟨⟨⟩, -, h₄⟩ := Except.bind_eq_ok_iff.mp h₃
    obtain ⟨⟨⟩, -, h₅⟩ := Except.bind_eq_ok_iff.mp h₄
    exact h₅

/-- A valid host has no two checks of one ID. -/
theorem Host.nodup_checkIds {host : Host} (h : host.validate = .ok ()) :
    (host.modules.tcp.checks.map (·.id.value)).Nodup := by
  have hids := ResolvedTcpHostConfig.nodup_of_validate (Host.tcp_validate_of_validate h)
  have hinj : Function.Injective CheckId.value := fun a b hab => by
    cases a; cases b; cases hab; rfl
  have hvalues := hids.map hinj
  rwa [List.map_map] at hvalues

/-! ## Observations -/

inductive HostStatus where
  | unknown
  | up
  | down
  deriving DecidableEq

def HostStatus.asStr : HostStatus → String
  | .unknown => "unknown"
  | .up => "up"
  | .down => "down"

structure HostRuntimeState where
  status : HostStatus := .unknown
  lastCheckedAt : Option ℤ := none
  lastChangeAt : Option ℤ := none
  latency : Option ℕ := none
  consecutiveSuccesses : ℕ := 0
  consecutiveFailures : ℕ := 0
  lastError : Option String := none
  deriving DecidableEq

/-- `duration_ms`: a duration as milliseconds, with its fraction. -/
def durationMs (duration : ℕ) : ℚ := duration / 1000000

structure IcmpTransition where
  hostId : String
  previousStatus : HostStatus
  newStatus : HostStatus
  changedAt : ℤ
  latencyMs : Option ℚ
  error : Option String
  backend : String
  reason : String
  deriving DecidableEq

inductive UsageCollectionStatus where
  | ok
  | failed
  deriving DecidableEq

structure UsageSnapshot where
  collectedAt : ℤ
  consoleUsers : Option ℕ
  remoteUsers : Option ℕ
  status : UsageCollectionStatus
  error : Option String
  deriving DecidableEq

namespace UsageSnapshot

def validate (snapshot : UsageSnapshot) : Except String Unit :=
  match snapshot.status with
  | .ok =>
    if snapshot.consoleUsers.isSome ∧ snapshot.remoteUsers.isSome ∧ snapshot.error.isNone then
      .ok ()
    else .error "usage status and counts are inconsistent"
  | .failed =>
    if snapshot.consoleUsers.isNone ∧ snapshot.remoteUsers.isNone ∧ snapshot.error.isSome then
      .ok ()
    else .error "usage status and counts are inconsistent"

def success (collectedAt : ℤ) (consoleUsers remoteUsers : ℕ) : UsageSnapshot :=
  ⟨collectedAt, some consoleUsers, some remoteUsers, .ok, none⟩

def differsForHistory (snapshot previous : UsageSnapshot) : Bool :=
  snapshot.status ≠ previous.status || snapshot.consoleUsers ≠ previous.consoleUsers
    || snapshot.remoteUsers ≠ previous.remoteUsers || snapshot.error ≠ previous.error

end UsageSnapshot

/-- A completed TCP attempt: the duration it took, or the diagnostic. -/
structure TcpSnapshot where
  observedAt : ℤ
  result : Except String ℕ
  deriving DecidableEq

namespace TcpSnapshot

def success (snapshot : TcpSnapshot) : Bool :=
  match snapshot.result with
  | .ok _ => true
  | .error _ => false

def duration (snapshot : TcpSnapshot) : Option ℕ :=
  match snapshot.result with
  | .ok duration => some duration
  | .error _ => none

def error (snapshot : TcpSnapshot) : Option String :=
  match snapshot.result with
  | .ok _ => none
  | .error error => some error

end TcpSnapshot

/-! ## Records -/

/-- The attempts on the checks of a host. -/
abbrev Snapshots := Table CheckId TcpSnapshot

structure HostRecord where
  host : Host
  state : HostRuntimeState
  usage : Option UsageSnapshot
  tcp : Snapshots
  deriving DecidableEq

def HostRuntimeState.toRecord (state : HostRuntimeState) (host : Host)
    (usage : Option UsageSnapshot) : HostRecord :=
  ⟨host, state, usage, ∅⟩

structure UsageSummary where
  hostsReporting : ℕ := 0
  hostsWithErrors : ℕ := 0
  consoleUsers : ℕ := 0
  remoteUsers : ℕ := 0
  deriving DecidableEq

structure HostUsage where
  id : String
  address : String
  name : String
  groups : List String
  usage : UsageSnapshot
  deriving DecidableEq

structure UsageReport where
  summary : UsageSummary
  hosts : List HostUsage
  deriving DecidableEq

/-- What a storage call can fail with. -/
inductive StorageError where
  | invalidQuery (message : String)
  | busy
  | staleGeneration
  | notFound (hostId : String)
  | sqlite (message : String)
  | json (message : String)
  | invalidData (message : String)
  | taskJoin (message : String)
  | lockPoisoned
  deriving DecidableEq

end SimpleNetworkMonitor
