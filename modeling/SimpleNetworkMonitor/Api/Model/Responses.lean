import SimpleNetworkMonitor.Api.Model.Inventory
/-!
# What the JSON of a host says

The projection of a record that every reading endpoint answers with, and
the readiness endpoint, which counts over it.
-/

namespace SimpleNetworkMonitor.Api

structure UsageSnapshotResponse where
  collectedAt : ℤ
  consoleUsers : Option ℕ
  remoteUsers : Option ℕ
  status : UsageCollectionStatus
  error : Option String

def UsageSnapshotResponse.ofSnapshot (snapshot : UsageSnapshot) : UsageSnapshotResponse :=
  ⟨snapshot.collectedAt, snapshot.consoleUsers, snapshot.remoteUsers, snapshot.status,
    snapshot.error⟩

/-- An attempt; its duration is in nanoseconds. -/
structure TcpObservationResponse where
  observedAt : ℤ
  success : Bool
  durationSeconds : Option ℕ
  error : Option String

def TcpObservationResponse.ofSnapshot (snapshot : TcpSnapshot) : TcpObservationResponse :=
  ⟨snapshot.observedAt, snapshot.success, snapshot.duration, snapshot.error⟩

structure TcpCheckResponse where
  id : String
  port : ℕ
  enabled : Bool
  stale : Bool
  observation : Option TcpObservationResponse

structure HostResponse where
  id : String
  address : String
  name : String
  groups : List String
  metadata : List (String × Value)
  status : HostStatus
  lastCheckedAt : Option ℤ
  lastChangeAt : Option ℤ
  latencyMs : Option ℚ
  consecutiveSuccesses : ℕ
  consecutiveFailures : ℕ
  lastError : Option String
  usage : Option UsageSnapshotResponse
  icmpEnabled : Bool
  usageEnabled : Bool
  icmpStale : Bool
  usageStale : Bool
  tcp : List TcpCheckResponse

/-- **The JSON of a record**, at an instant. -/
def HostResponse.ofRecord (now : ℤ) (record : HostRecord) : HostResponse :=
  let modules := record.host.modules
  { id := record.host.id
    address := record.host.address
    name := record.host.name
    groups := record.host.groups
    metadata := record.host.metadata
    status := record.state.status
    lastCheckedAt := record.state.lastCheckedAt
    lastChangeAt := record.state.lastChangeAt
    latencyMs := record.state.latency.map durationMs
    consecutiveSuccesses := record.state.consecutiveSuccesses
    consecutiveFailures := record.state.consecutiveFailures
    lastError := record.state.lastError
    usage := record.usage.map UsageSnapshotResponse.ofSnapshot
    icmpEnabled := modules.icmp.enabled
    usageEnabled := modules.usage.enabled
    icmpStale := !modules.icmp.enabled ||
      !isFresh record.state.lastCheckedAt modules.icmp.interval modules.icmp.timeout now
    usageStale := !modules.usage.enabled ||
      !isFresh (record.usage.map (·.collectedAt)) modules.usage.interval modules.usage.timeout now
    tcp := modules.tcp.checks.map fun check =>
      let snapshot := record.tcp.find? check.id
      { id := check.id.value
        port := check.port.get
        enabled := modules.tcp.enabled
        stale := !modules.tcp.enabled ||
          !isFresh (snapshot.map (·.observedAt)) modules.tcp.interval modules.tcp.timeout now
        observation := snapshot.map TcpObservationResponse.ofSnapshot } }

structure ReadinessResponse where
  status : String
  enabledChecks : ℕ
  currentChecks : ℕ
  deriving DecidableEq

/-- The answer of the readiness endpoint: its status code and its body. -/
structure ReadinessAnswer where
  code : ℕ
  body : ReadinessResponse
  deriving DecidableEq

/-- **`readyz`**, after authorization. -/
def readyz (hosts : Except StorageError (List HostRecord)) (now : ℤ) :
    Except ApiError ReadinessAnswer := do
  let records ← hosts.mapError .storage
  let (enabledChecks, currentChecks) := records.foldl
    (fun (counts : ℕ × ℕ) record =>
      let dto := HostResponse.ofRecord now record
      (counts.1 + (dto.icmpEnabled.toNat + dto.usageEnabled.toNat +
          (dto.tcp.filter fun check => check.enabled).length),
        counts.2 + ((dto.icmpEnabled && !dto.icmpStale).toNat +
          (dto.usageEnabled && !dto.usageStale).toNat +
          (dto.tcp.filter fun check => check.enabled && !check.stale).length))) (0, 0)
  let ready := enabledChecks = currentChecks
  return { code := if ready then 200 else 503
           body := ⟨if ready then "ready" else "waiting", enabledChecks, currentChecks⟩ }

end SimpleNetworkMonitor.Api
