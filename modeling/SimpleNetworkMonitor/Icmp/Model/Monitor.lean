import SimpleNetworkMonitor.Domain.Host
/-!
# The ICMP monitor

What one check does to the state of a host. A status changes where the
checks in a row that speak for the other are as many as its threshold.
-/

namespace SimpleNetworkMonitor.Icmp

/-- `u32::MAX`. -/
def U32_MAX : ℕ := 4294967295

/-- `saturating_add(1)`. -/
def saturatingSucc (n : ℕ) : ℕ := min (n + 1) U32_MAX

/-- **The thresholds** of a monitor, as `u32`s. -/
structure IcmpMonitorConfig where
  failureThreshold : ℕ
  successThreshold : ℕ
  failureThreshold_le : failureThreshold ≤ U32_MAX
  successThreshold_le : successThreshold ≤ U32_MAX

structure PingOutcome where
  latency : ℕ
  deriving DecidableEq

structure CheckFailure where
  message : String
  deriving DecidableEq

/-- What a check found, when, and by which backend. -/
structure Check where
  checkedAt : ℤ
  outcome : Except CheckFailure PingOutcome
  backend : String := ""

def transitionTo (host : Host) (state : HostRuntimeState) (newStatus : HostStatus) (changedAt : ℤ)
    (latencyMs : Option ℚ) (error : Option String) (backend reason : String) :
    HostRuntimeState × Option IcmpTransition :=
  let previousStatus := state.status
  let state := { state with status := newStatus, lastChangeAt := some changedAt }
  (state, some
    { hostId := host.id, previousStatus, newStatus, changedAt, latencyMs, error, backend, reason })

/-- **One check**: the state after it, and the transition where there is one. -/
def checkOnce (host : Host) (config : IcmpMonitorConfig) (check : Check) (state : HostRuntimeState) :
    HostRuntimeState × Option IcmpTransition :=
  let state := { state with lastCheckedAt := some check.checkedAt }
  match check.outcome with
  | .ok outcome =>
    let state := { state with
      latency := some outcome.latency
      consecutiveSuccesses := saturatingSucc state.consecutiveSuccesses
      consecutiveFailures := 0
      lastError := none }
    if state.status ≠ .up ∧ config.successThreshold ≤ state.consecutiveSuccesses then
      transitionTo host state .up check.checkedAt (some (durationMs outcome.latency)) none
        check.backend "success threshold reached"
    else (state, none)
  | .error err =>
    let state := { state with
      latency := none
      consecutiveFailures := saturatingSucc state.consecutiveFailures
      consecutiveSuccesses := 0
      lastError := some err.message }
    if state.status ≠ .down ∧ config.failureThreshold ≤ state.consecutiveFailures then
      transitionTo host state .down check.checkedAt none (some err.message) check.backend
        "failure threshold reached"
    else (state, none)

/-- The state after checks in a row, from the one of a host never seen. -/
def stateAfter (host : Host) (config : IcmpMonitorConfig) (checks : List Check) : HostRuntimeState :=
  checks.foldl (fun state check => (checkOnce host config check state).1) {}

end SimpleNetworkMonitor.Icmp
