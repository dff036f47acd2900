import SimpleNetworkMonitor.Storage.Model.Run
/-!
# Writes that are retried

A monitor retries the write of an observation until one attempt succeeds,
and may lose the answer of one that did. Between two attempts maintenance
may run.
-/

namespace SimpleNetworkMonitor.Storage

/-- **An observation** that a monitor writes, by the call that writes it. -/
inductive Attempt where
  | checkResult (hostId : String) (state : HostRuntimeState) (transition : Option IcmpTransition)
  | tcp (hostId : String) (checkId : CheckId) (snapshot : TcpSnapshot)

/-- One attempt to write it. -/
def Attempt.call (attempt : Attempt) (handle : WriteGeneration) (faults : Faults) (now : ℤ) :
    Call Unit :=
  match attempt with
  | .checkResult hostId state transition =>
    updateCheckResult handle faults now hostId state transition
  | .tcp hostId checkId snapshot => updateTcp handle faults now hostId checkId snapshot

def Attempt.observedAt : Attempt → Option ℤ
  | .checkResult _ state _ => state.lastCheckedAt
  | .tcp _ _ snapshot => some snapshot.observedAt

def Attempt.transition : Attempt → Option IcmpTransition
  | .checkResult _ _ transition => transition
  | .tcp _ _ _ => none

/-- What may run between two attempts: a batch of maintenance, or another
attempt. -/
inductive Meanwhile where
  | rollup (faults : Faults) (now : ℤ)
  | prune (scan : Table.LimitScan) (faults : Faults) (now : ℤ)
  | pruneHistory (scan : Table.LimitScan) (faults : Faults) (now : ℤ)
  | attempt (handle : WriteGeneration) (faults : Faults) (now : ℤ)

def Meanwhile.apply (attempt : Attempt) (step : Meanwhile) (storage : SqliteStorage) :
    SqliteStorage :=
  match step with
  | .rollup faults now => (Program.run (Storage.rollup faults now) storage).2
  | .prune scan faults now => (Program.run (Storage.prune scan faults now) storage).2
  | .pruneHistory scan faults now => (Program.run (Storage.pruneHistory scan faults now) storage).2
  | .attempt handle faults now => (Program.run (attempt.call handle faults now) storage).2

/-- A transition that a step does not prune: it is no older than the cutoff. -/
def Meanwhile.retains (retention : ℕ) (event : IcmpTransition) : Meanwhile → Bool
  | .pruneHistory _ _ now => now - retention ≤ event.changedAt
  | _ => true

end SimpleNetworkMonitor.Storage
