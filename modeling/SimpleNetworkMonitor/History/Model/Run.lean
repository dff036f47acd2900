import SimpleNetworkMonitor.Common.Clocked
import SimpleNetworkMonitor.History.Model.Ingest
import SimpleNetworkMonitor.History.Model.Rollup
/-!
# Runs of the history component

What the daemon does to the history tables: the inventory is synchronized,
observations are recorded, and maintenance rolls up and prunes, in any
order.
-/

namespace SimpleNetworkMonitor.History

/-- One call of the history component. -/
inductive HistoryOp where
  | syncEpochs (hosts : List Host)
  | record (host : String) (module : Module) (check : String) (at_ : ℤ)
      (observation : HistoryObservation)
  | rollup (limit : ℕ)
  | prune (scan : Table.LimitScan) (usageRetention limit : ℕ)

/-- What a call does at `now`. -/
def HistoryOp.apply (config : HistoryConfig) (now : ℤ) : HistoryOp → HistoryDb → HistoryDb
  | .syncEpochs hosts, db => History.syncEpochs db hosts now
  | .record host module check at_ observation, db =>
    History.record db host module check at_ observation now
  | .rollup limit, db => (History.rollup config now db limit).1
  | .prune scan usageRetention limit, db => (History.prune scan limit db now config usageRetention).1

/-- The tables after a run that starts with none. -/
def run (config : HistoryConfig) (steps : List (ℤ × HistoryOp)) : HistoryDb :=
  Clocked.run (HistoryOp.apply config) steps {}

/-- The tables after a run in which each call has its own configuration. -/
def runWith (steps : List (ℤ × HistoryConfig × HistoryOp)) : HistoryDb :=
  Clocked.run (fun now (step : HistoryConfig × HistoryOp) => step.2.apply step.1 now) steps {}

/-! ## A sample run -/

/-- A host is up, then down, and a batch rolls up what is over. -/
def sampleSteps : List (ℤ × HistoryOp) :=
  [(1000, .syncEpochs [{ id := "h1", address := "10.0.0.1", name := "H", groups := [] }]),
    (2000, .record "h1" .icmp "" 2000 ⟨"up", true, some 4, none, none, none⟩),
    (32000, .record "h1" .icmp "" 32000 ⟨"down", false, none, none, none, none⟩),
    (40000, .rollup 5)]

/-- Its chart. -/
def sampleRequest : HistoryRequest where
  fromMs := 0
  toMs := 400000
  module := "icmp"
  check := none
  hosts := []
  groups := []
  breakdown := "host"
  maxPoints := 10

end SimpleNetworkMonitor.History
