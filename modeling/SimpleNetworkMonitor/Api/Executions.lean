import SimpleNetworkMonitor.Api.Helpers.Metrics
import SimpleNetworkMonitor.App.Runner
import Mathlib.Data.List.OfFn
/-!
# Executions, counted and rendered

The runner accounts for every execution once: in the order of the calls of a
job, in the counters of its kind, and in the histogram a scrape renders.
-/

namespace SimpleNetworkMonitor.Api

open App Api.Metric

/-- The samples of the histogram of a kind that have a suffix. -/
def histogram (suffix : String) (kind : String) (stats : CheckStats) : List Sample :=
  (family DURATION (runtimeMetrics kind stats)).filter fun s => s.suffix = suffix

variable {kind : String} {stats : CheckStats}

variable {ο ι : Type} [DecidableEq ι]

end SimpleNetworkMonitor.Api
