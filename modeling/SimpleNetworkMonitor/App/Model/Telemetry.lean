import SimpleNetworkMonitor.Common.Ordered
import SimpleNetworkMonitor.Domain.Duration
import Mathlib.Data.Fin.VecNotation
import Mathlib.Data.String.Basic
/-!
# Runtime metrics

What the process counts of the checks it ran, by their kind. The counters
are shared by every job and start from zero with the process.
-/

namespace SimpleNetworkMonitor.App

/-- The upper bounds of the histogram, in nanoseconds. -/
def DURATION_BUCKETS : Fin 7 → ℕ :=
  ![fromMillis 10, fromMillis 50, fromMillis 100, fromMillis 500, fromSecs 1, fromSecs 5,
    fromSecs 10]

/-- **The counters of a kind of check.** The sum of the durations is a float
in the source, rounded with every addition; here it is the exact sum, in
nanoseconds. -/
structure CheckStats where
  successes : ℕ := 0
  failures : ℕ := 0
  storageRetries : ℕ := 0
  durationSum : ℕ := 0
  buckets : Fin 7 → ℕ := fun _ => 0

/-- The counters after an execution: one counter goes up, and every bucket
whose bound the duration is within. -/
def CheckStats.observe (stats : CheckStats) (success : Bool) (duration : ℕ) : CheckStats where
  successes := if success then stats.successes + 1 else stats.successes
  failures := if success then stats.failures else stats.failures + 1
  storageRetries := stats.storageRetries
  durationSum := stats.durationSum + duration
  buckets := fun index =>
    if duration ≤ DURATION_BUCKETS index then stats.buckets index + 1 else stats.buckets index

def CheckStats.retry (stats : CheckStats) : CheckStats :=
  { stats with storageRetries := stats.storageRetries + 1 }

/-- **The counters of the process**, by kind of check. -/
abbrev RuntimeMetrics := Ordered String CheckStats

namespace RuntimeMetrics

def observe (metrics : RuntimeMetrics) (kind : String) (success : Bool) (duration : ℕ) :
    RuntimeMetrics :=
  metrics.entry kind {} fun stats => stats.observe success duration

def storageRetry (metrics : RuntimeMetrics) (kind : String) : RuntimeMetrics :=
  metrics.entry kind {} CheckStats.retry

/-- The counters of a kind; one that has no row has counted nothing. -/
def statsOf (metrics : RuntimeMetrics) (kind : String) : CheckStats := (metrics.get? kind).getD {}

@[simp] theorem statsOf_empty (kind : String) : statsOf ∅ kind = {} := rfl

theorem statsOf_observe (metrics : RuntimeMetrics) (kind kind' : String) (success : Bool)
    (duration : ℕ) :
    statsOf (observe metrics kind success duration) kind' =
      if kind' = kind then (statsOf metrics kind').observe success duration
      else statsOf metrics kind' := by
  simp only [statsOf, observe, Ordered.get?_entry]
  split_ifs with h
  · rw [h, Option.getD_some]
  · rfl

theorem statsOf_storageRetry (metrics : RuntimeMetrics) (kind kind' : String) :
    statsOf (storageRetry metrics kind) kind' =
      if kind' = kind then (statsOf metrics kind').retry else statsOf metrics kind' := by
  simp only [statsOf, storageRetry, Ordered.get?_entry]
  split_ifs with h
  · rw [h, Option.getD_some]
  · rfl

end RuntimeMetrics

end SimpleNetworkMonitor.App
