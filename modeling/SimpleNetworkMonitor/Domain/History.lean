import SimpleNetworkMonitor.Domain.Host
import Mathlib.Algebra.Group.Defs
import Mathlib.Algebra.Order.Ring.Rat
import Mathlib.Data.Fintype.Pi
import Mathlib.Data.Nat.Cast.Basic
/-!
# Mergeable history statistics

What the history tables hold and what a history request may ask.
Statistics are exact: a latency is a rational number of milliseconds and
a counter does not overflow. Merging makes them a commutative monoid, so
a summary of summaries is a sum.
-/

namespace SimpleNetworkMonitor

/-- Inclusive upper bounds for the mergeable latency distribution; the final
bin is overflow. -/
def LATENCY_BOUNDS : List ℚ :=
  [1 / 2, 1, 2, 4, 8, 16, 32, 64, 128, 256, 512, 1024, 2048, 4096, 8192, 16384]

structure HistoryStats where
  samples : ℕ := 0
  successfulSamples : ℕ := 0
  latencyCount : ℕ := 0
  latencySumMs : ℚ := 0
  latencyMinMs : Option ℚ := none
  latencyMaxMs : Option ℚ := none
  latencyHistogram : Fin 17 → ℕ := fun _ => 0
  upMs : ℕ := 0
  downMs : ℕ := 0
  usageObservedMs : ℕ := 0
  consoleUserMs : ℚ := 0
  remoteUserMs : ℚ := 0
  deriving DecidableEq

namespace HistoryStats

@[ext] theorem ext' {a b : HistoryStats} (h₁ : a.samples = b.samples)
    (h₂ : a.successfulSamples = b.successfulSamples) (h₃ : a.latencyCount = b.latencyCount)
    (h₄ : a.latencySumMs = b.latencySumMs) (h₅ : a.latencyMinMs = b.latencyMinMs)
    (h₆ : a.latencyMaxMs = b.latencyMaxMs) (h₇ : a.latencyHistogram = b.latencyHistogram)
    (h₈ : a.upMs = b.upMs) (h₉ : a.downMs = b.downMs)
    (h₁₀ : a.usageObservedMs = b.usageObservedMs) (h₁₁ : a.consoleUserMs = b.consoleUserMs)
    (h₁₂ : a.remoteUserMs = b.remoteUserMs) : a = b := by
  cases a; cases b; simp_all

/-- **Merge.** Counters add up; a minimum or a maximum is over those that
are there. -/
def merge (s other : HistoryStats) : HistoryStats where
  samples := s.samples + other.samples
  successfulSamples := s.successfulSamples + other.successfulSamples
  latencyCount := s.latencyCount + other.latencyCount
  latencySumMs := s.latencySumMs + other.latencySumMs
  latencyMinMs := Option.merge min s.latencyMinMs other.latencyMinMs
  latencyMaxMs := Option.merge max s.latencyMaxMs other.latencyMaxMs
  latencyHistogram := fun i => s.latencyHistogram i + other.latencyHistogram i
  upMs := s.upMs + other.upMs
  downMs := s.downMs + other.downMs
  usageObservedMs := s.usageObservedMs + other.usageObservedMs
  consoleUserMs := s.consoleUserMs + other.consoleUserMs
  remoteUserMs := s.remoteUserMs + other.remoteUserMs

instance : Add HistoryStats := ⟨merge⟩

instance : Zero HistoryStats := ⟨{}⟩

theorem merge_eq_add (a b : HistoryStats) : a.merge b = a + b := rfl

theorem default_eq_zero : ({} : HistoryStats) = 0 := rfl

/-- **Statistics are a commutative monoid** under merging. -/
instance : AddCommMonoid HistoryStats where
  add_assoc a b c := by
    change (a.merge b).merge c = a.merge (b.merge c)
    ext1 <;> simp only [merge, add_assoc]
    · cases a.latencyMinMs <;> cases b.latencyMinMs <;> cases c.latencyMinMs <;>
        simp [min_assoc]
    · cases a.latencyMaxMs <;> cases b.latencyMaxMs <;> cases c.latencyMaxMs <;>
        simp [max_assoc]
  zero_add a := by
    change merge {} a = a
    ext1 <;> simp [merge]
  add_zero a := by
    change merge a {} = a
    ext1 <;> simp [merge]
  add_comm a b := by
    change a.merge b = b.merge a
    ext1 <;> simp only [merge, add_comm]
    · cases a.latencyMinMs <;> cases b.latencyMinMs <;> simp [min_comm]
    · cases a.latencyMaxMs <;> cases b.latencyMaxMs <;> simp [max_comm]
  nsmul := nsmulRec

@[simp] theorem upMs_zero : (0 : HistoryStats).upMs = 0 := rfl
@[simp] theorem downMs_zero : (0 : HistoryStats).downMs = 0 := rfl
@[simp] theorem usageObservedMs_zero : (0 : HistoryStats).usageObservedMs = 0 := rfl

@[simp] theorem upMs_add (a b : HistoryStats) : (a + b).upMs = a.upMs + b.upMs := rfl
@[simp] theorem downMs_add (a b : HistoryStats) : (a + b).downMs = a.downMs + b.downMs := rfl
@[simp] theorem usageObservedMs_add (a b : HistoryStats) :
    (a + b).usageObservedMs = a.usageObservedMs + b.usageObservedMs := rfl

/-- The bin the 95th percentile falls in, counting bins from `i` with `count`
samples below them. -/
def percentileBin (target : ℕ) (latencyMaxMs : Option ℚ) : ℕ → ℕ → List ℕ → Option ℚ
  | _, _, [] => none
  | count, i, n :: rest =>
    if target ≤ count + n then LATENCY_BOUNDS[i]?.or latencyMaxMs
    else percentileBin target latencyMaxMs (count + n) (i + 1) rest

def latencyP95 (s : HistoryStats) : Option ℚ :=
  if s.latencyCount = 0 then none
  else
    -- `ceil (count * 0.95)`
    let target := (s.latencyCount * 19 + 19) / 20
    percentileBin target s.latencyMaxMs 0 0 (List.ofFn s.latencyHistogram)

end HistoryStats

/-! ## Observations -/

structure HistoryObservation where
  state : String
  success : Bool
  latencyMs : Option ℚ
  consoleUsers : Option ℕ
  remoteUsers : Option ℕ
  error : Option String
  deriving DecidableEq

namespace HistoryObservation

/-- The bin of a latency: the first bound it does not exceed. -/
def latencyBin (v : ℚ) : ℕ := (LATENCY_BOUNDS.findIdx? (v ≤ ·)).getD 16

/-- What an observation counts as a sample. -/
def sampleStats (observation : HistoryObservation) : HistoryStats :=
  let s : HistoryStats :=
    { samples := 1, successfulSamples := if observation.success then 1 else 0 }
  match observation.latencyMs.filter fun v => observation.success && 0 ≤ v with
  | none => s
  | some v =>
    { s with
      latencyCount := 1
      latencySumMs := v
      latencyMinMs := some v
      latencyMaxMs := some v
      latencyHistogram := fun bin => if bin.val = latencyBin v then 1 else 0 }

/-- Whether an observation counts users. -/
def countsUsers (observation : HistoryObservation) : Bool :=
  observation.success && observation.consoleUsers.isSome && observation.remoteUsers.isSome

/-- What an observation in force for `durationMs` counts. -/
def durationStats (observation : HistoryObservation) (durationMs : ℕ) : HistoryStats where
  upMs := if observation.state = "up" then durationMs else 0
  downMs := if observation.state = "down" then durationMs else 0
  usageObservedMs := if observation.countsUsers then durationMs else 0
  consoleUserMs :=
    if observation.countsUsers then (observation.consoleUsers.getD 0 : ℕ) * durationMs else 0
  remoteUserMs :=
    if observation.countsUsers then (observation.remoteUsers.getD 0 : ℕ) * durationMs else 0

def changedFrom (observation previous : HistoryObservation) : Bool :=
  observation.state ≠ previous.state || observation.consoleUsers ≠ previous.consoleUsers
    || observation.remoteUsers ≠ previous.remoteUsers || observation.error ≠ previous.error

variable (observation : HistoryObservation)

@[simp] theorem durationStats_zero : observation.durationStats 0 = 0 := by
  ext1 <;> simp [durationStats, ← HistoryStats.default_eq_zero]

/-- **Durations add up.** The statistics of a stretch are those of its
pieces, merged. -/
theorem durationStats_add (m n : ℕ) :
    observation.durationStats (m + n) = observation.durationStats m + observation.durationStats n := by
  rw [← HistoryStats.merge_eq_add]
  ext1 <;> simp [durationStats, HistoryStats.merge, ite_add_zero, mul_add]

@[simp] theorem sampleStats_upMs : observation.sampleStats.upMs = 0 := by
  unfold sampleStats; cases observation.latencyMs.filter _ <;> rfl

@[simp] theorem sampleStats_downMs : observation.sampleStats.downMs = 0 := by
  unfold sampleStats; cases observation.latencyMs.filter _ <;> rfl

@[simp] theorem sampleStats_usageObservedMs : observation.sampleStats.usageObservedMs = 0 := by
  unfold sampleStats; cases observation.latencyMs.filter _ <;> rfl

/-- An observation is up or down, not both. -/
theorem durationStats_upMs_add_downMs_le (n : ℕ) :
    (observation.durationStats n).upMs + (observation.durationStats n).downMs ≤ n := by
  simp only [durationStats]
  by_cases hup : observation.state = "up"
  · have hdown : observation.state ≠ "down" := by rw [hup]; decide
    simp [hup]
  · simp only [hup, if_false, zero_add]
    split_ifs <;> omega

theorem durationStats_usageObservedMs_le (n : ℕ) :
    (observation.durationStats n).usageObservedMs ≤ n := by
  simp only [durationStats]
  split_ifs <;> omega

end HistoryObservation

/-! ## Requests and responses -/

structure HistoryBucket where
  startMs : ℤ
  endMs : ℤ
  eligibleMs : ℕ
  stats : HistoryStats
  latencyP95Ms : Option ℚ
  deriving DecidableEq

structure HistorySeries where
  id : String
  label : String
  buckets : List HistoryBucket
  deriving DecidableEq

structure HistoryResponse where
  fromMs : ℤ
  toMs : ℤ
  resolutionSeconds : ℤ
  sourceResolutionSeconds : ℤ
  availableFromMs : Option ℤ
  membership : String
  series : List HistorySeries
  deriving DecidableEq

structure HistoryRequest where
  fromMs : ℤ
  toMs : ℤ
  module : String
  check : Option String
  hosts : List String
  groups : List String
  breakdown : String
  maxPoints : ℕ
  deriving DecidableEq

/-- A selection value that is empty or longer than 128 bytes. -/
def isBadName (v : String) : Bool := v.isEmpty || 128 < v.utf8ByteSize

def HistoryRequest.validate (request : HistoryRequest) (nowMs : ℤ) : Except String Unit :=
  if request.fromMs ≥ nowMs ∨ request.fromMs < 0 ∨ request.toMs ≤ request.fromMs
      ∨ request.toMs > nowMs + 60000
      ∨ request.toMs - request.fromMs > 3660 * 86400000 then
    .error
      "history requires a valid UTC range no longer than ten years, ending at or before now"
  else if ¬ (10 ≤ request.maxPoints ∧ request.maxPoints ≤ 1000) then
    .error "max_points must be between 10 and 1000"
  else if request.module ∉ ["icmp", "tcp", "usage"]
      ∨ request.breakdown ∉ ["all", "group", "host"] then
    .error "invalid history module or breakdown"
  else if 16 < request.hosts.length ∨ 16 < request.groups.length
      ∨ (request.hosts ++ request.groups).any isBadName then
    .error "select at most 16 hosts and 16 groups"
  else if request.check.any isBadName then .error "invalid check id"
  else .ok ()

/-- **What a valid request promises.** -/
structure HistoryRequest.Valid (request : HistoryRequest) (nowMs : ℤ) : Prop where
  fromMs_lt : request.fromMs < nowMs
  fromMs_nonneg : 0 ≤ request.fromMs
  fromMs_lt_toMs : request.fromMs < request.toMs
  maxPoints_ge : 10 ≤ request.maxPoints
  module_mem : request.module ∈ ["icmp", "tcp", "usage"]

theorem HistoryRequest.valid_of_validate {request : HistoryRequest} {nowMs : ℤ}
    (h : request.validate nowMs = .ok ()) : request.Valid nowMs := by
  unfold validate at h
  split_ifs at h with hrange hpoints hmodule
  push Not at hrange hmodule
  exact ⟨hrange.1, hrange.2.1, hrange.2.2.1, hpoints.1, hmodule.1⟩

end SimpleNetworkMonitor
