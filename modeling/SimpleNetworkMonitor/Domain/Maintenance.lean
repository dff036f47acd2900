import SimpleNetworkMonitor.Common.Fallible
import SimpleNetworkMonitor.Domain.Duration
/-!
# Maintenance configuration

The retention of each history tier, the maintenance jobs and their
intervals, and the checks a configuration passes before it is used.
-/

namespace SimpleNetworkMonitor

structure HistoryConfig where
  rawRetention : ℕ := fromSecs (3 * 86400)
  fiveMinuteRetention : ℕ := fromSecs (30 * 86400)
  hourlyRetention : ℕ := fromSecs (365 * 86400)
  dailyRetention : ℕ := fromSecs (1095 * 86400)
  eventRetention : ℕ := fromSecs (1095 * 86400)
  deriving DecidableEq

namespace HistoryConfig

/-- The retentions, from the finest tier to the coarsest. -/
def tiers (config : HistoryConfig) : List ℕ :=
  [config.rawRetention, config.fiveMinuteRetention, config.hourlyRetention, config.dailyRetention]

def validateRetention (duration : ℕ) : Except String Unit := do
  validateDuration duration
  if duration < fromSecs 86400 then throw "history retention must be at least one day"

def validate (config : HistoryConfig) : Except String Unit := do
  (config.tiers ++ [config.eventRetention]).forM validateRetention
  if ¬ config.tiers.IsChain (· ≤ ·) then
    throw "history retention must increase as resolution becomes coarser"

/-- **What a valid configuration promises**: the tiers are ordered. -/
structure Valid (config : HistoryConfig) : Prop where
  raw_le : config.rawRetention ≤ config.fiveMinuteRetention
  fiveMinute_le : config.fiveMinuteRetention ≤ config.hourlyRetention
  hourly_le : config.hourlyRetention ≤ config.dailyRetention

theorem valid_of_validate {config : HistoryConfig} (h : config.validate = .ok ()) :
    config.Valid := by
  unfold validate at h
  rcases hm : (config.tiers ++ [config.eventRetention]).forM validateRetention with e | u
  · rw [hm] at h; exact absurd h (by simp [bind, Except.bind])
  · rw [hm] at h
    by_cases hc : config.tiers.IsChain (· ≤ ·)
    · simp only [tiers, List.isChain_cons_cons] at hc
      exact ⟨hc.1, hc.2.1, hc.2.2.1⟩
    · exact absurd h (by simp [bind, Except.bind, hc, throw, throwThe, MonadExceptOf.throw])

end HistoryConfig

structure MaintenanceConfig where
  rollupInterval : ℕ := fromSecs 60
  retentionInterval : ℕ := fromSecs 300
  reclaimInterval : ℕ := fromSecs 3600
  optimizeInterval : ℕ := fromSecs 86400
  batchSize : ℕ := 500
  reclaimMinBytes : ℕ := 256 * 1024 * 1024
  reclaimFreePercent : ℕ := 20
  reclaimPages : ℕ := 1000
  deriving DecidableEq

def MaintenanceConfig.validateInterval (v : ℕ) : Except String Unit := do
  validateDuration v
  if v < fromSecs 1 then throw "maintenance intervals must be at least one second"

def MaintenanceConfig.validate (config : MaintenanceConfig) : Except String Unit := do
  [config.rollupInterval, config.retentionInterval, config.reclaimInterval,
    config.optimizeInterval].forM validateInterval
  if config.reclaimMinBytes > 9223372036854775807 then
    throw "reclaim_min_bytes exceeds the supported range"
  if ¬ (1 ≤ config.batchSize ∧ config.batchSize ≤ 5000)
      ∨ ¬ (1 ≤ config.reclaimPages ∧ config.reclaimPages ≤ 10000)
      ∨ ¬ (1 ≤ config.reclaimFreePercent ∧ config.reclaimFreePercent ≤ 90) then
    throw "invalid maintenance batch size, page limit or free-space percentage"

/-! ## Jobs -/

inductive JobKind where
  | rollup
  | retention
  | reclaim
  | optimize
  | checkpoint
  | jobHistory
  deriving DecidableEq

namespace JobKind

def ALL : List JobKind := [.rollup, .retention, .reclaim, .optimize, .checkpoint, .jobHistory]

def id : JobKind → String
  | .rollup => "history_rollup"
  | .retention => "retention"
  | .reclaim => "space_reclamation"
  | .optimize => "query_optimization"
  | .checkpoint => "wal_checkpoint"
  | .jobHistory => "job_history_cleanup"

def interval (config : MaintenanceConfig) : JobKind → ℕ
  | .rollup => config.rollupInterval
  | .retention => config.retentionInterval
  | .reclaim => config.reclaimInterval
  | .optimize => config.optimizeInterval
  | .checkpoint => fromSecs 300
  | .jobHistory => fromSecs 86400

/-- A job is named by its ID. -/
theorem id_injective : Function.Injective id := by
  intro a b h
  cases a <;> cases b <;> first | rfl | exact absurd h (by decide)

theorem nodup_ALL : ALL.Nodup := by decide

theorem mem_ALL (kind : JobKind) : kind ∈ ALL := by
  cases kind <;> decide

end JobKind

/-- **What a valid configuration promises** of the jobs: none of them is due
again within a second. -/
theorem JobKind.le_interval_of_validate {config : MaintenanceConfig}
    (h : config.validate = .ok ()) (kind : JobKind) : fromSecs 1 ≤ kind.interval config := by
  obtain ⟨⟨⟩, hintervals, -⟩ := Except.bind_eq_ok_iff.mp h
  have hle : ∀ v ∈ [config.rollupInterval, config.retentionInterval, config.reclaimInterval,
      config.optimizeInterval], fromSecs 1 ≤ v := by
    intro v hv
    obtain ⟨⟨⟩, -, hsecond⟩ := Except.bind_eq_ok_iff.mp (Except.forM_eq_ok.mp hintervals v hv)
    by_contra hlt
    rw [if_pos (Nat.lt_of_not_le hlt)] at hsecond
    cases hsecond
  cases kind with
  | rollup => exact hle config.rollupInterval (by simp)
  | retention => exact hle config.retentionInterval (by simp)
  | reclaim => exact hle config.reclaimInterval (by simp)
  | optimize => exact hle config.optimizeInterval (by simp)
  | checkpoint => exact Nat.mul_le_mul_right 1000000000 (by omega)
  | jobHistory => exact Nat.mul_le_mul_right 1000000000 (by omega)

end SimpleNetworkMonitor
