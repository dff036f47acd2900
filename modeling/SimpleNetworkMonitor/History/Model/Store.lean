import SimpleNetworkMonitor.Common.Table
import SimpleNetworkMonitor.Domain.History
import SimpleNetworkMonitor.Domain.Maintenance
/-!
# The history tables

An **epoch** is a stretch of time over which one check of one host was
configured the same way. Observations of a check go to its open epoch;
the time between two observations is a **span**, which maintenance turns
into **buckets** of three resolutions.
-/

namespace SimpleNetworkMonitor.History

/-! ## Tiers -/

/-- The module a check belongs to. -/
inductive Module where
  | icmp
  | usage
  | tcp
  deriving DecidableEq

def Module.id : Module → String
  | .icmp => "icmp"
  | .usage => "usage"
  | .tcp => "tcp"

/-- A bucket resolution, from the finest to the coarsest. -/
inductive Tier where
  | fiveMinute
  | hourly
  | daily
  deriving DecidableEq

def TIERS : List Tier := [.fiveMinute, .hourly, .daily]

@[simp] theorem mem_TIERS (tier : Tier) : tier ∈ TIERS := by
  cases tier <;> decide

namespace Tier

def seconds : Tier → ℤ
  | .fiveMinute => 300
  | .hourly => 3600
  | .daily => 86400

/-- The width of a bucket, in milliseconds. -/
def width (tier : Tier) : ℤ := tier.seconds * 1000

theorem width_pos (tier : Tier) : 0 < tier.width := by
  cases tier <;> decide

/-- The widths divide one another, from the finest to the coarsest. -/
theorem fiveMinute_width_dvd (tier : Tier) : Tier.fiveMinute.width ∣ tier.width := by
  cases tier <;> decide

theorem width_dvd_daily (tier : Tier) : tier.width ∣ Tier.daily.width := by
  cases tier <;> decide

end Tier

/-- The start of the cell of `seconds` that an instant lies in. -/
def floor (at_ seconds : ℤ) : ℤ := at_ / (seconds * 1000) * (seconds * 1000)

def retention (config : HistoryConfig) : Tier → ℕ
  | .fiveMinute => config.fiveMinuteRetention
  | .hourly => config.hourlyRetention
  | .daily => config.dailyRetention

/-- **The retained boundary** of a tier: its buckets from here on are kept. -/
def boundary (config : HistoryConfig) (now : ℤ) (tier : Tier) : ℤ :=
  floor (cutoff now (retention config tier)) tier.seconds

/-! ## Rows -/

/-- What makes two configurations of a check the same series. The stored
signature is the JSON of these fields, from which they can be read back. -/
structure Signature where
  address : String
  name : String
  groups : List String
  intervalMs : ℕ
  timeoutMs : ℕ
  port : ℕ
  deriving DecidableEq

/-- What an epoch is of: one check of one host. -/
structure CheckKey where
  hostId : String
  module : Module
  checkId : String
  deriving DecidableEq

/-- The columns of an epoch that no observation changes. -/
structure EpochInfo where
  hostId : String
  name : String
  groups : List String
  module : Module
  checkId : String
  signature : Signature
  startedMs : ℤ
  endedMs : Option ℤ
  freshnessMs : ℤ
  deriving DecidableEq

def EpochInfo.key (info : EpochInfo) : CheckKey := ⟨info.hostId, info.module, info.checkId⟩

def EpochInfo.isOpen (info : EpochInfo) : Bool := info.endedMs = none

structure EpochRow extends EpochInfo where
  lastMs : Option ℤ
  lastJson : Option HistoryObservation
  deriving DecidableEq

structure RawRow where
  epochId : ℕ
  atMs : ℤ
  observation : HistoryObservation
  deriving DecidableEq

structure BucketKey where
  epochId : ℕ
  resolution : Tier
  startMs : ℤ
  deriving DecidableEq

structure SpanRow where
  epochId : ℕ
  cursorMs : ℤ
  endMs : ℤ
  observation : HistoryObservation
  deriving DecidableEq

structure EventRow where
  epochId : ℕ
  atMs : ℤ
  previousState : Option String
  observation : HistoryObservation
  deriving DecidableEq

/-- **The history tables.** -/
structure HistoryDb where
  epochs : Table ℕ EpochRow := ∅
  raw : Table ℕ RawRow := ∅
  buckets : Table BucketKey HistoryStats := ∅
  spans : Table ℕ SpanRow := ∅
  events : Table ℕ EventRow := ∅
  deriving DecidableEq

/-- Merge statistics into a bucket. -/
def addStats (db : HistoryDb) (epoch : ℕ) (resolution : Tier) (start : ℤ)
    (stats : HistoryStats) : HistoryDb :=
  let key : BucketKey := ⟨epoch, resolution, start⟩
  { db with buckets := db.buckets.upsert key (((db.buckets.find? key).getD {}).merge stats) }

section AddStats

variable (db : HistoryDb) (epoch : ℕ) (resolution : Tier) (start : ℤ) (stats : HistoryStats)

@[simp] theorem addStats_epochs : (addStats db epoch resolution start stats).epochs = db.epochs :=
  rfl

@[simp] theorem addStats_raw : (addStats db epoch resolution start stats).raw = db.raw := rfl

@[simp] theorem addStats_spans : (addStats db epoch resolution start stats).spans = db.spans := rfl

@[simp] theorem addStats_events : (addStats db epoch resolution start stats).events = db.events :=
  rfl

end AddStats

end SimpleNetworkMonitor.History
