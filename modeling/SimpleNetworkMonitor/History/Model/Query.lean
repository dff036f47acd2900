import SimpleNetworkMonitor.History.Model.Store
import Mathlib.Data.List.Sort
import Mathlib.Data.String.Basic
/-!
# History queries

A query chooses the resolution it reads, opens one series for every label
of the selected epochs, and merges into the buckets of each series what
three places hold: the materialized buckets, the spans not yet rolled up,
and the observation still in force at the end of each epoch.
-/

namespace SimpleNetworkMonitor.History

structure Epoch where
  id : ℕ
  host : String
  name : String
  groups : List String
  start : ℤ
  end_ : ℤ
  last : Option ℤ
  body : Option HistoryObservation
  fresh : ℤ
  deriving DecidableEq

/-- The epochs a request is about, whatever its range. -/
def inScope (request : HistoryRequest) (row : EpochInfo) : Bool :=
  row.module.id = request.module
    ∧ (request.hosts = [] ∨ row.hostId ∈ request.hosts)
    ∧ (request.groups = [] ∨ ∃ group ∈ row.groups, group ∈ request.groups)
    ∧ (∀ check ∈ request.check, row.checkId = check)

/-- An epoch as a query reads it at `now`. -/
def Epoch.ofRow (now : ℤ) (id : ℕ) (row : EpochRow) : Epoch where
  id := id
  host := row.hostId
  name := row.name
  groups := row.groups
  start := row.startedMs
  end_ := min (row.endedMs.getD now) now
  last := row.lastMs
  body := row.lastJson
  fresh := row.freshnessMs

/-- The epochs in scope that meet the request's range. -/
def epochs (db : HistoryDb) (request : HistoryRequest) (now : ℤ) :
    Except StorageError (List Epoch) :=
  let rows := db.epochs.rows.filter fun r =>
    inScope request r.2.toEpochInfo ∧ r.2.startedMs < request.toMs ∧ r.2.endedMs.all (· > request.fromMs)
  if rows.length > 10000 then .error .busy
  else .ok (rows.map fun r => Epoch.ofRow now r.1 r.2)

/-- The series an epoch counts in: their keys and their labels. -/
def labels (epoch : Epoch) (request : HistoryRequest) : List (String × String) :=
  if request.breakdown = "host" then [(epoch.host, epoch.name)]
  else if request.breakdown = "group" then
    (epoch.groups.filter fun g => request.groups = [] ∨ g ∈ request.groups).map fun g => (g, g)
  else [("all", "All selected hosts")]

/-! ## The plan -/

/-- **What a query reads, and into which grid.** -/
structure Plan where
  fromMs : ℤ
  toMs : ℤ
  source : Tier
  retainedFrom : ℤ
  step : ℤ
  count : ℕ
  deriving DecidableEq

section Plan

variable (request : HistoryRequest) (config : HistoryConfig) (now : ℤ)

/-- A request never reads past the clock. -/
def clamp : HistoryRequest := { request with toMs := min request.toMs now }

/-- The range widened to whole days, to find the epochs of every bucket the
request may read. -/
def aligned : HistoryRequest :=
  { request with
    fromMs := floor request.fromMs 86400
    toMs := min (floor (request.toMs - 1) 86400 + 86400000) now }

/-- The resolution the range and the number of points ask for. -/
def wanted : Tier :=
  let desired := (request.toMs - request.fromMs) / (request.maxPoints * 1000)
  if request.fromMs < cutoff now config.hourlyRetention ∨ desired ≥ 86400 then .daily
  else if request.fromMs < cutoff now config.fiveMinuteRetention ∨ desired ≥ 3600 then .hourly
  else .fiveMinute

/-- Whether so many epochs have too many buckets of a resolution. -/
def tooMany (selected : ℕ) (source : Tier) : Bool :=
  selected * ((request.toMs - request.fromMs) / (source.seconds * 1000) + 1) > 150000

/-- A coarser resolution where the wanted one has too many buckets. -/
def coarsen (selected : ℕ) (source : Tier) : Tier :=
  if tooMany request selected source then
    match source with
    | .fiveMinute => if tooMany request selected .hourly then .daily else .hourly
    | _ => .daily
  else source

def plan (selected : ℕ) : Plan :=
  let source := coarsen request selected (wanted request config now)
  let fromMs := floor request.fromMs source.seconds
  let toMs := min (floor (request.toMs - 1) source.seconds + source.seconds * 1000) now
  let perPoint := request.maxPoints * source.seconds * 1000
  let step := max (((toMs - fromMs) + perPoint - 1) / perPoint) 1 * source.seconds
  { fromMs, toMs, source, step
    retainedFrom := boundary config now source
    count := ((toMs - fromMs + step * 1000 - 1) / (step * 1000)).toNat }

end Plan

/-! ## Series -/

/-- The output of a query while it is built: the series, by their keys. -/
abbrev SeriesMap := Table String HistorySeries

section Series

variable (plan : Plan) (request : HistoryRequest)

/-- The buckets of a series before anything is counted. -/
def emptyBuckets : List HistoryBucket :=
  (List.range plan.count).map fun i : ℕ =>
    { startMs := plan.fromMs + i * plan.step * 1000
      endMs := min (plan.fromMs + (i + 1) * plan.step * 1000) plan.toMs
      eligibleMs := 0
      stats := {}
      latencyP95Ms := none }

/-- The time an epoch makes eligible. -/
def addEligible (epoch : Epoch) (bucket : HistoryBucket) : HistoryBucket :=
  { bucket with
    eligibleMs := bucket.eligibleMs
      + (min epoch.end_ bucket.endMs - max epoch.start bucket.startMs).toNat }

/-- One label of one epoch: its series is opened, and the epoch's time is
eligible in it. -/
def openKey (epoch : Epoch) (output : SeriesMap) (label : String × String) :
    Except StorageError SeriesMap :=
  let output :=
    if h : label.1 ∈ output.keys then output
    else output.insertNew label.1 ⟨label.1, label.2, emptyBuckets plan⟩ h
  if output.rows.length > 16 then
    .error (.invalidQuery "select at most 16 series for comparison")
  else
    -- Epochs of a host/check do not overlap.
    .ok (output.modify label.1 fun series =>
      { series with buckets := series.buckets.map (addEligible epoch) })

def openSeries (selected : List Epoch) : Except StorageError SeriesMap :=
  selected.foldlM (fun output epoch => (labels epoch request).foldlM (openKey plan epoch) output) ∅

/-- The series keys of a selected epoch. -/
def epochKeys (selected : List Epoch) (id : ℕ) : List String :=
  match selected.find? (·.id = id) with
  | some epoch => (labels epoch request).map Prod.fst
  | none => []

/-- Merge statistics into one bucket of one series, where there is one. -/
def mergeAt (output : SeriesMap) (key : String) (index : ℕ) (stats : HistoryStats) : SeriesMap :=
  output.modify key fun series =>
    { series with
      buckets := series.buckets.modify index fun bucket =>
        { bucket with stats := bucket.stats.merge stats } }

def mergeKeys (output : SeriesMap) (keys : List String) (index : ℕ) (stats : HistoryStats) :
    SeriesMap :=
  keys.foldl (fun output key => mergeAt output key index stats) output

/-- The grid cell an instant lies in. -/
def index (at_ : ℤ) : ℕ := ((at_ - plan.fromMs) / (plan.step * 1000)).toNat

/-- The loop of `applySpan`; a step moves the cursor on by at least one. -/
def applyFrom (keys : List String) (end_ : ℤ) (observation : HistoryObservation) :
    ℕ → ℤ → SeriesMap → SeriesMap
  | 0, _, output => output
  | fuel + 1, cursor, output =>
    if cursor < end_ then
      let i := index plan cursor
      let until_ := min end_ (plan.fromMs + (i + 1) * (plan.step * 1000))
      let stats := observation.durationStats (until_ - cursor).toNat
      applyFrom keys end_ observation fuel until_ (mergeKeys output keys i stats)
    else output

/-- An observation in force from `start` to `end_` is cut at the edges of
the grid. -/
def applySpan (keys : List String) (output : SeriesMap) (start end_ : ℤ)
    (observation : HistoryObservation) : SeriesMap :=
  let cursor := max start plan.fromMs
  applyFrom plan keys end_ observation (end_ - cursor).toNat cursor output

/-- The materialized buckets of the source resolution. -/
def bucketRows (db : HistoryDb) (selected : List Epoch) : List (BucketKey × HistoryStats) :=
  db.buckets.rows.filter fun r =>
    r.1.epochId ∈ selected.map (·.id) ∧ r.1.resolution = plan.source
      ∧ r.1.startMs ≥ max plan.fromMs plan.retainedFrom ∧ r.1.startMs < plan.toMs

/-- The spans that meet the range. -/
def spanRows (db : HistoryDb) (selected : List Epoch) : List (ℕ × SpanRow) :=
  db.spans.rows.filter fun r =>
    r.2.epochId ∈ selected.map (·.id) ∧ r.2.cursorMs < plan.toMs ∧ r.2.endMs > plan.fromMs

def addBuckets (db : HistoryDb) (selected : List Epoch) (output : SeriesMap) :
    Except StorageError SeriesMap :=
  let rows := bucketRows plan db selected
  if rows.length > 200000 then .error .busy
  else
    .ok (rows.foldl (fun output r =>
      mergeKeys output (epochKeys request selected r.1.epochId) (index plan r.1.startMs) r.2)
      output)

def addSpans (db : HistoryDb) (selected : List Epoch) (output : SeriesMap) :
    Except StorageError SeriesMap :=
  let rows := spanRows plan db selected
  if rows.length > 50000 then .error .busy
  else
    .ok (rows.foldl (fun output r =>
      applySpan plan (epochKeys request selected r.2.epochId) output
        (max r.2.cursorMs plan.retainedFrom) (min r.2.endMs plan.toMs) r.2.observation) output)

/-- The observation still in force at the end of an epoch. -/
def addTail (output : SeriesMap) (epoch : Epoch) : SeriesMap :=
  match epoch.last, epoch.body with
  | some last, some observation =>
    applySpan plan ((labels epoch request).map Prod.fst) output
      (max last plan.retainedFrom) (min (min epoch.end_ plan.toMs) (last + epoch.fresh)) observation
  | _, _ => output

/-- Everything the tables hold of the selected epochs. -/
def fillSeries (db : HistoryDb) (selected : List Epoch) (output : SeriesMap) :
    Except StorageError SeriesMap :=
  if selected = [] then .ok output
  else do
    let output ← addBuckets plan request db selected output
    let output ← addSpans plan request db selected output
    pure (selected.foldl (addTail plan request) output)

/-- Rows before a tier's retention boundary are deliberately unavailable,
not zero measurements. -/
def finishBucket (bucket : HistoryBucket) : HistoryBucket :=
  let stats := if bucket.endMs ≤ plan.retainedFrom then {} else bucket.stats
  { bucket with stats, latencyP95Ms := stats.latencyP95 }

/-- The series in the order of their keys. -/
def finish (output : SeriesMap) : List HistorySeries :=
  ((output.mapVals fun _ series =>
    { series with buckets := series.buckets.map (finishBucket plan) }).rows.insertionSort
      (·.1 ≤ ·.1)).map Prod.snd

end Series

/-- The epochs of the range the plan reads. -/
def selectedFor (plan : Plan) (candidates : List Epoch) : List Epoch :=
  candidates.filter fun e => e.start < plan.toMs ∧ e.end_ > plan.fromMs

/-- **A history query.** -/
def query (db : HistoryDb) (request : HistoryRequest) (config : HistoryConfig) (now : ℤ) :
    Except StorageError HistoryResponse := do
  (request.validate now).mapError .invalidQuery
  let request := clamp request now
  let candidates ← epochs db (aligned request now) now
  let plan := plan request config now candidates.length
  let selected := selectedFor plan candidates
  let output ← openSeries plan request selected
  let output ← fillSeries plan request db selected output
  pure
    { fromMs := plan.fromMs
      toMs := plan.toMs
      resolutionSeconds := plan.step
      sourceResolutionSeconds := plan.source.seconds
      availableFromMs := (selected.map fun e => max e.start plan.retainedFrom).min?
      membership := "at_observation_time"
      series := finish plan output }

end SimpleNetworkMonitor.History
