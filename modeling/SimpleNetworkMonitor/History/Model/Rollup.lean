import SimpleNetworkMonitor.History.Model.Store
/-!
# Rollup and pruning

Rollup turns spans into buckets, one piece of a span at a time, and keeps
what is left of the span in the database. Pruning deletes what is past
its retention. Both work in batches of bounded size.
-/

namespace SimpleNetworkMonitor.History

section Chunk

variable (config : HistoryConfig) (now : ℤ)

/-- Where the rest of a span starts: nothing before the daily boundary is
kept. -/
def chunkStart (cursor : ℤ) : ℤ := max cursor (boundary config now .daily)

/-- The finest resolution that still keeps an instant. -/
def smallest (start : ℤ) : Tier :=
  if start ≥ boundary config now .fiveMinute then .fiveMinute
  else if start ≥ boundary config now .hourly then .hourly
  else .daily

/-- Where the next piece of a span ends: at the edge of the finest bucket,
or at a boundary it would straddle. -/
def chunkEnd (start end_ : ℤ) : ℤ :=
  let res := smallest config now start
  TIERS.foldl (fun until_ tier =>
      if boundary config now tier > start then min until_ (boundary config now tier) else until_)
    (min end_ (floor start res.seconds + res.seconds * 1000))

/-- A piece of a span goes in one bucket of every resolution that keeps
its start. -/
def addChunk (db : HistoryDb) (epoch : ℕ) (start : ℤ) (stats : HistoryStats) : HistoryDb :=
  TIERS.foldl (fun db resolution =>
    if start ≥ boundary config now resolution then
      addStats db epoch resolution (floor start resolution.seconds) stats
    else db) db

/-- One unit of work on a span. -/
def materialize (db : HistoryDb) (id : ℕ) (span : SpanRow) : HistoryDb :=
  let start := chunkStart config now span.cursorMs
  if start ≥ span.endMs then { db with spans := db.spans.erase id }
  else
    let until_ := chunkEnd config now start span.endMs
    let stats := span.observation.durationStats (until_ - start).toNat
    let db := addChunk config now db span.epochId start stats
    if until_ = span.endMs then { db with spans := db.spans.erase id }
    else { db with spans := db.spans.modify id ({ · with cursorMs := until_ }) }

/-- The loop of a batch, and how many units it worked. -/
def rollupUnits : ℕ → HistoryDb → HistoryDb × ℕ
  | 0, db => (db, 0)
  | limit + 1, db =>
    match db.spans.first? with
    | none => (db, 0)
    | some (id, span) =>
      let (db, work) := rollupUnits limit (materialize config now db id span)
      (db, work + 1)

/-- **Materialize spans into buckets**, at most `limit` units. Returns the
work done and whether there is more. -/
def rollup (db : HistoryDb) (limit : ℕ) : HistoryDb × ℕ × Bool :=
  let (db, work) := rollupUnits config now limit db
  (db, work, db.spans.rows ≠ [])

end Chunk

/-! ## Pruning -/

/-- The module of an epoch, where there is one. -/
def moduleOf (db : HistoryDb) (epoch : ℕ) : Option Module :=
  (db.epochs.find? epoch).map (·.module)

/-- The raw rows older than `at_` of the epochs whose module is accepted. -/
def rawBefore (db : HistoryDb) (at_ : ℤ) (accepts : Module → Bool) (_ : ℕ) (row : RawRow) : Bool :=
  (moduleOf db row.epochId).any accepts && row.atMs < at_

/-- A closed epoch past its retention that nothing refers to. -/
def isSpent (db : HistoryDb) (at_ : ℤ) (id : ℕ) (row : EpochRow) : Bool :=
  row.endedMs.any (· < at_)
    && db.raw.rows.all (·.2.epochId ≠ id)
    && db.buckets.rows.all (·.1.epochId ≠ id)
    && db.spans.rows.all (·.2.epochId ≠ id)
    && db.events.rows.all (·.2.epochId ≠ id)

/-- The rows of all the tables. -/
def HistoryDb.size (db : HistoryDb) : ℕ :=
  db.epochs.rows.length + db.raw.rows.length + db.buckets.rows.length + db.spans.rows.length
    + db.events.rows.length

section Prune

variable (scan : Table.LimitScan) (limit : ℕ)

def pruneRaw (at_ : ℤ) (accepts : Module → Bool) (db : HistoryDb) : HistoryDb :=
  { db with raw := db.raw.deleteLimit scan limit (rawBefore db at_ accepts) }

def pruneEvents (at_ : ℤ) (db : HistoryDb) : HistoryDb :=
  { db with events := db.events.deleteLimit scan limit fun _ row => row.atMs < at_ }

def pruneBuckets (config : HistoryConfig) (now : ℤ) (db : HistoryDb) (resolution : Tier) :
    HistoryDb :=
  { db with
    buckets := db.buckets.deleteLimit scan limit fun key _ =>
      key.resolution = resolution ∧ key.startMs < boundary config now resolution }

def pruneEpochs (at_ : ℤ) (db : HistoryDb) : HistoryDb :=
  { db with epochs := db.epochs.deleteLimit scan limit (isSpent db at_) }

/-- **Delete what is past its retention**, at most `limit` rows a
statement. Returns the rows removed and whether there may be more. -/
def prune (db : HistoryDb) (now : ℤ) (config : HistoryConfig) (usageRetention : ℕ) :
    HistoryDb × ℕ × Bool :=
  let next := pruneRaw scan limit (cutoff now config.rawRetention) (· ≠ .usage) db
  let next := pruneRaw scan limit (cutoff now usageRetention) (· = .usage) next
  let next := pruneEvents scan limit (cutoff now config.eventRetention) next
  let next := TIERS.foldl (pruneBuckets scan limit config now) next
  let next := pruneEpochs scan limit
    (cutoff now (max config.dailyRetention config.eventRetention)) next
  let removed := db.size - next.size
  (next, removed, removed ≥ limit)

end Prune

end SimpleNetworkMonitor.History
