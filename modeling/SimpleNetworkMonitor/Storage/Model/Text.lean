import SimpleNetworkMonitor.Domain.Timestamp
import SimpleNetworkMonitor.Storage.Model.Read
import SimpleNetworkMonitor.Storage.Model.Sqlite
/-!
# Statements over text

The tables hold timestamps as text, and SQLite compares, orders and takes the
maximum of text by its bytes. Here the statements do so. Elsewhere a row holds
the instant, and the statements compare instants.
-/

namespace SimpleNetworkMonitor.Storage.Text

variable (db : Database) (hostId : String) (cutoff : ℤ)

/-! ## Retention -/

/-- `DELETE FROM usage_samples WHERE host_id = ?1 AND collected_at < ?2` -/
def deleteOldSamples : Log UsageRow :=
  db.usageSamples.deleteWhere fun _ row =>
    row.hostId = hostId && textOf row.snapshot.collectedAt < textOf cutoff

/-- `SELECT id FROM usage_samples WHERE collected_at < ?1 LIMIT 5000`, deleted. -/
def pruneSamples (scan : Table.LimitScan) : ℕ × Log UsageRow :=
  pruneLog scan db.usageSamples fun _ row => textOf row.snapshot.collectedAt < textOf cutoff

/-- `SELECT id FROM transitions WHERE changed_at < ?1 LIMIT 5000`, deleted. -/
def pruneTransitions (scan : Table.LimitScan) : ℕ × Log IcmpTransition :=
  pruneLog scan db.transitions fun _ row => textOf row.changedAt < textOf cutoff

/-- `a.collected_at < ?1 ORDER BY a.collected_at DESC, a.id DESC LIMIT 1` -/
def anchor : Option ℕ :=
  (db.usageHistory.newestFirst (textOf ·.snapshot.collectedAt) fun row =>
    row.hostId = hostId && textOf row.snapshot.collectedAt < textOf cutoff).head?.map Prod.fst

def isOutdated (id : ℕ) (row : UsageRow) : Bool :=
  textOf row.snapshot.collectedAt < textOf cutoff
    && (row.hostId ∉ db.latestUsage.keys || anchor db row.hostId cutoff ≠ some id)

def pruneUsageHistory (scan : Table.LimitScan) : ℕ × Log UsageRow :=
  pruneLog scan db.usageHistory (isOutdated db cutoff)

/-- `cutoff = MAX(retention_floor.cutoff, excluded.cutoff)` -/
def raiseFloor : List ℕ :=
  db.retentionFloor.elim (textOf cutoff) fun floor => max (textOf floor) (textOf cutoff)

/-! ## Inactivity -/

/-- `started_at <= ?2 AND NOT EXISTS(SELECT 1 FROM retention_floor WHERE cutoff > ?2)` -/
def isCovered : Bool :=
  (db.usageCoverage.find? hostId).any (textOf ·.startedAt ≤ textOf cutoff)
    && !db.retentionFloor.any (textOf cutoff < textOf ·)

/-- `collected_at <= ?2 ORDER BY collected_at DESC, id DESC LIMIT 1` -/
def stateAtOrBefore (predicate : ActivityPredicate) : Option StateAtCutoff :=
  (db.usageHistory.newestFirst (textOf ·.snapshot.collectedAt) fun row =>
      row.hostId = hostId && textOf row.snapshot.collectedAt ≤ textOf cutoff).head?.map fun row =>
    if row.2.snapshot.status = .ok then .ok (predicate.matchesCounts row.2.snapshot)
    else .unknown

/-- `EXISTS (... collected_at > ?2 ...)` -/
def windowBreaksInactivity (predicate : ActivityPredicate) : Bool :=
  db.usageHistory.values.any fun row =>
    row.hostId = hostId && textOf cutoff < textOf row.snapshot.collectedAt
      && (row.snapshot.status ≠ .ok || predicate.matchesCounts row.snapshot)

/-! ## Transitions and lists -/

/-- `changed_at = ?2`, with the other columns that tell a transition. -/
def sameTransition (event row : IcmpTransition) : Bool :=
  row.hostId = event.hostId && textOf row.changedAt = textOf event.changedAt
    && row.previousStatus = event.previousStatus && row.newStatus = event.newStatus

def loadHistory (limit : ℕ) : List (ℕ × IcmpTransition) :=
  (db.transitions.newestFirst (textOf ·.changedAt) (·.hostId = hostId)).take limit

/-- The same for `usage_history` and `usage_samples`. -/
def loadUsageRows (rows : Log UsageRow) (limit : ℕ) : List (ℕ × UsageRow) :=
  (rows.newestFirst (textOf ·.snapshot.collectedAt) (·.hostId = hostId)).take limit

end SimpleNetworkMonitor.Storage.Text
