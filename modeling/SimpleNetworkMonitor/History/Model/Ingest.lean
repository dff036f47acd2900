import SimpleNetworkMonitor.History.Model.Store
import Mathlib.Data.List.Sort
import Mathlib.Data.List.Destutter
import Mathlib.Data.String.Basic
/-!
# Ingestion

Keeping one open epoch for every enabled check, and recording the
observations of a check in its open epoch. An observation goes in three
places at once: the raw table, the event table where something changed,
and one bucket of every resolution. The time since the observation before
it becomes a span.
-/

namespace SimpleNetworkMonitor.History

/-- An enabled check of a host, as an epoch sees it. -/
structure EpochCheck where
  module : Module
  checkId : String
  interval : ℕ
  timeout : ℕ
  port : ℕ
  deriving DecidableEq

/-- The enabled checks of a host. -/
def enabledChecks (host : Host) : List EpochCheck :=
  let icmp := host.modules.icmp
  let usage := host.modules.usage
  let tcp := host.modules.tcp
  (if icmp.enabled then [⟨.icmp, "", icmp.interval, icmp.timeout, 0⟩] else [])
    ++ (if usage.enabled then [⟨.usage, "", usage.interval, usage.timeout, 0⟩] else [])
    ++ (if tcp.enabled then
        tcp.checks.map fun check => ⟨.tcp, check.id.value, tcp.interval, tcp.timeout, check.port.get⟩
      else [])

/-- Sorted, without repetitions. -/
def normalizedGroups (groups : List String) : List String :=
  (groups.insertionSort (· ≤ ·)).destutter (· ≠ ·)

def signature (host : Host) (check : EpochCheck) : Signature where
  address := host.address
  name := host.name
  groups := normalizedGroups host.groups
  intervalMs := asMillis check.interval
  timeoutMs := asMillis check.timeout
  port := check.port

/-- How long an observation stays in force: two intervals and the timeout. -/
def freshness (check : EpochCheck) : ℤ :=
  min (asMillis (check.interval * 2 + check.timeout)) (2 ^ 63 - 1)

/-- The open epoch of a check. -/
def activeEpoch (db : HistoryDb) (key : CheckKey) : Option (ℕ × EpochRow) :=
  db.epochs.rows.find? fun r => r.2.key = key ∧ r.2.isOpen

/-- The last observation of an epoch becomes a span that ends at `end_` or
where the observation goes stale. -/
def flushTail (db : HistoryDb) (epoch : ℕ) (end_ : ℤ) : HistoryDb :=
  match db.epochs.find? epoch with
  | none => db -- every caller holds an epoch it has just read
  | some row =>
    match row.lastMs, row.lastJson with
    | some start, some body =>
      let end_ := min end_ (start + row.freshnessMs)
      if end_ > start then { db with spans := db.spans.insert ⟨epoch, start, end_, body⟩ } else db
    | _, _ => db

def EpochInfo.close (info : EpochInfo) (now : ℤ) : EpochInfo :=
  { info with endedMs := some (max info.startedMs now) }

/-- A closed epoch has no last observation any more. -/
def EpochRow.close (row : EpochRow) (now : ℤ) : EpochRow :=
  { toEpochInfo := row.toEpochInfo.close now, lastMs := none, lastJson := none }

def closeEpoch (db : HistoryDb) (id : ℕ) (now : ℤ) : HistoryDb :=
  let db := flushTail db id now
  { db with epochs := db.epochs.modify id (·.close now) }

/-- The epoch a check of a host starts at `now`. -/
def newEpoch (host : Host) (check : EpochCheck) (now : ℤ) : EpochInfo where
  hostId := host.id
  name := host.name
  groups := normalizedGroups host.groups
  module := check.module
  checkId := check.checkId
  signature := signature host check
  startedMs := now
  endedMs := none
  freshnessMs := freshness check

def openEpoch (db : HistoryDb) (host : Host) (check : EpochCheck) (now : ℤ) : HistoryDb :=
  { db with epochs := db.epochs.insert ⟨newEpoch host check now, none, none⟩ }

/-- Every enabled check of an inventory, with its host. -/
def targets (hosts : List Host) : List (Host × EpochCheck) :=
  hosts.flatMap fun host => (enabledChecks host).map fun check => (host, check)

/-- The check a target is of. -/
def targetKey (target : Host × EpochCheck) : CheckKey :=
  ⟨target.1.id, target.2.module, target.2.checkId⟩

/-- One check of the inventory: its open epoch stays where nothing about
the check changed, and is replaced otherwise. The epoch is marked active. -/
def syncCheck (now : ℤ) (acc : HistoryDb × List ℕ) (target : Host × EpochCheck) :
    HistoryDb × List ℕ :=
  let (db, active) := acc
  let (host, check) := target
  let prior := activeEpoch db (targetKey target)
  match prior.filter (·.2.signature = signature host check) with
  | some (id, _) => (db, id :: active)
  | none =>
    let db := match prior with
      | some (id, _) => closeEpoch db id now
      | none => db
    (openEpoch db host check now, db.epochs.nextId :: active)

/-- **Align the open epochs with an inventory.** -/
def syncEpochs (db : HistoryDb) (hosts : List Host) (now : ℤ) : HistoryDb :=
  let (db, active) := (targets hosts).foldl (syncCheck now) (db, [])
  let ids := (db.epochs.rows.filter fun r => r.2.isOpen).map Prod.fst
  (ids.filter (· ∉ active)).foldl (fun db id => closeEpoch db id now) db

/-- `INSERT OR IGNORE`, one event an instant. -/
def insertEvent (db : HistoryDb) (event : EventRow) : HistoryDb :=
  if db.events.rows.any fun r => r.2.epochId = event.epochId ∧ r.2.atMs = event.atMs then db
  else { db with events := db.events.insert event }

/-- An event where the observation differs from the one before it. -/
def recordChange (db : HistoryDb) (id : ℕ) (prior : Option HistoryObservation) (at_ : ℤ)
    (observation : HistoryObservation) : HistoryDb :=
  if prior.all (observation.changedFrom ·) then
    insertEvent db ⟨id, at_, prior.map (·.state), observation⟩
  else db

/-- The observation's sample goes in one bucket of every resolution. -/
def addSample (db : HistoryDb) (epoch : ℕ) (at_ : ℤ) (observation : HistoryObservation) :
    HistoryDb :=
  TIERS.foldl (fun db resolution =>
    addStats db epoch resolution (floor at_ resolution.seconds) observation.sampleStats) db

/-- The epoch remembers its last observation. -/
def setLast (db : HistoryDb) (id : ℕ) (at_ : ℤ) (observation : HistoryObservation) : HistoryDb :=
  { db with
    epochs := db.epochs.modify id fun row =>
      { row with lastMs := some at_, lastJson := some observation } }

/-- What an accepted observation writes. -/
def accept (db : HistoryDb) (id : ℕ) (row : EpochRow) (at_ : ℤ)
    (observation : HistoryObservation) : HistoryDb :=
  let db := { db with raw := db.raw.insert ⟨id, at_, observation⟩ }
  let db := flushTail db id at_
  let db := recordChange db id row.lastJson at_ observation
  let db := addSample db id at_ observation
  setLast db id at_ observation

/-- **Record an observation** of a check in its open epoch. -/
def record (db : HistoryDb) (host : String) (module : Module) (check : String) (at_ : ℤ)
    (observation : HistoryObservation) (now : ℤ) : HistoryDb :=
  -- Future and out-of-order observations never advance history.
  if at_ > now then db
  else
    match activeEpoch db ⟨host, module, check⟩ with
    | none => db
    | some (id, row) =>
      if at_ < row.startedMs ∨ row.lastMs.any (at_ ≤ ·) then db
      else if db.raw.rows.any fun r => r.2.epochId = id ∧ r.2.atMs = at_ then db
      else accept db id row at_ observation

end SimpleNetworkMonitor.History
