import SimpleNetworkMonitor.History.Model.Query
/-!
# Events and samples

The rows of the event table, or of the raw table, a page at a time. The
cursor of a page is a row number; which rows there are to show is decided
anew on every page.
-/

namespace SimpleNetworkMonitor.History

structure HistoryEvent where
  id : ℕ
  hostId : String
  name : String
  groups : List String
  module : String
  checkId : String
  atMs : ℤ
  previousState : Option String
  observation : HistoryObservation
  deriving DecidableEq

structure HistoryEventsResponse where
  events : List HistoryEvent
  nextBefore : Option ℤ
  deriving DecidableEq

/-- A page as a client takes it. -/
def HistoryEventsResponse.page (response : HistoryEventsResponse) : List HistoryEvent × Option ℤ :=
  (response.events, response.nextBefore)

/-- The rows of the table that is read. A sample has no previous state. -/
def feed (samples : Bool) (db : HistoryDb) : List (ℕ × EventRow) :=
  if samples then
    db.raw.rows.map fun r => (r.1, ⟨r.2.epochId, r.2.atMs, none, r.2.observation⟩)
  else db.events.rows

/-- A row as it is shown, where its epoch is one of those selected. -/
def toEvent (db : HistoryDb) (selected : List Epoch) (r : ℕ × EventRow) : Option HistoryEvent :=
  match db.epochs.find? r.2.epochId, selected.find? (·.id = r.2.epochId) with
  | some e, some epoch =>
    some
      { id := r.1
        hostId := epoch.host
        name := epoch.name
        groups := epoch.groups
        module := e.module.id
        checkId := e.checkId
        atMs := r.2.atMs
        previousState := r.2.previousState
        observation := r.2.observation }
  | _, _ => none

/-- The rows of the selected epochs that lie in the range, below a cursor. -/
def matching (db : HistoryDb) (request : HistoryRequest) (before : ℤ) (samples : Bool)
    (selected : List Epoch) : List HistoryEvent :=
  ((feed samples db).filterMap (toEvent db selected)).filter fun event =>
    event.atMs ≥ request.fromMs ∧ event.atMs < request.toMs ∧ (event.id : ℤ) < before

/-- **A page of events or samples.** The clock is read to validate the
request and again by the reader. -/
def historyEvents (db : HistoryDb) (request : HistoryRequest) (before : Option ℤ) (limit : ℕ)
    (samples : Bool) (now now' : ℤ) : Except StorageError HistoryEventsResponse := do
  (request.validate now).mapError .invalidQuery
  if ¬ (1 ≤ limit ∧ limit ≤ 1000) then throw (.invalidQuery "limit must be 1..1000")
  let selected ← epochs db request now'
  if selected = [] then return { events := [], nextBefore := none }
  let rows := matching db request (before.getD 9223372036854775807) samples selected
  let events := (rows.insertionSort fun a b => b.id ≤ a.id).take (limit + 1)
  let more := events.length > limit
  let events := events.take limit
  return { events, nextBefore := if more then events.getLast?.map (·.id) else none }

end SimpleNetworkMonitor.History
