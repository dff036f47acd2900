import SimpleNetworkMonitor.Api.Model.Inventory
import SimpleNetworkMonitor.Common.Scroll
import SimpleNetworkMonitor.History.Model.Events
import SimpleNetworkMonitor.History.Model.Run
/-!
# The history pages

The handlers of `/v1/history/events` and `/v1/history/samples` after
authorization, and a client that follows the cursors while the daemon writes.
-/

namespace SimpleNetworkMonitor.Api

open History

/-- `str::parse::<i64>`: digits, after a sign that may be there. -/
def parseI64 (value : String) : Option ℤ :=
  let negative := value.toList.head? = some '-'
  let digits := if negative ∨ value.toList.head? = some '+' then value.toList.tail else value.toList
  if digits.isEmpty || !digits.all Char.isDigit then none
  else
    let n : ℤ := Nat.ofDigitChars 10 digits 0
    let v := if negative then -n else n
    if -9223372036854775808 ≤ v ∧ v ≤ 9223372036854775807 then some v else none

/-- The number a parameter gives, or its default. -/
def number (query : List (String × String)) (key : String) (default : Option ℤ) :
    Except ApiError ℤ :=
  match query.lookup key with
  | some value =>
    match parseI64 value with
    | some v => pure v
    | none => throw (.badRequest ("invalid " ++ key))
  | none =>
    match default with
    | some v => pure v
    | none => throw (.badRequest ("missing " ++ key))

/-- The values of a parameter that is a list. -/
def values (query : List (String × String)) (key : String) : List String :=
  ((query.lookup key).map (·.splitOn ",")).getD []

/-- The parameters of a history request; a page has two more. -/
def historyParameters (isEvents : Bool) : List String :=
  ["from", "to", "max_points", "module", "check", "hosts", "groups", "breakdown"]
    ++ if isEvents then ["before", "limit"] else []

/-- **A history request**, with the cursor and the limit of its page. -/
def parse (pairs : List (String × String)) (isEvents : Bool) (now : ℤ) :
    Except ApiError (HistoryRequest × Option ℤ × ℕ) := do
  let q ← parseUniqueQuery pairs
  let fromMs ← number q "from" none
  let toMs ← number q "to" none
  let maxPoints ← number q "max_points" (some 600)
  let before ← if isEvents then some <$> number q "before" (some 9223372036854775807) else pure none
  let limit ← if isEvents then number q "limit" (some 100) else pure 100
  if ¬ (10 ≤ maxPoints ∧ maxPoints ≤ 1000) ∨ ¬ (1 ≤ limit ∧ limit ≤ 1000) ∨ before.any (· ≤ 0) then
    throw (.badRequest "invalid point limit or cursor")
  let request : HistoryRequest :=
    { fromMs, toMs
      maxPoints := maxPoints.toNat
      module := (q.lookup "module").getD "icmp"
      check := q.lookup "check"
      hosts := values q "hosts"
      groups := values q "groups"
      breakdown := (q.lookup "breakdown").getD "all" }
  if q.any fun pair => pair.1 ∉ historyParameters isEvents then
    throw (.badRequest "unsupported history parameter")
  (request.validate now).mapError .badRequest
  return (request, before, limit.toNat)

/-- The instants at which a page reads the clock: to parse its request, to
validate it, and in the database. -/
structure Readings where
  parsed : ℤ
  validated : ℤ
  read : ℤ

/-- **A page of events or samples.** -/
def eventResponse (db : HistoryDb) (pairs : List (String × String)) (samples : Bool)
    (clock : Readings) : Except ApiError HistoryEventsResponse := do
  let (query, before, limit) ← parse pairs true clock.parsed
  (historyEvents db query before limit samples clock.validated clock.read).mapError .storage

/-! ## A client -/

/-- The request of the page below a cursor. -/
def pageBelow (pairs : List (String × String)) (before : ℤ) : List (String × String) :=
  pairs ++ [("before", toString before)]

/-- What happens while a client follows the cursors: the daemon writes, or a
page is asked for. -/
inductive WalkStep where
  | write (config : HistoryConfig) (op : HistoryOp)
  | page (validated read : ℤ)

/-- The tables, and what the client has. -/
structure Walk where
  db : HistoryDb
  client : Scroll HistoryEvent ℤ

/-- **One step.** A client that is done asks for nothing; one whose page fails
has what it had. -/
def WalkStep.apply (pairs : List (String × String)) (samples : Bool) (now : ℤ) :
    WalkStep → Walk → Walk
  | .write config op, walk => { walk with db := op.apply config now walk.db }
  | .page validated read, walk =>
    match walk.client.next with
    | none => walk
    | some before =>
      match eventResponse walk.db (pageBelow pairs before) samples ⟨now, validated, read⟩ with
      | .ok response => { walk with client := walk.client.turn response.page }
      | .error _ => walk

/-- A client after its first page and the steps that follow. -/
def walk (pairs : List (String × String)) (samples : Bool) (db : HistoryDb)
    (first : HistoryEventsResponse) (steps : List (ℤ × WalkStep)) : Walk :=
  Clocked.run (WalkStep.apply pairs samples) steps ⟨db, Scroll.start first.page⟩

end SimpleNetworkMonitor.Api
