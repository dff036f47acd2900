import SimpleNetworkMonitor.Daemon.Model.Config
import SimpleNetworkMonitor.Domain.Host
/-!
# The inventory pages

The handler of `/v1/inventory/hosts` after authorization, up to the records
of its page. A query is the list of its decoded parameters.
-/

namespace SimpleNetworkMonitor.Api

open Daemon (debug)

inductive ApiError where
  | unauthorized
  | badRequest (message : String)
  | notFound (value : String)
  | internal (message : String)
  | storage (error : StorageError)
  deriving DecidableEq

/-- `str::parse::<usize>`: digits, after a sign that may be there. -/
def parseUsize (value : String) : Option ℕ :=
  let digits := if value.toList.head? = some '+' then value.toList.tail else value.toList
  if digits.isEmpty || !digits.all Char.isDigit then none
  else
    let n := Nat.ofDigitChars 10 digits 0
    if n < 18446744073709551616 then some n else none

/-- The parameters of a query, each given once. -/
def parseUniqueQuery (pairs : List (String × String)) : Except ApiError (List (String × String)) :=
  pairs.foldlM (fun params pair =>
    if (params.lookup pair.1).isSome then
      throw (.badRequest ("duplicate query parameter " ++ debug pair.1))
    else return params ++ [pair]) []

/-- How many hosts a page shows. -/
def pageLimit (query : List (String × String)) : Except ApiError ℕ := do
  let limit ←
    match query.lookup "limit" with
    | none => pure 500
    | some value =>
      match parseUsize value with
      | some limit => pure limit
      | none => throw (.badRequest "invalid page limit")
  if limit < 1 || 1000 < limit then throw (.badRequest "page limit must be 1..1000")
  return limit

structure HostPage where
  hosts : List HostRecord
  nextAfter : Option String

/-- **A page of the inventory.** It asks for one record more than it shows. -/
def hostsPage (hosts : Option String → ℕ → Except StorageError (List HostRecord))
    (pairs : List (String × String)) : Except ApiError HostPage := do
  let query ← parseUniqueQuery pairs
  let limit ← pageLimit query
  let after := query.lookup "after"
  if query.any fun pair => pair.1 ≠ "limit" && pair.1 ≠ "after" then
    throw (.badRequest "unsupported page parameter")
  let records ← (hosts after (limit + 1)).mapError .storage
  let more := limit < records.length
  let shown := records.take limit
  return { hosts := shown, nextAfter := if more then shown.getLast?.map (·.host.id) else none }

end SimpleNetworkMonitor.Api
