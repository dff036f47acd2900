import SimpleNetworkMonitor.Api.Model.Inventory
import SimpleNetworkMonitor.App.Model.Filters
/-!
# What an error is answered with

An error of a handler is a status code and one text. What went wrong inside
the server goes to its log, and not into the text.
-/

namespace SimpleNetworkMonitor

open Daemon (debug)

/-- What an error of the storage is reported as. -/
def StorageError.display : StorageError → String
  | .invalidQuery message => "invalid history query: " ++ message
  | .busy => "storage is busy; retry shortly"
  | .staleGeneration => "monitor generation has been replaced"
  | .notFound hostId => "host " ++ debug hostId ++ " not found"
  | .sqlite message => "sqlite error: " ++ message
  | .json message => "json error: " ++ message
  | .invalidData message => "invalid data in storage: " ++ message
  | .taskJoin message => "storage task failed: " ++ message
  | .lockPoisoned => "storage lock poisoned"

namespace Api

namespace ApiError

def display : ApiError → String
  | .unauthorized => "unauthorized"
  | .badRequest value => "bad request: " ++ value
  | .notFound value => value ++ " not found"
  | .internal value => "internal error: " ++ value
  | .storage error => error.display

def statusCode : ApiError → ℕ
  | .unauthorized => 401
  | .badRequest _ | .storage (.invalidQuery _) => 400
  | .notFound _ | .storage (.notFound _) => 404
  | .storage .busy => 503
  | .internal _ | .storage _ => 500

/-- **The text of an error.** A server error has one of two. -/
def text (error : ApiError) : String :=
  if 500 ≤ error.statusCode then
    if error = .storage .busy then "service busy; retry shortly" else "internal server error"
  else error.display

/-- `From<FilterParseError>`. -/
def ofFilter (error : App.FilterParseError) : ApiError := .badRequest error.display

end ApiError

end Api

end SimpleNetworkMonitor
