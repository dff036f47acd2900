import SimpleNetworkMonitor.Api.Model.Errors
import SimpleNetworkMonitor.Api.Model.History
import SimpleNetworkMonitor.Api.Model.Metrics
import SimpleNetworkMonitor.Api.Model.Responses
import SimpleNetworkMonitor.Common.Hexadecimal
import SimpleNetworkMonitor.Common.Listed
import SimpleNetworkMonitor.History.Model.Query
import SimpleNetworkMonitor.Storage.Model.Read
/-!
# The service

Every route, from the request to the answer. Only a `GET` has a handler. A
request is answered from the shared state; each part of it is as it was when
the handler came to it, and the parts need not be of one time. The decoder
of query strings, the parser of durations, the encoder of JSON and the hash
are parameters.
-/

namespace SimpleNetworkMonitor.Api

open Storage

/-! ## Requests -/

/-- The value of a header: none where it is not visible text. -/
abbrev HeaderValue := Option String

/-- **A request.** Its path is cut into segments, which are decoded. -/
structure Request where
  path : List String
  queryString : String := ""
  authorization : Option HeaderValue := none
  ifNoneMatch : Option HeaderValue := none
  deriving DecidableEq

/-- The code that is called and not part of the service. -/
structure Codec where
  query : String → List (String × String)
  duration : String → Except String ℕ
  json : List HostResponse × Option String → List UInt8
  hash : List UInt8 → UInt64

/-! ## The state -/

/-- What SQLite and the file system say of the file. -/
structure DatabaseSpace where
  allocatedBytes : ℕ := 0
  reusableBytes : ℕ := 0
  walBytes : ℕ := 0
  incrementalVacuum : Bool := false
  deriving DecidableEq

/-- **What a request sees** of the shared state, and of the clock. -/
structure ApiState where
  metrics : App.RuntimeMetrics := ∅
  apiToken : Option ApiToken
  moduleConfig : ModuleConfigs := {}
  hosts : Catalog := ∅
  historyPolicy : HistoryConfig := {}
  conn : Database := {}
  space : DatabaseSpace := {}
  clock : Readings

/-- What goes wrong from outside while a request is answered. -/
structure ApiFaults where
  apiTokenPoisoned : Bool := false
  moduleConfigPoisoned : Bool := false
  hostsPoisoned : Bool := false
  historyPolicyPoisoned : Bool := false
  /-- A reader is not admitted, or does not get to its end. -/
  read : Option StorageError := none

/-! ## Answers -/

structure ModuleResponse where
  id : String
  enabled : Bool
  filters : List String
  deriving DecidableEq

structure DatabaseStatus extends DatabaseSpace where
  pendingSpans : ℕ
  oldestPendingMs : Option ℤ
  deriving DecidableEq

structure MaintenanceStatus where
  database : DatabaseStatus
  jobs : List (String × JobRow)

inductive Body where
  | empty
  | health (status : String)
  | readiness (response : ReadinessResponse)
  /-- A page of the inventory, as the bytes that are hashed. -/
  | page (bytes : List UInt8)
  | hosts (responses : List HostResponse)
  | host (response : HostResponse)
  | usage (report : UsageReport)
  | namespaces (keys : List (String × String))
  | modules (responses : List ModuleResponse)
  | transitions (rows : List (ℕ × IcmpTransition))
  | usageRows (rows : List (ℕ × UsageRow))
  | history (response : HistoryResponse)
  | events (response : History.HistoryEventsResponse)
  | maintenance (status : MaintenanceStatus)
  | text (value : String)
  /-- The OpenAPI document, and the pages that show it. -/
  | document
  | error (text : String)
  /-- The framework rejects the parameters of the request. -/
  | rejected

/-- **An answer.** -/
structure Answer where
  status : ℕ
  etag : Option String := none
  cacheControl : Option String := none
  body : Body

/-- The answer of a handler. -/
def respond : Except ApiError Answer → Answer
  | .ok answer => answer
  | .error e => { status := e.statusCode, body := .error e.text }

/-! ## Authorization -/

def BEARER_PREFIX : String := "Bearer "

/-- `str::strip_prefix`. -/
def stripPrefix (value lead : String) : Option String :=
  (value.toList.dropPrefix? lead.toList).map String.ofList

/-- **Authorization.** The bytes of two texts are equal where the texts
are. -/
def authorize (faults : ApiFaults) (state : ApiState) (req : Request) : Except ApiError Unit :=
  if faults.apiTokenPoisoned then .error (.storage .lockPoisoned)
  else
    match state.apiToken with
    | none => .ok ()
    | some expected =>
      match req.authorization with
      | none | some none => .error .unauthorized
      | some (some value) =>
        match stripPrefix value BEARER_PREFIX with
        | none => .error .unauthorized
        | some presented => if presented = expected.value then .ok () else .error .unauthorized

/-! ## Reading -/

section Handlers

variable (codec : Codec) (faults : ApiFaults) (state : ApiState) (req : Request)

/-- `with_reader`. -/
def ApiFaults.withReader {α : Type} (read : Except StorageError α) : Except StorageError α :=
  match faults.read with
  | some e => .error e
  | none => read

/-- The inventory, under its lock. -/
def catalog : Except StorageError Catalog :=
  if faults.hostsPoisoned then .error .lockPoisoned else .ok state.hosts

/-- The records that a filter selects. -/
def records (filter : HostFilter) : Except StorageError (List HostRecord) := do
  let hosts ← catalog faults state
  faults.withReader (sortedRecords state.conn hosts filter)

/-- A filter that selects every host. -/
def everyHost : HostFilter := { usage := { now := state.clock.parsed } }

/-- A list of one host, by the reader that loads it. -/
def listOf {α : Type} (hostId : String) (load : List α) : Except StorageError (List α) := do
  demandHost (← catalog faults state) hostId
  faults.withReader (.ok load)

def maintenanceStatus : Except StorageError MaintenanceStatus :=
  faults.withReader <| .ok
    { database :=
        { state.space with
          pendingSpans := state.conn.history.spans.rows.length
          oldestPendingMs := (state.conn.history.spans.rows.map (·.2.cursorMs)).min? }
      jobs := state.conn.maintenanceJobs.rows.mergeSort fun a b => a.1 ≤ b.1 }

/-! ## Handlers -/

/-- The parameters of a request, each given once. -/
def uniqueQuery : Except ApiError (List (String × String)) :=
  parseUniqueQuery (codec.query req.queryString)

def metrics : Except ApiError Answer := do
  authorize faults state req
  let found ← (records faults state (everyHost state)).mapError .storage
  return { status := 200
           cacheControl := some "no-store"
           body := .text (render found state.metrics state.clock.read) }

def healthz : Except ApiError Answer := .ok { status := 200, body := .health "ok" }

def readyzHandler : Except ApiError Answer := do
  authorize faults state req
  let answer ← readyz (records faults state (everyHost state)) state.clock.read
  return { status := answer.code, body := .readiness answer.body }

def namespaces : Except ApiError Answer := do
  authorize faults state req
  return { status := 200, body := .namespaces (("", "group") :: App.catalogKeys codec.duration) }

/-- Whether a module is enabled, by its ID. -/
def moduleEnabled (config : ModuleConfigs) (id : String) : Bool :=
  if id = "icmp" then config.icmp.enabled
  else if id = "usage" then config.usage.enabled
  else if id = "tcp" then config.tcp.enabled
  else false

def moduleCatalog : Except ApiError Answer := do
  authorize faults state req
  if faults.moduleConfigPoisoned then throw (.internal "module config lock poisoned")
  return { status := 200
           body := .modules <| App.filterSpecs.map fun (id, specs) =>
             { id
               enabled := moduleEnabled state.moduleConfig id
               filters := App.supportedModuleFilterSpecs codec.duration id specs } }

def allHosts : Except ApiError Answer := do
  authorize faults state req
  let query ← uniqueQuery codec req
  let filter ← (App.parseHostFilter codec.duration state.clock.parsed query).mapError .ofFilter
  let found ← (records faults state filter).mapError .storage
  return { status := 200, body := .hosts (found.map (HostResponse.ofRecord state.clock.read)) }

def hostHandler (id : String) : Except ApiError Answer := do
  authorize faults state req
  let found ← (do
    let hosts ← catalog faults state
    faults.withReader (.ok (host state.conn hosts id))).mapError .storage
  match found with
  | some record => return { status := 200, body := .host (.ofRecord state.clock.read record) }
  | none => throw (.notFound id)

def usageSummaryHandler : Except ApiError Answer := do
  authorize faults state req
  let query ← uniqueQuery codec req
  let filter ← (App.parseUsageFilter codec.duration state.clock.parsed query).mapError .ofFilter
  let report ← (do
    let hosts ← catalog faults state
    faults.withReader (usageReport state.conn hosts filter)).mapError .storage
  return { status := 200, body := .usage report }

def HISTORY_LIMIT_DEFAULT : ℕ := 100
def HISTORY_LIMIT_MAX : ℕ := 1000

def historyLimit (limit : Option ℕ) : ℕ :=
  max 1 (min (limit.getD HISTORY_LIMIT_DEFAULT) HISTORY_LIMIT_MAX)

/-- The limit that the framework takes from the parameters before a handler
is called; none where it rejects them. -/
def historyQuery (pairs : List (String × String)) : Option (Option ℕ) :=
  match pairs.filter fun pair => pair.1 = "limit" with
  | [] => some none
  | [(_, value)] => (parseUsize value).map some
  | _ => none

def hostHistory (id : String) (limit : Option ℕ) : Except ApiError Answer := do
  authorize faults state req
  let rows ← (listOf faults state id (loadHistory state.conn id (historyLimit limit))).mapError
    .storage
  return { status := 200, body := .transitions rows }

/-- A table of usage, of one host, by what loads it. -/
def usageRowsHandler (load : String → ℕ → List (ℕ × UsageRow)) (id : String) (limit : Option ℕ) :
    Except ApiError Answer := do
  authorize faults state req
  let rows ← (listOf faults state id (load id (historyLimit limit))).mapError .storage
  return { status := 200, body := .usageRows rows }

def hostUsageHistory (id : String) (limit : Option ℕ) : Except ApiError Answer :=
  usageRowsHandler faults state req (loadUsageHistory state.conn) id limit

def hostUsageSamples (id : String) (limit : Option ℕ) : Except ApiError Answer :=
  usageRowsHandler faults state req (loadUsageSamples state.conn) id limit

def series : Except ApiError Answer := do
  authorize faults state req
  let (query, _, _) ← parse (codec.query req.queryString) false state.clock.parsed
  let response ← (do
    if faults.historyPolicyPoisoned then throw StorageError.lockPoisoned
    faults.withReader (History.query state.conn.history query state.historyPolicy
      state.clock.read)).mapError .storage
  return { status := 200, cacheControl := some "no-store", body := .history response }

def eventResponseHandler (samples : Bool) : Except ApiError Answer := do
  authorize faults state req
  let (query, before, limit) ← parse (codec.query req.queryString) true state.clock.parsed
  let response ← (do
    -- the request is checked again before a reader is asked for
    (query.validate state.clock.validated).mapError StorageError.invalidQuery
    faults.withReader (History.historyEvents state.conn.history query before limit samples
      state.clock.validated state.clock.read)).mapError .storage
  return { status := 200, cacheControl := some "no-store", body := .events response }

def maintenance : Except ApiError Answer := do
  authorize faults state req
  if req.queryString ≠ "" then
    throw (.badRequest "maintenance does not accept query parameters")
  let status ← (maintenanceStatus faults state).mapError .storage
  return { status := 200, cacheControl := some "no-store", body := .maintenance status }

/-! ## Conditional pages -/

/-- **The entity tag** of the bytes of a page: sixteen hexadecimal digits. -/
def entityTag (bytes : List UInt8) : List Char :=
  '"' :: (Hexadecimal.padded 16 (codec.hash bytes).toNat ++ ['"'])

/-- Whether a list of tags has a tag. -/
def lists (value : String) (tag : List Char) : Bool := (Listed.read ',' value.toList).any (· = tag)

/-- The bytes of a page of the inventory. -/
def pageBytes : Except ApiError (List UInt8) := do
  let page ← hostsPage (fun after limit => do
    let hosts ← catalog faults state
    faults.withReader (.ok (Storage.hostsPage state.conn hosts after limit)))
    (codec.query req.queryString)
  return codec.json (page.hosts.map (HostResponse.ofRecord state.clock.read), page.nextAfter)

def hostsPageHandler : Except ApiError Answer := do
  authorize faults state req
  let bytes ← pageBytes codec faults state req
  let tag := entityTag codec bytes
  let unchanged := req.ifNoneMatch.join.any (lists · tag)
  return { status := if unchanged then 304 else 200
           etag := some (String.ofList tag)
           cacheControl := some "private, no-cache"
           body := if unchanged then .empty else .page bytes }

end Handlers

/-! ## Routes -/

inductive Route where
  | metrics
  | healthz
  | readyz
  | hostsPage
  | namespaces
  | moduleCatalog
  | allHosts
  | host (id : String)
  | hostHistory (id : String)
  | usageSummary
  | hostUsageHistory (id : String)
  | hostUsageSamples (id : String)
  | series
  | events
  | samples
  | maintenance
  | openapi
  deriving DecidableEq

/-- **The route of a path**, if it has one. A segment that is a host ID is
not empty. -/
def Route.ofPath : List String → Option Route
  | ["metrics"] => some .metrics
  | ["healthz"] => some .healthz
  | ["readyz"] => some .readyz
  | ["v1", "inventory", "hosts"] => some .hostsPage
  | ["v1", "namespaces"] => some .namespaces
  | ["v1", "modules"] => some .moduleCatalog
  | ["v1", "hosts"] => some .allHosts
  | ["v1", "hosts", id] => if id = "" then none else some (.host id)
  | ["v1", "hosts", id, "history"] => if id = "" then none else some (.hostHistory id)
  | ["v1", "usage"] => some .usageSummary
  | ["v1", "hosts", id, "usage", "history"] =>
    if id = "" then none else some (.hostUsageHistory id)
  | ["v1", "hosts", id, "usage", "samples"] =>
    if id = "" then none else some (.hostUsageSamples id)
  | ["v1", "history"] => some .series
  | ["v1", "history", "events"] => some .events
  | ["v1", "history", "samples"] => some .samples
  | ["v1", "system", "maintenance"] => some .maintenance
  | ["openapi.json"] => some .openapi
  | "swagger-ui" :: _ => some .openapi
  | _ => none

/-- The answer of a handler that takes a limit. -/
def withLimit (codec : Codec) (req : Request) (handler : Option ℕ → Except ApiError Answer) :
    Answer :=
  match historyQuery (codec.query req.queryString) with
  | none => { status := 400, body := .rejected }
  | some limit => respond (handler limit)

/-- **The handler of a route.** -/
def Route.handle (codec : Codec) (faults : ApiFaults) (state : ApiState) (req : Request) :
    Route → Answer
  | .metrics => respond (Api.metrics faults state req)
  | .healthz => respond Api.healthz
  | .readyz => respond (readyzHandler faults state req)
  | .hostsPage => respond (hostsPageHandler codec faults state req)
  | .namespaces => respond (Api.namespaces codec faults state req)
  | .moduleCatalog => respond (Api.moduleCatalog codec faults state req)
  | .allHosts => respond (Api.allHosts codec faults state req)
  | .host id => respond (hostHandler faults state req id)
  | .hostHistory id => withLimit codec req (Api.hostHistory faults state req id)
  | .usageSummary => respond (usageSummaryHandler codec faults state req)
  | .hostUsageHistory id => withLimit codec req (Api.hostUsageHistory faults state req id)
  | .hostUsageSamples id => withLimit codec req (Api.hostUsageSamples faults state req id)
  | .series => respond (Api.series codec faults state req)
  | .events => respond (eventResponseHandler codec faults state req false)
  | .samples => respond (eventResponseHandler codec faults state req true)
  | .maintenance => respond (Api.maintenance faults state req)
  | .openapi => { status := 200, body := .document }

/-- **The answer to a request.** -/
def answer (codec : Codec) (faults : ApiFaults) (state : ApiState) (req : Request) : Answer :=
  match Route.ofPath req.path with
  | none => { status := 404, body := .empty }
  | some route => route.handle codec faults state req

end SimpleNetworkMonitor.Api
