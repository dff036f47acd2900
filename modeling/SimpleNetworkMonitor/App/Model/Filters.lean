import SimpleNetworkMonitor.Daemon.Model.Config
import SimpleNetworkMonitor.Domain.Filters
/-!
# Reading host filters

The parameters of a request are looked up in one table of filters, each of
which writes what it read into a builder. The parser of durations is a
parameter. A map of parameters is listed in the order in which it is
iterated.
-/

namespace SimpleNetworkMonitor

open Daemon (debug)

/-- `HostStatus::try_from`. -/
def HostStatus.tryFrom (value : String) : Except String HostStatus :=
  if value = "unknown" then .ok .unknown
  else if value = "up" then .ok .up
  else if value = "down" then .ok .down
  else .error ("invalid host status " ++ debug value)

/-- `UsageCollectionStatus::try_from`. -/
def UsageCollectionStatus.tryFrom (value : String) : Except String UsageCollectionStatus :=
  if value = "ok" then .ok .ok
  else if value = "error" then .ok .failed
  else .error ("invalid usage collection status " ++ debug value)

namespace App

inductive FilterParseError where
  | invalidKey (key : String)
  | unknownBareKey (key bare namespaces : String)
  | unknownNamespace (space namespaces : String)
  | unknownNamespaceKey (space key valid : String)
  | invalidValue (name value message : String)
  deriving DecidableEq

/-! ## Builders -/

structure UsageFilterBuilder where
  status : Option UsageCollectionStatus := none
  inactiveConsoleFor : Option ℕ := none
  noUsersFor : Option ℕ := none
  deriving DecidableEq

structure HostFilterBuilder where
  icmpStatus : Option HostStatus := none
  group : Option String := none
  metadata : Table String String := ∅
  usage : UsageFilterBuilder := {}
  deriving DecidableEq

/-- The instant of a filter is read as it is built. -/
def UsageFilterBuilder.intoUsage (builder : UsageFilterBuilder) (now : ℤ) : UsageFilter where
  status := builder.status
  inactiveConsoleFor := builder.inactiveConsoleFor
  noUsersFor := builder.noUsersFor
  now := now

def HostFilterBuilder.intoHost (builder : HostFilterBuilder) (now : ℤ) : HostFilter where
  icmpStatus := builder.icmpStatus
  group := builder.group
  metadata := builder.metadata.rows
  usage := builder.usage.intoUsage now

/-! ## Values -/

/-- What a value that is rejected is reported as. -/
def invalidValue (name value message : String) : FilterParseError :=
  .invalidValue name value message

def parseIcmpStatus (name value : String) : Except FilterParseError HostStatus :=
  (HostStatus.tryFrom value).mapError (invalidValue name value)

def parseUsageStatus (name value : String) : Except FilterParseError UsageCollectionStatus :=
  (UsageCollectionStatus.tryFrom value).mapError (invalidValue name value)

section Registry

variable (parseDuration : String → Except String ℕ)

def parseDurationQuery (name value : String) : Except FilterParseError ℕ := do
  let duration ← (parseDuration value).mapError (invalidValue name value)
  (validateDuration duration).mapError (invalidValue name value)
  return duration

/-! ## The registry -/

/-- What to do with a parameter: write a field of the host filter, or of the
usage filter, or a metadata field that the key names. -/
inductive ApplyKind where
  | host (apply : HostFilterBuilder → String → Except FilterParseError HostFilterBuilder)
  | usage (apply : UsageFilterBuilder → String → Except FilterParseError UsageFilterBuilder)
  | metadataWildcard

/-- What a parameter does to the builder. -/
def ApplyKind.run (apply : ApplyKind) (builder : HostFilterBuilder) (key value : String) :
    Except FilterParseError HostFilterBuilder :=
  match apply with
  | .host apply => apply builder value
  | .usage apply => (apply builder.usage value).map fun usage => { builder with usage }
  | .metadataWildcard => .ok { builder with metadata := builder.metadata.upsert key value }

structure FilterEntry where
  space : Option String
  key : String
  apply : ApplyKind

def REGISTRY : List FilterEntry :=
  [ { space := none
      key := "group"
      apply := .host fun b v => .ok { b with group := some v } },
    { space := some "icmp"
      key := "status"
      apply := .host fun b v =>
        (parseIcmpStatus "icmp.status" v).map fun status => { b with icmpStatus := some status } },
    { space := some "metadata"
      key := "*"
      apply := .metadataWildcard },
    { space := some "usage"
      key := "status"
      apply := .usage fun b v =>
        (parseUsageStatus "usage.status" v).map fun status => { b with status := some status } },
    { space := some "usage"
      key := "inactive_console_for"
      apply := .usage fun b v =>
        (parseDurationQuery parseDuration "usage.inactive_console_for" v).map fun duration =>
          { b with inactiveConsoleFor := some duration } },
    { space := some "usage"
      key := "no_users_for"
      apply := .usage fun b v =>
        (parseDurationQuery parseDuration "usage.no_users_for" v).map fun duration =>
          { b with noUsersFor := some duration } } ]

/-- The entry of a key, or else the wildcard of its namespace. -/
def lookup (space : Option String) (key : String) : Option FilterEntry :=
  ((REGISTRY parseDuration).find? fun e => e.space = space && e.key = key).or
    ((REGISTRY parseDuration).find? fun e => e.space = space && e.key = "*")

/-! ## The catalog -/

/-- The keys that the modules say they filter by. -/
def filterSpecs : List (String × List String) :=
  [("icmp", ["status"]), ("usage", ["status", "inactive_console_for", "no_users_for"]), ("tcp", [])]

def supportedModuleFilterSpecs (moduleId : String) (specs : List String) : List String :=
  specs.filter fun key => (lookup parseDuration (some moduleId) key).isSome

/-- The keys of a `BTreeMap`. -/
def sortedKeys (keys : List String) : List String := keys.dedup.mergeSort (· ≤ ·)

/-- Every key of the catalog, with its namespace. -/
def catalogKeys : List (String × String) :=
  ("metadata", "*") :: filterSpecs.flatMap fun (moduleId, specs) =>
    (supportedModuleFilterSpecs parseDuration moduleId specs).map (moduleId, ·)

def knownBareKeys : String := "group"

def knownNamespaces : String :=
  ", ".intercalate (sortedKeys ((catalogKeys parseDuration).map Prod.fst))

def knownNamespaceKeys (space : String) : String :=
  let keys := ((catalogKeys parseDuration).filter (·.1 = space)).map Prod.snd
  if keys.contains "*" then "any field name" else ", ".intercalate (sortedKeys keys)

def unknownBareKey (key : String) : FilterParseError :=
  .unknownBareKey key knownBareKeys (knownNamespaces parseDuration)

def unknownNamespace (space : String) : FilterParseError :=
  .unknownNamespace space (knownNamespaces parseDuration)

def unknownNamespaceKey (space key : String) : FilterParseError :=
  .unknownNamespaceKey space key (knownNamespaceKeys parseDuration space)

/-- What a key that has no entry is reported as. -/
def unknown (space : Option String) (key : String) : FilterParseError :=
  match space with
  | none => unknownBareKey parseDuration key
  | some space =>
    if (catalogKeys parseDuration).all (·.1 ≠ space) then unknownNamespace parseDuration space
    else unknownNamespaceKey parseDuration space key

/-! ## The parser -/

/-- `str::split_once`: what is before the first separator, and after it. -/
def splitOnce (separator : Char) (value : String) : Option (String × String) :=
  match value.toList.span (· ≠ separator) with
  | (_, []) => none
  | (before, _ :: after) => some (String.ofList before, String.ofList after)

inductive FilterKey where
  | bare (key : String)
  | namespaced (space key : String)
  deriving DecidableEq

/-- The namespace of a key, if it has one, and the key in it. -/
def FilterKey.parts : FilterKey → Option String × String
  | .bare key => (none, key)
  | .namespaced space key => (some space, key)

def splitFilterKey (key : String) : Except FilterParseError FilterKey :=
  match splitOnce '.' key with
  | none => .ok (.bare key)
  | some (space, childKey) =>
    if space.isEmpty || childKey.isEmpty || childKey.toList.contains '.' then
      .error (.invalidKey key)
    else .ok (.namespaced space childKey)

/-- **One parameter** of a request. -/
def applyParam (builder : HostFilterBuilder) (param : String × String) :
    Except FilterParseError HostFilterBuilder := do
  let (space, key) := (← splitFilterKey param.1).parts
  match lookup parseDuration space key with
  | none => throw (unknown parseDuration space key)
  | some entry => entry.apply.run builder key param.2

def parseHostFilter (now : ℤ) (params : List (String × String)) :
    Except FilterParseError HostFilter := do
  let builder ← params.foldlM (applyParam parseDuration) {}
  return builder.intoHost now

/-- One parameter of a request for usage: only `usage.*` is accepted. -/
def applyUsageParam (builder : UsageFilterBuilder) (param : String × String) :
    Except FilterParseError UsageFilterBuilder := do
  match ← splitFilterKey param.1 with
  | .bare key => throw (unknownBareKey parseDuration key)
  | .namespaced space key =>
    match lookup parseDuration (some space) key with
    | none => throw (unknown parseDuration (some space) key)
    | some entry =>
      match entry.apply with
      | .usage apply => apply builder param.2
      | _ => throw (unknownNamespaceKey parseDuration space key)

def parseUsageFilter (now : ℤ) (params : List (String × String)) :
    Except FilterParseError UsageFilter := do
  let builder ← params.foldlM (applyUsageParam parseDuration) {}
  return builder.intoUsage now

end Registry

/-- What an error is reported as. -/
def FilterParseError.display : FilterParseError → String
  | .invalidKey key =>
    "invalid filter key " ++ debug key ++ "; expected either group or namespace.key"
  | .unknownBareKey key bare namespaces =>
    "unknown filter key " ++ debug key ++ "; valid bare keys: " ++ bare ++
      "; valid namespaces: " ++ namespaces
  | .unknownNamespace space namespaces =>
    "unknown filter namespace " ++ debug space ++ "; valid namespaces: " ++ namespaces
  | .unknownNamespaceKey space key valid =>
    "unknown filter key " ++ space ++ "." ++ key ++ "; valid keys for " ++ space ++ ": " ++ valid
  | .invalidValue name value message => name ++ "=" ++ debug value ++ ": " ++ message

end App

end SimpleNetworkMonitor
