import SimpleNetworkMonitor.Domain.Config
import Mathlib.Data.List.Destutter
import Mathlib.Data.List.Sort
import Mathlib.Data.String.Basic
/-!
# Reading a configuration

A file is decoded to raw settings, which are checked and resolved to a
configuration. The decoding of TOML is a parameter: of a whole file, and of
the settings of a module, which are left as they are in a first pass. A map
is listed in the order in which it is iterated.
-/

namespace SimpleNetworkMonitor.Daemon

inductive ConfigError where
  | read (path source : String)
  | parse (path location : String)
  | invalid (message : String)
  deriving DecidableEq

/-! ## Raw settings -/

structure IcmpHostConfig where
  enabled : Option Bool := none
  interval : Option ℕ := none
  timeout : Option ℕ := none
  deriving DecidableEq

structure UsageHostConfig where
  enabled : Option Bool := none
  os : Option UsageOs := none
  sshVerifyHostKey : Option Bool := none
  interval : Option ℕ := none
  timeout : Option ℕ := none
  linuxMinUid : Option ℕ := none
  macosMinUid : Option ℕ := none
  deriving DecidableEq

structure TcpHostConfig where
  enabled : Option Bool := none
  interval : Option ℕ := none
  timeout : Option ℕ := none
  checks : List TcpCheckConfig := []
  deriving DecidableEq

structure UsageGroupConfig where
  sshVerifyHostKey : Option Bool := none
  deriving DecidableEq

structure RawHost (V : Type) where
  id : String
  address : String
  name : Option String := none
  groups : List String := []
  metadata : List (String × Value) := []
  modules : Table String V := ∅
  deriving DecidableEq

structure RawGroupSettings (V : Type) where
  modules : Table String V := ∅
  deriving DecidableEq

/-- **The settings of a file**, with those of the modules not decoded yet. -/
structure RawConfig (V : Type) where
  bind : SocketAddr := defaultBind
  databasePath : String := defaultDatabasePath
  historyRetention : ℕ := defaultHistoryRetention
  history : HistoryConfig := {}
  maintenance : MaintenanceConfig := {}
  apiWorkers : Option ℕ := none
  modules : Table String V := ∅
  apiToken : Option ApiToken := none
  allowUnauthenticatedNonLoopback : Bool := false
  groups : Table String (List String) := ∅
  groupSettings : Table String (RawGroupSettings V) := ∅
  hosts : List (RawHost V)
  deriving DecidableEq

/-- **A decoder of TOML**: of a file, or where it fails, and of the settings
of a module as each kind of settings. -/
structure Toml (V : Type) where
  fromStr : String → Except String (RawConfig V)
  icmpModule : V → Option IcmpModuleConfig
  usageModule : V → Option UsageModuleConfig
  tcpModule : V → Option TcpModuleConfig
  icmpHost : V → Option IcmpHostConfig
  usageHost : V → Option UsageHostConfig
  tcpHost : V → Option TcpHostConfig
  usageGroup : V → Option UsageGroupConfig

/-! ## Checks -/

/-- A character as `Debug` prints it in a string. Beyond ASCII every
character is taken to be printable. -/
def debugChar (c : Char) : String :=
  if c.toNat = 34 ∨ c.toNat = 92 then "\\" ++ c.toString
  else if c.toNat = 0 then "\\0"
  else if c.toNat = 9 then "\\t"
  else if c.toNat = 10 then "\\n"
  else if c.toNat = 13 then "\\r"
  else if c.toNat < 32 ∨ c.toNat = 127 then
    "\\u\x7b" ++ String.ofList (Nat.toDigits 16 c.toNat) ++ "\x7d"
  else c.toString

/-- A string as `Debug` prints it. -/
def debug (value : String) : String :=
  "\"" ++ String.join (value.toList.map debugChar) ++ "\""

def validateDuration (name : String) (duration : ℕ) : Except ConfigError Unit :=
  (SimpleNetworkMonitor.validateDuration duration).mapError fun message =>
    .invalid s!"{name}: {message}"

def validateId (kind value : String) : Except ConfigError Unit :=
  if value.isEmpty ∨ value = "." ∨ value = ".." ∨ !(value.toList.all identifierChar) then
    .error (.invalid (s!"{kind} {debug value} must contain only ASCII letters, digits, dash, " ++
      "underscore, or dot"))
  else .ok ()

/-- A count of tasks within its bounds. -/
def validateConcurrency (name : String) (concurrency : ℕ) : Except ConfigError Unit :=
  if 1 ≤ concurrency ∧ concurrency ≤ 4096 then .ok ()
  else .error (.invalid s!"{name} must be between 1 and 4096")

def validateModuleConfig (modules : ModuleConfigs) : Except ConfigError Unit := do
  validateDuration "modules.tcp.interval" modules.tcp.interval
  validateDuration "modules.tcp.timeout" modules.tcp.timeout
  validateConcurrency "modules.tcp.concurrency" modules.tcp.concurrency
  validateConcurrency "modules.icmp.concurrency" modules.icmp.concurrency
  if modules.icmp.failureThreshold = 0 ∨ modules.icmp.successThreshold = 0 then
    throw (.invalid ("modules.icmp.success_threshold and modules.icmp.failure_threshold must be " ++
      "at least 1"))
  validateDuration "modules.icmp.interval" modules.icmp.interval
  validateDuration "modules.icmp.timeout" modules.icmp.timeout
  validateConcurrency "modules.usage.concurrency" modules.usage.concurrency
  validateDuration "modules.usage.interval" modules.usage.interval
  validateDuration "modules.usage.timeout" modules.usage.timeout
  validateDuration "modules.usage.sample_retention" modules.usage.sampleRetention

def validateHostModuleDurations (hostId : String) (icmp : ResolvedIcmpHostConfig)
    (usage : ResolvedUsageHostConfig) : Except ConfigError Unit := do
  validateDuration s!"host {debug hostId}: modules.icmp.interval" icmp.interval
  validateDuration s!"host {debug hostId}: modules.icmp.timeout" icmp.timeout
  validateDuration s!"host {debug hostId}: modules.usage.interval" usage.interval
  validateDuration s!"host {debug hostId}: modules.usage.timeout" usage.timeout

/-! ## The settings of the modules -/

section Modules

variable {V : Type} (toml : Toml V)

def parseModuleScope {T : Type} (decode : V → Option T) (path : String) (value : V) :
    Except ConfigError T :=
  match decode value with
  | some settings => .ok settings
  | none => .error (.invalid s!"{path}: invalid module field or value type")

def parseGlobalModules (raw : Table String V) : Except ConfigError ModuleConfigs :=
  raw.rows.foldlM
    (fun modules r =>
      match r.1 with
      | "icmp" => do
        let icmp ← parseModuleScope toml.icmpModule "modules.icmp" r.2
        return { modules with icmp }
      | "usage" => do
        let usage ← parseModuleScope toml.usageModule "modules.usage" r.2
        return { modules with usage }
      | "tcp" => do
        let tcp ← parseModuleScope toml.tcpModule "modules.tcp" r.2
        return { modules with tcp }
      | id =>
        .error (.invalid s!"unknown module {debug id}; valid modules: icmp, usage, tcp"))
    {}

structure ParsedHostModules where
  icmp : IcmpHostConfig := {}
  usage : UsageHostConfig := {}
  tcp : TcpHostConfig := {}
  deriving DecidableEq

def parseHostModules (hostId : String) (raw : Table String V) :
    Except ConfigError ParsedHostModules :=
  raw.rows.foldlM
    (fun modules r =>
      match r.1 with
      | "tcp" => do
        let tcp ← parseModuleScope toml.tcpHost s!"hosts.{hostId}.modules.tcp" r.2
        return { modules with tcp }
      | "icmp" => do
        let icmp ← parseModuleScope toml.icmpHost s!"hosts.{hostId}.modules.icmp" r.2
        return { modules with icmp }
      | "usage" => do
        let usage ← parseModuleScope toml.usageHost s!"hosts.{hostId}.modules.usage" r.2
        return { modules with usage }
      | id =>
        .error (.invalid (s!"host {debug hostId}: unknown module {debug id}; valid modules: " ++
          "icmp, usage, tcp")))
    {}

structure ParsedGroupModules where
  usage : UsageGroupConfig := {}
  deriving DecidableEq

def parseGroupModules (group : String) (raw : Table String V) :
    Except ConfigError ParsedGroupModules :=
  raw.rows.foldlM
    (fun modules r =>
      match r.1 with
      | "usage" => do
        let usage ← parseModuleScope toml.usageGroup s!"group_settings.{group}.modules.usage" r.2
        return { modules with usage }
      | id =>
        .error (.invalid (s!"group_settings {debug group}: unknown module {debug id}; " ++
          "valid modules: usage")))
    {}

def parseGroupSettings (raw : Table String (RawGroupSettings V)) :
    Except ConfigError (Table String ParsedGroupModules) :=
  raw.rows.foldlM
    (fun parsed r => do
      let modules ← parseGroupModules toml r.1 r.2.modules
      return parsed.upsert r.1 modules)
    ∅

/-- What the settings of the groups of a host say of its SSH host key: it is
verified unless one of them says no. -/
def groupSettingsUsageSshVerifyHostKey (groupSettings : Table String ParsedGroupModules)
    (groups : List String) : Option Bool :=
  groups.foldl
    (fun configured group =>
      match (groupSettings.find? group).bind (·.usage.sshVerifyHostKey) with
      | none => configured
      | some value => some (configured.getD true && value))
    none

end Modules

def resolveIcmpHost (config : IcmpModuleConfig) (raw : IcmpHostConfig) :
    ResolvedIcmpHostConfig where
  enabled := raw.enabled.getD config.enabled
  interval := raw.interval.getD config.interval
  timeout := raw.timeout.getD config.timeout

def resolveUsageHost (config : UsageModuleConfig) (raw : UsageHostConfig)
    (groupSshVerifyHostKey : Option Bool) : ResolvedUsageHostConfig where
  enabled := raw.enabled.getD config.enabled
  os := raw.os.getD .auto
  sshVerifyHostKey :=
    (raw.sshVerifyHostKey.or groupSshVerifyHostKey).getD config.sshVerifyHostKey
  interval := raw.interval.getD config.interval
  timeout := raw.timeout.getD config.timeout
  linuxMinUid := raw.linuxMinUid.getD config.linuxMinUid
  macosMinUid := raw.macosMinUid.getD config.macosMinUid

def resolveTcpHost (config : TcpModuleConfig) (raw : TcpHostConfig) :
    ResolvedTcpHostConfig where
  enabled := raw.enabled.getD config.enabled
  interval := raw.interval.getD config.interval
  timeout := raw.timeout.getD config.timeout
  checks := raw.checks

/-! ## The configuration -/

namespace RawConfig

variable {V : Type} (toml : Toml V) (raw : RawConfig V)

def validateCoreSettings : Except ConfigError Unit := do
  validateDuration "history_retention" raw.historyRetention
  raw.history.validate.mapError .invalid
  raw.maintenance.validate.mapError .invalid
  if raw.apiWorkers.any fun workers => workers = 0 || workers > 256 then
    throw (.invalid "api_workers must be between 1 and 256")
  if raw.hosts.isEmpty then throw (.invalid "at least one host is required")

/-- **A listener others can reach** asks for a token, unless the file says
that it need not. -/
def validateAuthSettings : Except ConfigError Unit :=
  if !raw.bind.ip.isLoopback && raw.apiToken.isNone && !raw.allowUnauthenticatedNonLoopback then
    .error (.invalid ("non-loopback bind requires api_token or " ++
      "allow_unauthenticated_non_loopback = true"))
  else .ok ()

def validateHostIds : Except ConfigError (List String) :=
  raw.hosts.foldlM
    (fun ids host => do
      validateId "host id" host.id
      if host.id ∈ ids then throw (.invalid s!"duplicate host id {debug host.id}")
      return ids ++ [host.id])
    []

/-- One entry of the groups: its members are known hosts. -/
def validateRootGroup (ids : List String) (group : String) (members : List String)
    (groupsByHost : Table String (List String)) :
    Except ConfigError (Table String (List String)) := do
  validateId "group" group
  if members.isEmpty then
    throw (.invalid s!"group {debug group} must contain at least one host")
  members.foldlM
    (fun groupsByHost member => do
      validateId "host id" member
      if member ∉ ids then
        throw (.invalid s!"group {debug group} references unknown host {debug member}")
      return groupsByHost.upsert member (((groupsByHost.find? member).getD []) ++ [group]))
    groupsByHost

def validateRootGroups (ids : List String) : Except ConfigError (Table String (List String)) :=
  raw.groups.rows.foldlM
    (fun groupsByHost r => validateRootGroup ids r.1 r.2 groupsByHost) ∅

def validateGroupSettingsNames (groupsByHost : Table String (List String)) :
    Except ConfigError Unit :=
  let knownGroups := raw.hosts.flatMap (·.groups) ++ groupsByHost.rows.flatMap Prod.snd
  raw.groupSettings.keys.forM fun group => do
    validateId "group" group
    if group ∉ knownGroups then
      throw (.invalid s!"group_settings {debug group} references unknown group")

/-- The groups of a host, in order and each once. -/
def sortedGroups (groups : List String) : List String :=
  (groups.insertionSort (· ≤ ·)).destutter (· ≠ ·)

/-- One host of the configuration. -/
def intoHost (modules : ModuleConfigs) (groupsByHost : Table String (List String))
    (groupSettings : Table String ParsedGroupModules) (host : RawHost V) :
    Except ConfigError Host := do
  (validateAddress host.address).mapError fun message =>
    .invalid s!"host {debug host.id}: {message}"
  let parsedModules ← parseHostModules toml host.id host.modules
  -- host IDs are distinct, so no entry is asked for twice
  let groups := sortedGroups (host.groups ++ (groupsByHost.find? host.id).getD [])
  if groups.isEmpty then
    throw (.invalid s!"host {debug host.id} must be in at least one group")
  groups.forM (validateId "group")
  let icmp := resolveIcmpHost modules.icmp parsedModules.icmp
  let usage := resolveUsageHost modules.usage parsedModules.usage
    (groupSettingsUsageSshVerifyHostKey groupSettings groups)
  if !modules.icmp.enabled && icmp.enabled then
    throw (.invalid (s!"host {debug host.id}: modules.icmp.enabled requires " ++
      "modules.icmp.enabled = true"))
  if !modules.usage.enabled && usage.enabled then
    throw (.invalid (s!"host {debug host.id}: modules.usage.enabled requires " ++
      "modules.usage.enabled = true"))
  validateHostModuleDurations host.id icmp usage
  let tcp := resolveTcpHost modules.tcp parsedModules.tcp
  if tcp.enabled && !modules.tcp.enabled then
    throw (.invalid s!"host {debug host.id}: TCP requires modules.tcp.enabled = true")
  tcp.validate.mapError fun message => .invalid s!"host {debug host.id}: {message}"
  return {
    id := host.id
    address := host.address
    name := host.name.getD host.id
    groups
    metadata := host.metadata
    modules := { icmp, usage, tcp } }

def intoAppConfig (modules : ModuleConfigs) (groupsByHost : Table String (List String))
    (groupSettings : Table String ParsedGroupModules) : Except ConfigError AppConfig := do
  let hosts ← raw.hosts.mapM (intoHost toml modules groupsByHost groupSettings)
  return {
    bind := raw.bind
    databasePath := raw.databasePath
    historyRetention := raw.historyRetention
    history := raw.history
    maintenance := raw.maintenance
    apiWorkers := raw.apiWorkers
    modules
    apiToken := raw.apiToken
    allowUnauthenticatedNonLoopback := raw.allowUnauthenticatedNonLoopback
    hosts }

/-- **The checks of a file**, and the configuration it stands for. -/
def validate : Except ConfigError AppConfig := do
  raw.validateCoreSettings
  raw.validateAuthSettings
  let modules ← parseGlobalModules toml raw.modules
  validateModuleConfig modules
  let ids ← raw.validateHostIds
  let groupsByHost ← raw.validateRootGroups ids
  raw.validateGroupSettingsNames groupsByHost
  let groupSettings ← parseGroupSettings toml raw.groupSettings
  raw.intoAppConfig toml modules groupsByHost groupSettings

end RawConfig

/-! ## Files -/

variable {V : Type} (toml : Toml V)

def fromTomlStr (contents : String) : Except ConfigError AppConfig := do
  let raw ← (toml.fromStr contents).mapError (.parse "<inline>")
  raw.validate toml

/-- A file that is read, or the error of reading it. -/
def fromPath (path : String) (file : Except String String) : Except ConfigError AppConfig := do
  let contents ← file.mapError (.read path)
  (fromTomlStr toml contents).mapError fun e =>
    match e with
    | .parse _ location => .parse path location
    | other => other

/-- **The configuration of a reload.** Where it listens and stores, and with
how many workers, belongs to the process that is running. -/
def forReload (next running : AppConfig) : Except ConfigError AppConfig :=
  if !running.bind.ip.isLoopback && next.apiToken.isNone
      && !next.allowUnauthenticatedNonLoopback then
    .error (.invalid ("reload would remove authentication from the active non-loopback " ++
      "listener"))
  else
    .ok { next with
      bind := running.bind
      databasePath := running.databasePath
      apiWorkers := running.apiWorkers }

end SimpleNetworkMonitor.Daemon
