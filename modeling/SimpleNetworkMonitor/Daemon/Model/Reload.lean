import SimpleNetworkMonitor.Domain.Config
import SimpleNetworkMonitor.Storage.Model.Reload
/-!
# Reloading the daemon

What the process shares between its tasks, and what a reload publishes to
it. The token and the module settings are locked first and assigned last,
so that the storage decides whether anything changes.
-/

namespace SimpleNetworkMonitor.Daemon

open Storage

/-- **The shared state of the daemon.** -/
structure Shared where
  apiToken : Option ApiToken
  moduleConfig : ModuleConfigs
  storage : SqliteStorage
  deriving DecidableEq

/-- What goes wrong from outside during a reload. -/
structure ReloadFaults extends Faults where
  apiTokenPoisoned : Bool := false
  moduleConfigPoisoned : Bool := false

/-- An I/O error by what it stands for. -/
inductive ReloadError where
  | other (message : String)
  | storage (error : StorageError)
  deriving DecidableEq

/-- A program over the shared state. -/
abbrev Reload := Program Shared ReloadError

/-- A storage call in a reload. -/
def call {α : Type} (c : Call α) : Reload α := do
  let (result, storage) := Program.run c (← get).storage
  modify fun shared => { shared with storage }
  ExceptT.mk (pure (result.mapError .storage))

/-- The policies of a configuration. -/
def policies (config : AppConfig) : StoragePolicies where
  history := config.history
  maintenance := config.maintenance
  usageRetention := config.modules.usage.sampleRetention
  historyRetention := config.historyRetention

/-- **Apply a configuration** that was read and prepared. -/
def applyReloadedConfig (faults : ReloadFaults) (now now' : ℤ) (config : AppConfig) :
    Reload Unit := do
  if faults.apiTokenPoisoned then throw (.other "api token lock poisoned")
  if faults.moduleConfigPoisoned then throw (.other "module config lock poisoned")
  call (updateConfiguration faults.toFaults now now' config.hosts (policies config))
  modify fun shared => { shared with apiToken := config.apiToken }
  modify fun shared => { shared with moduleConfig := config.modules }

end SimpleNetworkMonitor.Daemon
