import SimpleNetworkMonitor.Daemon.Model.Config
/-!
# Checking a file, stage by stage

A file is accepted where each stage of its checks passes, and what it
stands for is what the stages made of it. A host is what its settings come
to, where that passes the checks of a host.
-/

namespace SimpleNetworkMonitor.Daemon

variable {V : Type} {toml : Toml V}

/-! ## Hosts -/

/-- The host that settings come to, before it is checked. -/
def resolveHost (modules : ModuleConfigs) (groupsByHost : Table String (List String))
    (groupSettings : Table String ParsedGroupModules) (parsed : ParsedHostModules)
    (raw : RawHost V) : Host :=
  let groups := RawConfig.sortedGroups (raw.groups ++ (groupsByHost.find? raw.id).getD [])
  { id := raw.id
    address := raw.address
    name := raw.name.getD raw.id
    groups
    metadata := raw.metadata
    modules :=
      { icmp := resolveIcmpHost modules.icmp parsed.icmp
        usage := resolveUsageHost modules.usage parsed.usage
          (groupSettingsUsageSshVerifyHostKey groupSettings groups)
        tcp := resolveTcpHost modules.tcp parsed.tcp } }

/-- **The checks of a host**, under the settings of the modules. -/
structure HostChecks (modules : ModuleConfigs) (host : Host) : Prop where
  address : validateAddress host.address = .ok ()
  grouped : host.groups ≠ []
  groups : ∀ group ∈ host.groups, validateId "group" group = .ok ()
  icmp : modules.icmp.enabled = false → host.modules.icmp.enabled = false
  usage : modules.usage.enabled = false → host.modules.usage.enabled = false
  durations : validateHostModuleDurations host.id host.modules.icmp host.modules.usage = .ok ()
  tcp : modules.tcp.enabled = false → host.modules.tcp.enabled = false
  checks : host.modules.tcp.validate = .ok ()

/-- **A host is accepted** where its settings are read and pass the checks. -/
theorem intoHost_eq_ok_iff {modules : ModuleConfigs} {groupsByHost : Table String (List String)}
    {groupSettings : Table String ParsedGroupModules} {raw : RawHost V} {host : Host} :
    RawConfig.intoHost toml modules groupsByHost groupSettings raw = .ok host ↔
      ∃ parsed, parseHostModules toml raw.id raw.modules = .ok parsed ∧
        host = resolveHost modules groupsByHost groupSettings parsed raw ∧
        HostChecks modules host := by
  unfold RawConfig.intoHost
  constructor
  · intro h
    obtain ⟨⟨⟩, haddress, h⟩ := Except.bind_eq_ok_iff.mp h
    obtain ⟨parsed, hparsed, h⟩ := Except.bind_eq_ok_iff.mp h
    obtain ⟨hgrouped, h⟩ := Except.unless_eq_ok_iff.mp h
    obtain ⟨⟨⟩, hgroups, h⟩ := Except.bind_eq_ok_iff.mp h
    obtain ⟨hicmp, h⟩ := Except.unless_eq_ok_iff.mp h
    obtain ⟨husage, h⟩ := Except.unless_eq_ok_iff.mp h
    obtain ⟨⟨⟩, hdurations, h⟩ := Except.bind_eq_ok_iff.mp h
    obtain ⟨htcp, h⟩ := Except.unless_eq_ok_iff.mp h
    obtain ⟨⟨⟩, hchecks, h⟩ := Except.bind_eq_ok_iff.mp h
    obtain rfl := Except.ok.inj h
    refine ⟨parsed, hparsed, rfl, Except.mapError_eq_ok_iff.mp haddress, ?_,
      Except.forM_eq_ok.mp hgroups, ?_, ?_, hdurations, ?_, Except.mapError_eq_ok_iff.mp hchecks⟩
    · simpa using hgrouped
    · simpa using hicmp
    · simpa using husage
    · intro hdisabled
      simpa [hdisabled] using htcp
  · rintro ⟨parsed, hparsed, rfl, hhost⟩
    refine Except.bind_eq_ok_iff.mpr ⟨(), Except.mapError_eq_ok_iff.mpr hhost.address, ?_⟩
    refine Except.bind_eq_ok_iff.mpr ⟨parsed, hparsed, ?_⟩
    refine Except.unless_eq_ok_iff.mpr ⟨by simpa [resolveHost] using hhost.grouped, ?_⟩
    refine Except.bind_eq_ok_iff.mpr ⟨(), Except.forM_eq_ok.mpr hhost.groups, ?_⟩
    refine Except.unless_eq_ok_iff.mpr ⟨by simpa [resolveHost] using hhost.icmp, ?_⟩
    refine Except.unless_eq_ok_iff.mpr ⟨by simpa [resolveHost] using hhost.usage, ?_⟩
    refine Except.bind_eq_ok_iff.mpr ⟨(), hhost.durations, ?_⟩
    refine Except.unless_eq_ok_iff.mpr ⟨fun hopen => ?_, ?_⟩
    · rw [Bool.and_eq_true, Bool.not_eq_true'] at hopen
      have hdisabled := hhost.tcp hopen.2
      simp only [resolveHost] at hdisabled
      rw [hdisabled] at hopen
      exact Bool.noConfusion hopen.1
    · exact Except.bind_eq_ok_iff.mpr ⟨(), Except.mapError_eq_ok_iff.mpr hhost.checks, rfl⟩

/-! ## Files -/

/-- What the stages made of a file, before its hosts are resolved. -/
structure Parsed where
  modules : ModuleConfigs
  ids : List String
  groupsByHost : Table String (List String)
  groupSettings : Table String ParsedGroupModules

/-- **A file is accepted, as a configuration**: every stage passes. -/
structure Accepts (toml : Toml V) (raw : RawConfig V) (parsed : Parsed) (config : AppConfig) :
    Prop where
  core : raw.validateCoreSettings = .ok ()
  auth : raw.validateAuthSettings = .ok ()
  modules : parseGlobalModules toml raw.modules = .ok parsed.modules
  moduleConfig : validateModuleConfig parsed.modules = .ok ()
  ids : raw.validateHostIds = .ok parsed.ids
  groupsByHost : raw.validateRootGroups parsed.ids = .ok parsed.groupsByHost
  names : raw.validateGroupSettingsNames parsed.groupsByHost = .ok ()
  groupSettings : parseGroupSettings toml raw.groupSettings = .ok parsed.groupSettings
  hosts : List.Forall₂
    (fun rawHost host => RawConfig.intoHost toml parsed.modules parsed.groupsByHost
      parsed.groupSettings rawHost = .ok host) raw.hosts config.hosts
  config : config = {
    bind := raw.bind
    databasePath := raw.databasePath
    historyRetention := raw.historyRetention
    history := raw.history
    maintenance := raw.maintenance
    apiWorkers := raw.apiWorkers
    modules := parsed.modules
    apiToken := raw.apiToken
    allowUnauthenticatedNonLoopback := raw.allowUnauthenticatedNonLoopback
    hosts := config.hosts }

theorem validate_eq_ok_iff {raw : RawConfig V} {config : AppConfig} :
    raw.validate toml = .ok config ↔ ∃ parsed, Accepts toml raw parsed config := by
  unfold RawConfig.validate
  constructor
  · intro h
    obtain ⟨⟨⟩, hcore, h⟩ := Except.bind_eq_ok_iff.mp h
    obtain ⟨⟨⟩, hauth, h⟩ := Except.bind_eq_ok_iff.mp h
    obtain ⟨modules, hmodules, h⟩ := Except.bind_eq_ok_iff.mp h
    obtain ⟨⟨⟩, hmoduleConfig, h⟩ := Except.bind_eq_ok_iff.mp h
    obtain ⟨ids, hids, h⟩ := Except.bind_eq_ok_iff.mp h
    obtain ⟨groupsByHost, hgroupsByHost, h⟩ := Except.bind_eq_ok_iff.mp h
    obtain ⟨⟨⟩, hnames, h⟩ := Except.bind_eq_ok_iff.mp h
    obtain ⟨groupSettings, hgroupSettings, h⟩ := Except.bind_eq_ok_iff.mp h
    obtain ⟨hosts, hhosts, h⟩ := Except.bind_eq_ok_iff.mp h
    obtain rfl := Except.ok.inj h
    exact ⟨⟨modules, ids, groupsByHost, groupSettings⟩, hcore, hauth, hmodules, hmoduleConfig,
      hids, hgroupsByHost, hnames, hgroupSettings, Except.mapM_eq_ok hhosts, rfl⟩
  · rintro ⟨parsed, h⟩
    refine Except.bind_eq_ok_iff.mpr ⟨(), h.core, ?_⟩
    refine Except.bind_eq_ok_iff.mpr ⟨(), h.auth, ?_⟩
    refine Except.bind_eq_ok_iff.mpr ⟨parsed.modules, h.modules, ?_⟩
    refine Except.bind_eq_ok_iff.mpr ⟨(), h.moduleConfig, ?_⟩
    refine Except.bind_eq_ok_iff.mpr ⟨parsed.ids, h.ids, ?_⟩
    refine Except.bind_eq_ok_iff.mpr ⟨parsed.groupsByHost, h.groupsByHost, ?_⟩
    refine Except.bind_eq_ok_iff.mpr ⟨(), h.names, ?_⟩
    refine Except.bind_eq_ok_iff.mpr ⟨parsed.groupSettings, h.groupSettings, ?_⟩
    refine Except.bind_eq_ok_iff.mpr ⟨config.hosts, Except.mapM_of_forall₂ h.hosts, ?_⟩
    exact congrArg Except.ok h.config.symm

/-! ## What the stages check -/

theorem validateDuration_eq_ok {name : String} {duration : ℕ}
    (h : validateDuration name duration = .ok ()) :
    SimpleNetworkMonitor.validateDuration duration = .ok () :=
  Except.mapError_eq_ok_iff.mp h

theorem validateId_eq_ok_iff {kind value : String} :
    validateId kind value = .ok () ↔
      ¬ (value.isEmpty ∨ value = "." ∨ value = ".." ∨ !(value.toList.all identifierChar)) := by
  unfold validateId
  split_ifs with h
  · exact ⟨fun hok => (nomatch hok), fun hn => absurd h hn⟩
  · exact ⟨fun _ => h, fun _ => rfl⟩

/-- **The IDs of the hosts** are valid, different, and all there. -/
theorem validateHostIds_eq_ok {raw : RawConfig V} {ids : List String}
    (h : raw.validateHostIds = .ok ids) :
    ids = raw.hosts.map (·.id) ∧ ids.Nodup ∧
      ∀ host ∈ raw.hosts, validateId "host id" host.id = .ok () := by
  -- induction on the hosts, over the IDs seen so far
  have key : ∀ (hosts : List (RawHost V)) (seen ids : List String),
      hosts.foldlM (fun ids host => do
        validateId "host id" host.id
        if host.id ∈ ids then throw (ConfigError.invalid s!"duplicate host id {debug host.id}")
        return ids ++ [host.id]) seen = .ok ids → seen.Nodup →
      ids = seen ++ hosts.map (·.id) ∧ ids.Nodup ∧
        ∀ host ∈ hosts, validateId "host id" host.id = .ok () := by
    intro hosts
    induction hosts with
    | nil =>
      intro seen ids h hnd
      obtain rfl := Except.ok.inj h
      exact ⟨(List.append_nil _).symm, hnd, fun _ hmem => (nomatch hmem)⟩
    | cons host hosts ih =>
      intro seen ids h hnd
      rw [List.foldlM_cons] at h
      obtain ⟨next, hnext, hrest⟩ := Except.bind_eq_ok_iff.mp h
      obtain ⟨⟨⟩, hvalid, hnext⟩ := Except.bind_eq_ok_iff.mp hnext
      obtain ⟨hfresh, hnext⟩ := Except.unless_eq_ok_iff.mp hnext
      obtain rfl := Except.ok.inj hnext
      have hnd' : (seen ++ [host.id]).Nodup := by
        simpa only [List.concat_eq_append] using hnd.concat hfresh
      obtain ⟨hids, hnodup, hall⟩ := ih _ _ hrest hnd'
      refine ⟨?_, hnodup, List.forall_mem_cons.mpr ⟨hvalid, hall⟩⟩
      rw [hids, List.append_assoc, List.map_cons, List.singleton_append]
  exact key raw.hosts [] ids h List.nodup_nil

end SimpleNetworkMonitor.Daemon
