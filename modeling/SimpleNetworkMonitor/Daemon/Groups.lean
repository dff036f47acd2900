import SimpleNetworkMonitor.Daemon.Helpers.Settings
/-!
# Groups, whatever the order of the maps

The settings of a file arrive in hash maps, and the groups of a host from
two places. What a file stands for is the same in whatever order the maps
are iterated, and one group that asks for no check of the SSH host key
outweighs any number that ask for one.
-/

namespace SimpleNetworkMonitor.Daemon

variable {V : Type} {toml : Toml V}

/-! ## The order of the maps -/

/-- One host, its modules listed in another order. -/
structure RawHost.Reordered (host host' : RawHost V) : Prop where
  modules : Table.Reordered Eq host.modules host'.modules
  rest : host' = { host with modules := host'.modules }

/-- The settings of one group, its modules listed in another order. -/
def RawGroupSettings.Reordered (settings settings' : RawGroupSettings V) : Prop :=
  Table.Reordered Eq settings.modules settings'.modules

/-- **One file, its maps listed in other orders**: that of the modules, that
of the groups, that of the settings of the groups and those within them, and
those of the hosts. -/
structure RawConfig.Reordered (raw raw' : RawConfig V) : Prop where
  modules : Table.Reordered Eq raw.modules raw'.modules
  groups : Table.Reordered Eq raw.groups raw'.groups
  groupSettings : Table.Reordered RawGroupSettings.Reordered raw.groupSettings raw'.groupSettings
  hosts : List.Forall₂ RawHost.Reordered raw.hosts raw'.hosts
  rest : raw' = { raw with
    modules := raw'.modules
    groups := raw'.groups
    groupSettings := raw'.groupSettings
    hosts := raw'.hosts }

theorem RawHost.Reordered.symm {host host' : RawHost V} (h : host.Reordered host') :
    host'.Reordered host where
  modules := h.modules.symm fun _ _ => Eq.symm
  rest := by rw [h.rest]

theorem RawGroupSettings.Reordered.symm {settings settings' : RawGroupSettings V}
    (h : settings.Reordered settings') : settings'.Reordered settings :=
  Table.Reordered.symm h fun _ _ => Eq.symm

namespace RawConfig.Reordered

variable {raw raw' : RawConfig V}

theorem symm (h : raw.Reordered raw') : raw'.Reordered raw where
  modules := h.modules.symm fun _ _ => Eq.symm
  groups := h.groups.symm fun _ _ => Eq.symm
  groupSettings := h.groupSettings.symm fun _ _ => RawGroupSettings.Reordered.symm
  hosts := List.Forall₂.flip (h.hosts.imp fun _ _ => RawHost.Reordered.symm)
  rest := by rw [h.rest]

/-- The hosts keep their IDs, in their order. -/
theorem ids_eq (h : raw.Reordered raw') :
    raw'.hosts.map (·.id) = raw.hosts.map (·.id) := by
  have hhosts := h.hosts
  generalize raw.hosts = hosts at hhosts
  generalize raw'.hosts = hosts' at hhosts
  induction hhosts with
  | nil => rfl
  | cons hhost _ ih => exact congrArg₂ List.cons (by rw [hhost.rest]) ih

theorem validateHostIds_eq (h : raw.Reordered raw') :
    raw'.validateHostIds = raw.validateHostIds := by
  have key : ∀ hosts : List (RawHost V), hosts.foldlM (fun ids host => do
      validateId "host id" host.id
      if host.id ∈ ids then throw (ConfigError.invalid s!"duplicate host id {debug host.id}")
      return ids ++ [host.id]) [] = (hosts.map (·.id)).foldlM (fun ids id => do
      validateId "host id" id
      if id ∈ ids then throw (ConfigError.invalid s!"duplicate host id {debug id}")
      return ids ++ [id]) [] := fun hosts => by rw [List.foldlM_map]
  unfold validateHostIds
  rw [key, key, h.ids_eq]

theorem validateCoreSettings_eq (h : raw.Reordered raw') :
    raw'.validateCoreSettings = raw.validateCoreSettings := by
  have hempty : raw'.hosts.isEmpty = raw.hosts.isEmpty := by
    have hids := congrArg List.isEmpty h.ids_eq
    simpa using hids
  unfold validateCoreSettings
  rw [hempty, h.rest]

theorem validateAuthSettings_eq (h : raw.Reordered raw') :
    raw'.validateAuthSettings = raw.validateAuthSettings := by
  unfold validateAuthSettings
  rw [h.rest]

end RawConfig.Reordered

/-! ## What the settings come to, in any order -/

theorem moduleConfigs_congr {raw raw' : Table String V} (h : Table.Reordered Eq raw raw') :
    moduleConfigs toml raw' = moduleConfigs toml raw := by
  unfold moduleConfigs
  rw [h.find?_eq, h.find?_eq, h.find?_eq]

theorem hostModules_congr {raw raw' : Table String V} (h : Table.Reordered Eq raw raw') :
    hostModules toml raw' = hostModules toml raw := by
  unfold hostModules
  rw [h.find?_eq, h.find?_eq, h.find?_eq]

theorem find?_parsedGroupSettings_congr {raw raw' : Table String (RawGroupSettings V)}
    (h : Table.Reordered RawGroupSettings.Reordered raw raw') (group : String) :
    (parsedGroupSettings toml raw').find? group = (parsedGroupSettings toml raw).find? group := by
  rw [find?_parsedGroupSettings, find?_parsedGroupSettings]
  have hrel := h.find?_rel (fun _ _ => RawGroupSettings.Reordered.symm) group
  generalize raw.find? group = settings at hrel
  generalize raw'.find? group = settings' at hrel
  cases hrel with
  | none => rfl
  | some hmodules =>
    simp only [Option.map_some, groupModules]
    rw [Table.Reordered.find?_eq hmodules]

theorem mem_rootGroups_congr {groups groups' : Table String (List String)}
    (h : Table.Reordered Eq groups groups') (host g : String) :
    g ∈ ((rootGroups groups').find? host).getD [] ↔
      g ∈ ((rootGroups groups).find? host).getD [] := by
  rw [mem_rootGroups, mem_rootGroups]
  simp only [h.mem_iff]

section Resolve

variable {modules : ModuleConfigs} {groupsByHost groupsByHost' : Table String (List String)}
  {groupSettings groupSettings' : Table String ParsedGroupModules} {host host' : RawHost V}

/-- A host comes to the same. -/
theorem resolveHost_congr {parsed : ParsedHostModules} (hhost : host.Reordered host')
    (hgroups : ∀ g, g ∈ (groupsByHost'.find? host.id).getD [] ↔
      g ∈ (groupsByHost.find? host.id).getD [])
    (hsettings : ∀ group, groupSettings'.find? group = groupSettings.find? group) :
    resolveHost modules groupsByHost' groupSettings' parsed host' =
      resolveHost modules groupsByHost groupSettings parsed host := by
  have hsorted : RawConfig.sortedGroups (host.groups ++ (groupsByHost'.find? host.id).getD []) =
      RawConfig.sortedGroups (host.groups ++ (groupsByHost.find? host.id).getD []) :=
    List.destutter_insertionSort_congr fun g => by
      rw [List.mem_append, List.mem_append, hgroups]
  have hverify : ∀ groups, groupSettingsUsageSshVerifyHostKey groupSettings' groups =
      groupSettingsUsageSshVerifyHostKey groupSettings groups := fun groups => by
    unfold groupSettingsUsageSshVerifyHostKey
    simp only [hsettings]
  rw [hhost.rest]
  simp only [resolveHost, hsorted, hverify]

/-- **A host is accepted in every order**, as the same host. -/
theorem intoHost_congr (hhost : host.Reordered host')
    (hgroups : ∀ g, g ∈ (groupsByHost'.find? host.id).getD [] ↔
      g ∈ (groupsByHost.find? host.id).getD [])
    (hsettings : ∀ group, groupSettings'.find? group = groupSettings.find? group) {resolved : Host}
    (h : RawConfig.intoHost toml modules groupsByHost groupSettings host = .ok resolved) :
    RawConfig.intoHost toml modules groupsByHost' groupSettings' host' = .ok resolved := by
  obtain ⟨parsed, hparsed, hresolved, hchecks⟩ := intoHost_eq_ok_iff.mp h
  obtain ⟨hknown, rfl⟩ := parseHostModules_eq_ok_iff.mp hparsed
  refine intoHost_eq_ok_iff.mpr ⟨hostModules toml host.modules,
    parseHostModules_eq_ok_iff.mpr ⟨fun r hr => hknown r (hhost.modules.mem_iff.mp hr),
      (hostModules_congr hhost.modules).symm⟩, ?_, hchecks⟩
  rw [resolveHost_congr hhost hgroups hsettings, hresolved]

end Resolve

/-- **The names of the groups** are those of groups of hosts, in every order. -/
theorem RawConfig.Reordered.names {raw raw' : RawConfig V} (hraw : raw.Reordered raw')
    (h : raw.validateGroupSettingsNames (rootGroups raw.groups) = .ok ()) :
    raw'.validateGroupSettingsNames (rootGroups raw'.groups) = .ok () := by
  have hnames := validateGroupSettingsNames_eq_ok_iff.mp h
  refine validateGroupSettingsNames_eq_ok_iff.mpr fun group hgroup => ?_
  obtain ⟨settings, hrow⟩ := Table.mem_keys.mp hgroup
  obtain ⟨⟨_, _⟩, hrow', rfl, -⟩ := hraw.symm.groupSettings.exists_of_mem hrow
  obtain ⟨hid, hlisted⟩ := hnames group (Table.mem_keys_of_mem hrow')
  refine ⟨hid, hlisted.imp ?_ ?_⟩
  · rintro ⟨host, hmem, hhost⟩
    obtain ⟨host', hmem', hsame⟩ := hraw.hosts.exists_of_mem hmem
    exact ⟨host', hmem', by rwa [hsame.rest]⟩
  · rintro ⟨members, hmem, hhost⟩
    exact ⟨members, hraw.groups.mem_iff.mpr hmem, hhost⟩

/-- **A file is accepted in every order**, as the same configuration. -/
theorem Accepts.reordered {raw raw' : RawConfig V} {parsed : Parsed} {config : AppConfig}
    (h : Accepts toml raw parsed config) (hraw : raw.Reordered raw') :
    Accepts toml raw' ⟨parsed.modules, parsed.ids, rootGroups raw'.groups,
      parsedGroupSettings toml raw'.groupSettings⟩ config := by
  obtain ⟨hmodules, hmodules_eq⟩ := parseGlobalModules_eq_ok_iff.mp h.modules
  obtain ⟨hgroups, hgroups_eq⟩ := validateRootGroups_eq_ok_iff.mp h.groupsByHost
  obtain ⟨hsettings, hsettings_eq⟩ := parseGroupSettings_eq_ok_iff.mp h.groupSettings
  refine ⟨?_, ?_, ?_, h.moduleConfig, ?_, ?_, ?_, ?_, ?_, ?_⟩
  · rw [hraw.validateCoreSettings_eq]
    exact h.core
  · rw [hraw.validateAuthSettings_eq]
    exact h.auth
  · refine parseGlobalModules_eq_ok_iff.mpr
      ⟨fun r hr => hmodules r (hraw.modules.mem_iff.mp hr), ?_⟩
    rw [moduleConfigs_congr hraw.modules]
    exact hmodules_eq
  · rw [hraw.validateHostIds_eq]
    exact h.ids
  · exact validateRootGroups_eq_ok_iff.mpr
      ⟨fun r hr => hgroups r (hraw.groups.mem_iff.mp hr), rfl⟩
  · exact hraw.names (hgroups_eq ▸ h.names)
  · refine parseGroupSettings_eq_ok_iff.mpr ⟨fun r hr r' hr' => ?_, rfl⟩
    obtain ⟨s, hs, -, hsame⟩ := hraw.symm.groupSettings.exists_of_mem hr
    exact hsettings s hs r' (hsame.symm.mem_iff.mp hr')
  · have hhosts := h.hosts
    rw [hgroups_eq, hsettings_eq] at hhosts
    refine List.Forall₂.replace_left (fun host _ _ hok hhost => ?_) hhosts hraw.hosts
    exact intoHost_congr hhost (fun g => mem_rootGroups_congr hraw.groups _ g)
      (find?_parsedGroupSettings_congr hraw.groupSettings) hok
  · rw [hraw.rest]
    exact h.config

/-! ## What the groups say of the SSH host key -/

section Verdict

variable (groupSettings : Table String ParsedGroupModules)

/-- What one group says of the check of the SSH host key. -/
def settingsVerifyHostKey (group : String) : Option Bool :=
  (groupSettings.find? group).bind (·.usage.sshVerifyHostKey)

/-- One more group speaks. -/
def addVerdict (configured : Option Bool) (group : String) : Option Bool :=
  match settingsVerifyHostKey groupSettings group with
  | none => configured
  | some value => some (configured.getD true && value)

theorem groupSettings_eq_foldl (groups : List String) :
    groupSettingsUsageSshVerifyHostKey groupSettings groups =
      groups.foldl (addVerdict groupSettings) none := rfl

/-- The groups say no where one of them does. -/
theorem groupSettings_eq_some_false (groups : List String) :
    groupSettingsUsageSshVerifyHostKey groupSettings groups = some false ↔
      ∃ group ∈ groups, settingsVerifyHostKey groupSettings group = some false := by
  rw [groupSettings_eq_foldl]
  have hfold := List.foldl_collects (addVerdict groupSettings)
    (fun configured (_ : Unit) => configured = some false)
    (fun group _ => settingsVerifyHostKey groupSettings group = some false)
    (fun configured group _ => ?_) groups none ()
  · simpa using hfold
  · -- once the answer is no, it stays no
    unfold addVerdict
    rcases settingsVerifyHostKey groupSettings group with - | - | -
    · simp
    · simp
    · rcases configured with - | - | - <;> simp

/-- The groups say something where one of them does. -/
theorem groupSettings_isSome (groups : List String) :
    (groupSettingsUsageSshVerifyHostKey groupSettings groups).isSome = true ↔
      ∃ group ∈ groups, (settingsVerifyHostKey groupSettings group).isSome = true := by
  rw [groupSettings_eq_foldl]
  have hfold := List.foldl_collects (addVerdict groupSettings)
    (fun configured (_ : Unit) => configured.isSome = true)
    (fun group _ => (settingsVerifyHostKey groupSettings group).isSome = true)
    (fun configured group _ => ?_) groups none ()
  · simpa using hfold
  · unfold addVerdict
    rcases settingsVerifyHostKey groupSettings group with - | value
    · simp
    · simp

end Verdict

/-! ## The result -/

section Resolution

variable (toml : Toml V) (raw : RawConfig V)

/-- What a host says of the check of its SSH host key. -/
def RawHost.verifyHostKey (host : RawHost V) : Option Bool :=
  ((host.modules.find? "usage").bind toml.usageHost).bind (·.sshVerifyHostKey)

/-- What the settings of a group say of it. -/
def RawConfig.groupVerifyHostKey (group : String) : Option Bool :=
  (((raw.groupSettings.find? group).bind fun settings => settings.modules.find? "usage").bind
    toml.usageGroup).bind (·.sshVerifyHostKey)

/-- What holds where neither a host nor its groups say anything. -/
def RawConfig.globalVerifyHostKey : Bool :=
  (((raw.modules.find? "usage").bind toml.usageModule).getD {}).sshVerifyHostKey

/-- **A host is resolved**: its groups are those of its own list and of the
entries that name it, in order and each once; and its SSH host key is checked
as the host says, or else as its groups say, one no outweighing any yes, or
else as the module says. -/
structure Resolved (rawHost : RawHost V) (host : Host) : Prop where
  id : host.id = rawHost.id
  sorted : host.groups.Pairwise (· < ·)
  groups : ∀ group, group ∈ host.groups ↔
    group ∈ rawHost.groups ∨ ∃ members, (group, members) ∈ raw.groups.rows ∧ rawHost.id ∈ members
  own : ∀ value, rawHost.verifyHostKey toml = some value →
    host.modules.usage.sshVerifyHostKey = value
  refused : rawHost.verifyHostKey toml = none →
    (∃ group ∈ host.groups, raw.groupVerifyHostKey toml group = some false) →
    host.modules.usage.sshVerifyHostKey = false
  granted : rawHost.verifyHostKey toml = none →
    (¬ ∃ group ∈ host.groups, raw.groupVerifyHostKey toml group = some false) →
    (∃ group ∈ host.groups, raw.groupVerifyHostKey toml group = some true) →
    host.modules.usage.sshVerifyHostKey = true
  silent : rawHost.verifyHostKey toml = none →
    (∀ group ∈ host.groups, raw.groupVerifyHostKey toml group = none) →
    host.modules.usage.sshVerifyHostKey = raw.globalVerifyHostKey toml

end Resolution

section Result

variable {raw : RawConfig V} {parsed : Parsed} {config : AppConfig}

/-- What was read of the settings of a group is what they say. -/
theorem settingsVerifyHostKey_parsed (group : String) :
    settingsVerifyHostKey (parsedGroupSettings toml raw.groupSettings) group =
      raw.groupVerifyHostKey toml group := by
  rw [settingsVerifyHostKey, find?_parsedGroupSettings, RawConfig.groupVerifyHostKey]
  rcases raw.groupSettings.find? group with - | settings
  · rfl
  · simp only [Option.map_some, Option.bind_some, groupModules]
    rcases settings.modules.find? "usage" with - | value
    · rfl
    · simp only [Option.map_some, Option.getD_some, Option.bind_some]
      rcases toml.usageGroup value with - | usage <;> rfl

theorem verifyHostKey_hostModules (rawHost : RawHost V) :
    (hostModules toml rawHost.modules).usage.sshVerifyHostKey = rawHost.verifyHostKey toml := by
  rw [hostModules, RawHost.verifyHostKey]
  rcases rawHost.modules.find? "usage" with - | value
  · rfl
  · simp only [Option.map_some, Option.getD_some, Option.bind_some]
    rcases toml.usageHost value with - | usage <;> rfl

theorem verifyHostKey_moduleConfigs :
    (moduleConfigs toml raw.modules).usage.sshVerifyHostKey = raw.globalVerifyHostKey toml := by
  rw [moduleConfigs, RawConfig.globalVerifyHostKey]
  rcases raw.modules.find? "usage" with - | value <;> rfl

/-- What a host resolves to, of the check of its SSH host key. -/
theorem sshVerifyHostKey_resolveHost (raw : RawConfig V) (rawHost : RawHost V) {host : Host}
    (h : host = resolveHost (moduleConfigs toml raw.modules) (rootGroups raw.groups)
      (parsedGroupSettings toml raw.groupSettings) (hostModules toml rawHost.modules) rawHost) :
    host.modules.usage.sshVerifyHostKey =
      ((rawHost.verifyHostKey toml).or (groupSettingsUsageSshVerifyHostKey
        (parsedGroupSettings toml raw.groupSettings) host.groups)).getD
          (raw.globalVerifyHostKey toml) := by
  rw [h, ← verifyHostKey_hostModules, ← verifyHostKey_moduleConfigs]
  rfl

theorem resolved_resolveHost (raw : RawConfig V) (rawHost : RawHost V) {host : Host}
    (h : host = resolveHost (moduleConfigs toml raw.modules) (rootGroups raw.groups)
      (parsedGroupSettings toml raw.groupSettings) (hostModules toml rawHost.modules) rawHost) :
    Resolved toml raw rawHost host := by
  have hverify := sshVerifyHostKey_resolveHost raw rawHost h
  have hrefused := groupSettings_eq_some_false (parsedGroupSettings toml raw.groupSettings)
    host.groups
  have hsaid := groupSettings_isSome (parsedGroupSettings toml raw.groupSettings) host.groups
  simp only [settingsVerifyHostKey_parsed] at hrefused hsaid
  have hgroups : host.groups = RawConfig.sortedGroups
      (rawHost.groups ++ ((rootGroups raw.groups).find? rawHost.id).getD []) := by rw [h]; rfl
  refine ⟨by rw [h]; rfl, ?_, fun group => ?_, fun value hown => ?_, fun hnone hno => ?_,
    fun hnone hno hyes => ?_, fun hnone hsilent => ?_⟩
  · rw [hgroups]
    exact List.pairwise_destutter_insertionSort _
  · rw [hgroups, RawConfig.sortedGroups, List.mem_destutter_insertionSort, List.mem_append,
      mem_rootGroups]
  · rw [hverify, hown]
    rfl
  · rw [hverify, hnone, Option.none_or, hrefused.mpr hno]
    rfl
  · obtain ⟨group, hmem, htrue⟩ := hyes
    obtain ⟨value, hvalue⟩ := Option.isSome_iff_exists.mp
      (hsaid.mpr ⟨group, hmem, by rw [htrue]; rfl⟩)
    rcases value with - | -
    · exact absurd (hrefused.mp hvalue) hno
    · rw [hverify, hnone, Option.none_or, hvalue]
      rfl
  · have hunsaid : groupSettingsUsageSshVerifyHostKey (parsedGroupSettings toml raw.groupSettings)
        host.groups = none := by
      rw [← Option.not_isSome_iff_eq_none, hsaid]
      rintro ⟨group, hmem, hsome⟩
      rw [hsilent group hmem] at hsome
      cases hsome
    rw [hverify, hnone, hunsaid]
    rfl

/-- **Every host of a file that is accepted is resolved.** -/
theorem Accepts.resolved (h : Accepts toml raw parsed config) :
    List.Forall₂ (Resolved toml raw) raw.hosts config.hosts := by
  obtain ⟨-, hmodules⟩ := parseGlobalModules_eq_ok_iff.mp h.modules
  obtain ⟨-, hgroups⟩ := validateRootGroups_eq_ok_iff.mp h.groupsByHost
  obtain ⟨-, hsettings⟩ := parseGroupSettings_eq_ok_iff.mp h.groupSettings
  refine h.hosts.imp fun rawHost host hhost => ?_
  obtain ⟨parsedModules, hparsed, hhost, -⟩ := intoHost_eq_ok_iff.mp hhost
  obtain ⟨-, rfl⟩ := parseHostModules_eq_ok_iff.mp hparsed
  rw [hmodules, hgroups, hsettings] at hhost
  exact resolved_resolveHost raw rawHost hhost

end Result

/-- What is accepted in one order is accepted in another. -/
theorem validate_of_reordered {raw raw' : RawConfig V} {config : AppConfig}
    (hraw : raw.Reordered raw') (h : raw.validate toml = .ok config) :
    raw'.validate toml = .ok config := by
  obtain ⟨parsed, haccepts⟩ := validate_eq_ok_iff.mp h
  exact validate_eq_ok_iff.mpr ⟨_, haccepts.reordered hraw⟩

/-- **The order of the maps decides nothing.** A file is accepted in all
orders or in none, as one configuration, each of whose hosts is resolved as
its file says: its groups are those of both places, in order and each once,
and its SSH host key is checked as it says itself, else unless one of its
groups says no, else if one says yes, else as the module says. -/
theorem groups_resolved (toml : Toml V) (raw raw' : RawConfig V) (hraw : raw.Reordered raw') :
    (raw'.validate toml).toOption = (raw.validate toml).toOption ∧
      ∀ config, raw.validate toml = .ok config →
        List.Forall₂ (Resolved toml raw) raw.hosts config.hosts := by
  constructor
  · rcases h : raw.validate toml with e | config
    · rcases h' : raw'.validate toml with e' | config
      · rfl
      · rw [validate_of_reordered hraw.symm h'] at h
        cases h
    · rw [validate_of_reordered hraw h]
  · intro config h
    obtain ⟨parsed, haccepts⟩ := validate_eq_ok_iff.mp h
    exact haccepts.resolved

/-! ## A sample -/

/-- The settings of a group on the check of the SSH host key. -/
def sampleVerify (value : Bool) : RawGroupSettings Bool where
  modules := ⟨[("usage", value)], List.nodup_singleton _⟩

/-- A file with one host and three groups, two of them listed at the root, and
two that disagree on the check; its maps are listed in this order. -/
def sampleGrouped : RawConfig Bool where
  groups := ⟨[("c", ["r1"]), ("a", ["r1"])], by decide⟩
  groupSettings := ⟨[("a", sampleVerify true), ("b", sampleVerify false)], by decide⟩
  hosts := [{ id := "r1", address := "192.0.2.1", groups := ["b"] }]

/-- The same file in the other order. -/
def sampleRegrouped : RawConfig Bool where
  groups := ⟨[("a", ["r1"]), ("c", ["r1"])], by decide⟩
  groupSettings := ⟨[("b", sampleVerify false), ("a", sampleVerify true)], by decide⟩
  hosts := [{ id := "r1", address := "192.0.2.1", groups := ["b"] }]

def sampleVerifyToml : Toml Bool where
  fromStr _ := .ok sampleGrouped
  icmpModule _ := none
  usageModule _ := none
  tcpModule _ := none
  icmpHost _ := none
  usageHost _ := none
  tcpHost _ := none
  usageGroup value := some { sshVerifyHostKey := some value }

theorem sampleGrouped_reordered : sampleGrouped.Reordered sampleRegrouped where
  modules := Table.Reordered.of_perm (List.Perm.refl _) fun _ => rfl
  groups := Table.Reordered.of_perm (by decide) fun _ => rfl
  groupSettings := Table.Reordered.of_perm (by decide) fun _ =>
    Table.Reordered.of_perm (List.Perm.refl _) fun _ => rfl
  hosts := .cons ⟨Table.Reordered.of_perm (List.Perm.refl _) fun _ => rfl, rfl⟩ .nil
  rest := rfl

/-- The sample host is in all three groups, and its SSH host key is not
checked. -/
theorem sampleGrouped_resolved :
    (sampleRegrouped.validate sampleVerifyToml).toOption =
        (sampleGrouped.validate sampleVerifyToml).toOption ∧
      (sampleGrouped.validate sampleVerifyToml).toOption.map (fun config =>
          config.hosts.map fun host => (host.groups, host.modules.usage.sshVerifyHostKey)) =
        some [(["a", "b", "c"], false)] :=
  ⟨(groups_resolved sampleVerifyToml sampleGrouped sampleRegrouped sampleGrouped_reordered).1,
    by decide +kernel⟩

end SimpleNetworkMonitor.Daemon
