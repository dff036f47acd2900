import SimpleNetworkMonitor.Common.Unordered
import SimpleNetworkMonitor.Daemon.Helpers.Config
/-!
# The settings of a file, by what they say

The settings of the modules, of the groups and of their members are read in
loops over maps. Each loop succeeds where every row is one it knows, and
leaves what a lookup in the map gives.
-/

namespace SimpleNetworkMonitor.Daemon

variable {V : Type} {toml : Toml V}

/-! ## The settings of the modules -/

theorem parseModuleScope_eq_ok_iff {T : Type} {decode : V → Option T} {path : String} {value : V}
    {settings : T} : parseModuleScope decode path value = .ok settings ↔ decode value = some settings := by
  unfold parseModuleScope
  rcases decode value with - | decoded
  · exact ⟨fun h => (nomatch h), fun h => (nomatch h)⟩
  · exact ⟨fun h => by rw [Except.ok.inj h], fun h => by rw [Option.some.inj h]⟩

/-- Settings that are read and assigned. -/
theorem assign_eq_ok_iff {T M : Type} {decode : V → Option T} {path : String} {value : V}
    {assign : T → M} {modules : M} (default : T) :
    (parseModuleScope decode path value >>= fun settings => pure (assign settings)) = .ok modules ↔
      (decode value).isSome = true ∧ modules = assign ((decode value).getD default) := by
  rw [Except.bind_eq_ok_iff]
  constructor
  · rintro ⟨settings, hsettings, h⟩
    obtain rfl := Except.ok.inj h
    rw [parseModuleScope_eq_ok_iff.mp hsettings]
    exact ⟨rfl, rfl⟩
  · rintro ⟨hsome, rfl⟩
    obtain ⟨settings, hsettings⟩ := Option.isSome_iff_exists.mp hsome
    rw [hsettings]
    exact ⟨settings, parseModuleScope_eq_ok_iff.mpr hsettings, rfl⟩

/-- A module there is, with settings that are read. -/
def KnownModule (toml : Toml V) (r : String × V) : Prop :=
  (r.1 = "icmp" ∧ (toml.icmpModule r.2).isSome = true) ∨
    (r.1 = "usage" ∧ (toml.usageModule r.2).isSome = true) ∨
    (r.1 = "tcp" ∧ (toml.tcpModule r.2).isSome = true)

/-- What the settings of the modules come to. -/
def moduleConfigs (toml : Toml V) (raw : Table String V) : ModuleConfigs where
  icmp := ((raw.find? "icmp").map fun value => (toml.icmpModule value).getD {}).getD {}
  usage := ((raw.find? "usage").map fun value => (toml.usageModule value).getD {}).getD {}
  tcp := ((raw.find? "tcp").map fun value => (toml.tcpModule value).getD {}).getD {}

/-- What one module sets. -/
def assignModule (toml : Toml V) (modules : ModuleConfigs) (r : String × V) : ModuleConfigs :=
  if r.1 = "icmp" then { modules with icmp := (toml.icmpModule r.2).getD {} }
  else if r.1 = "usage" then { modules with usage := (toml.usageModule r.2).getD {} }
  else if r.1 = "tcp" then { modules with tcp := (toml.tcpModule r.2).getD {} }
  else modules

theorem foldl_assignModule (raw : Table String V) :
    raw.rows.foldl (assignModule toml) {} = moduleConfigs toml raw := by
  have hicmp := Table.foldl_assign (assignModule toml) (·.icmp) "icmp"
    (fun value => (toml.icmpModule value).getD {}) (fun _ _ => rfl)
    (fun modules r hr => by simp only [assignModule, if_neg hr]; split_ifs <;> rfl) raw {}
  have husage := Table.foldl_assign (assignModule toml) (·.usage) "usage"
    (fun value => (toml.usageModule value).getD {}) (fun _ _ => rfl)
    (fun modules r hr => by simp only [assignModule, if_neg hr]; split_ifs <;> rfl) raw {}
  have htcp := Table.foldl_assign (assignModule toml) (·.tcp) "tcp"
    (fun value => (toml.tcpModule value).getD {}) (fun _ _ => rfl)
    (fun modules r hr => by simp only [assignModule, if_neg hr]; split_ifs <;> rfl) raw {}
  unfold moduleConfigs
  rw [← hicmp, ← husage, ← htcp]

/-- **The settings of the modules are read** where each is of a module there
is. -/
theorem parseGlobalModules_eq_ok_iff {raw : Table String V} {modules : ModuleConfigs} :
    parseGlobalModules toml raw = .ok modules ↔
      (∀ r ∈ raw.rows, KnownModule toml r) ∧ modules = moduleConfigs toml raw := by
  rw [← foldl_assignModule]
  refine Except.foldlM_eq_ok_iff _ _ fun modules r modules' => ?_
  obtain ⟨id, value⟩ := r
  dsimp only
  split
  · exact (assign_eq_ok_iff {}).trans (by simp [KnownModule, assignModule])
  · exact (assign_eq_ok_iff {}).trans (by simp [KnownModule, assignModule])
  · exact (assign_eq_ok_iff {}).trans (by simp [KnownModule, assignModule])
  · next hicmp husage htcp =>
    refine ⟨fun h => (nomatch h), fun ⟨hknown, _⟩ => ?_⟩
    rcases hknown with ⟨h, -⟩ | ⟨h, -⟩ | ⟨h, -⟩
    · exact (hicmp h).elim
    · exact (husage h).elim
    · exact (htcp h).elim

/-- A module a host can set, with settings that are read. -/
def KnownHostModule (toml : Toml V) (r : String × V) : Prop :=
  (r.1 = "tcp" ∧ (toml.tcpHost r.2).isSome = true) ∨
    (r.1 = "icmp" ∧ (toml.icmpHost r.2).isSome = true) ∨
    (r.1 = "usage" ∧ (toml.usageHost r.2).isSome = true)

/-- What the settings of a host come to. -/
def hostModules (toml : Toml V) (raw : Table String V) : ParsedHostModules where
  icmp := ((raw.find? "icmp").map fun value => (toml.icmpHost value).getD {}).getD {}
  usage := ((raw.find? "usage").map fun value => (toml.usageHost value).getD {}).getD {}
  tcp := ((raw.find? "tcp").map fun value => (toml.tcpHost value).getD {}).getD {}

/-- What one module sets of a host. -/
def assignHostModule (toml : Toml V) (modules : ParsedHostModules) (r : String × V) :
    ParsedHostModules :=
  if r.1 = "tcp" then { modules with tcp := (toml.tcpHost r.2).getD {} }
  else if r.1 = "icmp" then { modules with icmp := (toml.icmpHost r.2).getD {} }
  else if r.1 = "usage" then { modules with usage := (toml.usageHost r.2).getD {} }
  else modules

theorem foldl_assignHostModule (raw : Table String V) :
    raw.rows.foldl (assignHostModule toml) {} = hostModules toml raw := by
  have hicmp := Table.foldl_assign (assignHostModule toml) (·.icmp) "icmp"
    (fun value => (toml.icmpHost value).getD {}) (fun _ _ => rfl)
    (fun modules r hr => by simp only [assignHostModule, if_neg hr]; split_ifs <;> rfl) raw {}
  have husage := Table.foldl_assign (assignHostModule toml) (·.usage) "usage"
    (fun value => (toml.usageHost value).getD {}) (fun _ _ => rfl)
    (fun modules r hr => by simp only [assignHostModule, if_neg hr]; split_ifs <;> rfl) raw {}
  have htcp := Table.foldl_assign (assignHostModule toml) (·.tcp) "tcp"
    (fun value => (toml.tcpHost value).getD {}) (fun _ _ => rfl)
    (fun modules r hr => by simp only [assignHostModule, if_neg hr]; split_ifs <;> rfl) raw {}
  unfold hostModules
  rw [← hicmp, ← husage, ← htcp]

/-- **The settings of a host are read** where each is of a module it can
set. -/
theorem parseHostModules_eq_ok_iff {hostId : String} {raw : Table String V}
    {modules : ParsedHostModules} :
    parseHostModules toml hostId raw = .ok modules ↔
      (∀ r ∈ raw.rows, KnownHostModule toml r) ∧ modules = hostModules toml raw := by
  rw [← foldl_assignHostModule]
  refine Except.foldlM_eq_ok_iff _ _ fun modules r modules' => ?_
  obtain ⟨id, value⟩ := r
  dsimp only
  split
  · exact (assign_eq_ok_iff {}).trans (by simp [KnownHostModule, assignHostModule])
  · exact (assign_eq_ok_iff {}).trans (by simp [KnownHostModule, assignHostModule])
  · exact (assign_eq_ok_iff {}).trans (by simp [KnownHostModule, assignHostModule])
  · next htcp hicmp husage =>
    refine ⟨fun h => (nomatch h), fun ⟨hknown, _⟩ => ?_⟩
    rcases hknown with ⟨h, -⟩ | ⟨h, -⟩ | ⟨h, -⟩
    · exact (htcp h).elim
    · exact (hicmp h).elim
    · exact (husage h).elim

/-- A module a group can set, with settings that are read. -/
def KnownGroupModule (toml : Toml V) (r : String × V) : Prop :=
  r.1 = "usage" ∧ (toml.usageGroup r.2).isSome = true

/-- What the settings of a group come to. -/
def groupModules (toml : Toml V) (raw : Table String V) : ParsedGroupModules where
  usage := ((raw.find? "usage").map fun value => (toml.usageGroup value).getD {}).getD {}

/-- What one module sets of a group. -/
def assignGroupModule (toml : Toml V) (modules : ParsedGroupModules) (r : String × V) :
    ParsedGroupModules :=
  if r.1 = "usage" then { modules with usage := (toml.usageGroup r.2).getD {} } else modules

theorem foldl_assignGroupModule (raw : Table String V) :
    raw.rows.foldl (assignGroupModule toml) {} = groupModules toml raw := by
  have husage := Table.foldl_assign (assignGroupModule toml) (·.usage) "usage"
    (fun value => (toml.usageGroup value).getD {}) (fun _ _ => rfl)
    (fun modules r hr => by simp only [assignGroupModule, if_neg hr]) raw {}
  unfold groupModules
  rw [← husage]

/-- **The settings of a group are read** where each is of a module it can
set. -/
theorem parseGroupModules_eq_ok_iff {group : String} {raw : Table String V}
    {modules : ParsedGroupModules} :
    parseGroupModules toml group raw = .ok modules ↔
      (∀ r ∈ raw.rows, KnownGroupModule toml r) ∧ modules = groupModules toml raw := by
  rw [← foldl_assignGroupModule]
  refine Except.foldlM_eq_ok_iff _ _ fun modules r modules' => ?_
  obtain ⟨id, value⟩ := r
  dsimp only
  split
  · exact (assign_eq_ok_iff {}).trans (by simp [KnownGroupModule, assignGroupModule])
  · next husage =>
    exact ⟨fun h => (nomatch h), fun ⟨hknown, _⟩ => (husage hknown.1).elim⟩

/-- What the settings of the groups come to. -/
def parsedGroupSettings (toml : Toml V) (raw : Table String (RawGroupSettings V)) :
    Table String ParsedGroupModules :=
  raw.rows.foldl (fun parsed r => parsed.upsert r.1 (groupModules toml r.2.modules)) ∅

theorem find?_parsedGroupSettings (raw : Table String (RawGroupSettings V)) (group : String) :
    (parsedGroupSettings toml raw).find? group =
      (raw.find? group).map fun settings => groupModules toml settings.modules := by
  refine (Table.foldl_assign _ (fun parsed => Table.find? parsed group) group
    (fun settings => some (groupModules toml settings.modules))
    (fun _ _ => Table.find?_upsert_self)
    (fun _ _ hr => Table.find?_upsert_of_ne fun h => hr h.symm) raw ∅).trans ?_
  rcases raw.find? group with - | settings <;> rfl

/-- **The settings of the groups are read** where those of each are. -/
theorem parseGroupSettings_eq_ok_iff {raw : Table String (RawGroupSettings V)}
    {parsed : Table String ParsedGroupModules} :
    parseGroupSettings toml raw = .ok parsed ↔
      (∀ r ∈ raw.rows, ∀ r' ∈ r.2.modules.rows, KnownGroupModule toml r') ∧
        parsed = parsedGroupSettings toml raw := by
  refine Except.foldlM_eq_ok_iff _ _ fun parsed r parsed' => ?_
  rw [Except.bind_eq_ok_iff]
  constructor
  · rintro ⟨modules, hmodules, h⟩
    obtain ⟨hknown, rfl⟩ := parseGroupModules_eq_ok_iff.mp hmodules
    exact ⟨hknown, (Except.ok.inj h).symm⟩
  · rintro ⟨hknown, rfl⟩
    exact ⟨_, parseGroupModules_eq_ok_iff.mpr ⟨hknown, rfl⟩, rfl⟩

/-! ## The groups of the hosts -/

/-- An entry of the groups whose members are known hosts. -/
structure KnownGroup (ids : List String) (r : String × List String) : Prop where
  id : validateId "group" r.1 = .ok ()
  grouped : r.2 ≠ []
  members : ∀ member ∈ r.2, validateId "host id" member = .ok () ∧ member ∈ ids

/-- One more group of a host. -/
def addGroup (group : String) (groupsByHost : Table String (List String)) (member : String) :
    Table String (List String) :=
  groupsByHost.upsert member (((groupsByHost.find? member).getD []) ++ [group])

/-- The groups of each host, by the entries that list it. -/
def rootGroups (groups : Table String (List String)) : Table String (List String) :=
  groups.rows.foldl (fun groupsByHost r => r.2.foldl (addGroup r.1) groupsByHost) ∅

theorem mem_addGroup {group host member g : String} {groupsByHost : Table String (List String)} :
    g ∈ ((addGroup group groupsByHost member).find? host).getD [] ↔
      g ∈ (groupsByHost.find? host).getD [] ∨ (member = host ∧ g = group) := by
  unfold addGroup
  by_cases h : member = host
  · subst h
    rw [Table.find?_upsert_self]
    simp
  · rw [Table.find?_upsert_of_ne fun heq => h heq.symm]
    simp [h]

/-- **The groups of a host** are those of the entries that list it. -/
theorem mem_rootGroups {groups : Table String (List String)} {host g : String} :
    g ∈ ((rootGroups groups).find? host).getD [] ↔
      ∃ members, (g, members) ∈ groups.rows ∧ host ∈ members := by
  -- two loops, over the entries and over the members of one
  have hinner : ∀ (groupsByHost : Table String (List String)) (r : String × List String)
      (x : String), x ∈ ((r.2.foldl (addGroup r.1) groupsByHost).find? host).getD [] ↔
        x ∈ (groupsByHost.find? host).getD [] ∨ (host ∈ r.2 ∧ x = r.1) := fun groupsByHost r x => by
    refine (List.foldl_collects (addGroup r.1)
      (fun groupsByHost x => x ∈ (Table.find? groupsByHost host).getD [])
      (fun member x => member = host ∧ x = r.1) (fun _ _ _ => mem_addGroup) r.2 groupsByHost
      x).trans (or_congr_right ?_)
    constructor
    · rintro ⟨member, hmember, rfl, rfl⟩
      exact ⟨hmember, rfl⟩
    · rintro ⟨hmember, rfl⟩
      exact ⟨host, hmember, rfl, rfl⟩
  refine (List.foldl_collects _ (fun groupsByHost x =>
    x ∈ (Table.find? groupsByHost host).getD []) _ hinner groups.rows ∅ g).trans ?_
  constructor
  · rintro (h | ⟨⟨_, members⟩, hr, hmem, rfl⟩)
    · exact absurd h List.not_mem_nil
    · exact ⟨members, hr, hmem⟩
  · rintro ⟨members, hr, hmem⟩
    exact Or.inr ⟨(g, members), hr, hmem, rfl⟩

theorem validateRootGroup_eq_ok_iff {ids : List String} {r : String × List String}
    {groupsByHost groupsByHost' : Table String (List String)} :
    RawConfig.validateRootGroup ids r.1 r.2 groupsByHost = .ok groupsByHost' ↔
      KnownGroup ids r ∧ groupsByHost' = r.2.foldl (addGroup r.1) groupsByHost := by
  have hmember : ∀ (groupsByHost : Table String (List String)) (member : String)
      (next : Table String (List String)),
      (do
        validateId "host id" member
        if member ∉ ids then
          throw (ConfigError.invalid s!"group {debug r.1} references unknown host {debug member}")
        return groupsByHost.upsert member (((groupsByHost.find? member).getD []) ++ [r.1]) :
          Except ConfigError (Table String (List String))) = .ok next ↔
        (validateId "host id" member = .ok () ∧ member ∈ ids) ∧
          next = addGroup r.1 groupsByHost member := fun groupsByHost member next => by
    rw [Except.bind_eq_ok_iff]
    constructor
    · rintro ⟨⟨⟩, hid, h⟩
      obtain ⟨hmem, h⟩ := Except.unless_eq_ok_iff.mp h
      exact ⟨⟨hid, not_not.mp hmem⟩, (Except.ok.inj h).symm⟩
    · rintro ⟨⟨hid, hmem⟩, rfl⟩
      exact ⟨(), hid, Except.unless_eq_ok_iff.mpr ⟨not_not.mpr hmem, rfl⟩⟩
  unfold RawConfig.validateRootGroup
  constructor
  · intro h
    obtain ⟨⟨⟩, hid, h⟩ := Except.bind_eq_ok_iff.mp h
    obtain ⟨hgrouped, h⟩ := Except.unless_eq_ok_iff.mp h
    obtain ⟨hall, hgroups⟩ := (Except.foldlM_eq_ok_iff _ _ hmember).mp h
    exact ⟨⟨hid, by simpa using hgrouped, hall⟩, hgroups⟩
  · rintro ⟨hknown, hgroups⟩
    refine Except.bind_eq_ok_iff.mpr ⟨(), hknown.id, ?_⟩
    refine Except.unless_eq_ok_iff.mpr ⟨by simpa using hknown.grouped, ?_⟩
    exact (Except.foldlM_eq_ok_iff _ _ hmember).mpr ⟨hknown.members, hgroups⟩

/-- **The entries of the groups are read** where each names known hosts. -/
theorem validateRootGroups_eq_ok_iff {raw : RawConfig V} {ids : List String}
    {groupsByHost : Table String (List String)} :
    raw.validateRootGroups ids = .ok groupsByHost ↔
      (∀ r ∈ raw.groups.rows, KnownGroup ids r) ∧ groupsByHost = rootGroups raw.groups :=
  Except.foldlM_eq_ok_iff (KnownGroup ids)
    (fun groupsByHost r => r.2.foldl (addGroup r.1) groupsByHost)
    fun _ _ _ => validateRootGroup_eq_ok_iff

/-- **The settings of a group** are of a group of some host. -/
theorem validateGroupSettingsNames_eq_ok_iff {raw : RawConfig V} :
    raw.validateGroupSettingsNames (rootGroups raw.groups) = .ok () ↔
      ∀ group ∈ raw.groupSettings.keys, validateId "group" group = .ok () ∧
        ((∃ host ∈ raw.hosts, group ∈ host.groups) ∨
          ∃ members, (group, members) ∈ raw.groups.rows ∧ ∃ host, host ∈ members) := by
  have hlisted : ∀ group, group ∈ (rootGroups raw.groups).rows.flatMap Prod.snd ↔
      ∃ members, (group, members) ∈ raw.groups.rows ∧ ∃ host, host ∈ members := fun group => by
    rw [List.mem_flatMap]
    constructor
    · rintro ⟨⟨host, groups⟩, hrow, hgroup⟩
      have hmem : group ∈ ((rootGroups raw.groups).find? host).getD [] := by
        rw [Table.find?_eq_some.mpr hrow]
        exact hgroup
      obtain ⟨members, hr, hhost⟩ := mem_rootGroups.mp hmem
      exact ⟨members, hr, host, hhost⟩
    · rintro ⟨members, hr, host, hhost⟩
      have hmem := mem_rootGroups.mpr ⟨members, hr, hhost⟩
      rcases hfind : (rootGroups raw.groups).find? host with - | groups
      · rw [hfind] at hmem
        exact absurd hmem List.not_mem_nil
      · rw [hfind] at hmem
        exact ⟨(host, groups), Table.find?_eq_some.mp hfind, hmem⟩
  unfold RawConfig.validateGroupSettingsNames
  rw [Except.forM_eq_ok]
  refine forall₂_congr fun group _ => ?_
  rw [Except.bind_eq_ok_iff]
  constructor
  · rintro ⟨⟨⟩, hid, h⟩
    have hmem := not_not.mp (Except.unless_last_eq_ok_iff.mp h)
    rw [List.mem_append, List.mem_flatMap, hlisted] at hmem
    exact ⟨hid, hmem⟩
  · rintro ⟨hid, hmem⟩
    refine ⟨(), hid, Except.unless_last_eq_ok_iff.mpr (not_not.mpr ?_)⟩
    rw [List.mem_append, List.mem_flatMap, hlisted]
    exact hmem

end SimpleNetworkMonitor.Daemon
