import SimpleNetworkMonitor.Daemon.Helpers.Config
import SimpleNetworkMonitor.Daemon.Listener
import SimpleNetworkMonitor.Storage.Publication
/-!
# A file that is accepted can be published

The rules of a configuration are written twice: over the settings of a
file, and over the hosts and policies that are published. Whatever the
checks of a file let through, the storage lets through.
-/

namespace SimpleNetworkMonitor.Daemon

open Storage

variable {V : Type} {toml : Toml V} {raw : RawConfig V} {parsed : Parsed}
  {config running published : AppConfig}

/-- **A host that is accepted is valid.** -/
theorem HostChecks.validate {modules : ModuleConfigs} {host : Host} (h : HostChecks modules host)
    (hid : validateId "host id" host.id = .ok ()) : host.validate = .ok () := by
  obtain ⟨⟨⟩, hicmpInterval, hrest⟩ := Except.bind_eq_ok_iff.mp h.durations
  obtain ⟨⟨⟩, hicmpTimeout, hrest⟩ := Except.bind_eq_ok_iff.mp hrest
  obtain ⟨⟨⟩, husageInterval, husageTimeout⟩ := Except.bind_eq_ok_iff.mp hrest
  unfold Host.validate
  refine Except.unless_eq_ok_iff.mpr ⟨validateId_eq_ok_iff.mp hid, ?_⟩
  refine Except.bind_eq_ok_iff.mpr ⟨(), h.address, ?_⟩
  refine Except.bind_eq_ok_iff.mpr ⟨(), validateDuration_eq_ok hicmpInterval, ?_⟩
  refine Except.bind_eq_ok_iff.mpr ⟨(), validateDuration_eq_ok hicmpTimeout, ?_⟩
  refine Except.bind_eq_ok_iff.mpr ⟨(), validateDuration_eq_ok husageInterval, ?_⟩
  exact Except.bind_eq_ok_iff.mpr ⟨(), validateDuration_eq_ok husageTimeout, h.checks⟩

/-- The sample retention is a duration in range. -/
theorem validateDuration_sampleRetention {modules : ModuleConfigs}
    (h : validateModuleConfig modules = .ok ()) :
    SimpleNetworkMonitor.validateDuration modules.usage.sampleRetention = .ok () := by
  unfold validateModuleConfig at h
  obtain ⟨⟨⟩, -, h⟩ := Except.bind_eq_ok_iff.mp h
  obtain ⟨⟨⟩, -, h⟩ := Except.bind_eq_ok_iff.mp h
  obtain ⟨⟨⟩, -, h⟩ := Except.bind_eq_ok_iff.mp h
  obtain ⟨⟨⟩, -, h⟩ := Except.bind_eq_ok_iff.mp h
  obtain ⟨-, h⟩ := Except.unless_eq_ok_iff.mp h
  obtain ⟨⟨⟩, -, h⟩ := Except.bind_eq_ok_iff.mp h
  obtain ⟨⟨⟩, -, h⟩ := Except.bind_eq_ok_iff.mp h
  obtain ⟨⟨⟩, -, h⟩ := Except.bind_eq_ok_iff.mp h
  obtain ⟨⟨⟩, -, h⟩ := Except.bind_eq_ok_iff.mp h
  obtain ⟨⟨⟩, -, h⟩ := Except.bind_eq_ok_iff.mp h
  exact validateDuration_eq_ok h

namespace Accepts

/-- The policies of a file that is accepted are valid. -/
theorem policies_validate (h : Accepts toml raw parsed config) :
    (policies config).validate = .ok () := by
  have hcore := h.core
  unfold RawConfig.validateCoreSettings at hcore
  obtain ⟨⟨⟩, hretention, hcore⟩ := Except.bind_eq_ok_iff.mp hcore
  obtain ⟨⟨⟩, hhistory, hcore⟩ := Except.bind_eq_ok_iff.mp hcore
  obtain ⟨⟨⟩, hmaintenance, -⟩ := Except.bind_eq_ok_iff.mp hcore
  rw [h.config]
  refine Except.bind_eq_ok_iff.mpr
    ⟨(), orInvalidData_eq_ok.mpr (Except.mapError_eq_ok_iff.mp hhistory), ?_⟩
  refine Except.bind_eq_ok_iff.mpr
    ⟨(), orInvalidData_eq_ok.mpr (Except.mapError_eq_ok_iff.mp hmaintenance), ?_⟩
  refine Except.forM_eq_ok.mpr fun duration hmem => orInvalidData_eq_ok.mpr ?_
  rcases List.mem_pair.mp hmem with rfl | rfl
  · exact validateDuration_sampleRetention h.moduleConfig
  · exact validateDuration_eq_ok hretention

/-- The hosts keep their IDs. -/
theorem ids_eq (h : Accepts toml raw parsed config) :
    config.hosts.map (·.id) = raw.hosts.map (·.id) := by
  have hhosts := h.hosts
  generalize raw.hosts = rawHosts at hhosts
  generalize config.hosts = hosts at hhosts
  induction hhosts with
  | nil => rfl
  | cons hhost _ ih =>
    obtain ⟨_, -, rfl, -⟩ := intoHost_eq_ok_iff.mp hhost
    exact congrArg₂ List.cons rfl ih

theorem nodup_ids (h : Accepts toml raw parsed config) : (config.hosts.map (·.id)).Nodup := by
  obtain ⟨hids, hnd, -⟩ := validateHostIds_eq_ok h.ids
  rw [h.ids_eq, ← hids]
  exact hnd

theorem host_validate (h : Accepts toml raw parsed config) {host : Host}
    (hmem : host ∈ config.hosts) : host.validate = .ok () := by
  obtain ⟨rawHost, hraw, hhost⟩ := List.Forall₂.exists_of_mem (List.Forall₂.flip h.hosts) hmem
  obtain ⟨_, -, rfl, hchecks⟩ := intoHost_eq_ok_iff.mp hhost
  exact hchecks.validate ((validateHostIds_eq_ok h.ids).2.2 rawHost hraw)

/-- **What is accepted is publishable.** -/
theorem publishable (h : Accepts toml raw parsed config) :
    Publishable config.hosts (policies config) :=
  publishable_of_valid h.policies_validate (fun _ hmem => h.host_validate hmem) h.nodup_ids

end Accepts

/-- A reload publishes the hosts and the policies of the file. -/
theorem publishes_of_forReload (h : forReload config running = .ok published) :
    published.hosts = config.hosts ∧ policies published = policies config := by
  unfold forReload at h
  split_ifs at h
  obtain rfl := Except.ok.inj h
  exact ⟨rfl, rfl⟩

/-- **A file that is accepted is publishable.** Every check its publication
makes succeeds, over the hosts as they are listed and as the catalog lists
them; so a reload of it fails only at a lock that is poisoned or a statement
that fails, and a start on it only at such a statement or where the cache
cannot be read. No error among these calls the data invalid, unless SQLite
does. -/
theorem accepted_publishable (toml : Toml V) (raw : RawConfig V) (config : AppConfig)
    (haccepted : raw.validate toml = .ok config) :
    Publishable config.hosts (policies config) ∧
    Publishable (Catalog.ofHosts config.hosts).hosts (policies config) ∧
    (∀ published : AppConfig,
      (published = config ∨ ∃ running, forReload config running = .ok published) →
      ∀ (faults : Faults) (now now' : ℤ) (storage : SqliteStorage) (e : StorageError),
        (Program.run (updateConfiguration faults now now' published.hosts (policies published))
          storage).1 = .error e → faults.Raise e) ∧
    (∀ (faults : Faults) (readError : Option StorageError) (now : ℤ) (conn : Database)
        (e : StorageError),
      (newInitialized faults readError now conn config.hosts).1 = .error e →
        faults.Raise e ∨ readError = some e) ∧
    ∀ faults : Faults, faults.OfSqlite → ∀ message, ¬ faults.Raise (.invalidData message) := by
  obtain ⟨parsed, h⟩ := validate_eq_ok_iff.mp haccepted
  refine ⟨h.publishable, h.publishable.ofHosts, ?_, ?_, ?_⟩
  · intro published hpublished faults now now' storage e herror
    have hsame : published.hosts = config.hosts ∧ policies published = policies config := by
      rcases hpublished with rfl | ⟨running, hreload⟩
      · exact ⟨rfl, rfl⟩
      · exact publishes_of_forReload hreload
    rw [hsame.1, hsame.2] at herror
    exact raise_of_updateConfiguration h.publishable herror
  · intro faults readError now conn e herror
    exact raise_of_newInitialized h.publishable herror
  · exact fun faults hsqlite message => hsqlite.not_raise_invalidData message

/-! ## A sample -/

def sampleSsh : TcpCheckConfig := ⟨⟨"ssh", by decide⟩, ⟨22, by decide, by decide⟩⟩

def sampleWeb : TcpCheckConfig := ⟨⟨"https", by decide⟩, ⟨8443, by decide, by decide⟩⟩

/-- A file with two hosts, each with checks of its own, in groups that are
listed at the root and at one of the hosts. The settings of a module are the
checks. -/
def sampleTargets : RawConfig (List TcpCheckConfig) where
  modules := ⟨[("tcp", [])], List.nodup_singleton _⟩
  groups := ⟨[("edge", ["r2", "r1"]), ("core", ["r1"])], by decide⟩
  hosts := [
    { id := "r2", address := "router-2.example", groups := ["lab"]
      modules := ⟨[("tcp", [sampleWeb, sampleSsh])], List.nodup_singleton _⟩ },
    { id := "r1", address := "192.0.2.1"
      modules := ⟨[("tcp", [sampleSsh])], List.nodup_singleton _⟩ }]

def sampleTargetsToml : Toml (List TcpCheckConfig) where
  fromStr _ := .ok sampleTargets
  icmpModule _ := none
  usageModule _ := none
  tcpModule _ := some { enabled := true }
  icmpHost _ := none
  usageHost _ := none
  tcpHost checks := some { checks }
  usageGroup _ := none

/-- What the file stands for. -/
def sampleTargeted : AppConfig where
  modules := { tcp := { enabled := true } }
  hosts := [
    { id := "r2", address := "router-2.example", name := "r2", groups := ["edge", "lab"]
      modules := { tcp := { enabled := true, checks := [sampleWeb, sampleSsh] } } },
    { id := "r1", address := "192.0.2.1", name := "r1", groups := ["core", "edge"]
      modules := { tcp := { enabled := true, checks := [sampleSsh] } } }]

/-- The file is publishable, and a poisoned lock is what rejects it. -/
theorem sampleAccepted_publishable :
    Publishable sampleTargeted.hosts (policies sampleTargeted) ∧
    Publishable (Catalog.ofHosts sampleTargeted.hosts).hosts (policies sampleTargeted) ∧
    ({ poisoned := fun _ => true } : Faults).Raise .lockPoisoned := by
  obtain ⟨hlisted, hcatalog, hreload, -⟩ := accepted_publishable sampleTargetsToml sampleTargets
    sampleTargeted (by decide +kernel)
  exact ⟨hlisted, hcatalog, hreload sampleTargeted (Or.inl rfl) { poisoned := fun _ => true } 0 0 {}
    .lockPoisoned (by decide +kernel)⟩

end SimpleNetworkMonitor.Daemon
