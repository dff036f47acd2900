import SimpleNetworkMonitor.Daemon.Model.Reload
import SimpleNetworkMonitor.Storage.Helpers.Calls
/-!
# Running a reload

What applying a configuration comes to: an error that changes nothing, or
everything it assigns.
-/

namespace SimpleNetworkMonitor.Daemon

open Storage

/-- A storage call in a reload: the storage it leaves, and its error. -/
theorem run_call {α : Type} (c : Call α) (shared : Shared) :
    Program.run (call c) shared =
      ((Program.run c shared.storage).1.mapError .storage,
        { shared with storage := (Program.run c shared.storage).2 }) := by
  rw [call, Program.run_bind, Program.run_get]
  rcases h : Program.run c shared.storage with ⟨result, storage⟩
  simp only [h, Program.run_bind, Program.run_modify, Program.run_mk]

/-- **Applying a configuration** fails and changes nothing, or assigns all of
it. -/
theorem applyReloadedConfig_cases (faults : ReloadFaults) (now now' : ℤ) (config : AppConfig)
    (shared : Shared) :
    (∃ e, Program.run (applyReloadedConfig faults now now' config) shared = (.error e, shared)) ∨
      ∃ conn, (config.hosts.map (·.id)).Nodup ∧
        (reloadTransaction (Catalog.ofHosts config.hosts) (some (policies config)) now now').exec
          shared.storage.inner.conn = .ok ((), conn) ∧
        Program.run (applyReloadedConfig faults now now' config) shared =
          (.ok (), {
            apiToken := config.apiToken
            moduleConfig := config.modules
            storage := published shared.storage (Catalog.ofHosts config.hosts)
              (some (policies config)) conn }) := by
  -- Nothing is assigned before the storage call, and the call decides.
  unfold applyReloadedConfig
  rcases faults.apiTokenPoisoned with - | -
  · rcases faults.moduleConfigPoisoned with - | -
    · simp only [Bool.false_eq_true, if_false, Program.run_bind, run_call]
      rcases updateConfiguration_cases faults.toFaults now now' config.hosts (policies config)
          shared.storage with ⟨e, h⟩ | ⟨conn, hnd, hexec, h⟩
      · exact Or.inl ⟨.storage e, by rw [h]; rfl⟩
      · exact Or.inr ⟨conn, hnd, hexec, by rw [h]; rfl⟩
    · exact Or.inl ⟨_, rfl⟩
  · exact Or.inl ⟨_, rfl⟩

end SimpleNetworkMonitor.Daemon
