import SimpleNetworkMonitor.Daemon.Helpers.Calls
import SimpleNetworkMonitor.Daemon.Model.Manager
/-!
# The listener through reloads

A reload never moves the listener, and it never takes the token away from a
listener that others can reach, unless the file says so. What a file says is
checked against the address it names; what a reload does is checked against
the address the process was started with.
-/

namespace SimpleNetworkMonitor.Daemon

variable {V : Type} {toml : Toml V}

/-! ## What a file that is accepted says -/

/-- **A configuration asks for a token** from those who reach an address, or
says that it does not. -/
def Guards (config : AppConfig) (ip : IpAddr) : Prop :=
  ip.isLoopback = false →
    config.apiToken.isSome = true ∨ config.allowUnauthenticatedNonLoopback = true

theorem guards_of_check {config : AppConfig} {ip : IpAddr}
    (h : ¬ (!ip.isLoopback && config.apiToken.isNone && !config.allowUnauthenticatedNonLoopback) =
      true) : Guards config ip := by
  intro hip
  rcases htoken : config.apiToken with - | token
  · right
    simpa [hip, htoken] using h
  · exact Or.inl rfl

/-- The checks keep what the file says of the listener. -/
theorem guards_of_validate {raw : RawConfig V} {config : AppConfig}
    (h : raw.validate toml = .ok config) : Guards config config.bind.ip := by
  obtain ⟨⟨⟩, -, h⟩ := Except.bind_eq_ok_iff.mp h
  obtain ⟨⟨⟩, hauth, h⟩ := Except.bind_eq_ok_iff.mp h
  obtain ⟨modules, -, h⟩ := Except.bind_eq_ok_iff.mp h
  obtain ⟨⟨⟩, -, h⟩ := Except.bind_eq_ok_iff.mp h
  obtain ⟨ids, -, h⟩ := Except.bind_eq_ok_iff.mp h
  obtain ⟨groupsByHost, -, h⟩ := Except.bind_eq_ok_iff.mp h
  obtain ⟨⟨⟩, -, h⟩ := Except.bind_eq_ok_iff.mp h
  obtain ⟨groupSettings, -, h⟩ := Except.bind_eq_ok_iff.mp h
  obtain ⟨hosts, -, h⟩ := Except.bind_eq_ok_iff.mp h
  obtain rfl := Except.ok.inj h
  refine guards_of_check fun hopen => ?_
  rw [RawConfig.validateAuthSettings, if_pos hopen] at hauth
  cases hauth

theorem guards_of_fromTomlStr {contents : String} {config : AppConfig}
    (h : fromTomlStr toml contents = .ok config) : Guards config config.bind.ip := by
  obtain ⟨raw, -, hraw⟩ := Except.bind_eq_ok_iff.mp h
  exact guards_of_validate hraw

/-- **What a reload is let through with**: the settings of the process, and a
token where the process needs one. -/
structure Replaces (running next : AppConfig) : Prop where
  bind : next.bind = running.bind
  databasePath : next.databasePath = running.databasePath
  apiWorkers : next.apiWorkers = running.apiWorkers
  guards : Guards next running.bind.ip

theorem replaces_of_forReload {running next config : AppConfig}
    (h : forReload next running = .ok config) : Replaces running config := by
  unfold forReload at h
  split_ifs at h with hopen
  obtain rfl := Except.ok.inj h
  exact ⟨rfl, rfl, rfl, guards_of_check hopen⟩

/-- What replaces a replacement replaces the first. -/
theorem Replaces.trans {a b c : AppConfig} (hab : Replaces a b) (hbc : Replaces b c) :
    Replaces a c where
  bind := hbc.bind.trans hab.bind
  databasePath := hbc.databasePath.trans hab.databasePath
  apiWorkers := hbc.apiWorkers.trans hab.apiWorkers
  guards := hab.bind ▸ hbc.guards

namespace Manager

/-! ## The invariant -/

/-- **The listener is guarded**: the running configuration records what the
process was started with, the shared token is that of the configuration
accepted last, which guards the listener; and so does one that is applied
and waits for its monitors. -/
structure Guarded (started : AppConfig) (m : Manager) : Prop where
  config : Replaces started m.config
  token : m.shared.apiToken = m.accepted.apiToken
  accepted : Guards m.accepted started.bind.ip
  applied : ∀ next, m.phase = .applied next → Replaces started next

variable {started : AppConfig} {m : Manager}

theorem guarded_start {storage : Storage.SqliteStorage} (h : Guards started started.bind.ip) :
    Guarded started (start started storage) where
  config := ⟨rfl, rfl, rfl, h⟩
  token := rfl
  accepted := h
  applied _ hphase := by cases hphase

theorem guarded_apply (faults : ReloadFaults) (now now' : ℤ) {next : AppConfig}
    (h : Guarded started m) (hphase : m.phase = .prepared next) :
    Guarded started (step toml (.apply faults now now') m) := by
  rcases hreload : forReload next m.config with e | config
  · have hstep : step toml (.apply faults now now') m = { m with phase := .waiting } := by
      simp only [step, hphase, hreload]
    rw [hstep]
    exact ⟨h.config, h.token, h.accepted, fun _ happlied => (by cases happlied)⟩
  · have hreplaces := h.config.trans (replaces_of_forReload hreload)
    rcases applyReloadedConfig_cases faults now now' config m.shared with
      ⟨e, hrun⟩ | ⟨conn, -, -, hrun⟩
    · have hstep : step toml (.apply faults now now') m = { m with phase := .waiting } := by
        simp only [step, hphase, hreload, hrun]
      rw [hstep]
      exact ⟨h.config, h.token, h.accepted, fun _ happlied => (by cases happlied)⟩
    · simp only [step, hphase, hreload, hrun]
      refine ⟨h.config, rfl, hreplaces.guards, fun next' happlied => ?_⟩
      obtain rfl := Phase.applied.inj happlied
      exact hreplaces

theorem guarded_reload (path : String) (file : Except String String) (prepareError : Option String)
    (h : Guarded started m) (hphase : m.phase = .waiting) :
    Guarded started (step toml (.reload path file prepareError) m) := by
  simp only [step, hphase]
  split
  · exact ⟨h.config, h.token, h.accepted, fun _ happlied => (by cases happlied)⟩
  · exact h

theorem guarded_spawn (poisoned : Bool) {next : AppConfig} (h : Guarded started m)
    (hphase : m.phase = .applied next) : Guarded started (step toml (.spawn poisoned) m) := by
  simp only [step, hphase]
  split_ifs
  · exact ⟨h.config, h.token, h.accepted, fun _ happlied => (by cases happlied)⟩
  · exact ⟨h.applied next hphase, h.token, h.accepted, fun _ happlied => (by cases happlied)⟩

/-- **Every step keeps the listener guarded.** -/
theorem guarded_step (event : ManagerEvent) (h : Guarded started m) :
    Guarded started (step toml event m) := by
  have hsame : step toml event m = m → Guarded started (step toml event m) := fun heq => by
    rw [heq]
    exact h
  cases event with
  | reload path file prepareError =>
    rcases hphase : m.phase with - | next | next | -
    · exact guarded_reload path file prepareError h hphase
    all_goals exact hsame (by simp only [step, hphase])
  | apply faults now now' =>
    rcases hphase : m.phase with - | next | next | -
    · exact hsame (by simp only [step, hphase])
    · exact guarded_apply faults now now' h hphase
    all_goals exact hsame (by simp only [step, hphase])
  | spawn poisoned =>
    rcases hphase : m.phase with - | next | next | -
    · exact hsame (by simp only [step, hphase])
    · exact hsame (by simp only [step, hphase])
    · exact guarded_spawn poisoned h hphase
    · exact hsame (by simp only [step, hphase])
  | exit generation =>
    rcases hphase : m.phase with - | next | next | -
    · simp only [step, hphase]
      split_ifs
      · exact ⟨h.config, h.token, h.accepted, fun _ happlied => (by cases happlied)⟩
      · exact h
    all_goals exact hsame (by simp only [step, hphase])
  | call op => exact ⟨h.config, h.token, h.accepted, h.applied⟩

end Manager

/-! ## The result -/

/-- **No reload opens the listener.** Whatever file the process was started
with, whatever files it is asked to reload later, wherever each reload fails,
and whatever else happens in between: in every state the bind address, the
database and the number of workers on record are those it was started with,
and if the address is not loopback, the shared token is set, or the
configuration accepted last says that it need not be. -/
theorem listener_stays_guarded (toml : Toml V) (contents : String) (started : AppConfig)
    (storage : Storage.SqliteStorage) (events : List ManagerEvent)
    (hstarted : fromTomlStr toml contents = .ok started) :
    let m := Manager.run toml events (Manager.start started storage)
    (m.config.bind = started.bind ∧ m.config.databasePath = started.databasePath ∧
      m.config.apiWorkers = started.apiWorkers) ∧
    (started.bind.ip.isLoopback = false →
      m.shared.apiToken.isSome = true ∨ m.accepted.allowUnauthenticatedNonLoopback = true) := by
  intro m
  have hguarded : Manager.Guarded started m :=
    List.foldl_invariant (P := fun _ m => Manager.Guarded started m)
      (fun _ _ m event _ h => Manager.guarded_step event h)
      (Manager.guarded_start (guards_of_fromTomlStr hstarted))
  refine ⟨⟨hguarded.config.bind, hguarded.config.databasePath, hguarded.config.apiWorkers⟩,
    fun hopen => ?_⟩
  rw [hguarded.token]
  exact hguarded.accepted hopen

/-! ## A sample -/

/-- A file with one host, that listens on an address and has a token. -/
def sampleRaw (bits : BitVec 32) (apiToken : Option ApiToken) : RawConfig Unit where
  bind := ⟨.v4 bits, 8080⟩
  apiToken
  hosts := [{ id := "r1", address := "192.0.2.1", groups := ["example"] }]

/-- The decoder on three files: one that is reachable and has a token, one
that is neither, and one that is not reachable and has another token. -/
def sampleToml : Toml Unit where
  fromStr contents :=
    if contents = "public" then .ok (sampleRaw 0 (some ⟨"fake-token", by decide⟩))
    else if contents = "private" then .ok (sampleRaw 0x7f000001 none)
    else if contents = "moved" then .ok (sampleRaw 0x7f000001 (some ⟨"fake-new-token", by decide⟩))
    else .error " at byte 0"
  icmpModule _ := none
  usageModule _ := none
  tcpModule _ := none
  icmpHost _ := none
  usageHost _ := none
  tcpHost _ := none
  usageGroup _ := none

/-- What the reachable file stands for. -/
def samplePublic : AppConfig where
  bind := ⟨.v4 0, 8080⟩
  apiToken := some ⟨"fake-token", by decide⟩
  hosts := [{ id := "r1", address := "192.0.2.1", name := "r1", groups := ["example"] }]

/-- A reload that is asked for, and goes on as far as it can. -/
def sampleReload (contents : String) : List ManagerEvent :=
  [.reload "monitor.toml" (.ok contents) none, .apply {} 0 0, .spawn false]

theorem samplePublic_guarded :
    let m := Manager.run sampleToml (sampleReload "private" ++ sampleReload "moved")
      (Manager.start samplePublic {})
    (m.generation = 1 ∧ m.shared.apiToken = some ⟨"fake-new-token", by decide⟩) ∧
      m.config.bind = ⟨.v4 0, 8080⟩ :=
  ⟨by decide +kernel, (listener_stays_guarded sampleToml "public" samplePublic {}
    (sampleReload "private" ++ sampleReload "moved") (by decide +kernel)).1.1⟩

end SimpleNetworkMonitor.Daemon
