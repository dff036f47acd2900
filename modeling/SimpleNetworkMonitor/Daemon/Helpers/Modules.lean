import SimpleNetworkMonitor.Daemon.Acceptance
import SimpleNetworkMonitor.Daemon.Model.Modules
import SimpleNetworkMonitor.History.Helpers.Inventory
import Mathlib.Data.List.ReduceOption
/-!
# The jobs of a configuration

What the modules prepare, host by host: a job for every check that is
enabled, and no other. A module that is off has no host that is on.
-/

namespace SimpleNetworkMonitor.Daemon

open History (enabledChecks targetKey targets)

/-- The jobs of one host. -/
def hostJobs (host : Host) : List MonitorJob :=
  (if host.modules.icmp.enabled then [.icmp host] else [])
    ++ (if host.modules.usage.enabled then [.usage host] else [])
    ++ if host.modules.tcp.enabled then PreparedMonitor.tcpJobs host else []

theorem mem_hostJobs {host : Host} {job : MonitorJob} : job ∈ hostJobs host ↔
    (host.modules.icmp.enabled = true ∧ job = .icmp host) ∨
      (host.modules.usage.enabled = true ∧ job = .usage host) ∨
      (host.modules.tcp.enabled = true ∧ job ∈ PreparedMonitor.tcpJobs host) := by
  unfold hostJobs
  rw [List.mem_append, List.mem_append, or_assoc]
  refine or_congr ?_ (or_congr ?_ ?_) <;> split_ifs with hon <;> simp [hon]

/-- **The jobs of a host are of its enabled checks.** -/
theorem keys_hostJobs (host : Host) :
    (hostJobs host).map (·.key) = (enabledChecks host).map fun check => targetKey (host, check) := by
  rcases hicmp : host.modules.icmp.enabled <;> rcases husage : host.modules.usage.enabled <;>
    rcases htcp : host.modules.tcp.enabled <;>
    simp [hostJobs, enabledChecks, PreparedMonitor.tcpJobs, MonitorJob.key, targetKey, hicmp, husage,
      htcp, Function.comp_def]

theorem keys_jobs (hosts : List Host) :
    (hosts.flatMap hostJobs).map (·.key) = (targets hosts).map targetKey := by
  rw [targets, List.map_flatMap, List.map_flatMap]
  refine List.flatMap_congr fun host _ => ?_
  rw [keys_hostJobs, List.map_map]
  rfl

/-- **A host is only enabled where its module is.** -/
structure Gated (config : AppConfig) : Prop where
  icmp : config.modules.icmp.enabled = false → ∀ host ∈ config.hosts,
    host.modules.icmp.enabled = false
  usage : config.modules.usage.enabled = false → ∀ host ∈ config.hosts,
    host.modules.usage.enabled = false
  tcp : config.modules.tcp.enabled = false → ∀ host ∈ config.hosts,
    host.modules.tcp.enabled = false

theorem Accepts.gated {V : Type} {toml : Toml V} {raw : RawConfig V} {parsed : Parsed}
    {config : AppConfig} (h : Accepts toml raw parsed config) : Gated config := by
  have hchecks : ∀ host ∈ config.hosts, HostChecks config.modules host := by
    intro host hmem
    obtain ⟨rawHost, -, hhost⟩ := List.Forall₂.exists_of_mem (List.Forall₂.flip h.hosts) hmem
    obtain ⟨_, -, rfl, hchecks⟩ := intoHost_eq_ok_iff.mp hhost
    rwa [congrArg AppConfig.modules h.config]
  exact ⟨fun hoff host hmem => (hchecks host hmem).icmp hoff,
    fun hoff host hmem => (hchecks host hmem).usage hoff,
    fun hoff host hmem => (hchecks host hmem).tcp hoff⟩

/-! ## What a module prepares -/

section Prepare

variable {config : AppConfig} {backend : Except String Unit} {module : MonitorModule}
variable {prepared : Option PreparedMonitor} {own : Host → List MonitorJob}

/-- What was prepared has the jobs of every host, and some. -/
def Covers (hosts : List Host) (own : Host → List MonitorJob) (prepared : Option PreparedMonitor) :
    Prop :=
  prepared.elim [] (·.jobs) = hosts.flatMap own ∧ ∀ monitor ∈ prepared, monitor.jobs ≠ []

/-- **One module.** It prepares nothing where no host has a job of it. -/
theorem covers_prepare (h : module.prepare config = .ok prepared)
    (hgate : module.globallyEnabled config = false → ∀ host ∈ config.hosts, own host = [])
    (hhosts : module.hasEnabledHosts config = true ↔ ∃ host ∈ config.hosts, own host ≠ [])
    (hjobs : ∀ monitor, module.monitor config = .ok monitor →
      monitor.jobs = config.hosts.flatMap own) : Covers config.hosts own prepared := by
  unfold MonitorModule.prepare at h
  split_ifs at h with hoff
  · obtain rfl := Except.ok.inj h
    refine ⟨(List.flatMap_eq_nil_iff.mpr fun host hmem => ?_).symm, fun monitor hnone => nomatch hnone⟩
    rcases Bool.or_eq_true_iff.mp hoff with hglobal | hnone
    · exact hgate (by simpa using hglobal) host hmem
    · by_contra hne
      rw [hhosts.mpr ⟨host, hmem, hne⟩] at hnone
      cases hnone
  · obtain ⟨monitor, hmonitor, rfl⟩ := Except.map_eq_ok_iff.mp h
    refine ⟨hjobs monitor hmonitor, fun monitor' heq => ?_⟩
    obtain rfl := Option.some.inj heq
    rw [hjobs monitor hmonitor, ne_eq, List.flatMap_eq_nil_iff]
    intro hnil
    obtain ⟨host, hmem, hne⟩ := hhosts.mp (by simp at hoff; exact hoff.2)
    exact hne (hnil host hmem)

/-- The jobs of a host in a module that makes one for every host it is
enabled on. -/
theorem map_filter_eq_flatMap (hosts : List Host) (enabled : Host → Bool) (job : Host → MonitorJob) :
    (hosts.filter enabled).map job = hosts.flatMap fun host => if enabled host then [job host] else [] := by
  induction hosts with
  | nil => rfl
  | cons host hosts ih =>
    rw [List.filter_cons, List.flatMap_cons, ← ih]
    split_ifs <;> rfl

theorem exists_single_iff {hosts : List Host} {enabled : Host → Bool} {job : Host → MonitorJob} :
    hosts.any enabled = true ↔ ∃ host ∈ hosts, (if enabled host then [job host] else []) ≠ [] := by
  simp

theorem covers_icmp (hg : Gated config) (h : (IcmpModule backend).prepare config = .ok prepared) :
    Covers config.hosts (fun host => if host.modules.icmp.enabled then [.icmp host] else [])
      prepared := by
  refine covers_prepare h (fun hoff host hmem => by simp [hg.icmp hoff host hmem])
    exists_single_iff fun monitor hmonitor => ?_
  obtain ⟨⟨⟩, -, hmonitor⟩ := Except.bind_eq_ok_iff.mp hmonitor
  obtain rfl := Except.ok.inj hmonitor
  exact map_filter_eq_flatMap _ _ _

theorem covers_usage (hg : Gated config) (h : UsageModule.prepare config = .ok prepared) :
    Covers config.hosts (fun host => if host.modules.usage.enabled then [.usage host] else [])
      prepared := by
  refine covers_prepare h (fun hoff host hmem => by simp [hg.usage hoff host hmem])
    exists_single_iff fun monitor hmonitor => ?_
  obtain rfl := Except.ok.inj hmonitor
  rw [PreparedMonitor.jobs, List.filter_filter]
  simp only [Bool.and_self]
  exact map_filter_eq_flatMap _ _ _

theorem covers_tcp (hg : Gated config) (h : TcpModule.prepare config = .ok prepared) :
    Covers config.hosts
      (fun host => if host.modules.tcp.enabled then PreparedMonitor.tcpJobs host else [])
      prepared := by
  refine covers_prepare h (fun hoff host hmem => by simp [hg.tcp hoff host hmem]) ?_
    fun monitor hmonitor => ?_
  · -- the gate asks for a check, as the jobs do
    simp [TcpModule, PreparedMonitor.tcpJobs]
  · obtain rfl := Except.ok.inj hmonitor
    rw [PreparedMonitor.jobs]
    induction config.hosts with
    | nil => rfl
    | cons host hosts ih =>
      rw [List.filter_cons, List.flatMap_cons, ← ih]
      split_ifs <;> rfl

/-- **What a configuration prepares.** Every check that is enabled has one
job, and every monitor has a job. -/
theorem perm_jobs_of_prepare {monitors : List PreparedMonitor} (hg : Gated config)
    (h : prepareMonitorConfig backend config = .ok monitors) :
    (monitors.flatMap (·.jobs)).Perm (config.hosts.flatMap hostJobs) ∧
      ∀ monitor ∈ monitors, monitor.jobs ≠ [] := by
  obtain ⟨all, hall, hmonitors⟩ := Except.bind_eq_ok_iff.mp h
  obtain rfl := Except.ok.inj hmonitors
  obtain ⟨icmp, _, hicmp, h₁, rfl⟩ := List.forall₂_cons_left_iff.mp (Except.mapM_eq_ok hall)
  obtain ⟨usage, _, husage, h₂, rfl⟩ := List.forall₂_cons_left_iff.mp h₁
  obtain ⟨tcp, _, htcp, h₃, rfl⟩ := List.forall₂_cons_left_iff.mp h₂
  obtain rfl := List.forall₂_nil_left_iff.mp h₃
  obtain ⟨hicmp, hicmp'⟩ := covers_icmp hg hicmp
  obtain ⟨husage, husage'⟩ := covers_usage hg husage
  obtain ⟨htcp, htcp'⟩ := covers_tcp hg htcp
  have hjobs : [icmp, usage, tcp].reduceOption.flatMap (·.jobs) =
      icmp.elim [] (·.jobs) ++ usage.elim [] (·.jobs) ++ tcp.elim [] (·.jobs) := by
    cases icmp <;> cases usage <;> cases tcp <;> simp [List.reduceOption]
  refine ⟨?_, fun monitor hmem => ?_⟩
  · rw [hjobs, hicmp, husage, htcp]
    -- module by module, or host by host
    exact ((List.flatMap_append_perm _ _ _).append_right _).trans (List.flatMap_append_perm _ _ _)
  · rw [List.reduceOption_mem_iff] at hmem
    rcases List.mem_cons.mp hmem with heq | hmem
    · exact hicmp' monitor heq.symm
    · rcases List.mem_pair.mp hmem with heq | heq
      · exact husage' monitor heq.symm
      · exact htcp' monitor heq.symm

end Prepare

end SimpleNetworkMonitor.Daemon
