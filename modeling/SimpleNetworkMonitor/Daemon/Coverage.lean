import SimpleNetworkMonitor.Api.Freshness
import SimpleNetworkMonitor.Api.Inventory
import SimpleNetworkMonitor.Daemon.Helpers.Supervision
/-!
# What is configured is monitored

While the manager waits, the jobs that were spawned, the epochs that are
open and the checks that readiness counts are the enabled checks of one
configuration, the one that was accepted last.
-/

namespace SimpleNetworkMonitor.Daemon

open Storage
open History (EpochCheck EpochRow activeEpoch enabledChecks targetKey targets)

/-! ## Jobs and checks -/

namespace MonitorJob

/-- The address that is probed. -/
def address : MonitorJob → String
  | .icmp host | .usage host => host.address
  | .tcp _ _ _ request => request.address

def port : MonitorJob → ℕ
  | .icmp _ | .usage _ => 0
  | .tcp _ _ _ request => request.port.get

def timeout : MonitorJob → ℕ
  | .icmp host => host.modules.icmp.timeout
  | .usage host => host.modules.usage.timeout
  | .tcp _ _ _ request => request.timeout

/-- **A job of a check** probes its target, as often as it says. -/
structure Of (job : MonitorJob) (t : Host × EpochCheck) : Prop where
  key : job.key = targetKey t
  address : job.address = t.1.address
  port : job.port = t.2.port
  interval : job.interval = t.2.interval
  timeout : job.timeout = t.2.timeout

/-- **An epoch of a job**: the observations of the job, on the target it
probes, with its timing. -/
structure Traces (row : EpochRow) (job : MonitorJob) : Prop where
  key : row.key = job.key
  address : row.signature.address = job.address
  port : row.signature.port = job.port
  intervalMs : row.signature.intervalMs = asMillis job.interval
  timeoutMs : row.signature.timeoutMs = asMillis job.timeout

theorem Of.traces {job : MonitorJob} {t : Host × EpochCheck} {row : EpochRow} (h : job.Of t)
    (hserves : History.Serves row t) : Traces row job := by
  obtain ⟨-, hkey, hsig⟩ := hserves
  refine ⟨hkey.trans h.key.symm, ?_, ?_, ?_, ?_⟩ <;> rw [hsig]
  · exact h.address.symm
  · exact h.port.symm
  · exact congrArg asMillis h.interval.symm
  · exact congrArg asMillis h.timeout.symm

end MonitorJob

/-- **The jobs of a host are those of its checks**, one for one. -/
theorem forall₂_hostJobs (host : Host) :
    List.Forall₂ (fun job check => MonitorJob.Of job (host, check)) (hostJobs host)
      (enabledChecks host) := by
  have htcp : List.Forall₂ (fun job check => MonitorJob.Of job (host, check))
      (PreparedMonitor.tcpJobs host) (host.modules.tcp.checks.map fun check =>
        ⟨.tcp, check.id.value, host.modules.tcp.interval, host.modules.tcp.timeout,
          check.port.get⟩) := by
    rw [PreparedMonitor.tcpJobs, List.forall₂_map_left_iff, List.forall₂_map_right_iff]
    exact List.forall₂_same.mpr fun check _ => ⟨rfl, rfl, rfl, rfl, rfl⟩
  unfold hostJobs enabledChecks
  refine List.rel_append (List.rel_append ?_ ?_) ?_ <;> split_ifs
  · exact .cons ⟨rfl, rfl, rfl, rfl, rfl⟩ .nil
  · exact .nil
  · exact .cons ⟨rfl, rfl, rfl, rfl, rfl⟩ .nil
  · exact .nil
  · exact htcp
  · exact .nil

theorem exists_target_of_job {hosts : List Host} {job : MonitorJob}
    (hjob : job ∈ hosts.flatMap hostJobs) : ∃ t ∈ targets hosts, job.Of t := by
  obtain ⟨host, hmem, hjob⟩ := List.mem_flatMap.mp hjob
  obtain ⟨check, hcheck, hof⟩ := (forall₂_hostJobs host).exists_of_mem hjob
  exact ⟨(host, check), List.mem_flatMap.mpr ⟨host, hmem, List.mem_map_of_mem hcheck⟩, hof⟩

theorem exists_job_of_target {hosts : List Host} {t : Host × EpochCheck} (ht : t ∈ targets hosts) :
    ∃ job ∈ hosts.flatMap hostJobs, job.Of t := by
  obtain ⟨host, hmem, ht⟩ := List.mem_flatMap.mp ht
  obtain ⟨check, hcheck, rfl⟩ := List.mem_map.mp ht
  obtain ⟨job, hjob, hof⟩ := (forall₂_hostJobs host).flip.exists_of_mem hcheck
  exact ⟨job, List.mem_flatMap.mpr ⟨host, hmem, hjob⟩, hof⟩

/-! ## Readiness -/

/-- A record reports a check as enabled for every job of its host. -/
theorem countP_enabled (now : ℤ) (record : HostRecord) :
    (Api.reports now record).countP (·.enabled) = (hostJobs record.host).length := by
  rw [(Api.countP_reports now record).1]
  rcases hicmp : record.host.modules.icmp.enabled <;>
    rcases husage : record.host.modules.usage.enabled <;>
    rcases htcp : record.host.modules.tcp.enabled <;>
    simp [hostJobs, PreparedMonitor.tcpJobs, Api.HostResponse.ofRecord, List.filter_map,
      Function.comp_def, hicmp, husage, htcp] <;>
    omega

/-- **Readiness counts the jobs** of the hosts that are listed. -/
theorem readyz_enabledChecks (db : Database) (catalog : Catalog) (now now' : ℤ) :
    ∃ answer, Api.readyz (sortedRecords db catalog { usage := { now } }) now' = .ok answer ∧
      answer.body.enabledChecks = (catalog.hosts.flatMap hostJobs).length := by
  rw [Api.sortedRecords_all, Api.readyz_ok]
  refine ⟨_, rfl, ?_⟩
  show Api.countReports (·.enabled) now' _ = _
  rw [Api.countReports, List.map_map, List.length_flatMap]
  exact congrArg List.sum (List.map_congr_left fun host _ => countP_enabled now' (hostRecord db host))

/-! ## What is monitored -/

section

variable {V : Type} {toml : Toml V} {path : String} {file : Except String String}
variable {backend : Except String Unit} {faults : StartFaults} {now now' : ℤ} {conn : Database}
variable {p p₀ : Process}

/-- **While nothing is being applied** the jobs, the open epochs and the count
of readiness are those of the configuration in force. -/
theorem Supervised.monitored (h : Supervised p) (hsettled : p.manager.phase.settled = true) :
    p.jobs.Perm (p.manager.accepted.hosts.flatMap hostJobs) ∧ (p.jobs.map (·.key)).Nodup ∧
      (∀ job ∈ p.jobs, ∃ id row, activeEpoch p.storage.inner.conn.history job.key = some (id, row) ∧
        job.Traces row) ∧
      (∀ id row, (id, row) ∈ p.storage.inner.conn.history.epochs.rows → row.isOpen = true →
        ∃ job ∈ p.jobs, job.Traces row) ∧
      ∀ now now', ∃ answer, Api.readyz (sortedRecords p.storage.inner.conn p.storage.hosts
          { usage := { now } }) now' = .ok answer ∧
        answer.body.enabledChecks = p.jobs.length := by
  have hrunning : p.manager.phase ≠ .exited := by
    intro heq
    rw [heq] at hsettled
    cases hsettled
  have hinstalled := h.installed
  have hjobs := h.jobs hrunning
  rw [← h.accepted hsettled] at hjobs
  have hserving := hinstalled.serving
  refine ⟨hjobs, ?_, fun job hjob => ?_, fun id row hmem hopen => ?_, fun now now' => ?_⟩
  · rw [(hjobs.map (·.key)).nodup_iff, keys_jobs]
    exact History.nodup_targetKeys hinstalled.nodup hinstalled.valid
  · obtain ⟨t, ht, hof⟩ := exists_target_of_job (hjobs.subset hjob)
    obtain ⟨id, row, hmem, hserves⟩ := hserving.served t ht
    have htraces := hof.traces hserves
    exact ⟨id, row, htraces.key ▸ History.activeEpoch_of_mem hserving.one hmem hserves.1, htraces⟩
  · obtain ⟨t, ht, hserves⟩ := hserving.only id row hmem hopen
    obtain ⟨job, hjob, hof⟩ := exists_job_of_target ht
    exact ⟨job, hjobs.symm.subset hjob, hof.traces hserves⟩
  · obtain ⟨answer, hanswer, hcount⟩ := readyz_enabledChecks p.storage.inner.conn p.storage.hosts now
      now'
    refine ⟨answer, hanswer, hcount.trans ?_⟩
    rw [hinstalled.catalog, hjobs.length_eq]
    -- the catalog lists the same hosts in the order of their IDs
    refine (List.Perm.flatMap_right _ ((List.perm_ext_iff_of_nodup ?_ ?_).mpr fun host => ?_)).length_eq
    · exact (Catalog.nodup_ids _).of_map _
    · exact hinstalled.nodup.of_map _
    · exact Catalog.mem_ofHosts hinstalled.nodup

/-- **What is configured is monitored, and nothing else is.** In every state
that a process comes to, but while a reload is between the storage and the
monitors: its jobs are those of the configuration it runs with, no two under
one key; every job has the open epoch of its check, on its target and with
its timing, and every open epoch belongs to a job; and readiness counts as
many enabled checks as there are jobs. -/
theorem checks_monitored (hstart : main toml path file backend faults now now' conn = some p₀)
    {events : List ProcessEvent} (hsqlite : SqliteFaults events)
    (hsettled : (p₀.run toml events).manager.phase.settled = true) :
    let p := p₀.run toml events
    p.jobs.Perm (p.manager.config.hosts.flatMap hostJobs) ∧ (p.jobs.map (·.key)).Nodup ∧
      (∀ job ∈ p.jobs, ∃ id row, activeEpoch p.storage.inner.conn.history job.key = some (id, row) ∧
        job.Traces row) ∧
      (∀ id row, (id, row) ∈ p.storage.inner.conn.history.epochs.rows → row.isOpen = true →
        ∃ job ∈ p.jobs, job.Traces row) ∧
      ∀ now now', ∃ answer, Api.readyz (sortedRecords p.storage.inner.conn p.storage.hosts
          { usage := { now } }) now' = .ok answer ∧
        answer.body.enabledChecks = p.jobs.length := by
  intro p
  have h : Supervised p := supervised_run (supervised_main hstart) hsqlite
  have hmonitored := h.monitored hsettled
  rwa [h.accepted hsettled] at hmonitored

end

/-! ## Samples -/

/-- A process that starts on an empty database. -/
def sampleMain : Option Process :=
  main sampleToml "monitor.toml" (.ok "public") (.ok ()) {} 0 0 {}

/-- Its host answers, and a reload is asked for before the answer is stored.
The answer is stored after it all the same. -/
def sampleRun : List ProcessEvent :=
  [.task 0 0 (.load none), .task 0 0 .admitted,
    .task 0 0 (.observed (.checkResult "r1" {} none) true 0),
    .reload "monitor.toml" (.ok "public") (.ok ()), .apply {} 2000 2000, .spawn false,
    .task 0 0 (.persist {} 3000 3000)]

theorem sqliteFaults_sampleRun : SqliteFaults sampleRun := by
  intro n i faults now now' hmem
  simp only [sampleRun, List.mem_cons, reduceCtorEq, false_or, List.not_mem_nil, or_false,
    ProcessEvent.task.injEq, TaskEvent.persist.injEq, and_false] at hmem
  obtain ⟨-, -, rfl, -, -⟩ := hmem
  exact fun _ hmem => absurd hmem List.not_mem_nil

/-- A file of two hosts, and the same file once one of them has moved. -/
def sampleMovingToml : Toml (List TcpCheckConfig) :=
  { sampleTargetsToml with
    fromStr := fun contents =>
      if contents = "moved" then
        .ok { sampleTargets with
          hosts := sampleTargets.hosts.map fun host =>
            if host.id = "r1" then { host with address := "192.0.2.2" } else host }
      else .ok sampleTargets }

def sampleMoving : Option Process :=
  main sampleMovingToml "monitor.toml" (.ok "listed") (.ok ()) {} 0 0 {}

def sampleMove : List ProcessEvent :=
  [.reload "monitor.toml" (.ok "moved") (.ok ()), .apply {} 2000 2000, .spawn false]

/-- Five checks are monitored, and the one that has moved has an epoch where
it now is. -/
theorem sampleMain_monitored : ∃ p : Process, sampleMoving = some p ∧
    let q := p.run sampleMovingToml sampleMove
    q.manager.generation = 1 ∧ q.jobs.length = 5 ∧ (q.jobs.map (·.key)).Nodup ∧
      ∃ job ∈ q.jobs, (job.key = ⟨"r1", .tcp, "ssh"⟩ ∧ job.address = "192.0.2.2") ∧
        ∃ id row, activeEpoch q.storage.inner.conn.history job.key = some (id, row) ∧
          job.Traces row := by
  have hstart : sampleMoving.isSome = true := by decide +kernel
  obtain ⟨p, hp⟩ := Option.isSome_iff_exists.mp hstart
  have hrun : sampleMoving.all fun p =>
      let q := p.run sampleMovingToml sampleMove
      q.manager.phase.settled && q.manager.generation = 1 && q.jobs.length = 5 &&
        q.jobs.any fun job => job.key = ⟨"r1", .tcp, "ssh"⟩ ∧ job.address = "192.0.2.2" := by
    decide +kernel
  simp only [hp, Option.all_some, Bool.and_eq_true, decide_eq_true_eq, List.any_eq_true] at hrun
  obtain ⟨⟨⟨hsettled, hgeneration⟩, hjobs⟩, job, hmem, hmoved⟩ := hrun
  have hsqlite : SqliteFaults sampleMove := fun _ _ _ _ _ hmem => by simp [sampleMove] at hmem
  obtain ⟨-, hkeys, hserved, -⟩ := checks_monitored hp hsqlite hsettled
  exact ⟨p, hp, hgeneration, hjobs, hkeys, job, hmem, hmoved, hserved job hmem⟩

end SimpleNetworkMonitor.Daemon
