import SimpleNetworkMonitor.App.Replacement
import SimpleNetworkMonitor.Daemon.Helpers.Modules
import SimpleNetworkMonitor.Daemon.Model.Process
import SimpleNetworkMonitor.Daemon.Reload
import SimpleNetworkMonitor.History.Helpers.Serving
/-!
# What a step of the process can do

The steps of the process, one constructor for each, and what they keep: the
storage holds the configuration that was accepted last, and the monitors of
the generation in force are those of that configuration, with handles for
the storage as it is.
-/

namespace SimpleNetworkMonitor.Daemon

open Storage
open History (Serving targets)

/-! ## The storage between reloads -/

/-- **What everything but a reload leaves alone.** -/
structure Undisturbed (storage storage' : SqliteStorage) : Prop where
  hosts : storage'.hosts = storage.hosts
  generation : storage'.inner.generation = storage.inner.generation
  serving : ∀ inventory, Serving storage.inner.conn.history inventory →
    Serving storage'.inner.conn.history inventory

theorem Undisturbed.refl (storage : SqliteStorage) : Undisturbed storage storage :=
  ⟨rfl, rfl, fun _ h => h⟩

theorem undisturbed_of_sameData {storage storage' : SqliteStorage} (h : SameData storage storage') :
    Undisturbed storage storage' :=
  ⟨h.hosts, h.generation, fun _ hs => by rw [h.conn]; exact hs⟩

/-- A change that is no reload. -/
theorem undisturbed_of_change {storage storage' : SqliteStorage}
    {observed : Option UsageObservation} (h : Change storage observed storage')
    (hgeneration : storage'.inner.generation = storage.inner.generation) :
    Undisturbed storage storage' := by
  cases h with
  | settings h => exact undisturbed_of_sameData h
  | checkResult state transition now hkey hcurrent =>
    refine ⟨rfl, rfl, fun inventory hs => ?_⟩
    show Serving (icmpHistory _ _ _ _) _
    unfold icmpHistory
    split
    · exact hs
    · exact hs.record _ _ _ _ _ _
  | tcp snapshot now hget hcheck hcurrent => exact ⟨rfl, rfl, fun _ hs => hs.record _ _ _ _ _ _⟩
  | usage usageSamples now hget hvalid hcurrent hinsert =>
    exact ⟨rfl, rfl, fun _ hs => hs.record _ _ _ _ _ _⟩
  | pruned scan cutoff usageSamples => exact ⟨rfl, rfl, fun _ hs => hs⟩
  | rolledUp config nowMs limit => exact ⟨rfl, rfl, fun _ hs => hs.rollup _ _ _⟩
  | prunedHistory scan limit nowMs config usageRetention =>
    exact ⟨rfl, rfl, fun _ hs => hs.prune _ _ _ _ _⟩
  | published policies hnd hexec => exact absurd hgeneration (Nat.succ_ne_self _)

theorem generation_apply {op : StorageOp} (hop : publishes op = false) (storage : SqliteStorage) :
    (op.apply storage).inner.generation = storage.inner.generation := by
  cases op with
  | updateCheckResult handle faults now hostId state transition =>
    rcases updateCheckResult_cases handle faults now hostId state transition storage with
      ⟨e, h⟩ | ⟨-, -, h⟩
    · simp only [StorageOp.apply, h]
    · simp only [StorageOp.apply, h]
      rfl
  | updateUsage handle faults now now' hostId snapshot =>
    rcases updateUsage_cases handle faults now now' hostId snapshot storage with
      ⟨e, h⟩ | ⟨host, shouldInsertHistory, usageSamples, -, -, -, -, -, h⟩ <;>
      simp only [StorageOp.apply, h]
  | updateTcp handle faults now hostId checkId snapshot =>
    rcases updateTcp_cases handle faults now hostId checkId snapshot storage with
      ⟨e, h⟩ | ⟨host, check, -, -, -, h⟩
    · simp only [StorageOp.apply, h]
    · simp only [StorageOp.apply, h]
      rfl
  | updateHosts => cases hop
  | updateConfiguration => cases hop
  | pruneHistory => exact (maintained_apply rfl storage).generation
  | rollup => exact (maintained_apply rfl storage).generation
  | prune => exact (maintained_apply rfl storage).generation
  | setHistoryRetention => exact (maintained_apply rfl storage).generation
  | setUsageSampleRetention => exact (maintained_apply rfl storage).generation
  | configureMaintenance => exact (maintained_apply rfl storage).generation
  | scheduleJobs => exact (maintained_apply rfl storage).generation

theorem undisturbed_apply {op : StorageOp} (hop : publishes op = false) (storage : SqliteStorage) :
    Undisturbed storage (op.apply storage) :=
  undisturbed_of_change (op.change storage) (generation_apply hop storage)

/-- The call that a write makes. -/
def opOf (write : Write) (handle : WriteGeneration) (faults : Faults) (now now' : ℤ) : StorageOp :=
  match write with
  | .checkResult hostId state transition =>
    .updateCheckResult handle faults now hostId state transition
  | .usage hostId snapshot => .updateUsage handle faults now now' hostId snapshot
  | .tcp hostId checkId snapshot => .updateTcp handle faults now hostId checkId snapshot

theorem run_call_storage (write : Write) (handle : WriteGeneration) (faults : Faults) (now now' : ℤ)
    (storage : SqliteStorage) : (Program.run (write.call handle faults now now') storage).2 =
      (opOf write handle faults now now').apply storage := by
  cases write with
  | checkResult hostId state transition => rfl
  | tcp hostId checkId snapshot => rfl
  | usage hostId snapshot =>
    rw [Write.call, Program.run_bind, opOf, StorageOp.apply]
    rcases Program.run (updateUsage handle faults now now' hostId snapshot) storage with ⟨_ | _, _⟩ <;>
      rfl

theorem undisturbed_call (write : Write) (handle : WriteGeneration) (faults : Faults) (now now' : ℤ)
    (storage : SqliteStorage) :
    Undisturbed storage (Program.run (write.call handle faults now now') storage).2 := by
  rw [run_call_storage]
  exact undisturbed_apply (by cases write <;> rfl) storage

/-! ## The configuration in force -/

/-- **The storage holds an inventory**: its catalog lists it, and its open
epochs are those of its checks. -/
structure Installed (storage : SqliteStorage) (hosts : List Host) : Prop where
  catalog : storage.hosts = Catalog.ofHosts hosts
  nodup : (hosts.map (·.id)).Nodup
  valid : ∀ host ∈ hosts, host.validate = .ok ()
  serving : Serving storage.inner.conn.history (targets hosts)

theorem Installed.undisturbed {storage storage' : SqliteStorage} {hosts : List Host}
    (h : Installed storage hosts) (hu : Undisturbed storage storage') : Installed storage' hosts :=
  ⟨hu.hosts.trans h.catalog, h.nodup, h.valid, hu.serving _ h.serving⟩

theorem Installed.get {storage : SqliteStorage} {hosts : List Host} {host : Host}
    (h : Installed storage hosts) (hmem : host ∈ hosts) : storage.hosts.get host.id = some host := by
  rw [h.catalog]
  exact (Catalog.get_ofHosts h.nodup).mpr ⟨hmem, rfl⟩

theorem mem_targets_congr {hosts hosts' : List Host} (h : ∀ host, host ∈ hosts ↔ host ∈ hosts')
    (t : Host × History.EpochCheck) : t ∈ targets hosts ↔ t ∈ targets hosts' := by
  simp only [targets, List.mem_flatMap, h]

/-- What is installed does not depend on the order of the hosts. -/
theorem serving_congr {db : History.HistoryDb} {hosts hosts' : List Host}
    (hmem : ∀ host, host ∈ hosts ↔ host ∈ hosts') (h : Serving db (targets hosts)) :
    Serving db (targets hosts') := by
  refine ⟨fun t ht => h.served t ((mem_targets_congr hmem t).mpr ht), fun id row hrow hopen => ?_,
    h.one⟩
  obtain ⟨t, ht, hs⟩ := h.only id row hrow hopen
  exact ⟨t, (mem_targets_congr hmem t).mp ht, hs⟩

/-- **A reload installs its inventory.** -/
theorem installed_of_reload {storage : SqliteStorage} {config : AppConfig} {now now' : ℤ}
    {conn : Database} (hnd : (config.hosts.map (·.id)).Nodup)
    (hexec : (reloadTransaction (Catalog.ofHosts config.hosts) (some (policies config)) now now').exec
      storage.inner.conn = .ok ((), conn)) :
    Installed (published storage (Catalog.ofHosts config.hosts) (some (policies config)) conn)
      config.hosts := by
  have hmem : ∀ host, host ∈ (Catalog.ofHosts config.hosts).hosts ↔ host ∈ config.hosts :=
    fun host => Catalog.mem_ofHosts hnd
  exact ⟨rfl, hnd, fun host hh => (synced_of_reload hexec).valid host ((hmem host).mpr hh),
    serving_congr hmem (publishedDb_of_exec hexec).serving⟩

/-- **So does a start.** -/
theorem installed_opened {hosts : List Host} {now : ℤ} {conn conn' : Database}
    (h : Synced hosts now conn conn') : Installed (opened hosts conn') hosts := by
  refine ⟨rfl, h.nodup, h.valid, ?_⟩
  show Serving conn'.history _
  rw [h.history]
  exact History.serving_syncEpochs _ _ (History.nodup_targetKeys h.nodup h.valid)

/-! ## Writes of the generation in force -/

/-- **A write of a job that is listed finds what it looks for.** -/
theorem listed_of_writes {storage : SqliteStorage} {hosts : List Host} {host : Host}
    {job : MonitorJob} {write : Write} (h : Installed storage hosts) (hmem : host ∈ hosts)
    (hjob : job ∈ hostJobs host) (hwrites : job.writes write = true) :
    write.listed storage.hosts = true := by
  have hget := h.get hmem
  rcases mem_hostJobs.mp hjob with ⟨-, rfl⟩ | ⟨-, rfl⟩ | ⟨hon, hjob⟩
  · cases write with
    | checkResult hostId state transition =>
      obtain rfl : hostId = host.id := of_decide_eq_true hwrites
      simp [Write.listed, Catalog.containsKey, hget]
    | usage => cases hwrites
    | tcp => cases hwrites
  · cases write with
    | usage hostId snapshot =>
      obtain ⟨hid, hvalid⟩ := Bool.and_eq_true_iff.mp hwrites
      obtain rfl : hostId = host.id := of_decide_eq_true hid
      simp [Write.listed, Catalog.containsKey, hget, of_decide_eq_true hvalid]
    | checkResult => cases hwrites
    | tcp => cases hwrites
  · obtain ⟨check, hcheck, rfl⟩ := List.mem_map.mp hjob
    cases write with
    | tcp hostId checkId snapshot =>
      obtain ⟨hid, hcheckId⟩ := Bool.and_eq_true_iff.mp hwrites
      obtain rfl : hostId = host.id := of_decide_eq_true hid
      obtain rfl : checkId = check.id := of_decide_eq_true hcheckId
      simp only [Write.listed, hget, Option.any_some, hon, Bool.true_and, List.any_eq_true]
      exact ⟨check, hcheck, decide_eq_true rfl⟩
    | checkResult => cases hwrites
    | usage => cases hwrites

/-- What an attempt of the generation in force may fail with: a fault, or a
retention that reaches back further than a time can. -/
def Excused (faults : Faults) (now' : ℤ) (storage : SqliteStorage) (e : StorageError) : Prop :=
  faults.Raise e ∨ ∃ retention, storage.inner.usageSampleRetention = some retention ∧
    checkedCutoff now' retention = .error e

theorem exec_deleteOldSamples_error {hostId : String} {retention : ℕ} {now : ℤ} {db : Database}
    {e : StorageError} (h : (deleteOldSamples hostId retention now).exec db = .error e) :
    checkedCutoff now retention = .error e := by
  rw [deleteOldSamples, Txn.exec_bind, Txn.exec_ofExcept] at h
  rcases hcut : checkedCutoff now retention with e' | cutoff
  · rw [hcut] at h
    exact congrArg Except.error (Except.error.inj h)
  · simp only [hcut, Except.map, Except.ok_bind, Txn.exec_update] at h
    cases h

theorem exec_usageTransaction_error {host : Host} {snapshot : UsageSnapshot} {insert : Bool}
    {retention : Option ℕ} {now now' : ℤ} {db : Database} {e : StorageError}
    (h : (usageTransaction host snapshot insert retention now now').exec db = .error e) :
    ∃ duration, retention = some duration ∧ checkedCutoff now' duration = .error e := by
  unfold usageTransaction at h
  simp only [Txn.exec_bind, exec_updateCoverage, upsertLatestUsage, insertUsageSample,
    insertUsageRow, recordHistory, Txn.exec_update, Except.ok_bind] at h
  cases insert <;> rcases retention with - | duration
  · cases h
  · exact ⟨duration, rfl, exec_deleteOldSamples_error h⟩
  · cases h
  · exact ⟨duration, rfl, exec_deleteOldSamples_error h⟩

section Current

variable {write : Write} {handle : ℕ} {faults : Faults} {now now' : ℤ} {storage : SqliteStorage}

/-- **A request is performed**, or excused. -/
theorem perform_or_excused (request : Request) (faults : Faults) (now now' : ℤ)
    (storage : SqliteStorage) : (request.perform faults now now' storage.inner).1 = .ok () ∨
      ∃ e, (request.perform faults now now' storage.inner).1 = .error e ∧
        Excused faults now' storage e := by
  have hfault : ∀ {e}, some e ∈ faults.sql → Excused faults now' storage e :=
    fun h => Or.inl (Or.inr h)
  cases request with
  | checkResult hostId state transition =>
    simp only [Request.perform, Inner.transaction]
    rcases htxn : (checkResultTransaction hostId state transition now).transact faults.sql
      storage.inner.conn with ⟨e | ⟨⟨⟩⟩, conn⟩
    · refine Or.inr ⟨e, rfl, hfault ((Txn.exec_of_transact_error htxn).resolve_right fun h => ?_)⟩
      rw [exec_checkResultTransaction] at h
      cases h
    · exact Or.inl rfl
  | usage host snapshot =>
    unfold Request.perform Inner.writeUsage Inner.transaction
    simp only
    generalize (storage.inner.usage.find? host.id).all (snapshot.differsForHistory ·) = insert
    rcases htxn : (usageTransaction host snapshot insert storage.inner.usageSampleRetention now
      now').transact faults.sql storage.inner.conn with ⟨e | ⟨⟨⟩⟩, conn⟩
    · refine Or.inr ⟨e, rfl, (Txn.exec_of_transact_error htxn).elim hfault fun h => ?_⟩
      exact Or.inr (exec_usageTransaction_error h)
    · exact Or.inl rfl
  | tcp host check snapshot =>
    simp only [Request.perform, Inner.transaction]
    rcases htxn : (tcpTransaction host check snapshot now).transact faults.sql
      storage.inner.conn with ⟨e | ⟨⟨⟩⟩, conn⟩
    · refine Or.inr ⟨e, rfl, hfault ((Txn.exec_of_transact_error htxn).resolve_right fun h => ?_)⟩
      rw [exec_tcpTransaction] at h
      cases h
    · exact Or.inl rfl

/-- A write that finds what it looks for comes to the writer mutex. -/
theorem run_call_of_request (handle : WriteGeneration) (now now' : ℤ)
    (hp : faults.poisoned .hosts = false) (hlisted : write.listed storage.hosts = true) :
    ∃ request : Request, (Program.run (write.call handle faults now now') storage).1 =
      (Program.run (withInner handle faults (request.perform faults now now')) storage).1 := by
  cases write with
  | checkResult hostId state transition =>
    refine ⟨.checkResult hostId state transition, ?_⟩
    rw [Write.call, updateCheckResult, Program.run_bind, run_ensureHostExists_of_listed hp hlisted]
    rfl
  | usage hostId snapshot =>
    obtain ⟨hkey, hvalid⟩ := Bool.and_eq_true_iff.mp hlisted
    obtain ⟨host, hget⟩ := Option.isSome_iff_exists.mp hkey
    refine ⟨.usage host snapshot, ?_⟩
    simp only [Write.call, updateUsage, Program.run_bind, Program.run_mk,
      run_ensureHostExists_of_listed hp hkey, orInvalidData_eq_ok.mpr (of_decide_eq_true hvalid),
      run_lookupHost_of_get hp hget, run_withInner, Request.perform]
    split_ifs
    · rfl
    · rfl
    · rcases storage.inner.writeUsage host snapshot faults now now' with ⟨_ | _, _⟩ <;> rfl
  | tcp hostId checkId snapshot =>
    obtain ⟨host, hget, hcheck⟩ := (Option.any_eq_true _ _).mp hlisted
    obtain ⟨check, hfind⟩ := findCheck_of_listed hcheck
    refine ⟨.tcp host check snapshot, ?_⟩
    simp only [Write.call, updateTcp, Program.run_bind, Program.run_mk,
      run_lookupHost_of_get hp hget, hfind]
    rfl

theorem run_call_of_poisoned (write : Write) (handle : WriteGeneration) (now now' : ℤ)
    (storage : SqliteStorage) (hp : faults.poisoned .hosts = true) :
    (Program.run (write.call handle faults now now') storage).1 = .error .lockPoisoned := by
  cases write <;> simp only [Write.call, updateCheckResult, updateUsage, updateTcp,
    ensureHostExists, lookupHost, Program.run_bind, run_lock, hp, if_true]

/-- **An attempt in the generation in force** that finds what it looks for is
stored, or excused. -/
theorem run_call_of_current (now now' : ℤ) (hcurrent : handle = storage.inner.generation)
    (hlisted : write.listed storage.hosts = true) :
    (Program.run (write.call (some handle) faults now now') storage).1 = .ok () ∨
      ∃ e, (Program.run (write.call (some handle) faults now now') storage).1 = .error e ∧
        Excused faults now' storage e := by
  have hpoisoned : ∀ l, faults.poisoned l = true → Excused faults now' storage .lockPoisoned :=
    fun l hl => Or.inl (Or.inl ⟨rfl, l, hl⟩)
  rcases hp : faults.poisoned .hosts with - | -
  · obtain ⟨request, hrun⟩ := run_call_of_request (some handle) now now' hp hlisted
    have hfence : (some handle).any (fun g => decide (g ≠ storage.inner.generation)) = false := by
      simp [hcurrent]
    rw [hrun, run_withInner, hfence]
    rcases hi : faults.poisoned .inner with - | -
    · exact perform_or_excused request faults now now' storage
    · exact Or.inr ⟨_, rfl, hpoisoned .inner hi⟩
  · exact Or.inr ⟨_, run_call_of_poisoned write (some handle) now now' storage hp,
      hpoisoned .hosts hp⟩

end Current

theorem hostId_key {host : Host} {job : MonitorJob} (hjob : job ∈ hostJobs host) :
    job.key.hostId = host.id := by
  have hkey := List.mem_map_of_mem (f := (·.key)) hjob
  rw [keys_hostJobs] at hkey
  obtain ⟨check, -, heq⟩ := List.mem_map.mp hkey
  rw [← heq]
  rfl

/-! ## Steps of a task -/

section Task

variable {task : MonitorTask} {storage : SqliteStorage} {hosts : List Host} {host : Host}
variable {handle : ℕ} {metrics : App.RuntimeMetrics}

theorem undisturbed_task (handle : ℕ) (task : MonitorTask) (storage : SqliteStorage)
    (metrics : App.RuntimeMetrics) (event : TaskEvent) :
    Undisturbed storage (task.step handle storage metrics event).2.1 := by
  unfold MonitorTask.step
  split
  · exact .refl storage
  · exact .refl storage
  · split_ifs <;> exact .refl storage
  · exact undisturbed_call _ _ _ _ _ _
  · exact .refl storage
  · exact .refl storage

/-- **A task that was not let down**: the host of its job is there, it was not
told that its generation was replaced, and what it stores is its own. -/
structure Healthy (task : MonitorTask) : Prop where
  found : task.state ≠ .missing
  current : task.state ≠ .running .returned
  read : task.state ≠ .unreadable .busy
  own : ∀ write, task.state = .running (.storing write) → task.job.writes write = true

theorem healthy_loading (job : MonitorJob) : Healthy ⟨job, .loading⟩ := by
  constructor <;> simp

theorem healthy_running {job : MonitorJob} {phase : App.Phase Write} (hphase : phase ≠ .returned)
    (hown : ∀ write, phase = .storing write → job.writes write = true) :
    Healthy ⟨job, .running phase⟩ := by
  constructor <;> simp_all

theorem healthy_waiting (job : MonitorJob) : Healthy ⟨job, .running .waiting⟩ :=
  healthy_running (by simp) (by simp)

theorem healthy_start (job : MonitorJob) : Healthy (.start job) := by
  cases job with
  | icmp host => exact healthy_loading _
  | usage host => exact healthy_waiting _
  | tcp hostId checkId interval request => exact healthy_waiting _

/-- What an attempt is excused for is no stale generation. -/
theorem Excused.ne_stale {faults : Faults} {now' : ℤ} {e : StorageError}
    (h : Excused faults now' storage e) (hsqlite : faults.OfSqlite) : e ≠ .staleGeneration := by
  rintro rfl
  rcases h with (⟨he, -⟩ | hmem) | ⟨retention, -, hcut⟩
  · cases he
  · obtain ⟨_, he⟩ := hsqlite _ hmem
    cases he
  · unfold checkedCutoff at hcut
    split at hcut
    · cases hcut
    · split at hcut <;> cases hcut

/-- Loading finds the host, unless the read fails. -/
theorem healthy_load {job : MonitorJob} (hinstalled : Installed storage hosts) (hmem : host ∈ hosts)
    (hjob : job ∈ hostJobs host) (readError : Option StorageError) :
    Healthy ⟨job, MonitorTask.load ⟨job, .loading⟩ storage readError⟩ := by
  unfold MonitorTask.load
  split
  · exact healthy_loading job
  · next e hbusy => constructor <;> simp_all
  · simp only [Storage.host, hostId_key hjob, hinstalled.get hmem, Option.map_some]
    exact healthy_waiting job

/-- An attempt that fails is made again, unless its generation was replaced. -/
theorem runJob_error (kind : String) (write : Write) {e : StorageError} (h : e ≠ .staleGeneration) :
    (App.runJob kind (.storing write) metrics (.persisted (.error e))).1 = .storing write := by
  cases e <;> first | rfl | exact absurd rfl h

/-- **A step of a task of the generation in force.** Its host is in the
catalog, and its handle is current. -/
theorem Healthy.step (h : Healthy task) (hinstalled : Installed storage hosts) (hmem : host ∈ hosts)
    (hjob : task.job ∈ hostJobs host) (hcurrent : handle = storage.inner.generation)
    (metrics : App.RuntimeMetrics) (event : TaskEvent)
    (hsqlite : ∀ faults now now', event = .persist faults now now' → faults.OfSqlite) :
    Healthy { task with state := (task.step handle storage metrics event).1 } := by
  obtain ⟨job, state⟩ := task
  cases event with
  | load readError =>
    cases state with
    | loading => exact healthy_load hinstalled hmem hjob readError
    | _ => exact h
  | admitted =>
    cases state with
    | running phase =>
      cases phase with
      | waiting => exact healthy_running (by simp) (by simp)
      | _ => exact h
    | _ => exact h
  | observed write success elapsed =>
    cases state with
    | running phase =>
      simp only [MonitorTask.step]
      split_ifs with hwrites
      · cases phase with
        | observing =>
          refine healthy_running (by simp [App.runJob]) fun write' heq => ?_
          obtain rfl := App.Phase.storing.inj heq
          exact hwrites
        | _ => exact h
      · exact h
    | _ => exact h
  | persist faults now now' =>
    cases state with
    | running phase =>
      cases phase with
      | storing write =>
        simp only [MonitorTask.step]
        have hwrites := h.own write rfl
        have hcall := @run_call_of_current _ _ faults _ now now' hcurrent
          (listed_of_writes hinstalled hmem hjob hwrites)
        rcases hcall with hok | ⟨e, herror, hexcused⟩
        · rw [hok]
          exact healthy_waiting job
        · rw [herror, runJob_error _ _ (hexcused.ne_stale (hsqlite faults now now' rfl))]
          exact h
      | _ => exact h
    | _ => exact h
  | panic =>
    simp only [MonitorTask.step]
    split_ifs
    · exact h
    · constructor <;> simp

end Task

end SimpleNetworkMonitor.Daemon
