import SimpleNetworkMonitor.Storage.Helpers.Steps
import SimpleNetworkMonitor.Storage.Model.Jobs
/-!
# What a step does to the jobs

A claim settles what was left running and starts the job that is due first;
a completion puts its job off by a second at least. Any other call registers
the jobs or leaves them alone.
-/

namespace SimpleNetworkMonitor.Storage

variable {storage : SqliteStorage} {db db' : Database} {jobs : Table String JobRow} {nowMs : ℤ}

/-- The storage with its jobs rescheduled. -/
def SqliteStorage.withJobs (storage : SqliteStorage) (jobs : Table String JobRow) : SqliteStorage :=
  storage.withConn { storage.inner.conn with maintenanceJobs := jobs }

theorem jobKindOf_id (kind : JobKind) : jobKindOf kind.id = some kind := by
  cases kind <;> decide

theorem id_of_jobKindOf {id : String} {kind : JobKind} (h : jobKindOf id = some kind) :
    kind.id = id := of_decide_eq_true (List.find?_some (p := fun kind : JobKind => kind.id = id) h)

/-! ## Claims -/

/-- The jobs with no claim left over. -/
def settledJobs (nowMs : ℤ) (jobs : Table String JobRow) : Table String JobRow :=
  jobs.mapVals fun _ row => row.abandoned nowMs

/-- The kind of job a claim starts. -/
def dueKind (nowMs : ℤ) (jobs : Table String JobRow) : Option JobKind :=
  (dueJob nowMs (settledJobs nowMs jobs)).bind jobKindOf

/-- The jobs after a claim. -/
def claimedJobs (nowMs : ℤ) (jobs : Table String JobRow) : Table String JobRow :=
  (dueKind nowMs jobs).elim (settledJobs nowMs jobs) fun kind =>
    (settledJobs nowMs jobs).modify kind.id (·.claimed nowMs)

theorem settledJobs_eq_self (h : (jobs.rows.any fun r => r.2.status = .running) = false) :
    settledJobs nowMs jobs = jobs := by
  refine Table.mapVals_eq_self fun k row hrow => if_neg fun hrunning => ?_
  have hnot := List.any_eq_false.mp h (k, row) hrow
  exact hnot (decide_eq_true hrunning)

theorem exec_settleRunning (nowMs : ℤ) (db : Database) :
    (settleRunning nowMs).exec db =
      .ok ((), { db with maintenanceJobs := settledJobs nowMs db.maintenanceJobs }) := by
  unfold settleRunning
  rw [Txn.exec_bind, Txn.exec_query, Except.ok_bind]
  split_ifs with hrunning
  · rw [Txn.exec_update]
    rfl
  · rw [settledJobs_eq_self (by simpa using hrunning)]
    rfl

theorem exec_startDueJob (nowMs : ℤ) (db : Database) :
    (startDueJob nowMs).exec db = .ok ((dueJob nowMs db.maintenanceJobs).bind jobKindOf,
      { db with
        maintenanceJobs := ((dueJob nowMs db.maintenanceJobs).bind jobKindOf).elim
          db.maintenanceJobs fun kind => db.maintenanceJobs.modify kind.id (·.claimed nowMs) }) := by
  unfold startDueJob
  rw [Txn.exec_bind, Txn.exec_query, Except.ok_bind]
  rcases (dueJob nowMs db.maintenanceJobs).bind jobKindOf with - | kind
  · rfl
  · rfl

theorem exec_claimTransaction (nowMs : ℤ) (db : Database) :
    (claimTransaction nowMs).exec db = .ok (dueKind nowMs db.maintenanceJobs,
      { db with maintenanceJobs := claimedJobs nowMs db.maintenanceJobs }) := by
  rw [claimTransaction, Txn.exec_bind, exec_settleRunning, Except.ok_bind, exec_startDueJob]
  rfl

theorem find?_settledJobs (id : String) :
    (settledJobs nowMs jobs).find? id = (jobs.find? id).map (·.abandoned nowMs) :=
  Table.find?_mapVals

/-- Nothing runs once the jobs are settled. -/
theorem not_running_abandoned (nowMs : ℤ) (row : JobRow) :
    (row.abandoned nowMs).status ≠ .running := by
  unfold JobRow.abandoned
  split_ifs with h
  · simp
  · exact h

theorem abandoned_of_not_running {row : JobRow} (h : row.status ≠ .running) :
    row.abandoned nowMs = row := if_neg h

/-- What was left running is not due. -/
theorem lt_nextRunMs_abandoned {row : JobRow} (h : row.status = .running) :
    nowMs < (row.abandoned nowMs).nextRunMs := by
  rw [JobRow.abandoned, if_pos h]
  show nowMs < nowMs + 5000
  omega

/-- **The row of a job after a claim**: settled, and running where the claim
is of it. -/
theorem find?_claimedJobs (kind : JobKind) :
    (claimedJobs nowMs jobs).find? kind.id = (jobs.find? kind.id).map fun row =>
      if dueKind nowMs jobs = some kind then (row.abandoned nowMs).claimed nowMs
      else row.abandoned nowMs := by
  unfold claimedJobs
  rcases dueKind nowMs jobs with - | due
  · rw [Option.elim_none, find?_settledJobs]
    rfl
  · rw [Option.elim_some]
    by_cases hdue : due = kind
    · subst hdue
      rw [Table.find?_modify_self, find?_settledJobs, Option.map_map]
      simp only [if_true]
      rfl
    · have hne : kind.id ≠ due.id := fun h => hdue (JobKind.id_injective h).symm
      have hsome : ¬ some due = some kind := fun h => hdue (Option.some.inj h)
      rw [Table.find?_modify_of_ne hne, find?_settledJobs]
      simp only [hsome, if_false]

theorem keys_claimedJobs (nowMs : ℤ) (jobs : Table String JobRow) :
    (claimedJobs nowMs jobs).keys = jobs.keys := by
  have hsettled : (settledJobs nowMs jobs).keys = jobs.keys := Table.keys_mapVals _ _
  unfold claimedJobs
  rcases dueKind nowMs jobs with - | due
  · exact hsettled
  · rw [Option.elim_some, Table.keys_modify, hsettled]

/-- **The job a claim starts** is due, was not running, and no job that is
due and not running comes before it. -/
theorem of_dueKind {kind : JobKind} (h : dueKind nowMs jobs = some kind) :
    ∃ row, jobs.find? kind.id = some row ∧ row.status ≠ .running ∧ row.nextRunMs ≤ nowMs ∧
      ∀ id row', jobs.find? id = some row' → row'.status ≠ .running → row'.nextRunMs ≤ nowMs →
        row.nextRunMs ≤ row'.nextRunMs := by
  obtain ⟨id, hdue, hkind⟩ := Option.bind_eq_some_iff.mp h
  obtain ⟨⟨id, settled⟩, hfirst, rfl⟩ := Option.map_eq_some_iff.mp hdue
  obtain rfl := id_of_jobKindOf hkind
  obtain ⟨hmem, hnow⟩ := Table.mem_of_firstBy? hfirst
  have hnow : settled.nextRunMs ≤ nowMs := of_decide_eq_true hnow
  have hfind := Table.find?_eq_some.mpr hmem
  rw [find?_settledJobs] at hfind
  obtain ⟨row, hrow, rfl⟩ := Option.map_eq_some_iff.mp hfind
  have hidle : row.status ≠ .running := fun hrunning =>
    absurd (lt_nextRunMs_abandoned hrunning) (not_lt.mpr hnow)
  rw [abandoned_of_not_running hidle] at hnow hfirst
  refine ⟨row, hrow, hidle, hnow, fun id' row' hrow' hidle' hnow' => ?_⟩
  have hsettled : (settledJobs nowMs jobs).find? id' = some row' := by
    rw [find?_settledJobs, hrow', Option.map_some, abandoned_of_not_running hidle']
  exact Table.key_le_of_firstBy? hfirst (Table.find?_eq_some.mp hsettled) (decide_eq_true hnow')

/-- Where a known job is due and not running, a claim starts one. -/
theorem dueKind_ne_none {kind : JobKind} {row : JobRow}
    (hknown : ∀ id ∈ jobs.keys, ∃ kind : JobKind, kind.id = id)
    (hrow : jobs.find? kind.id = some row) (hidle : row.status ≠ .running)
    (hnow : row.nextRunMs ≤ nowMs) : dueKind nowMs jobs ≠ none := by
  have hsettled : (settledJobs nowMs jobs).find? kind.id = some row := by
    rw [find?_settledJobs, hrow, Option.map_some, abandoned_of_not_running hidle]
  rcases hfirst : (settledJobs nowMs jobs).firstBy? (·.nextRunMs) (·.nextRunMs ≤ nowMs) with
    - | ⟨id, first⟩
  · have hnone := Table.firstBy?_eq_none.mp hfirst _ (Table.find?_eq_some.mp hsettled)
    exact absurd hnow (of_decide_eq_false hnone)
  · have hmem : id ∈ jobs.keys := by
      rw [← Table.keys_mapVals jobs fun _ row => row.abandoned nowMs]
      exact Table.mem_keys_of_mem (Table.mem_of_firstBy? hfirst).1
    obtain ⟨due, rfl⟩ := hknown id hmem
    rw [dueKind, dueJob, hfirst, Option.map_some, Option.bind_some, jobKindOf_id]
    simp

/-- **A claim** fails and changes nothing, or starts the job that is due. -/
theorem claimJob_cases (handle : WriteGeneration) (faults : Faults) (now : ℤ)
    (storage : SqliteStorage) :
    (∃ e, Program.run (claimJob handle faults now) storage = (.error e, storage)) ∨
      Program.run (claimJob handle faults now) storage =
        (.ok (dueKind (timestampMillis now) storage.inner.conn.maintenanceJobs),
          storage.withJobs
            (claimedJobs (timestampMillis now) storage.inner.conn.maintenanceJobs)) := by
  rcases withInner_cases handle faults storage fun _ => claimTransaction (timestampMillis now) with
    h | ⟨kind, conn, -, hexec, h⟩
  · exact Or.inl h
  · rw [exec_claimTransaction] at hexec
    obtain ⟨rfl, rfl⟩ := Prod.mk.inj (Except.ok.inj hexec)
    exact Or.inr h

/-! ## Completions and restarts -/

/-- A completion lets its job rest for a second. -/
structure JobCompletion.Rests (completion : JobCompletion) : Prop where
  status : completion.status ≠ .running
  delay : 1000 ≤ completion.delay

theorem rests_of_jobCompletion {kind : JobKind} {intervalMs : ℕ} {outcome : JobOutcome}
    {completion : JobCompletion} (hinterval : 1000 ≤ intervalMs)
    (h : (jobCompletion kind intervalMs outcome).exec db = .ok (completion, db')) :
    completion.Rests ∧ db' = db := by
  rcases outcome with e | ⟨work, more, message⟩
  · obtain ⟨failures, db₁, hfailures, h⟩ := Txn.exec_bind_eq_ok.mp h
    obtain ⟨rfl, rfl⟩ := Prod.mk.inj (Except.ok.inj h)
    rw [jobFailures, Txn.exec_exec1] at hfailures
    rcases hrow : db.maintenanceJobs.find? kind.id with - | row <;> rw [hrow] at hfailures
    · cases hfailures
    · obtain ⟨-, rfl⟩ := Prod.mk.inj (Except.ok.inj hfailures)
      have hpow : 1 ≤ 2 ^ min failures 9 := Nat.one_le_two_pow
      exact ⟨⟨by simp, by show 1000 ≤ min (5000 * 2 ^ min failures 9) 3600000; omega⟩, rfl⟩
  · obtain ⟨rfl, rfl⟩ := Prod.mk.inj (Except.ok.inj h)
    refine ⟨⟨by simp, ?_⟩, rfl⟩
    show 1000 ≤ if more = true then 1000 else intervalMs
    split_ifs
    · exact le_rfl
    · exact hinterval

/-- **A completion** fails and changes nothing, or puts its job off. -/
theorem completeJob_cases (handle : WriteGeneration) (faults : Faults) (now : ℤ) (elapsed : ℕ)
    (kind : JobKind) (outcome : JobOutcome) (storage : SqliteStorage)
    (hinterval : fromSecs 1 ≤ kind.interval storage.inner.maintenanceConfig) :
    (∃ e, Program.run (completeJob handle faults now elapsed kind outcome) storage =
        (.error e, storage)) ∨
      ∃ completion : JobCompletion, completion.Rests ∧
        Program.run (completeJob handle faults now elapsed kind outcome) storage =
          (.ok (), storage.withJobs (storage.inner.conn.maintenanceJobs.modify kind.id
            (·.completed completion (timestampMillis now)
              (min (asMillis elapsed) 9223372036854775807)))) := by
  rcases withInner_cases handle faults storage fun inner =>
      completeTransaction kind (asMillis (kind.interval inner.maintenanceConfig))
        (timestampMillis now) (min (asMillis elapsed) 9223372036854775807) outcome with
    h | ⟨⟨⟩, conn, -, hexec, h⟩
  · exact Or.inl h
  · obtain ⟨completion, db₁, hcompletion, hupdate⟩ := Txn.exec_bind_eq_ok.mp hexec
    obtain ⟨hrests, rfl⟩ := rests_of_jobCompletion (asMillis_mono hinterval) hcompletion
    rw [Txn.exec_update] at hupdate
    obtain ⟨-, rfl⟩ := Prod.mk.inj (Except.ok.inj hupdate)
    exact Or.inr ⟨completion, hrests, h⟩

theorem recoverMaintenance_cases (handle : WriteGeneration) (faults : Faults) (now : ℤ)
    (storage : SqliteStorage) :
    (∃ e, Program.run (recoverMaintenance handle faults now) storage = (.error e, storage)) ∨
      Program.run (recoverMaintenance handle faults now) storage =
        (.ok (), storage.withJobs (storage.inner.conn.maintenanceJobs.mapVals fun _ row =>
          row.interrupted (timestampMillis now))) := by
  rcases withInner_cases handle faults storage fun _ => Txn.update fun db =>
      { db with
        maintenanceJobs := db.maintenanceJobs.mapVals fun _ row =>
          row.interrupted (timestampMillis now) } with
    h | ⟨⟨⟩, conn, -, hexec, h⟩
  · exact Or.inl h
  · rw [Txn.exec_update] at hexec
    obtain ⟨-, rfl⟩ := Prod.mk.inj (Except.ok.inj hexec)
    exact Or.inr h

/-! ## Other calls -/

/-- The clock readings of a call. -/
def StorageOp.readings : StorageOp → List ℤ
  | .updateCheckResult _ _ now .. => [now]
  | .updateUsage _ _ now now' .. => [now, now']
  | .updateTcp _ _ now .. => [now]
  | .pruneHistory _ _ now => [now]
  | .rollup _ now => [now]
  | .prune _ _ now => [now]
  | .updateHosts _ now now' _ => [now, now']
  | .updateConfiguration _ now now' .. => [now, now']
  | .setHistoryRetention .. => []
  | .setUsageSampleRetention .. => []
  | .configureMaintenance _ now .. => [now]
  | .scheduleJobs _ => []

/-- **Every job is registered**, and no other row changes. -/
structure Registered (config : MaintenanceConfig) (nowMs : ℤ) (jobs jobs' : Table String JobRow) :
    Prop where
  rows : ∀ kind : JobKind, jobs'.find? kind.id =
    some (registeredJob (jobs.find? kind.id) (asMillis (kind.interval config)) nowMs)
  others : ∀ id, (∀ kind : JobKind, id ≠ kind.id) → jobs'.find? id = jobs.find? id

theorem registered_of_exec {config : MaintenanceConfig}
    (h : (registerJobs config nowMs).exec db = .ok ((), db')) :
    Registered config nowMs db.maintenanceJobs db'.maintenanceJobs := by
  obtain ⟨hrows, hothers, -⟩ := exec_registerJobs_list JobKind.nodup_ALL h
  exact ⟨fun kind => hrows kind (JobKind.mem_ALL kind), fun id hid => hothers id fun kind _ => hid kind⟩

/-- **What a call does to the jobs** and their intervals: nothing, or what a
valid configuration says. -/
inductive Rescheduled (readings : List ℤ) (storage storage' : SqliteStorage) : Prop
  | kept (hjobs : storage'.inner.conn.maintenanceJobs = storage.inner.conn.maintenanceJobs)
      (hconfig : storage'.inner.maintenanceConfig = storage.inner.maintenanceConfig)
  | registered {config : MaintenanceConfig} {now : ℤ} (hnow : now ∈ readings)
      (hvalid : config.validate = .ok ())
      (hjobs : Registered config (timestampMillis now) storage.inner.conn.maintenanceJobs
        storage'.inner.conn.maintenanceJobs)
      (hconfig : storage'.inner.maintenanceConfig = config)

theorem Rescheduled.refl (readings : List ℤ) (storage : SqliteStorage) :
    Rescheduled readings storage storage := .kept rfl rfl

theorem validate_maintenance {policies : StoragePolicies} (h : policies.validate = .ok ()) :
    policies.maintenance.validate = .ok () := by
  obtain ⟨⟨⟩, -, h⟩ := Except.bind_eq_ok_iff.mp h
  obtain ⟨⟨⟩, hmaintenance, -⟩ := Except.bind_eq_ok_iff.mp h
  exact Except.mapError_eq_ok_iff.mp hmaintenance

theorem rescheduled_replaceConfiguration (faults : Faults) (now now' : ℤ) (hosts : List Host)
    (policies : Option StoragePolicies)
    (hvalid : ∀ config, policies = some config → config.validate = .ok ()) :
    Rescheduled [now, now'] storage
      (Program.run (replaceConfiguration faults now now' hosts policies) storage).2 := by
  rcases replaceConfiguration_cases faults now now' hosts policies storage with
    ⟨e, h⟩ | ⟨conn, -, hexec, h⟩ <;> rw [h]
  · exact .refl _ storage
  · obtain ⟨⟨⟩, db₁, hsync, hjobs⟩ := Txn.exec_bind_eq_ok.mp hexec
    have hsynced := (synced_of_exec hsync).maintenanceJobs
    rcases policies with - | config
    · obtain ⟨-, rfl⟩ := Prod.mk.inj (Except.ok.inj hjobs)
      exact .kept hsynced rfl
    · have hregistered := registered_of_exec hjobs
      rw [hsynced] at hregistered
      exact .registered (by simp) (validate_maintenance (hvalid config rfl)) hregistered rfl

theorem rescheduled_updateConfiguration (faults : Faults) (now now' : ℤ) (hosts : List Host)
    (policies : StoragePolicies) :
    Rescheduled [now, now'] storage
      (Program.run (updateConfiguration faults now now' hosts policies) storage).2 := by
  rw [updateConfiguration, Program.run_bind, Program.run_mk]
  rcases hvalid : policies.validate with e | ⟨⟨⟩⟩
  · exact .refl _ storage
  · refine rescheduled_replaceConfiguration faults now now' hosts (some policies) fun _ h => ?_
    rwa [← Option.some.inj h]

/-- **Every other call** does nothing to the jobs, or registers them. -/
theorem StorageOp.rescheduled (op : StorageOp) (storage : SqliteStorage)
    (hop : ∀ jobs, op ≠ .scheduleJobs jobs) :
    Rescheduled op.readings storage (op.apply storage) := by
  cases op with
  | updateCheckResult handle faults now hostId state transition =>
    rcases updateCheckResult_cases handle faults now hostId state transition storage with
      ⟨e, h⟩ | ⟨-, -, h⟩ <;> simp only [apply, h]
    · exact .refl _ storage
    · exact .kept rfl rfl
  | updateUsage handle faults now now' hostId snapshot =>
    rcases updateUsage_cases handle faults now now' hostId snapshot storage with
      ⟨e, h⟩ | ⟨host, inserted, usageSamples, -, -, -, -, -, h⟩ <;> simp only [apply, h]
    · exact .refl _ storage
    · exact .kept rfl rfl
  | updateTcp handle faults now hostId checkId snapshot =>
    rcases updateTcp_cases handle faults now hostId checkId snapshot storage with
      ⟨e, h⟩ | ⟨host, check, -, -, -, h⟩ <;> simp only [apply, h]
    · exact .refl _ storage
    · exact .kept rfl rfl
  | pruneHistory scan faults now =>
    rcases pruneHistory_cases scan faults now storage with ⟨e, h⟩ | ⟨n, h⟩ <;>
      simp only [apply, h]
    · exact .refl _ storage
    · exact .kept rfl rfl
  | rollup faults now =>
    rcases rollup_cases faults now storage with ⟨e, h⟩ | ⟨done, h⟩ <;> simp only [apply, h]
    · exact .refl _ storage
    · exact .kept rfl rfl
  | prune scan faults now =>
    rcases prune_cases scan faults now storage with ⟨e, h⟩ | h <;> simp only [apply, h]
    · exact .refl _ storage
    · exact .kept rfl rfl
  -- these may register the jobs of a new configuration
  | updateHosts faults now now' hosts =>
    exact rescheduled_replaceConfiguration faults now now' hosts none fun _ h => (by cases h)
  | updateConfiguration faults now now' hosts policies =>
    exact rescheduled_updateConfiguration faults now now' hosts policies
  | setHistoryRetention faults duration =>
    rcases setHistoryRetention_cases faults duration storage with ⟨e, h⟩ | h <;>
      simp only [apply, h]
    · exact .refl _ storage
    · exact .kept rfl rfl
  | setUsageSampleRetention faults retention =>
    rcases setUsageSampleRetention_cases faults retention storage with ⟨e, h⟩ | h <;>
      simp only [apply, h]
    · exact .refl _ storage
    · exact .kept rfl rfl
  | configureMaintenance faults now history maintenance =>
    rcases configureMaintenance_cases faults now history maintenance storage with
      ⟨e, h⟩ | ⟨conn, hvalid, hexec, h⟩ <;> simp only [apply, h]
    · exact .refl _ storage
    · exact .registered List.mem_cons_self hvalid (registered_of_exec hexec) rfl
  | scheduleJobs jobs => exact absurd rfl (hop jobs)

end SimpleNetworkMonitor.Storage
