import SimpleNetworkMonitor.Storage.Helpers.Jobs
/-!
# The scheduler

At most one job runs at a time, whatever is claimed, lost, retried or
registered, and a job that is due is overtaken by each of the others at most
once: whatever is claimed before it is put off beyond it.
-/

namespace SimpleNetworkMonitor.Storage

/-! ## Steps -/

/-- The clock readings of a step. -/
def JobEvent.readings : JobEvent → List ℤ
  | .restart _ _ now _ => [now]
  | .recoverMaintenance _ _ now => [now]
  | .runDueMaintenance _ _ now => [now]
  | .complete _ now .. => [now]
  | .call op => op.readings

/-- A restart of the service, and what it does to the jobs it finds. -/
def JobEvent.isRestart : JobEvent → Bool
  | .restart .. | .recoverMaintenance .. => true
  | _ => false

namespace Scheduler

def jobs (s : Scheduler) : Table String JobRow := s.service.conn.maintenanceJobs

/-- The intervals in force are those of a valid configuration. -/
def Timed (s : Scheduler) : Prop :=
  ∀ storage, s.service = .up storage →
    ∀ kind : JobKind, fromSecs 1 ≤ kind.interval storage.inner.maintenanceConfig

/-- **What a step does to the jobs** and the admission. -/
inductive Change (event : JobEvent) (s s' : Scheduler) : Prop
  | kept (hjobs : s'.jobs = s.jobs) (hadmitted : s'.admitted = s.admitted ∨ s'.admitted = none)
      (hclaimed : claimed event s = none)
  | registered {config : MaintenanceConfig} {now : ℤ} (hnow : now ∈ event.readings)
      (hvalid : config.validate = .ok ())
      (hjobs : Registered config (timestampMillis now) s.jobs s'.jobs)
      (hadmitted : s'.admitted = s.admitted) (hclaimed : claimed event s = none)
  | interrupted {now : ℤ} (hrestart : event.isRestart = true)
      (hjobs : s'.jobs = s.jobs.mapVals fun _ row => row.interrupted (timestampMillis now))
      (hadmitted : s'.admitted = none)
  | claims {handle : WriteGeneration} {now : ℤ} (hnow : now ∈ event.readings)
      (hfree : s.admitted = none)
      (hjobs : s'.jobs = claimedJobs (timestampMillis now) s.jobs)
      (hadmitted : s'.admitted = (dueKind (timestampMillis now) s.jobs).map (⟨handle, ·⟩))
      (hclaimed : claimed event s = dueKind (timestampMillis now) s.jobs)
  | completes {claim : JobClaim} {completion : JobCompletion} {now : ℤ} {durationMs : ℕ}
      (hnow : now ∈ event.readings) (hheld : s.admitted = some claim) (hrests : completion.Rests)
      (hjobs : s'.jobs = s.jobs.modify claim.kind.id
        (·.completed completion (timestampMillis now) durationMs))
      (hadmitted : s'.admitted = none) (hclaimed : claimed event s = none)

theorem timed_empty : Timed {} := fun _ h => (by cases h)

/-- Intervals that no call has set are those of the defaults. -/
theorem timed_opened (hosts : List Host) (conn : Database) (admitted : Option JobClaim) :
    Timed { service := .up (opened hosts conn), admitted } := by
  intro storage h kind
  obtain rfl := Service.up.inj h
  exact JobKind.le_interval_of_validate rfl kind

variable {s : Scheduler} {storage : SqliteStorage}

theorem timed_of_eq {s' : Scheduler} {storage' : SqliteStorage} (ht : s.Timed)
    (hs : s.service = .up storage) (hs' : s'.service = .up storage')
    (hconfig : storage'.inner.maintenanceConfig = storage.inner.maintenanceConfig) : s'.Timed := by
  intro storage'' h kind
  obtain rfl := Service.up.inj (hs'.symm.trans h)
  rw [hconfig]
  exact ht storage hs kind

theorem change_restart (faults : Faults) (readError : Option StorageError) (now : ℤ)
    (hosts : List Host) (s : Scheduler) :
    let s' := step (.restart faults readError now hosts) s
    Change (.restart faults readError now hosts) s s' ∧ s'.Timed := by
  have hstep : step (.restart faults readError now hosts) s =
      { service := ServiceOp.apply (.start faults readError now hosts) s.service } := rfl
  have hclaimed : claimed (.restart faults readError now hosts) s = none := rfl
  rw [hstep]
  rcases start_cases faults readError now hosts s.service with h | ⟨conn, hsync, h | h⟩ <;> rw [h]
  · exact ⟨.kept rfl (Or.inr rfl) hclaimed, fun _ h => (by cases h)⟩
  · exact ⟨.kept hsync.maintenanceJobs (Or.inr rfl) hclaimed, fun _ h => (by cases h)⟩
  · exact ⟨.kept hsync.maintenanceJobs (Or.inr rfl) hclaimed, timed_opened hosts conn none⟩

/-- A claim that is committed holds the admission where it started a job. -/
theorem step_of_claimJob {handle : WriteGeneration} {faults : Faults} {now : ℤ}
    {kind : Option JobKind} {storage' : SqliteStorage} (hs : s.service = .up storage)
    (hfree : s.admitted = none)
    (h : Program.run (claimJob handle faults now) storage = (.ok kind, storage')) :
    step (.runDueMaintenance handle faults now) s =
        { service := .up storage', admitted := kind.map (⟨handle, ·⟩) } ∧
      claimed (.runDueMaintenance handle faults now) s = kind := by
  refine ⟨?_, by simp only [claimed, hs, hfree, h]⟩
  rcases kind with - | kind <;> simp only [step, hs, hfree, h] <;> rfl

theorem change_runDueMaintenance (handle : WriteGeneration) (faults : Faults) (now : ℤ)
    (ht : s.Timed) (hs : s.service = .up storage) (hfree : s.admitted = none) :
    let s' := step (.runDueMaintenance handle faults now) s
    Change (.runDueMaintenance handle faults now) s s' ∧ s'.Timed := by
  have hjobs : s.jobs = storage.inner.conn.maintenanceJobs := by rw [jobs, hs]; rfl
  rcases claimJob_cases handle faults now storage with ⟨e, h⟩ | h
  · have hstep : step (.runDueMaintenance handle faults now) s = { service := .up storage } := by
      simp only [step, hs, hfree, h]
    have hclaimed : claimed (.runDueMaintenance handle faults now) s = none := by
      simp only [claimed, hs, hfree, h]
    rw [hstep]
    exact ⟨.kept hjobs.symm (Or.inr rfl) hclaimed, timed_of_eq ht hs rfl rfl⟩
  · rw [← hjobs] at h
    obtain ⟨hstep, hclaimed⟩ := step_of_claimJob hs hfree h
    rw [hstep]
    exact ⟨.claims List.mem_cons_self hfree rfl rfl hclaimed, timed_of_eq ht hs rfl rfl⟩

theorem change_recoverMaintenance (handle : WriteGeneration) (faults : Faults) (now : ℤ)
    (ht : s.Timed) (hs : s.service = .up storage) (hfree : s.admitted = none) :
    let s' := step (.recoverMaintenance handle faults now) s
    Change (.recoverMaintenance handle faults now) s s' ∧ s'.Timed := by
  have hjobs : s.jobs = storage.inner.conn.maintenanceJobs := by rw [jobs, hs]; rfl
  have hstep : step (.recoverMaintenance handle faults now) s =
      { service := .up (Program.run (recoverMaintenance handle faults now) storage).2 } := by
    simp only [step, hs, hfree]
  rw [hstep]
  rcases recoverMaintenance_cases handle faults now storage with ⟨e, h⟩ | h <;> rw [h]
  · exact ⟨.kept hjobs.symm (Or.inr rfl) rfl, timed_of_eq ht hs rfl rfl⟩
  · rw [← hjobs]
    exact ⟨.interrupted rfl rfl rfl, timed_of_eq ht hs rfl rfl⟩

theorem change_complete (faults : Faults) (now : ℤ) (elapsed : ℕ) (outcome : JobOutcome)
    {claim : JobClaim} (ht : s.Timed) (hs : s.service = .up storage)
    (hheld : s.admitted = some claim) :
    let s' := step (.complete faults now elapsed outcome) s
    Change (.complete faults now elapsed outcome) s s' ∧ s'.Timed := by
  have hjobs : s.jobs = storage.inner.conn.maintenanceJobs := by rw [jobs, hs]; rfl
  have hclaimed : claimed (.complete faults now elapsed outcome) s = none := rfl
  have hstep : step (.complete faults now elapsed outcome) s = { service := .up (Program.run
      (completeJob claim.handle faults now elapsed claim.kind outcome) storage).2 } := by
    simp only [step, hs, hheld]
  rw [hstep]
  rcases completeJob_cases claim.handle faults now elapsed claim.kind outcome storage
    (ht storage hs claim.kind) with ⟨e, h⟩ | ⟨completion, hrests, h⟩ <;> rw [h]
  · exact ⟨.kept hjobs.symm (Or.inr rfl) hclaimed, timed_of_eq ht hs rfl rfl⟩
  · rw [← hjobs]
    exact ⟨.completes List.mem_cons_self hheld hrests rfl rfl hclaimed, timed_of_eq ht hs rfl rfl⟩

theorem change_call (op : StorageOp) (hop : ∀ jobs, op ≠ .scheduleJobs jobs) (ht : s.Timed)
    (hs : s.service = .up storage) :
    let s' := step (.call op) s
    Change (.call op) s s' ∧ s'.Timed := by
  have hjobs : s.jobs = storage.inner.conn.maintenanceJobs := by rw [jobs, hs]; rfl
  have hclaimed : claimed (.call op) s = none := rfl
  have hstep : step (.call op) s = { s with service := .up (op.apply storage) } := by
    cases op with
    | scheduleJobs jobs => exact absurd rfl (hop jobs)
    | _ => simp only [step, hs]
  rw [hstep]
  rcases op.rescheduled storage hop with ⟨hkept, hconfig⟩ | ⟨hnow, hvalid, hreg, hconfig⟩
  · exact ⟨.kept (hkept.trans hjobs.symm) (Or.inl rfl) hclaimed, timed_of_eq ht hs rfl hconfig⟩
  · rw [← hjobs] at hreg
    refine ⟨.registered hnow hvalid hreg rfl hclaimed, fun storage' h kind => ?_⟩
    obtain rfl := Service.up.inj h
    rw [hconfig]
    exact JobKind.le_interval_of_validate hvalid kind

/-- **Every step** does one of these, and keeps the intervals valid. -/
theorem change_step (event : JobEvent) (ht : s.Timed) :
    Change event s (step event s) ∧ (step event s).Timed := by
  have hsame : (step event s = s) → claimed event s = none →
      Change event s (step event s) ∧ (step event s).Timed := fun hstep hclaimed => by
    rw [hstep]
    exact ⟨.kept rfl (Or.inl rfl) hclaimed, ht⟩
  rcases hs : s.service with conn | storage
  · cases event with
    | restart faults readError now hosts => exact change_restart faults readError now hosts s
    | _ => exact hsame (by simp only [step, hs]) (by simp only [claimed, hs])
  · cases event with
    | restart faults readError now hosts => exact change_restart faults readError now hosts s
    | recoverMaintenance handle faults now =>
      rcases hadmitted : s.admitted with - | claim
      · exact change_recoverMaintenance handle faults now ht hs hadmitted
      · exact hsame (by simp only [step, hs, hadmitted]) rfl
    | runDueMaintenance handle faults now =>
      rcases hadmitted : s.admitted with - | claim
      · exact change_runDueMaintenance handle faults now ht hs hadmitted
      · exact hsame (by simp only [step, hs, hadmitted]) (by simp only [claimed, hs, hadmitted])
    | complete faults now elapsed outcome =>
      rcases hadmitted : s.admitted with - | claim
      · exact hsame (by simp only [step, hs, hadmitted]) rfl
      · exact change_complete faults now elapsed outcome ht hs hadmitted
    | call op =>
      by_cases hop : ∀ jobs, op ≠ .scheduleJobs jobs
      · exact change_call op hop ht hs
      · push Not at hop
        obtain ⟨jobs, rfl⟩ := hop
        exact hsame (by simp only [step, hs]) rfl

/-! ## One job at a time -/

/-- A job is running. -/
def Running (jobs : Table String JobRow) (id : String) : Prop :=
  ∃ row, jobs.find? id = some row ∧ row.status = .running

/-- **One job at a time**: the rows are those of known jobs, no two of them
are running, and the one whose claim is held is. -/
structure Exclusive (s : Scheduler) : Prop where
  known : ∀ id ∈ s.jobs.keys, ∃ kind : JobKind, kind.id = id
  single : ∀ {id id'}, Running s.jobs id → Running s.jobs id' → id = id'
  held : ∀ claim, s.admitted = some claim → Running s.jobs claim.kind.id

theorem exclusive_empty : Exclusive {} where
  known _ h := absurd h List.not_mem_nil
  single h _ := by obtain ⟨row, hrow, -⟩ := h; cases hrow
  held _ h := by cases h

/-- Registering starts no job and stops none. -/
theorem running_registered {config : MaintenanceConfig} {nowMs : ℤ}
    {jobs jobs' : Table String JobRow} (h : Registered config nowMs jobs jobs') (id : String) :
    Running jobs' id ↔ Running jobs id := by
  by_cases hid : ∃ kind : JobKind, kind.id = id
  · obtain ⟨kind, rfl⟩ := hid
    unfold Running
    rw [h.rows kind]
    rcases jobs.find? kind.id with - | row <;> simp [registeredJob]
  · push Not at hid
    unfold Running
    rw [h.others id fun kind => (hid kind).symm]

theorem known_registered {config : MaintenanceConfig} {nowMs : ℤ}
    {jobs jobs' : Table String JobRow} (h : Registered config nowMs jobs jobs')
    (hknown : ∀ id ∈ jobs.keys, ∃ kind : JobKind, kind.id = id) :
    ∀ id ∈ jobs'.keys, ∃ kind : JobKind, kind.id = id := by
  intro id hid
  by_contra hnot
  push Not at hnot
  obtain ⟨row, hrow⟩ := Table.exists_find?_of_mem_keys hid
  rw [h.others id fun kind => (hnot kind).symm] at hrow
  obtain ⟨kind, hkind⟩ := hknown id (Table.mem_keys_of_find? hrow)
  exact hnot kind hkind

/-- After a claim the job that it started is running, and no other. -/
theorem running_claimedJobs {nowMs : ℤ} {jobs : Table String JobRow}
    (hknown : ∀ id ∈ jobs.keys, ∃ kind : JobKind, kind.id = id) (id : String) :
    Running (claimedJobs nowMs jobs) id ↔ ∃ kind, dueKind nowMs jobs = some kind ∧ kind.id = id := by
  constructor
  · rintro ⟨row, hrow, hrunning⟩
    have hmem : id ∈ jobs.keys := keys_claimedJobs nowMs jobs ▸ Table.mem_keys_of_find? hrow
    obtain ⟨kind, rfl⟩ := hknown id hmem
    rw [find?_claimedJobs] at hrow
    obtain ⟨old, -, rfl⟩ := Option.map_eq_some_iff.mp hrow
    by_cases hdue : dueKind nowMs jobs = some kind
    · exact ⟨kind, hdue, rfl⟩
    · rw [if_neg hdue] at hrunning
      exact absurd hrunning (not_running_abandoned nowMs old)
  · rintro ⟨kind, hdue, rfl⟩
    obtain ⟨row, hrow, -⟩ := of_dueKind hdue
    exact ⟨_, by rw [find?_claimedJobs, hrow, Option.map_some, if_pos hdue], rfl⟩

theorem not_running_interrupted (nowMs : ℤ) (row : JobRow) :
    (row.interrupted nowMs).status ≠ .running := by
  unfold JobRow.interrupted
  split_ifs with h
  · simp
  · exact h

/-- **A step keeps one job at a time**, where a restart finds no claim held. -/
theorem exclusive_step (event : JobEvent) (ht : s.Timed) (h : s.Exclusive) :
    (step event s).Exclusive := by
  rcases (change_step event ht).1 with ⟨hjobs, hadmitted, -⟩ | ⟨-, -, hjobs, hadmitted, -⟩ |
    ⟨hrestart, hjobs, hadmitted⟩ | ⟨-, -, hjobs, hadmitted, -⟩ | ⟨-, hheld, hrests, hjobs, hadmitted, -⟩
  · -- nothing happens to the jobs, and a claim can only end
    refine ⟨hjobs ▸ h.known, hjobs ▸ h.single, fun claim hclaim => ?_⟩
    rw [hjobs]
    rcases hadmitted with heq | heq <;> rw [heq] at hclaim
    · exact h.held claim hclaim
    · cases hclaim
  · -- a job that is registered is pending, one that was known keeps its status
    have hrunning := running_registered hjobs
    refine ⟨known_registered hjobs h.known, fun h₁ h₂ => ?_, fun claim hclaim => ?_⟩
    · exact h.single ((hrunning _).mp h₁) ((hrunning _).mp h₂)
    · rw [hadmitted] at hclaim
      exact (hrunning _).mpr (h.held claim hclaim)
  · -- a restart interrupts whatever runs
    have hnot : ∀ id, ¬ Running (step event s).jobs id := by
      rintro id ⟨row, hrow, hrunning⟩
      rw [hjobs, Table.find?_mapVals] at hrow
      obtain ⟨old, -, rfl⟩ := Option.map_eq_some_iff.mp hrow
      exact not_running_interrupted _ old hrunning
    refine ⟨?_, fun h₁ _ => absurd h₁ (hnot _), fun claim hclaim => ?_⟩
    · rw [hjobs, Table.keys_mapVals]
      exact h.known
    · rw [hadmitted] at hclaim
      cases hclaim
  · -- a claim settles what ran before it and starts one job
    refine ⟨?_, fun h₁ h₂ => ?_, fun claim hclaim => ?_⟩
    · rw [hjobs, keys_claimedJobs]
      exact h.known
    · rw [hjobs, running_claimedJobs h.known] at h₁ h₂
      obtain ⟨kind, hdue, rfl⟩ := h₁
      obtain ⟨kind', hdue', rfl⟩ := h₂
      rw [Option.some.inj (hdue.symm.trans hdue')]
    · rw [hadmitted] at hclaim
      obtain ⟨kind, hdue, rfl⟩ := Option.map_eq_some_iff.mp hclaim
      rw [hjobs, running_claimedJobs h.known]
      exact ⟨kind, hdue, rfl⟩
  · -- a completion starts nothing
    have hstill : ∀ id, Running (step event s).jobs id → Running s.jobs id := by
      rintro id ⟨row, hrow, hrunning⟩
      rw [hjobs, Table.modify, Table.find?_mapVals] at hrow
      obtain ⟨old, hold, rfl⟩ := Option.map_eq_some_iff.mp hrow
      split_ifs at hrunning with hkey
      · exact absurd hrunning hrests.status
      · exact ⟨old, hold, hrunning⟩
    refine ⟨?_, fun h₁ h₂ => h.single (hstill _ h₁) (hstill _ h₂), fun claim hclaim => ?_⟩
    · rw [hjobs, Table.keys_modify]
      exact h.known
    · rw [hadmitted] at hclaim
      cases hclaim

theorem sound_run (events : List JobEvent) : (run events {}).Timed ∧ (run events {}).Exclusive :=
  List.foldl_invariant (P := fun _ (s : Scheduler) => s.Timed ∧ s.Exclusive)
    (fun _ _ _ event _ h => ⟨(change_step event h.1).2, exclusive_step event h.1 h.2⟩)
    ⟨timed_empty, exclusive_empty⟩

/-- The rows that are running. -/
def runningJobs (s : Scheduler) : List String :=
  (s.jobs.rows.filter fun r => r.2.status = .running).map Prod.fst

theorem Exclusive.length_le_one (h : s.Exclusive) : s.runningJobs.length ≤ 1 := by
  have hnodup : s.runningJobs.Nodup := s.jobs.nodup.sublist (List.filter_sublist.map _)
  have hrunning : ∀ id ∈ s.runningJobs, Running s.jobs id := by
    intro id hid
    obtain ⟨⟨id, row⟩, hrow, rfl⟩ := List.mem_map.mp hid
    obtain ⟨hmem, hstatus⟩ := List.mem_filter.mp hrow
    exact ⟨row, Table.find?_eq_some.mpr hmem, of_decide_eq_true hstatus⟩
  rcases hlist : s.runningJobs with - | ⟨id, - | ⟨id', rest⟩⟩
  · exact Nat.zero_le 1
  · exact le_rfl
  · rw [hlist] at hnodup hrunning
    have heq := h.single (hrunning id (by simp)) (hrunning id' (by simp))
    exact absurd (heq ▸ List.mem_cons_self) (List.nodup_cons.mp hnodup).1

/-! ## No job is overtaken twice -/

/-- A job waits: it is not running, and due at an instant. -/
def Waiting (jobs : Table String JobRow) (kind : JobKind) (dueMs : ℤ) : Prop :=
  ∃ row, jobs.find? kind.id = some row ∧ row.status ≠ .running ∧ row.nextRunMs = dueMs

/-- A job is behind an instant: it is running, so it will be put off, or it
is due later. -/
def Behind (jobs : Table String JobRow) (dueMs : ℤ) (kind : JobKind) : Prop :=
  ∃ row, jobs.find? kind.id = some row ∧ (row.status = .running ∨ dueMs < row.nextRunMs)

section Registering

variable {config : MaintenanceConfig} {nowMs dueMs : ℤ} {jobs jobs' : Table String JobRow}
  {kind : JobKind}

theorem Waiting.registered (hw : Waiting jobs kind dueMs) (h : Registered config nowMs jobs jobs')
    (hdue : dueMs ≤ nowMs) : Waiting jobs' kind dueMs := by
  obtain ⟨row, hrow, hidle, hnext⟩ := hw
  refine ⟨_, h.rows kind, ?_, ?_⟩
  · rw [hrow]
    exact hidle
  · rw [hrow]
    show min row.nextRunMs (nowMs + asMillis (kind.interval config)) = dueMs
    omega

theorem Behind.registered (hb : Behind jobs dueMs kind) (h : Registered config nowMs jobs jobs')
    (hvalid : config.validate = .ok ()) (hdue : dueMs ≤ nowMs) : Behind jobs' dueMs kind := by
  obtain ⟨row, hrow, hbehind⟩ := hb
  have hinterval : 1000 ≤ asMillis (kind.interval config) :=
    asMillis_mono (JobKind.le_interval_of_validate hvalid kind)
  refine ⟨_, h.rows kind, ?_⟩
  rw [hrow]
  rcases hbehind with hrunning | hlater
  · exact Or.inl hrunning
  · right
    show dueMs < min row.nextRunMs (nowMs + asMillis (kind.interval config))
    omega

end Registering

section Claiming

variable {nowMs dueMs : ℤ} {jobs : Table String JobRow} {kind other : JobKind}

theorem Waiting.claimed (hw : Waiting jobs kind dueMs) (h : dueKind nowMs jobs ≠ some kind) :
    Waiting (claimedJobs nowMs jobs) kind dueMs := by
  obtain ⟨row, hrow, hidle, hnext⟩ := hw
  refine ⟨row, ?_, hidle, hnext⟩
  rw [find?_claimedJobs, hrow, Option.map_some, if_neg h, abandoned_of_not_running hidle]

theorem Behind.claimed (hb : Behind jobs dueMs other) (hdue : dueMs ≤ nowMs) :
    Behind (claimedJobs nowMs jobs) dueMs other := by
  obtain ⟨row, hrow, hbehind⟩ := hb
  refine ⟨_, by rw [find?_claimedJobs, hrow, Option.map_some], ?_⟩
  split_ifs
  · exact Or.inl rfl
  · right
    by_cases hrunning : row.status = .running
    · exact lt_of_le_of_lt hdue (lt_nextRunMs_abandoned hrunning)
    · rw [abandoned_of_not_running hrunning]
      exact hbehind.resolve_left hrunning

/-- **What is claimed while another job waits** was not behind it, and is
from then on. -/
theorem behind_of_claimed (hw : Waiting jobs kind dueMs) (hdue : dueMs ≤ nowMs)
    (h : dueKind nowMs jobs = some other) :
    ¬ Behind jobs dueMs other ∧ Behind (claimedJobs nowMs jobs) dueMs other := by
  obtain ⟨row, hrow, hidle, -, hfirst⟩ := of_dueKind h
  obtain ⟨waiting, hwaiting, hwidle, hnext⟩ := hw
  have hle : row.nextRunMs ≤ dueMs := by
    have := hfirst kind.id waiting hwaiting hwidle (by omega)
    omega
  refine ⟨?_, _, by rw [find?_claimedJobs, hrow, Option.map_some, if_pos h], Or.inl rfl⟩
  rintro ⟨row', hrow', hbehind⟩
  obtain rfl := Option.some.inj (hrow.symm.trans hrow')
  rcases hbehind with hrunning | hlater
  · exact hidle hrunning
  · omega

end Claiming

section Completing

variable {nowMs dueMs : ℤ} {durationMs : ℕ} {jobs : Table String JobRow} {kind other : JobKind}
  {completion : JobCompletion}

theorem Waiting.completed (hw : Waiting jobs kind dueMs) (h : kind ≠ other) :
    Waiting (jobs.modify other.id (·.completed completion nowMs durationMs)) kind dueMs := by
  obtain ⟨row, hrow, hidle, hnext⟩ := hw
  have hid : kind.id ≠ other.id := fun heq => h (JobKind.id_injective heq)
  exact ⟨row, by rw [Table.find?_modify_of_ne hid, hrow], hidle, hnext⟩

theorem Behind.completed (hb : Behind jobs dueMs kind) (hrests : completion.Rests)
    (hdue : dueMs ≤ nowMs) :
    Behind (jobs.modify other.id (·.completed completion nowMs durationMs)) dueMs kind := by
  obtain ⟨row, hrow, hbehind⟩ := hb
  by_cases hid : kind.id = other.id
  · refine ⟨_, by rw [← hid, Table.find?_modify_self, hrow, Option.map_some], Or.inr ?_⟩
    have hdelay := hrests.delay
    show dueMs < nowMs + completion.delay
    omega
  · exact ⟨row, by rw [Table.find?_modify_of_ne hid, hrow], hbehind⟩

end Completing

/-- A job that waits, in a scheduler that runs one job at a time. -/
structure Waits (kind : JobKind) (dueMs : ℤ) (s : Scheduler) : Prop where
  timed : s.Timed
  exclusive : s.Exclusive
  waiting : Waiting s.jobs kind dueMs

/-- **A step while a job waits**: it goes on waiting unless it is claimed,
what is behind it stays there, and what is claimed goes there. -/
theorem waits_step {kind : JobKind} {dueMs : ℤ} {event : JobEvent}
    (hrestart : event.isRestart = false) (hclock : ∀ t ∈ event.readings, dueMs ≤ timestampMillis t)
    (hw : Waits kind dueMs s) (hnot : claimed event s ≠ some kind) :
    Waits kind dueMs (step event s) ∧
      (∀ other, Behind s.jobs dueMs other → Behind (step event s).jobs dueMs other) ∧
      ∀ other, claimed event s = some other →
        ¬ Behind s.jobs dueMs other ∧ Behind (step event s).jobs dueMs other := by
  obtain ⟨hchange, htimed⟩ := change_step event hw.timed
  have hexclusive := exclusive_step event hw.timed hw.exclusive
  rcases hchange with ⟨hjobs, -, hclaimed⟩ | ⟨hnow, hvalid, hjobs, -, hclaimed⟩ | ⟨h, -, -⟩ |
    ⟨hnow, -, hjobs, -, hclaimed⟩ | ⟨hnow, hheld, hrests, hjobs, -, hclaimed⟩
  · refine ⟨⟨htimed, hexclusive, hjobs ▸ hw.waiting⟩, fun other hb => hjobs ▸ hb,
      fun other hother => ?_⟩
    rw [hclaimed] at hother
    cases hother
  · have hdue := hclock _ hnow
    refine ⟨⟨htimed, hexclusive, hw.waiting.registered hjobs hdue⟩,
      fun other hb => hb.registered hjobs hvalid hdue, fun other hother => ?_⟩
    rw [hclaimed] at hother
    cases hother
  · rw [hrestart] at h
    cases h
  · have hdue := hclock _ hnow
    rw [hclaimed] at hnot ⊢
    refine ⟨⟨htimed, hexclusive, ?_⟩, fun other hb => ?_, fun other hother => ?_⟩ <;> rw [hjobs]
    · exact hw.waiting.claimed hnot
    · exact hb.claimed hdue
    · exact behind_of_claimed hw.waiting hdue hother
  · have hdue := hclock _ hnow
    have hne : ∀ claim, s.admitted = some claim → kind ≠ claim.kind := by
      rintro claim hclaim rfl
      obtain ⟨row, hrow, hidle, -⟩ := hw.waiting
      obtain ⟨row', hrow', hrunning⟩ := hw.exclusive.held claim hclaim
      obtain rfl := Option.some.inj (hrow.symm.trans hrow')
      exact hidle hrunning
    refine ⟨⟨htimed, hexclusive, ?_⟩, fun other hb => ?_, fun other hother => ?_⟩
    · rw [hjobs]
      exact hw.waiting.completed (hne _ hheld)
    · rw [hjobs]
      exact hb.completed hrests hdue
    · rw [hclaimed] at hother
      cases hother

/-! ## The result -/

/-- What a stretch of a run claims, in order. -/
def claims (stretch : List JobEvent) (s : Scheduler) : List JobKind :=
  Waiting.served step claimed stretch s

/-- **One job at a time, and none overtaken twice.** Whatever happened before,
at most one job is running. From any moment at which a job is due and not
running on, up to the next restart and as long as the clock does not go back:
until the job is claimed no other is claimed twice, and every claim that is
let in and committed is of some job. -/
theorem scheduler_is_exclusive_and_fair (history stretch : List JobEvent) :
    (run history {}).runningJobs.length ≤ 1 ∧
    ∀ (kind : JobKind) (row : JobRow) (now : ℤ),
      (run history {}).jobs.find? kind.id = some row → row.status ≠ .running →
      row.nextRunMs ≤ timestampMillis now → (∀ event ∈ stretch, event.isRestart = false) →
      (now :: stretch.flatMap JobEvent.readings).Pairwise (· ≤ ·) →
      ((claims stretch (run history {})).takeWhile (· ≠ kind)).Nodup ∧
      ∀ before handle faults t after,
        stretch = before ++ .runDueMaintenance handle faults t :: after →
        kind ∉ claims before (run history {}) →
        ∀ storage, (run before (run history {})).service = .up storage →
          (run before (run history {})).admitted = none →
          (Program.run (claimJob handle faults t) storage).1 ≠ .ok none := by
  obtain ⟨htimed, hexclusive⟩ := sound_run history
  refine ⟨hexclusive.length_le_one, fun kind row now hrow hidle hdue hrestart hclock => ?_⟩
  have hwaits : Waits kind row.nextRunMs (run history {}) :=
    ⟨htimed, hexclusive, row, hrow, hidle, rfl⟩
  -- the clock does not go back, so the job stays due
  have hreadings : ∀ event ∈ stretch, ∀ t ∈ event.readings, row.nextRunMs ≤ timestampMillis t := by
    intro event hevent t ht
    have hle : now ≤ t := (List.pairwise_cons.mp hclock).1 t (List.mem_flatMap.mpr ⟨event, hevent, ht⟩)
    have hmillis : timestampMillis now ≤ timestampMillis t := by unfold timestampMillis; omega
    omega
  have hstep : ∀ event ∈ stretch, ∀ s, Waits kind row.nextRunMs s → claimed event s ≠ some kind →
      Waits kind row.nextRunMs (step event s) ∧ _ ∧ _ := fun event hevent s hw hnot =>
    waits_step (hrestart event hevent) (hreadings event hevent) hw hnot
  refine ⟨Waiting.nodup_served hstep hwaits, fun before handle faults t after hstretch hnot storage
    hup hfree => ?_⟩
  subst hstretch
  have hw : Waits kind row.nextRunMs (run before (run history {})) :=
    Waiting.waits_of_not_served (fun event hevent s hw hnot =>
      (hstep event (List.mem_append_left _ hevent) s hw hnot).1) hwaits hnot
  obtain ⟨row', hrow', hidle', hnext'⟩ := hw.waiting
  have hnow : row'.nextRunMs ≤ timestampMillis t := by
    have := hreadings (.runDueMaintenance handle faults t) (by simp) t List.mem_cons_self
    omega
  -- a claim that is let in finds a job: the one that waits, if no other
  rcases claimJob_cases handle faults t storage with ⟨e, h⟩ | h <;> rw [h]
  · simp
  · have hjobs : (run before (run history {})).jobs = storage.inner.conn.maintenanceJobs := by
      rw [jobs, hup]
      rfl
    intro hnone
    refine dueKind_ne_none hw.exclusive.known hrow' hidle' hnow ?_
    rw [hjobs]
    exact Except.ok.inj hnone

/-! ## A sample -/

/-- The jobs are registered when the service starts. -/
def sampleStart : List JobEvent :=
  [.restart {} none 0 [], .recoverMaintenance none {} 0, .call (.configureMaintenance {} 0 {} {})]

/-- A call claims a job and completes it, at a number of seconds. -/
def sampleRun (seconds : ℕ) (outcome : JobOutcome) : List JobEvent :=
  [.runDueMaintenance none {} (fromSecs seconds), .complete {} (fromSecs seconds) 0 outcome]

/-- A job that has more to do, one that fails, one whose completion is lost,
and two that end well. -/
def sampleStretch : List JobEvent :=
  sampleRun 1 (.ok (500, true, none)) ++ sampleRun 3 (.error .busy) ++
    [.runDueMaintenance none {} (fromSecs 5),
      .complete { sql := [some .busy] } (fromSecs 5) 0 (.ok (0, false, none))] ++
    sampleRun 7 (.ok (0, false, none)) ++ sampleRun 9 (.ok (0, false, none))

theorem sampleStretch_fair :
    claims sampleStretch (run sampleStart {}) =
        [.rollup, .jobHistory, .optimize, .retention, .reclaim] ∧
      ((claims sampleStretch (run sampleStart {})).takeWhile (· ≠ .reclaim)).Nodup :=
  ⟨by decide +kernel, ((scheduler_is_exclusive_and_fair sampleStart sampleStretch).2 .reclaim
    { status := .pending, nextRunMs := 0 } (fromSecs 1) (by decide +kernel) (by decide)
    (by decide +kernel) (by decide +kernel) (by decide +kernel)).1⟩

end Scheduler

end SimpleNetworkMonitor.Storage
