import SimpleNetworkMonitor.Daemon.Helpers.Schedule
/-!
# The permits of a monitor

A monitor never has more jobs between admission and storage than it has
permits, leaves no permit unused while a job waits for one, and serves the
jobs in the order in which they ask. What its jobs do is one of the
interleavings of jobs that know no time and no permits.
-/

namespace SimpleNetworkMonitor.Daemon

variable {ο : Type}

/-! ## Without time -/

/-- What an event is to a job that knows no time and no permits. -/
def ScheduledJob.untimed (now i : ℕ) (job : ScheduledJob ο) (semaphore : Semaphore ℕ) :
    JobEvent ο → Option (App.Event ο)
  | .admitted =>
    match job.turn, job.phase with
    | .asking _, .waiting => if semaphore.holds i then some .admitted else none
    | _, _ => none
  | .observed observation success =>
    match job.turn with
    | .asking _ => some (.observed observation success (now - job.began))
    | _ => none
  | .persisted result =>
    match job.turn with
    | .asking _ => some (.persisted result)
    | _ => none
  | .aborted => some .aborted
  | .start _ | .wake | .tick => none

namespace Schedule

/-- An event, as the runner sees it. -/
def eventOf (event : ScheduleEvent ο) (s : Schedule ο) : List (ℕ × App.Event ο) :=
  match event with
  | .elapse _ => []
  | .job i event =>
    match s.jobs[i]? with
    | none => []
    | some job => ((job.untimed s.now i s.semaphore event).map (i, ·)).toList

/-- The run, as the runner sees it. -/
def untimed : List (ScheduleEvent ο) → Schedule ο → List (ℕ × App.Event ο)
  | [], _ => []
  | event :: events, s => s.eventOf event ++ untimed events (s.step event)

/-- The jobs as the runner sees them. -/
def jobsOf (s : Schedule ο) : App.Jobs ℕ ο :=
  ⟨fun i => (s.jobs[i]?.map (·.phase)).getD .waiting, s.metrics⟩

end Schedule

/-- **A step of a job is a step of the runner**, or none. -/
theorem step_untimed (kind : String) (now i : ℕ) (job : ScheduledJob ο) (semaphore : Semaphore ℕ)
    (metrics : App.RuntimeMetrics) (event : JobEvent ο) :
    let next := job.step kind now i semaphore metrics event
    (next.1.phase, next.2.2) =
      match job.untimed now i semaphore event with
      | some event => App.runJob kind job.phase metrics event
      | none => (job.phase, metrics) := by
  obtain ⟨interval, turn, phase, started, began, stored⟩ := job
  cases event with
  | start delay =>
    cases turn <;> cases phase <;> try rfl
    simp only [ScheduledJob.step, ScheduledJob.untimed]
    split_ifs <;> rfl
  | wake =>
    cases turn <;> cases phase <;> try rfl
    simp only [ScheduledJob.step, ScheduledJob.untimed]
    split_ifs <;> rfl
  | tick =>
    cases turn <;> cases phase <;> try rfl
    simp only [ScheduledJob.step, ScheduledJob.untimed]
    split_ifs <;> rfl
  | admitted =>
    cases turn <;> cases phase <;> try rfl
    simp only [ScheduledJob.step, ScheduledJob.untimed]
    split_ifs <;> rfl
  | observed observation success => cases turn <;> cases phase <;> rfl
  | persisted result =>
    cases turn <;> cases phase <;> try rfl
    rcases result with e | ⟨⟩
    · cases e <;> rfl
    · rfl
  | aborted => rfl

namespace Schedule

theorem kind_step (event : ScheduleEvent ο) (s : Schedule ο) : (s.step event).kind = s.kind := by
  cases event with
  | elapse duration =>
    simp only [step]
    split_ifs <;> rfl
  | job i event => rcases hi : s.jobs[i]? with - | job <;> simp only [step, hi]

theorem jobsOf_step (event : ScheduleEvent ο) (s : Schedule ο) :
    (s.eventOf event).foldl (App.Jobs.step fun _ => s.kind) s.jobsOf = (s.step event).jobsOf := by
  cases event with
  | elapse duration =>
    simp only [step, eventOf, List.foldl_nil]
    split_ifs <;> rfl
  | job i event =>
    rcases hi : s.jobs[i]? with - | job
    · simp only [step, eventOf, hi, List.foldl_nil]
    · have hlt := (List.getElem?_eq_some_iff.mp hi).1
      have hstep := step_untimed s.kind s.now i job s.semaphore s.metrics event
      simp only [step, eventOf, hi]
      rcases hevent : job.untimed s.now i s.semaphore event with - | untimed
      · simp only [hevent] at hstep
        obtain ⟨hphase, hmetrics⟩ := Prod.mk.inj hstep
        simp only [Option.map_none, Option.toList_none, List.foldl_nil, jobsOf, App.Jobs.mk.injEq,
          hmetrics, and_true]
        funext j
        by_cases hj : j = i
        · rw [hj, hi, List.getElem?_set_self hlt, Option.map_some, Option.map_some, hphase]
        · rw [List.getElem?_set_ne (Ne.symm hj)]
      · simp only [hevent] at hstep
        simp only [Option.map_some, Option.toList_some, List.foldl_cons, List.foldl_nil,
          App.Jobs.step, jobsOf, hi, Option.getD_some, ← hstep, App.Jobs.mk.injEq, and_true]
        funext j
        by_cases hj : j = i
        · rw [if_pos hj, hj, List.getElem?_set_self hlt, Option.map_some, Option.getD_some]
        · rw [if_neg hj, List.getElem?_set_ne (Ne.symm hj)]

/-- **A run in time is a run of the runner.** -/
theorem jobsOf_run (events : List (ScheduleEvent ο)) (s : Schedule ο) :
    (untimed events s).foldl (App.Jobs.step fun _ => s.kind) s.jobsOf = (s.run events).jobsOf := by
  induction events generalizing s with
  | nil => rfl
  | cons event events ih =>
    rw [untimed, List.foldl_append, jobsOf_step, ← kind_step event s]
    exact ih (s.step event)

theorem jobsOf_start (kind : String) (concurrency : ℕ) (intervals : List ℕ) :
    (start (ο := ο) kind concurrency intervals).jobsOf = App.Jobs.start := by
  simp only [jobsOf, start, App.Jobs.start, App.Jobs.mk.injEq, and_true]
  funext i
  rw [List.getElem?_map]
  cases intervals[i]? <;> rfl

end Schedule

/-! ## The result -/

/-- What is counted is at most what it is counted with. -/
theorem countP_le_length {α : Type*} {p : α → Bool} {l : List α} {clients : List ℕ}
    (h : ∀ i a, l[i]? = some a → p a = true → i ∈ clients) : l.countP p ≤ clients.length := by
  have hnodup : ((l.zipIdx.filter fun a => p a.1).map (·.2)).Nodup := by
    refine List.Nodup.sublist (List.filter_sublist.map _) ?_
    rw [List.zipIdx_map_snd]
    exact List.nodup_range'
  have hsubset : (l.zipIdx.filter fun a => p a.1).map (·.2) ⊆ clients := by
    intro i hi
    obtain ⟨⟨a, i⟩, hmem, rfl⟩ := List.mem_map.mp hi
    obtain ⟨hmem, hp⟩ := List.mem_filter.mp hmem
    exact h i a (List.mk_mem_zipIdx_iff_getElem?.mp hmem) hp
  have hle := (List.subperm_of_subset hnodup hsubset).length_le
  rw [List.length_map, ← List.countP_eq_length_filter] at hle
  have hcount : (l.zipIdx.map (·.1)).countP p = l.zipIdx.countP fun a => p a.1 := List.countP_map
  rw [List.zipIdx_map_fst] at hcount
  exact hcount ▸ hle

/-- **The permits of a monitor.** In every state that a monitor comes to,
whatever its checks and the storage do and however long they take: no more of
its jobs are between admission and storage than it has permits; where a job
waits for a permit, all of them are out; whoever has a permit asked no later
than whoever waits for one; and what its jobs have done so far is a run of
the runner, counters included. -/
theorem monitor_admits (prepared : PreparedMonitor) (events : List (ScheduleEvent ο)) :
    let s := prepared.schedule.run events
    s.jobs.countP (fun job => executing job.phase) ≤ prepared.concurrency ∧
      (∀ i job deadline, s.jobs[i]? = some job → job.turn = .asking deadline →
        job.phase = .waiting → s.semaphore.holds i = false →
        s.semaphore.holders.length = prepared.concurrency) ∧
      (∀ holder ∈ s.semaphore.holders, ∀ waiter ∈ s.semaphore.waiters, holder.asked ≤ waiter.asked) ∧
      App.Jobs.run (fun _ => prepared.kind) (Schedule.untimed events prepared.schedule) =
        s.jobsOf := by
  intro s
  have h : Tied prepared.concurrency s := Schedule.tied_run (Schedule.tied_start _ _ _) events
  refine ⟨?_, fun i job deadline hi hturn hphase hholds => ?_, h.orderly.first, ?_⟩
  · refine le_trans (b := (s.semaphore.holders.map (·.client)).length) (countP_le_length ?_) ?_
    · intro i job hi hexecutes
      obtain ⟨holder, hmem, hclient⟩ := (h.fits i job hi).executes hexecutes
      exact hclient ▸ List.mem_map_of_mem hmem
    · rw [List.length_map]
      exact h.sound.length_holders_le
  · refine h.sound.length_holders ?_
    have hasks := (h.fits i job hi).asks.mpr ⟨⟨deadline, hturn⟩, by simp [hphase]⟩
    rcases Semaphore.mem_clients.mp hasks with hholder | ⟨w, hw, -⟩
    · rw [Semaphore.holds_iff.mpr hholder] at hholds
      cases hholds
    · exact List.ne_nil_of_mem hw
  · have hstart : (prepared.schedule (ο := ο)).jobsOf = App.Jobs.start :=
      Schedule.jobsOf_start _ _ _
    rw [App.Jobs.run, ← hstart]
    exact Schedule.jobsOf_run events prepared.schedule

end SimpleNetworkMonitor.Daemon
