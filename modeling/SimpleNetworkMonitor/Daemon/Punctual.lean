import SimpleNetworkMonitor.Daemon.Coverage
import SimpleNetworkMonitor.Daemon.Helpers.Schedule
/-!
# How many checks a monitor can carry

Jobs that share permits wait for one another. Where every job returns its
permit within a limited time, and that many holdings fit into an interval,
every job asks in time, and what it stored last is fresh at all times.
-/

namespace SimpleNetworkMonitor.Daemon

variable {ο : Type} {capacity n hold now : ℕ}

/-! ## In time -/

namespace ScheduledJob

/-- **By when a job asks next**: an interval after the observation that was
stored last began, or when the longest delay is over. -/
def limit (job : ScheduledJob ο) : ℕ :=
  match job.stored with
  | some began => began + job.interval
  | none => job.started + fromMillis (maxMillis job.interval)

/-- A job that asked, and did so in time. -/
structure Asked (job : ScheduledJob ο) (asked : ℕ) : Prop where
  turn : ∃ deadline, job.turn = .asking deadline ∧ deadline ≤ asked + job.interval
  limit : asked ≤ job.limit

/-- A job that has its permit, and did not let it lie. -/
structure Admitted (now : ℕ) (holder : Semaphore.Holder ℕ) (job : ScheduledJob ο) : Prop
    extends Asked job holder.asked where
  waiting : job.phase = .waiting → holder.granted = now
  began : executing job.phase = true → job.began = holder.granted

/-- A job that has not asked yet, and still can in time. -/
structure OnTime (now : ℕ) (job : ScheduledJob ο) : Prop where
  unstarted : job.turn = .unstarted → job.stored = none
  delayed : ∀ due, job.turn = .delayed due → now ≤ due ∧ due ≤ job.limit
  ticking : ∀ deadline, job.turn = .ticking deadline → now ≤ job.limit ∧ deadline ≤ job.limit

end ScheduledJob

/-- No job has its permit for longer. -/
def Schedule.Prompt (hold : ℕ) (s : Schedule ο) : Prop := s.semaphore.Prompt hold s.now

instance (hold : ℕ) (s : Schedule ο) : Decidable (s.Prompt hold) :=
  inferInstanceAs (Decidable (∀ h ∈ s.semaphore.holders, s.now - h.granted ≤ hold))

/-- **The invariant.** -/
structure Punctual (capacity n hold : ℕ) (s : Schedule ο) : Prop where
  tied : Tied capacity s
  length : s.jobs.length = n
  paced : s.semaphore.Paced capacity n hold s.now
  /-- The others and the job itself are done within an interval. -/
  room : ∀ (i : ℕ) (job : ScheduledJob ο), s.jobs[i]? = some job →
    n * hold + capacity * hold ≤ capacity * job.interval + hold
  waiters : ∀ w ∈ s.semaphore.waiters, ∃ job, s.jobs[w.client]? = some job ∧ job.Asked w.asked
  holders : ∀ h ∈ s.semaphore.holders, ∃ job, s.jobs[h.client]? = some job ∧ job.Admitted s.now h
  onTime : ∀ (i : ℕ) (job : ScheduledJob ο), s.jobs[i]? = some job → job.phase = .waiting →
    job.OnTime s.now

/-! ## The steps -/

variable {s : Schedule ο}

/-- The next tick is due an interval after this one at the latest. -/
theorem nextDeadline_le {interval deadline : ℕ} (h : deadline ≤ now) :
    nextDeadline interval deadline now ≤ now + interval := by
  unfold nextDeadline
  split_ifs <;> omega

theorem fromMillis_mono {m k : ℕ} (h : m ≤ k) : fromMillis m ≤ fromMillis k :=
  Nat.mul_le_mul_right _ h

/-- A holding fits into an interval. -/
theorem hold_le_interval {interval : ℕ} (hcapacity : 0 < capacity) (hn : 0 < n)
    (hroom : n * hold + capacity * hold ≤ capacity * interval + hold) : hold ≤ interval := by
  have hone : 1 * hold ≤ n * hold := Nat.mul_le_mul_right _ hn
  exact Nat.le_of_mul_le_mul_left (show capacity * hold ≤ capacity * interval by omega) hcapacity

/-- **Time passes.** -/
theorem punctual_elapse (h : Punctual capacity n hold s) (duration : ℕ) :
    Punctual capacity n hold (s.step (.elapse duration)) := by
  have htied := Schedule.tied_step h.tied (.elapse duration)
  simp only [Schedule.step] at htied ⊢
  split_ifs at htied ⊢ with hidle
  · have hjob : ∀ (i : ℕ) (job : ScheduledJob ο), s.jobs[i]? = some job →
        job.idle (s.semaphore.holds i) (s.now + duration) = true := fun i job hi =>
      List.all_eq_true.mp hidle (job, i) (List.mk_mem_zipIdx_iff_getElem?.mpr hi)
    refine ⟨htied, h.length, Semaphore.paced_add h.paced h.tied.sound h.tied.orderly duration,
      h.room, h.waiters, fun holder hmem => ?_, fun i job hi hphase => ?_⟩
    · obtain ⟨job, hi, hasked, -, hbegan⟩ := h.holders holder hmem
      refine ⟨job, hi, hasked, fun hphase => ?_, hbegan⟩
      -- a job that was just admitted does not wait
      obtain ⟨deadline, hturn, -⟩ := hasked.turn
      have := hjob _ _ hi
      simp [ScheduledJob.idle, hphase, hturn, Semaphore.holds_iff.mpr ⟨holder, hmem, rfl⟩] at this
    · obtain ⟨hunstarted, hdelayed, hticking⟩ := h.onTime i job hi hphase
      have hlater := hjob i job hi
      refine ⟨hunstarted, fun due hturn => ?_, fun deadline hturn => ?_⟩
      · simp only [ScheduledJob.idle, hphase, hturn, decide_eq_true_eq] at hlater
        exact ⟨hlater, (hdelayed due hturn).2⟩
      · simp only [ScheduledJob.idle, hphase, hturn, decide_eq_true_eq] at hlater
        have := (hticking deadline hturn).2
        exact ⟨hlater.trans this, this⟩
  · exact h

/-- **A job takes a step.** What it owes is what is said of itself; the others
are as they were, but for who comes next in line. -/
theorem Punctual.set (h : Punctual capacity n hold s) {i : ℕ} {job job' : ScheduledJob ο}
    {semaphore : Semaphore ℕ} {metrics : App.RuntimeMetrics} (hi : s.jobs[i]? = some job)
    (htied : Tied capacity { s with semaphore, metrics, jobs := s.jobs.set i job' })
    (hpaced : semaphore.Paced capacity n hold s.now) (hinterval : job'.interval = job.interval)
    (hwaiters : ∀ w ∈ semaphore.waiters, (w.client ≠ i ∧ w ∈ s.semaphore.waiters) ∨
      (w.client = i ∧ job'.Asked w.asked))
    (hholders : ∀ x ∈ semaphore.holders, (x.client ≠ i ∧ (x ∈ s.semaphore.holders ∨
        x.toWaiter ∈ s.semaphore.waiters ∧ x.granted = s.now)) ∨
      (x.client = i ∧ job'.Admitted s.now x))
    (honTime : job'.phase = .waiting → job'.OnTime s.now) :
    Punctual capacity n hold { s with semaphore, metrics, jobs := s.jobs.set i job' } := by
  have hlt := (List.getElem?_eq_some_iff.mp hi).1
  have hself : (s.jobs.set i job')[i]? = some job' := List.getElem?_set_self hlt
  have hother : ∀ {j}, j ≠ i → (s.jobs.set i job')[j]? = s.jobs[j]? := fun hne =>
    List.getElem?_set_ne (Ne.symm hne)
  refine ⟨htied, (List.length_set ..).trans h.length, hpaced, fun j x hj => ?_, fun w hw => ?_,
    fun x hx => ?_, fun j x hj hphase => ?_⟩
  · rcases List.getElem?_set_cases hj with ⟨rfl, rfl⟩ | ⟨-, hj⟩
    · exact hinterval ▸ h.room j job hi
    · exact h.room j x hj
  · rcases hwaiters w hw with ⟨hne, hw⟩ | ⟨heq, hasked⟩
    · obtain ⟨x, hx, hasked⟩ := h.waiters w hw
      exact ⟨x, (hother hne).trans hx, hasked⟩
    · exact ⟨job', heq ▸ hself, hasked⟩
  · rcases hholders x hx with ⟨hne, hx | ⟨hw, hgranted⟩⟩ | ⟨heq, hadmitted⟩
    · obtain ⟨other, hj, hadmitted⟩ := h.holders x hx
      exact ⟨other, (hother hne).trans hj, hadmitted⟩
    · -- it was next in line, and waited
      obtain ⟨other, hj, hasked⟩ := h.waiters _ hw
      have hphase := (h.tied.fits _ other hj).waits ⟨_, hw, rfl⟩
      refine ⟨other, (hother hne).trans hj, hasked, fun _ => hgranted, fun hexecutes => ?_⟩
      rw [hphase] at hexecutes
      cases hexecutes
    · exact ⟨job', heq ▸ hself, hadmitted⟩
  · rcases List.getElem?_set_cases hj with ⟨rfl, rfl⟩ | ⟨-, hj⟩
    · exact honTime hphase
    · exact h.onTime j x hj hphase

/-- A step of a job that has not asked, and leaves the semaphore alone. -/
theorem Punctual.set_of_not_asking (h : Punctual capacity n hold s) {i : ℕ}
    {job job' : ScheduledJob ο} {metrics : App.RuntimeMetrics} (hi : s.jobs[i]? = some job)
    (hturn : ∀ deadline, job.turn ≠ .asking deadline)
    (htied : Tied capacity { s with metrics, jobs := s.jobs.set i job' })
    (hinterval : job'.interval = job.interval) (honTime : job'.phase = .waiting → job'.OnTime s.now) :
    Punctual capacity n hold { s with metrics, jobs := s.jobs.set i job' } := by
  have hclient : i ∉ s.semaphore.clients := fun hmem => by
    obtain ⟨⟨deadline, hasks⟩, -⟩ := (h.tied.fits i job hi).asks.mp hmem
    exact hturn deadline hasks
  refine h.set hi htied h.paced hinterval (fun w hw => Or.inl ⟨?_, hw⟩)
    (fun x hx => Or.inl ⟨?_, Or.inl hx⟩) honTime
  · rintro rfl
    exact hclient (Semaphore.mem_clients.mpr (Or.inr ⟨w, hw, rfl⟩))
  · rintro rfl
    exact hclient (Semaphore.mem_clients.mpr (Or.inl ⟨x, hx, rfl⟩))

/-- **One step.** -/
theorem punctual_step (hcapacity : 0 < capacity) (h : Punctual capacity n hold s)
    (hprompt : s.Prompt hold) (event : ScheduleEvent ο) :
    Punctual capacity n hold (s.step event) := by
  cases event with
  | elapse duration => exact punctual_elapse h duration
  | job i event =>
    rcases hi : s.jobs[i]? with - | job
    · simpa only [Schedule.step, hi] using h
    obtain ⟨job', semaphore', metrics', hadvances, hstep⟩ := Schedule.step_job hi event
    have htied := Schedule.tied_step h.tied (.job i event)
    rw [hstep] at htied ⊢
    have hsound := h.tied.sound
    have horderly := h.tied.orderly
    have hfits := h.tied.fits i job hi
    -- what the semaphore says of this job
    have hwaiter : ∀ w ∈ s.semaphore.waiters, w.client = i → job.Asked w.asked := by
      rintro w hw rfl
      obtain ⟨x, hx, hasked⟩ := h.waiters w hw
      obtain rfl := Option.some.inj (hi.symm.trans hx)
      exact hasked
    have hholder : ∀ x ∈ s.semaphore.holders, x.client = i → job.Admitted s.now x := by
      rintro x hx rfl
      obtain ⟨y, hy, hadmitted⟩ := h.holders x hx
      obtain rfl := Option.some.inj (hi.symm.trans hy)
      exact hadmitted
    have hpaced : ∀ {client}, Semaphore.Paced capacity n hold s.now (s.semaphore.leave client s.now) :=
      Semaphore.paced_leave h.paced hsound hprompt
    have hleft : ∀ w ∈ (s.semaphore.leave i s.now).waiters, (w.client ≠ i ∧ w ∈ s.semaphore.waiters) ∨
        (w.client = i ∧ job'.Asked w.asked) := fun w hw =>
      Or.inl (Semaphore.mem_waiters_leave hw).symm
    have hleft' : ∀ x ∈ (s.semaphore.leave i s.now).holders, (x.client ≠ i ∧
        (x ∈ s.semaphore.holders ∨ x.toWaiter ∈ s.semaphore.waiters ∧ x.granted = s.now)) ∨
        (x.client = i ∧ job'.Admitted s.now x) := fun x hx =>
      Or.inl (Semaphore.mem_holders_leave hsound hx)
    cases hadvances with
    | same =>
      exact h.set hi htied h.paced rfl
        (fun w hw => (ne_or_eq w.client i).imp (⟨·, hw⟩) fun heq => ⟨heq, hwaiter w hw heq⟩)
        (fun x hx => (ne_or_eq x.client i).imp (⟨·, Or.inl hx⟩) fun heq => ⟨heq, hholder x hx heq⟩)
        (h.onTime i job hi)
    | start hturn hphase hdelay =>
      have hstored := (h.onTime i job hi hphase).unstarted hturn
      refine h.set_of_not_asking hi (by simp [hturn]) htied rfl fun _ => ⟨by simp, ?_, by simp⟩
      rintro due heq
      obtain rfl := Turn.delayed.inj heq
      have := fromMillis_mono hdelay
      simp only [ScheduledJob.limit, hstored]
      omega
    | wake hturn hphase hdue =>
      obtain ⟨hnow, hlimit⟩ := (h.onTime i job hi hphase).delayed _ hturn
      refine h.set_of_not_asking hi (by simp [hturn]) htied rfl fun _ => ⟨by simp, by simp, ?_⟩
      rintro deadline heq
      obtain rfl := Turn.ticking.inj heq
      exact ⟨hnow.trans hlimit, hnow.trans hlimit⟩
    | tick hturn hphase hdeadline =>
      obtain ⟨hnow, -⟩ := (h.onTime i job hi hphase).ticking _ hturn
      have hclient : i ∉ s.semaphore.clients := fun hmem => by
        obtain ⟨⟨deadline, hasks⟩, -⟩ := hfits.asks.mp hmem
        rw [hturn] at hasks
        cases hasks
      have hasked : ScheduledJob.Asked { job with
          turn := .asking (nextDeadline job.interval _ s.now) } s.now :=
        ⟨⟨_, rfl, nextDeadline_le hdeadline⟩, hnow⟩
      refine h.set hi htied (Semaphore.paced_acquire h.paced hsound ?_) rfl (fun w hw => ?_)
        (fun x hx => ?_) fun _ => ⟨by simp, by simp, by simp⟩
      · exact h.length ▸ h.tied.length_clients_lt (List.getElem?_eq_some_iff.mp hi).1 hclient
      · rcases Semaphore.mem_waiters_acquire hw with hold | rfl
        · refine Or.inl ⟨?_, hold⟩
          rintro rfl
          exact hclient (Semaphore.mem_clients.mpr (Or.inr ⟨w, hold, rfl⟩))
        · exact Or.inr ⟨rfl, hasked⟩
      · rcases Semaphore.mem_holders_acquire hx with hold | rfl
        · refine Or.inl ⟨?_, Or.inl hold⟩
          rintro rfl
          exact hclient (Semaphore.mem_clients.mpr (Or.inl ⟨x, hold, rfl⟩))
        · refine Or.inr ⟨rfl, hasked, fun _ => rfl, fun hexecutes => ?_⟩
          rw [hphase] at hexecutes
          cases hexecutes
    | admitted hturn hphase hholds =>
      refine h.set hi htied h.paced rfl
        (fun w hw => (ne_or_eq w.client i).imp (⟨·, hw⟩) fun heq => ⟨heq, ?_⟩)
        (fun x hx => (ne_or_eq x.client i).imp (⟨·, Or.inl hx⟩) fun heq => ⟨heq, ?_⟩) (by simp)
      · exact ⟨(hwaiter w hw heq).turn, (hwaiter w hw heq).limit⟩
      · obtain ⟨hasked, hwaiting, -⟩ := hholder x hx heq
        exact ⟨⟨hasked.turn, hasked.limit⟩, by simp, fun _ => (hwaiting hphase).symm⟩
    | observed hturn hphase observation =>
      refine h.set hi htied h.paced rfl
        (fun w hw => (ne_or_eq w.client i).imp (⟨·, hw⟩) fun heq => ⟨heq, ?_⟩)
        (fun x hx => (ne_or_eq x.client i).imp (⟨·, Or.inl hx⟩) fun heq => ⟨heq, ?_⟩) (by simp)
      · exact ⟨(hwaiter w hw heq).turn, (hwaiter w hw heq).limit⟩
      · obtain ⟨hasked, -, hbegan⟩ := hholder x hx heq
        exact ⟨⟨hasked.turn, hasked.limit⟩, by simp, fun _ => hbegan (by rw [hphase]; rfl)⟩
    | stored hturn hphase =>
      refine h.set hi htied hpaced rfl hleft hleft' fun _ => ⟨by simp, by simp, fun deadline heq => ?_⟩
      obtain rfl := Turn.ticking.inj heq
      obtain ⟨x, hx, hclient⟩ := hfits.executes (by rw [hphase]; rfl)
      obtain ⟨⟨⟨deadline', hturn', hnext⟩, -⟩, -, hbegan⟩ := hholder x hx hclient
      obtain rfl := Turn.asking.inj (hturn.symm.trans hturn')
      have hbegan := hbegan (by rw [hphase]; rfl)
      have hgranted := horderly.granted x hx
      have hheld := hprompt x hx
      have hn : 0 < n := h.length ▸ Nat.zero_lt_of_lt (List.getElem?_eq_some_iff.mp hi).1
      have hfit := hold_le_interval hcapacity hn (h.room i job hi)
      simp only [ScheduledJob.limit]
      omega
    | returned => exact h.set hi htied hpaced rfl hleft hleft' (by simp)

theorem punctual_start (kind : String) {intervals : List ℕ}
    (hroom : ∀ interval ∈ intervals,
      intervals.length * hold + capacity * hold ≤ capacity * interval + hold) :
    Punctual capacity intervals.length hold (Schedule.start (ο := ο) kind capacity intervals) := by
  refine ⟨Schedule.tied_start _ _ _, List.length_map _, Semaphore.paced_start _ _ _ _,
    fun i job hi => hroom _ (Schedule.jobs_start hi).1, fun _ hw => absurd hw List.not_mem_nil,
    fun _ hx => absurd hx List.not_mem_nil, fun i job hi _ => ?_⟩
  rw [(Schedule.jobs_start hi).2]
  exact ⟨fun _ => rfl, by simp, by simp⟩

/-- **In every run** whose permits come back in time. -/
theorem punctual_run (hcapacity : 0 < capacity) (h : Punctual capacity n hold s)
    (events : List (ScheduleEvent ο))
    (hprompt : ∀ k ≤ events.length, (s.run (events.take k)).Prompt hold) :
    Punctual capacity n hold (s.run events) := by
  refine List.foldl_invariant (l := events)
    (P := fun done s' => s' = s.run done ∧ Punctual capacity n hold s')
    (fun done rest s' event hl h' => ?_) ⟨rfl, h⟩ |>.2
  obtain ⟨rfl, h'⟩ := h'
  refine ⟨?_, punctual_step hcapacity h' ?_ event⟩
  · rw [Schedule.run, Schedule.run, List.foldl_append, List.foldl_cons, List.foldl_nil]
  · have htake := hprompt done.length (by rw [hl, List.length_append]; exact Nat.le_add_right _ _)
    rwa [hl, List.take_left' rfl] at htake

/-! ## The result -/

/-- **A job that runs has its next turn in time**: it is done with it within
an interval of when it is due to ask. -/
theorem Punctual.le_limit (hcapacity : 0 < capacity) (h : Punctual capacity n hold s)
    (hprompt : s.Prompt hold) {i : ℕ} {job : ScheduledJob ο} (hi : s.jobs[i]? = some job)
    (hturn : job.turn ≠ .unstarted) (hphase : job.phase ≠ .returned) :
    s.now ≤ job.limit + job.interval := by
  have hroom := h.room i job hi
  have hfits := h.tied.fits i job hi
  by_cases hasking : ∃ deadline, job.turn = .asking deadline
  · rcases Semaphore.mem_clients.mp (hfits.asks.mpr ⟨hasking, hphase⟩) with ⟨x, hx, rfl⟩ | ⟨w, hw, rfl⟩
    · obtain ⟨x', hx', hadmitted⟩ := h.holders x hx
      obtain rfl := Option.some.inj (hi.symm.trans hx')
      have hgranted := h.paced.granted x hx
      have hheld := hprompt x hx
      have hlimit := hadmitted.limit
      have horderly := h.tied.orderly.granted x hx
      -- the wait and the holding fit into an interval
      have hsum : capacity * (x.granted - x.asked) + capacity * hold ≤ capacity * job.interval := by
        omega
      rw [← Nat.mul_add] at hsum
      have := Nat.le_of_mul_le_mul_left hsum hcapacity
      omega
    · obtain ⟨x', hx', hasked⟩ := h.waiters w hw
      obtain rfl := Option.some.inj (hi.symm.trans hx')
      have hwait := h.paced.wait_le h.tied.sound hprompt hw
      have hlimit := hasked.limit
      have := Nat.le_of_mul_le_mul_left
        (show capacity * (s.now - w.asked) ≤ capacity * job.interval by omega) hcapacity
      omega
  · have hwaiting := hfits.waiting_of_not_asking (fun deadline h => hasking ⟨deadline, h⟩) hphase
    obtain ⟨-, hdelayed, hticking⟩ := h.onTime i job hi hwaiting
    rcases hcase : job.turn with - | due | deadline | deadline
    · exact absurd hcase hturn
    · have := hdelayed due hcase
      omega
    · have := (hticking deadline hcase).1
      omega
    · exact absurd ⟨deadline, hcase⟩ hasking

/-- **A monitor that is not overloaded has fresh checks.** Let every job return
its permit within `hold`, and let the holdings of the other jobs, and one of
each permit, fit into what the permits have in an interval of the check.
Then from its longest delay and one interval after its start on, in every
state in which its job has not ended, what was stored last of the check is
fresh. -/
theorem checks_stay_fresh (prepared : PreparedMonitor) (hpermits : 0 < prepared.concurrency)
    {hold : ℕ} (hroom : ∀ check ∈ prepared.jobs,
      (prepared.jobs.length - 1 + prepared.concurrency) * hold ≤
        prepared.concurrency * check.interval)
    (events : List (ScheduleEvent ο))
    (hprompt : ∀ k ≤ events.length, (prepared.schedule.run (events.take k)).Prompt hold)
    {i : ℕ} {check : MonitorJob} {job : ScheduledJob ο} (hcheck : prepared.jobs[i]? = some check)
    (hjob : (prepared.schedule.run events).jobs[i]? = some job) (hstarted : job.turn ≠ .unstarted)
    (hruns : job.phase ≠ .returned)
    (hsince : job.started + fromMillis (maxMillis check.interval) + check.interval <
      (prepared.schedule.run events).now) (epoch : ℤ) :
    isFresh (job.stored.map fun began : ℕ => epoch + (began : ℤ)) check.interval check.timeout
      (epoch + (prepared.schedule.run events).now) = true := by
  have hinterval : job.interval = check.interval := by
    have hstart : (prepared.schedule (ο := ο)).jobs.map (·.interval) =
        prepared.jobs.map (·.interval) := by
      simp [PreparedMonitor.schedule, Schedule.start]
    have hsame := congrArg (·[i]?) ((Schedule.intervals_run events prepared.schedule).trans hstart)
    simpa only [List.getElem?_map, hjob, hcheck, Option.map_some, Option.some.injEq] using hsame
  have hpunctual : Punctual prepared.concurrency prepared.jobs.length hold
      (prepared.schedule.run events) := by
    refine punctual_run hpermits ?_ events hprompt
    have hstart := @punctual_start ο prepared.concurrency hold prepared.kind
      (prepared.jobs.map (·.interval)) ?_
    · rwa [List.length_map] at hstart
    · -- one holding more on both sides
      intro interval hmem
      obtain ⟨other, hother, rfl⟩ := List.mem_map.mp hmem
      have hone : 1 ≤ prepared.jobs.length := List.length_pos_of_mem hother
      have := hroom other hother
      rw [List.length_map]
      obtain ⟨k, hk⟩ := Nat.exists_eq_add_of_le' hone
      rw [hk, Nat.add_sub_cancel] at this
      rw [hk]
      calc (k + 1) * hold + prepared.concurrency * hold
          = (k + prepared.concurrency) * hold + hold := by ring
        _ ≤ prepared.concurrency * other.interval + hold := Nat.add_le_add_right this _
  have hlimit := hpunctual.le_limit hpermits
    (by simpa using hprompt events.length le_rfl) hjob hstarted hruns
  rw [hinterval, ScheduledJob.limit, hinterval] at hlimit
  rcases hstored : job.stored with - | began
  · simp only [hstored] at hlimit
    omega
  · simp only [hstored] at hlimit
    have hpast := (hpunctual.tied.past i job hjob).2 began hstored
    rw [Option.map_some, isFresh_some]
    omega

/-! ## A sample -/

def sampleHost (id : String) : Host :=
  { id, address := "192.0.2.1", name := id, groups := ["example"] }

/-- Two hosts that share one permit. -/
def samplePrepared : PreparedMonitor := .icmp [sampleHost "r1", sampleHost "r2"] 1 3 2

/-- Both ask at once, and one of them waits for the other. -/
def sampleCycle : List (ScheduleEvent Unit) :=
  [.job 0 .tick, .job 1 .tick, .job 0 .admitted, .elapse (fromSecs 1), .job 0 (.observed () true),
    .job 0 (.persisted (.ok ())), .job 1 .admitted, .elapse (fromSecs 1),
    .job 1 (.observed () false), .job 1 (.persisted (.ok ()))]

/-- Two cycles, an interval apart. -/
def sampleCycles : List (ScheduleEvent Unit) :=
  [.job 0 (.start 0), .job 1 (.start 0), .job 0 .wake, .job 1 .wake] ++ sampleCycle ++
    [.elapse (fromSecs 28)] ++ sampleCycle ++ [.elapse (fromSecs 1)]

theorem sampleCycles_fresh : ∃ job, (samplePrepared.schedule.run sampleCycles).jobs[1]? = some job ∧
    isFresh (job.stored.map fun began : ℕ => 1000 + (began : ℤ)) (fromSecs 30) (fromSecs 1)
      (1000 + (samplePrepared.schedule.run sampleCycles).now) = true := by
  have hjob : ((samplePrepared.schedule.run sampleCycles).jobs[1]?).isSome = true := by decide +kernel
  obtain ⟨job, hjob⟩ := Option.isSome_iff_exists.mp hjob
  have hstate : ((samplePrepared.schedule.run sampleCycles).jobs[1]?).all fun job =>
      job.turn ≠ .unstarted && job.phase ≠ .returned && job.started = 0 := by decide +kernel
  rw [hjob, Option.all_some, Bool.and_eq_true, Bool.and_eq_true, decide_eq_true_eq,
    decide_eq_true_eq, decide_eq_true_eq] at hstate
  obtain ⟨⟨hturn, hphase⟩, hstarted⟩ := hstate
  have hroom : ∀ check ∈ samplePrepared.jobs,
      (samplePrepared.jobs.length - 1 + samplePrepared.concurrency) * fromSecs 1 ≤
        samplePrepared.concurrency * check.interval := by decide +kernel
  have hcheck : samplePrepared.jobs[1]? = some (.icmp (sampleHost "r2")) := rfl
  refine ⟨job, hjob, checks_stay_fresh samplePrepared (by decide) hroom sampleCycles
    (by decide +kernel) hcheck hjob hturn hphase ?_ 1000⟩
  rw [hstarted]
  decide +kernel

end SimpleNetworkMonitor.Daemon
