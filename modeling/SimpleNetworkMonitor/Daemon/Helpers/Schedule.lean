import SimpleNetworkMonitor.App.Runner
import SimpleNetworkMonitor.Common.Fold
import SimpleNetworkMonitor.Common.Replace
import SimpleNetworkMonitor.Daemon.Model.Schedule
import Mathlib.Data.List.Perm.Subperm
/-!
# The schedule, step by step

What one step of a job does to it and to the semaphore, the invariant that
ties the clients of the semaphore to the jobs that have asked, and the time
by which a job asks again.
-/

namespace SimpleNetworkMonitor.Daemon

variable {ο : Type}

/-! ## One step -/

/-- **What a step of a job does.** -/
inductive Advances (now i : ℕ) (job : ScheduledJob ο) (semaphore : Semaphore ℕ) :
    ScheduledJob ο → Semaphore ℕ → Prop
  | same : Advances now i job semaphore job semaphore
  | start {delay : ℕ} (hturn : job.turn = .unstarted) (hphase : job.phase = .waiting)
      (hdelay : delay ≤ maxMillis job.interval) : Advances now i job semaphore
        { job with turn := .delayed (now + fromMillis delay), started := now } semaphore
  | wake {due : ℕ} (hturn : job.turn = .delayed due) (hphase : job.phase = .waiting)
      (hdue : due ≤ now) : Advances now i job semaphore { job with turn := .ticking now } semaphore
  | tick {deadline : ℕ} (hturn : job.turn = .ticking deadline) (hphase : job.phase = .waiting)
      (hdeadline : deadline ≤ now) : Advances now i job semaphore
        { job with turn := .asking (nextDeadline job.interval deadline now) }
        (semaphore.acquire i now)
  | admitted {deadline : ℕ} (hturn : job.turn = .asking deadline) (hphase : job.phase = .waiting)
      (hholds : semaphore.holds i = true) : Advances now i job semaphore
        { job with phase := .observing, began := now } semaphore
  | observed {deadline : ℕ} (hturn : job.turn = .asking deadline) (hphase : job.phase = .observing)
      (observation : ο) : Advances now i job semaphore
        { job with phase := .storing observation } semaphore
  | stored {deadline : ℕ} {observation : ο} (hturn : job.turn = .asking deadline)
      (hphase : job.phase = .storing observation) : Advances now i job semaphore
        { job with phase := .waiting, turn := .ticking deadline, stored := some job.began }
        (semaphore.leave i now)
  | returned : Advances now i job semaphore { job with phase := .returned } (semaphore.leave i now)

/-- **The spec of a step.** -/
theorem advances_step (kind : String) (now i : ℕ) (job : ScheduledJob ο) (semaphore : Semaphore ℕ)
    (metrics : App.RuntimeMetrics) (event : JobEvent ο) :
    Advances now i job semaphore (job.step kind now i semaphore metrics event).1
      (job.step kind now i semaphore metrics event).2.1 := by
  obtain ⟨interval, turn, phase, started, began, stored⟩ := job
  cases event with
  | start delay =>
    cases turn <;> cases phase <;> try exact .same
    simp only [ScheduledJob.step]
    split_ifs with hdelay
    · exact .start rfl rfl hdelay
    · exact .same
  | wake =>
    cases turn <;> cases phase <;> try exact .same
    simp only [ScheduledJob.step]
    split_ifs with hdue
    · exact .wake rfl rfl hdue
    · exact .same
  | tick =>
    cases turn <;> cases phase <;> try exact .same
    simp only [ScheduledJob.step]
    split_ifs with hdeadline
    · exact .tick rfl rfl hdeadline
    · exact .same
  | admitted =>
    cases turn <;> cases phase <;> try exact .same
    simp only [ScheduledJob.step]
    split_ifs with hholds
    · exact .admitted rfl rfl hholds
    · exact .same
  | observed observation success =>
    cases turn <;> cases phase <;> try exact .same
    exact .observed rfl rfl observation
  | persisted result =>
    cases turn <;> cases phase <;> try exact .same
    rcases result with e | ⟨⟩
    · cases e with
      | staleGeneration => exact .returned
      | _ => exact .same
    · exact .stored rfl rfl
  | aborted => exact .returned

/-! ## Jobs and permits -/

/-- It is between admission and storage. -/
def executing : App.Phase ο → Bool
  | .observing | .storing _ => true
  | .waiting | .returned => false

/-- **A job and its place** at the semaphore. -/
structure Fits (semaphore : Semaphore ℕ) (i : ℕ) (job : ScheduledJob ο) : Prop where
  asks : i ∈ semaphore.clients ↔ (∃ deadline, job.turn = .asking deadline) ∧ job.phase ≠ .returned
  waits : (∃ w ∈ semaphore.waiters, w.client = i) → job.phase = .waiting
  executes : executing job.phase = true → ∃ h ∈ semaphore.holders, h.client = i

/-- **The clients of the semaphore are the jobs that have asked.** -/
structure Tied (capacity : ℕ) (s : Schedule ο) : Prop where
  sound : s.semaphore.Sound capacity
  orderly : s.semaphore.Orderly s.now
  bound : ∀ i ∈ s.semaphore.clients, i < s.jobs.length
  fits : ∀ i job, s.jobs[i]? = some job → Fits s.semaphore i job
  past : ∀ (i : ℕ) (job : ScheduledJob ο), s.jobs[i]? = some job →
    job.began ≤ s.now ∧ ∀ began ∈ job.stored, began ≤ s.now

section

variable {capacity now i j : ℕ} {semaphore : Semaphore ℕ} {job job' : ScheduledJob ο}

theorem Fits.acquire_of_ne (h : Fits semaphore j job) (hne : j ≠ i) :
    Fits (semaphore.acquire i now) j job := by
  refine ⟨?_, ?_, fun hexecutes => ?_⟩
  · rw [Semaphore.mem_clients_acquire, or_iff_left hne, h.asks]
  · rintro ⟨w, hw, rfl⟩
    rcases Semaphore.mem_waiters_acquire hw with hw | rfl
    · exact h.waits ⟨w, hw, rfl⟩
    · exact absurd rfl hne
  · obtain ⟨holder, hmem, hclient⟩ := h.executes hexecutes
    exact ⟨holder, Semaphore.mem_holders_acquire_of_mem hmem, hclient⟩

theorem Fits.leave_of_ne (h : Fits semaphore j job) (hsound : semaphore.Sound capacity)
    (hne : j ≠ i) : Fits (semaphore.leave i now) j job := by
  refine ⟨?_, ?_, fun hexecutes => ?_⟩
  · rw [Semaphore.mem_clients_leave hsound, and_iff_left hne, h.asks]
  · rintro ⟨w, hw, rfl⟩
    exact h.waits ⟨w, (Semaphore.mem_waiters_leave hw).1, rfl⟩
  · obtain ⟨holder, hmem, hclient⟩ := h.executes hexecutes
    exact ⟨holder, Semaphore.mem_holders_leave_of_ne (hclient ▸ hne) hmem, hclient⟩

/-- A client that has left does nothing with a permit. -/
theorem fits_left (hsound : semaphore.Sound capacity)
    (hasks : ¬ ((∃ deadline, job.turn = .asking deadline) ∧ job.phase ≠ .returned))
    (hexecutes : executing job.phase = false) : Fits (semaphore.leave i now) i job := by
  refine ⟨?_, ?_, fun h => ?_⟩
  · rw [Semaphore.mem_clients_leave hsound]
    exact ⟨fun h => absurd rfl h.2, fun h => absurd h hasks⟩
  · rintro ⟨w, hw, rfl⟩
    exact absurd rfl (Semaphore.mem_waiters_leave hw).2
  · rw [hexecutes] at h
    cases h

/-- **One step keeps a job in its place**, and the others in theirs. -/
theorem Advances.fits {job' : ScheduledJob ο} {semaphore' : Semaphore ℕ}
    (hstep : Advances now i job semaphore job' semaphore') (hsound : semaphore.Sound capacity)
    (horderly : semaphore.Orderly now) (hfits : Fits semaphore i job) :
    semaphore'.Sound capacity ∧ semaphore'.Orderly now ∧ Fits semaphore' i job' ∧
      (∀ x ∈ semaphore'.clients, x ∈ semaphore.clients ∨ x = i) ∧
      ∀ j other, j ≠ i → Fits semaphore j other → Fits (ο := ο) semaphore' j other := by
  have hout : ∀ {turn}, job.turn = turn → (∀ deadline, turn ≠ .asking deadline) →
      i ∉ semaphore.clients := by
    rintro turn rfl hne hmem
    obtain ⟨⟨deadline, hturn⟩, -⟩ := hfits.asks.mp hmem
    exact hne deadline hturn
  cases hstep with
  | same => exact ⟨hsound, horderly, hfits, fun x hx => Or.inl hx, fun _ _ _ h => h⟩
  | start hturn hphase =>
    have := hout hturn (by simp)
    refine ⟨hsound, horderly, ⟨?_, hfits.waits, hfits.executes⟩, fun x hx => Or.inl hx, fun _ _ _ h => h⟩
    exact ⟨fun h => absurd h this, fun h => by obtain ⟨⟨_, h⟩, -⟩ := h; cases h⟩
  | wake hturn hphase =>
    have := hout hturn (by simp)
    refine ⟨hsound, horderly, ⟨?_, hfits.waits, hfits.executes⟩, fun x hx => Or.inl hx, fun _ _ _ h => h⟩
    exact ⟨fun h => absurd h this, fun h => by obtain ⟨⟨_, h⟩, -⟩ := h; cases h⟩
  | tick hturn hphase =>
    have := hout hturn (by simp)
    refine ⟨Semaphore.sound_acquire hsound this, Semaphore.orderly_acquire horderly hsound.busy,
      ⟨?_, fun _ => hphase, fun h => ?_⟩, fun x hx => Semaphore.mem_clients_acquire.mp hx,
      fun _ _ hne h => h.acquire_of_ne hne⟩
    · refine ⟨fun _ => ⟨⟨_, rfl⟩, ?_⟩, fun _ => Semaphore.mem_clients_acquire.mpr (Or.inr rfl)⟩
      simp [hphase]
    · rw [hphase] at h
      cases h
  | admitted hturn hphase hholds =>
    obtain ⟨holder, hmem, hclient⟩ := Semaphore.holds_iff.mp hholds
    refine ⟨hsound, horderly, ⟨?_, ?_, fun _ => ⟨holder, hmem, hclient⟩⟩, fun x hx => Or.inl hx,
      fun _ _ _ h => h⟩
    · rw [hfits.asks]
      exact ⟨fun h => ⟨h.1, by simp⟩, fun h => ⟨h.1, by simp [hphase]⟩⟩
    · rintro ⟨w, hw, heq⟩
      exact absurd (heq.trans hclient.symm) (hsound.ne_of_mem hmem hw)
  | observed hturn hphase observation =>
    refine ⟨hsound, horderly, ⟨?_, fun hwaits => ?_, fun _ => ?_⟩, fun x hx => Or.inl hx,
      fun _ _ _ h => h⟩
    · rw [hfits.asks]
      exact ⟨fun h => ⟨h.1, by simp⟩, fun h => ⟨h.1, by simp [hphase]⟩⟩
    · have := hfits.waits hwaits
      rw [hphase] at this
      cases this
    · exact hfits.executes (by rw [hphase]; rfl)
  | stored hturn hphase =>
    refine ⟨Semaphore.sound_leave hsound, Semaphore.orderly_leave horderly,
      fits_left hsound (fun h => ?_) rfl,
      fun x hx => Or.inl ((Semaphore.mem_clients_leave hsound).mp hx).1,
      fun _ _ hne h => h.leave_of_ne hsound hne⟩
    obtain ⟨⟨_, h⟩, -⟩ := h
    cases h
  | returned =>
    exact ⟨Semaphore.sound_leave hsound, Semaphore.orderly_leave horderly,
      fits_left hsound (fun h => h.2 rfl) rfl,
      fun x hx => Or.inl ((Semaphore.mem_clients_leave hsound).mp hx).1,
      fun _ _ hne h => h.leave_of_ne hsound hne⟩

/-- What a job remembers is past. -/
theorem Advances.past {semaphore' : Semaphore ℕ}
    (hstep : Advances now i job semaphore job' semaphore')
    (h : job.began ≤ now ∧ ∀ began ∈ job.stored, began ≤ now) :
    job'.began ≤ now ∧ ∀ began ∈ job'.stored, began ≤ now := by
  cases hstep with
  | admitted => exact ⟨le_rfl, h.2⟩
  | stored => exact ⟨h.1, fun began hmem => Option.some.inj hmem ▸ h.1⟩
  | _ => exact h

end

/-- A job that has not asked has no permit. -/
theorem Fits.waiting_of_not_asking {semaphore : Semaphore ℕ} {i : ℕ} {job : ScheduledJob ο}
    (h : Fits semaphore i job) (hturn : ∀ deadline, job.turn ≠ .asking deadline)
    (hphase : job.phase ≠ .returned) : job.phase = .waiting := by
  have hidle : ¬ executing job.phase = true := fun hexecutes => by
    obtain ⟨⟨deadline, hasks⟩, -⟩ := h.asks.mp (Semaphore.mem_clients.mpr (Or.inl (h.executes hexecutes)))
    exact hturn deadline hasks
  cases hcase : job.phase with
  | waiting => rfl
  | observing | storing => exact absurd (by rw [hcase]; rfl) hidle
  | returned => exact absurd hcase hphase

/-- There is room in line for everybody. -/
theorem Tied.length_clients_lt {capacity i : ℕ} {s : Schedule ο} (h : Tied capacity s)
    (hi : i < s.jobs.length) (hclient : i ∉ s.semaphore.clients) :
    s.semaphore.clients.length < s.jobs.length := by
  have hsubset : i :: s.semaphore.clients ⊆ List.range s.jobs.length := fun j hj =>
    List.mem_range.mpr ((List.mem_cons.mp hj).elim (fun heq => heq ▸ hi) (h.bound j))
  have hle := (List.subperm_of_subset (List.nodup_cons.mpr ⟨hclient, h.sound.nodup⟩) hsubset).length_le
  rwa [List.length_range, List.length_cons, Nat.succ_le_iff] at hle

namespace Schedule

variable {capacity : ℕ} {s : Schedule ο}

/-- **A job of the monitor takes a step.** -/
theorem step_job {i : ℕ} {job : ScheduledJob ο} (hi : s.jobs[i]? = some job) (event : JobEvent ο) :
    ∃ job' semaphore' metrics', Advances s.now i job s.semaphore job' semaphore' ∧
      s.step (.job i event) =
        { s with semaphore := semaphore', metrics := metrics', jobs := s.jobs.set i job' } :=
  ⟨_, _, (job.step s.kind s.now i s.semaphore s.metrics event).2.2,
    advances_step s.kind s.now i job s.semaphore s.metrics event, by simp only [step, hi]⟩

theorem tied_step (h : Tied capacity s) (event : ScheduleEvent ο) : Tied capacity (s.step event) := by
  cases event with
  | elapse duration =>
    simp only [step]
    split_ifs
    · refine ⟨h.sound, h.orderly.mono (Nat.le_add_right _ _), h.bound, h.fits, fun i job hi => ?_⟩
      obtain ⟨hbegan, hstored⟩ := h.past i job hi
      exact ⟨hbegan.trans (Nat.le_add_right _ _),
        fun began hmem => (hstored began hmem).trans (Nat.le_add_right _ _)⟩
    · exact h
  | job i event =>
    rcases hi : s.jobs[i]? with - | job
    · simpa only [step, hi] using h
    · obtain ⟨job', semaphore', metrics', hadvances, hstep⟩ := step_job hi event
      obtain ⟨hsound, horderly, hfits, hclients, hothers⟩ :=
        hadvances.fits h.sound h.orderly (h.fits i job hi)
      rw [hstep]
      refine ⟨hsound, horderly, fun x hx => ?_, fun j other hj => ?_, fun j other hj => ?_⟩
      · rw [List.length_set]
        rcases hclients x hx with hx | rfl
        · exact h.bound x hx
        · exact (List.getElem?_eq_some_iff.mp hi).1
      · rcases List.getElem?_set_cases hj with ⟨rfl, rfl⟩ | ⟨hne, hj⟩
        · exact hfits
        · exact hothers j other hne (h.fits j other hj)
      · rcases List.getElem?_set_cases hj with ⟨rfl, rfl⟩ | ⟨-, hj⟩
        · exact hadvances.past (h.past j job hi)
        · exact h.past j other hj

theorem intervals_step (event : ScheduleEvent ο) (s : Schedule ο) :
    (s.step event).jobs.map (·.interval) = s.jobs.map (·.interval) := by
  cases event with
  | elapse duration =>
    simp only [step]
    split_ifs <;> rfl
  | job i event =>
    rcases hi : s.jobs[i]? with - | job
    · simp only [step, hi]
    · obtain ⟨job', semaphore', metrics', hadvances, hstep⟩ := step_job hi event
      have hinterval : job'.interval = job.interval := by cases hadvances <;> rfl
      rw [hstep, List.map_set, hinterval]
      exact List.set_eq_of_getElem? (by rw [List.getElem?_map, hi]; rfl)

/-- A job keeps its interval. -/
theorem intervals_run (events : List (ScheduleEvent ο)) (s : Schedule ο) :
    (s.run events).jobs.map (·.interval) = s.jobs.map (·.interval) :=
  List.foldl_invariant (l := events)
    (P := fun _ (s' : Schedule ο) => s'.jobs.map (·.interval) = s.jobs.map (·.interval))
    (fun _ _ _ event _ h => (intervals_step event _).trans h) rfl

theorem jobs_start {kind : String} {concurrency : ℕ} {intervals : List ℕ} {i : ℕ}
    {job : ScheduledJob ο} (hi : (start kind concurrency intervals).jobs[i]? = some job) :
    job.interval ∈ intervals ∧ job = { interval := job.interval } := by
  simp only [start, List.getElem?_map, Option.map_eq_some_iff] at hi
  obtain ⟨interval, hinterval, rfl⟩ := hi
  exact ⟨List.mem_of_getElem? hinterval, rfl⟩

theorem tied_start (kind : String) (concurrency : ℕ) (intervals : List ℕ) :
    Tied concurrency (start (ο := ο) kind concurrency intervals) := by
  refine ⟨Semaphore.sound_start _, Semaphore.orderly_start _ _,
    fun _ h => absurd h List.not_mem_nil, fun i job hi => ?_, fun i job hi => ?_⟩
  · rw [(jobs_start hi).2]
    exact ⟨⟨fun h => absurd h List.not_mem_nil, fun h => by obtain ⟨⟨_, h⟩, -⟩ := h; cases h⟩,
      fun ⟨_, h, _⟩ => absurd h List.not_mem_nil, by simp [executing]⟩
  · rw [(jobs_start hi).2]
    exact ⟨Nat.zero_le _, by simp⟩

theorem tied_run (h : Tied capacity s) (events : List (ScheduleEvent ο)) :
    Tied capacity (s.run events) :=
  List.foldl_invariant (l := events) (P := fun _ s => Tied capacity s)
    (fun _ _ _ event _ h => tied_step h event) h

end Schedule

end SimpleNetworkMonitor.Daemon
