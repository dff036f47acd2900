import SimpleNetworkMonitor.Common.Fold
import SimpleNetworkMonitor.Icmp.Helpers.Jobs
/-!
# The transition log

Whatever happens to the jobs of a service, the transitions of an ID in the
log are a chain that ends in its status. What carries it: at most one job
for an ID is of the current generation, and that one knows what is stored.
-/

namespace SimpleNetworkMonitor.Icmp

open Storage

variable {id : String} {storage storage' : SqliteStorage} {jobs : List IcmpJob} {job : IcmpJob}
variable {made : List IcmpTransition} {prepared : List (Host × IcmpMonitorConfig)} {n i : ℕ}
variable {m : Monitors}

/-! ## The jobs together -/

/-- What no two jobs have in common. -/
def IcmpJob.key (job : IcmpJob) : ℕ × String := (job.generation, job.host.id)

/-- **The jobs of a process**, as far as an ID is concerned. -/
structure Crew (id : String) (storage : SqliteStorage) (jobs : List IcmpJob)
    (made : List IcmpTransition) : Prop where
  nodup : (jobs.map IcmpJob.key).Nodup
  sound : ∀ job ∈ jobs, job.Sound id storage made

/-- **The jobs that are prepared**: all the others are of generations before. -/
structure Waiting (id : String) (storage : SqliteStorage) (jobs : List IcmpJob)
    (prepared : List (Host × IcmpMonitorConfig)) : Prop where
  nodup : (prepared.map (·.1.id)).Nodup
  identified : ∀ entry ∈ prepared, entry.1.id = id →
    storage.inner.conn.hostIdentity.find? id ≠ none
  older : ∀ job ∈ jobs, job.generation < storage.inner.generation

theorem Crew.undisturbed (h : Crew id storage jobs made) (hu : Undisturbed id storage storage') :
    Crew id storage' jobs made :=
  ⟨h.nodup, fun job hjob => (h.sound job hjob).undisturbed hu⟩

theorem Waiting.undisturbed (h : Waiting id storage jobs prepared)
    (hu : Undisturbed id storage storage') : Waiting id storage' jobs prepared := by
  refine ⟨h.nodup, fun entry hentry hid => ?_, fun job hjob => ?_⟩
  · rw [hu.same.identity]
    exact h.identified entry hentry hid
  · rw [hu.generation]
    exact h.older job hjob

/-! ## A job takes a step -/

section Turn

variable {phase : Phase} {transition : Option IcmpTransition}

/-- Where one job takes a step, the others stay, and have other keys. -/
theorem mem_set_cases {job' x : IcmpJob} (hnd : (jobs.map IcmpJob.key).Nodup)
    (hjob : jobs[i]? = some job) (hmem : job' ∈ jobs.set i x) :
    job' = x ∨ (job' ∈ jobs ∧ job'.key ≠ job.key) := by
  obtain ⟨j, hj⟩ := List.mem_iff_getElem?.mp hmem
  obtain ⟨hi, -⟩ := List.getElem?_eq_some_iff.mp hjob
  by_cases hij : i = j
  · subst hij
    rw [List.getElem?_set_self hi] at hj
    exact Or.inl (Option.some.inj hj).symm
  · rw [List.getElem?_set_ne hij] at hj
    refine Or.inr ⟨List.mem_of_getElem? hj, fun heq => hij ?_⟩
    refine (List.getElem?_inj (by simpa using hi) hnd).mp ?_
    rw [List.getElem?_map, List.getElem?_map, hjob, hj, Option.map_some, Option.map_some, heq]

theorem keys_set (hjob : jobs[i]? = some job) :
    (jobs.set i { job with phase }).map IcmpJob.key = jobs.map IcmpJob.key := by
  obtain ⟨hi, rfl⟩ := List.getElem?_eq_some_iff.mp hjob
  have hi' : i < (jobs.map IcmpJob.key).length := by rwa [List.length_map]
  have hkey : IcmpJob.key { jobs[i] with phase } = (jobs.map IcmpJob.key)[i] := by
    rw [List.getElem_map]
    rfl
  rw [List.map_set, hkey, List.set_getElem_self]

theorem JobTurn.generation (h : JobTurn job storage phase storage' transition) :
    storage'.inner.generation = storage.inner.generation := by
  cases h <;> rfl

theorem JobTurn.hostIdentity (h : JobTurn job storage phase storage' transition) :
    storage'.inner.conn.hostIdentity = storage.inner.conn.hostIdentity := by
  cases h <;> rfl

/-- **A step of one job** keeps the jobs as they are to be. -/
theorem Crew.turn (h : Crew id storage jobs made) (hjob : jobs[i]? = some job)
    (ht : JobTurn job storage phase storage' transition)
    (hr : Recorded id storage.inner.conn n made)
    (hdistinct : Distinct id (made ++ transition.toList)) :
    Crew id storage' (jobs.set i { job with phase }) (made ++ transition.toList) := by
  have hs := h.sound job (List.mem_of_getElem? hjob)
  refine ⟨keys_set hjob ▸ h.nodup, fun job' hjob' => ?_⟩
  rcases mem_set_cases h.nodup hjob hjob' with rfl | ⟨hmem, hne⟩
  · exact ht.sound hs hr hdistinct
  · have hother : job'.Sound id storage (made ++ transition.toList) := (h.sound job' hmem).mono
    rcases ht.undisturbed hs with hu | ⟨hid, hcurrent⟩
    · exact hother.undisturbed hu
    -- The job that wrote is the only one of the ID and of the current generation.
    · have hnot : job'.host.id = id → job'.generation ≠ storage'.inner.generation := by
        intro hid' hcurrent'
        rw [ht.generation] at hcurrent'
        exact hne (Prod.ext (hcurrent'.trans hcurrent.symm) (hid'.trans hid.symm))
      exact ⟨ht.generation ▸ hother.generation_le, hother.own,
        fun hid' hcurrent' => absurd hcurrent' (hnot hid'),
        fun hid' hcurrent' => absurd hcurrent' (hnot hid')⟩

theorem Waiting.turn (h : Waiting id storage jobs prepared) (hjob : jobs[i]? = some job)
    (ht : JobTurn job storage phase storage' transition) :
    Waiting id storage' (jobs.set i { job with phase }) prepared := by
  refine ⟨h.nodup, fun entry hentry hid => ?_, fun job' hjob' => ?_⟩
  · rw [ht.hostIdentity]
    exact h.identified entry hentry hid
  · rw [ht.generation]
    rcases List.mem_or_eq_of_mem_set hjob' with hmem | rfl
    · exact h.older job' hmem
    · exact h.older job (List.mem_of_getElem? hjob)

end Turn

/-! ## Jobs come and go -/

/-- A handle is for the generation of the storage. -/
theorem monitorGeneration_eq_ok {faults : Faults} {generation : ℕ}
    (h : (Program.run (monitorGeneration faults) storage).1 = .ok generation) :
    generation = storage.inner.generation := by
  rw [monitorGeneration, Program.run_bind, run_lock] at h
  split_ifs at h
  exact (Except.ok.inj h).symm

/-- The hosts of an inventory stand for something once it is in the database. -/
theorem identified_of_synced {hosts : List Host} {now : ℤ} {db db' : Database}
    (hs : Synced hosts now db db') : ∀ host ∈ hosts, db'.hostIdentity.find? host.id ≠ none := by
  intro host hhost hnone
  rw [hs.hostIdentity, Option.map_eq_none_iff] at hnone
  exact listed_eq_none.mp hnone host hhost rfl

/-- **What is prepared** with an inventory, is of its hosts. -/
theorem waiting_prepare {hosts : List Host} (hnd : (hosts.map (·.id)).Nodup)
    (hidentified : ∀ host ∈ hosts, storage.inner.conn.hostIdentity.find? host.id ≠ none)
    (config : Option IcmpMonitorConfig)
    (holder : ∀ job ∈ jobs, job.generation < storage.inner.generation) :
    Waiting id storage jobs (prepare hosts config) := by
  unfold prepare
  rcases config with - | config
  · exact ⟨List.nodup_nil, fun entry hentry => (by cases hentry), holder⟩
  · refine ⟨?_, fun entry hentry hid => ?_, holder⟩
    · rw [List.map_map]
      exact hnd.sublist (List.filter_sublist.map _)
    · obtain ⟨host, hhost, rfl⟩ := List.mem_map.mp hentry
      exact hid ▸ hidentified host (List.mem_filter.mp hhost).1

/-- **A new generation** joins the jobs before. -/
theorem Crew.spawn (h : Crew id storage jobs made) (hw : Waiting id storage jobs prepared) :
    Crew id storage (jobs ++ prepared.map fun entry =>
      { host := entry.1, config := entry.2, generation := storage.inner.generation }) made := by
  refine ⟨?_, fun job hjob => ?_⟩
  · rw [List.map_append, List.map_map, List.nodup_append]
    refine ⟨h.nodup, ?_, fun key hkey key' hkey' heq => ?_⟩
    · refine List.Nodup.of_map Prod.snd ?_
      rw [List.map_map]
      exact hw.nodup
    · obtain ⟨job, hjob, rfl⟩ := List.mem_map.mp hkey
      obtain ⟨entry, -, rfl⟩ := List.mem_map.mp hkey'
      have holder := hw.older job hjob
      have hgeneration : job.generation = storage.inner.generation := congrArg Prod.fst heq
      omega
  · rcases List.mem_append.mp hjob with hjob | hjob
    · exact h.sound job hjob
    · obtain ⟨entry, hentry, rfl⟩ := List.mem_map.mp hjob
      exact ⟨le_rfl, fun o ho => (by cases ho), fun hid _ => hw.identified entry hentry hid,
        fun _ _ => ⟨fun state heq => (by cases heq), fun o ho => (by cases ho)⟩⟩

/-- The jobs before a reload are of generations before. -/
theorem Crew.outdated (h : Crew id storage jobs made)
    (hlt : storage.inner.generation < storage'.inner.generation) : Crew id storage' jobs made := by
  refine ⟨h.nodup, fun job hjob => ?_⟩
  have hs := h.sound job hjob
  have hold : job.generation < storage'.inner.generation := lt_of_le_of_lt hs.generation_le hlt
  exact ⟨hold.le, hs.own, fun _ hcurrent => absurd hcurrent hold.ne,
    fun _ hcurrent => absurd hcurrent hold.ne⟩

/-! ## What an event does -/

section Act

variable {faults : Faults} {now now' : ℤ} {hosts : List Host} (config : Option IcmpMonitorConfig)

theorem act_restart_down {readError : Option StorageError} {conn : Database}
    (h : ServiceOp.apply (.start faults readError now hosts) m.service = .down conn) :
    m.act (.restart faults readError now hosts config) =
      { m with service := .down conn, jobs := [], prepared := none } := by
  unfold Monitors.act
  simp only [h]

theorem act_restart_up {readError : Option StorageError}
    (h : ServiceOp.apply (.start faults readError now hosts) m.service = .up storage) :
    m.act (.restart faults readError now hosts config) =
      { m with service := .up storage, jobs := [], prepared := prepare hosts config } := by
  unfold Monitors.act
  simp only [h]

/-- While the service is down, nothing but a restart does anything. -/
theorem act_of_down {conn : Database} {event : Event} (hservice : m.service = .down conn)
    (h : ∀ faults readError now hosts config, event ≠ .restart faults readError now hosts config) :
    m.act event = m := by
  unfold Monitors.act
  cases event with
  | restart faults readError now hosts config =>
    exact absurd rfl (h faults readError now hosts config)
  | _ => simp only [hservice]

variable {policies : StoragePolicies} {op : StorageOp} (step : JobStep)

theorem act_reload_error {e : StorageError} (hservice : m.service = .up storage)
    (h : Program.run (updateConfiguration faults now now' hosts policies) storage =
      (.error e, storage')) :
    m.act (.reload faults now now' hosts policies config) =
      { m with service := .up storage' } := by
  unfold Monitors.act
  simp only [hservice, h]

theorem act_reload_ok (hservice : m.service = .up storage)
    (h : Program.run (updateConfiguration faults now now' hosts policies) storage =
      (.ok (), storage')) :
    m.act (.reload faults now now' hosts policies config) =
      { m with service := .up storage', prepared := prepare hosts config } := by
  unfold Monitors.act
  simp only [hservice, h]

theorem act_spawn_none (hservice : m.service = .up storage) (h : m.prepared = none) :
    m.act (.spawn faults) = { m with prepared := none } := by
  unfold Monitors.act
  simp only [hservice, h]

theorem act_spawn_error {e : StorageError} (hservice : m.service = .up storage)
    (h : (Program.run (monitorGeneration faults) storage).1 = .error e) :
    m.act (.spawn faults) = { m with prepared := none } := by
  unfold Monitors.act
  simp only [hservice, h]
  rcases m.prepared <;> rfl

theorem act_spawn_ok {generation : ℕ} (hservice : m.service = .up storage)
    (hprepared : m.prepared = some prepared)
    (h : (Program.run (monitorGeneration faults) storage).1 = .ok generation) :
    m.act (.spawn faults) = { m with
      jobs := m.jobs ++ prepared.map fun entry =>
        { host := entry.1, config := entry.2, generation }
      prepared := none } := by
  unfold Monitors.act
  simp only [hservice, hprepared, h]

theorem act_job_none (hservice : m.service = .up storage) (h : m.jobs[i]? = none) :
    m.act (.job i step) = m := by
  unfold Monitors.act
  simp only [hservice, h]

theorem act_job_some (hservice : m.service = .up storage) (h : m.jobs[i]? = some job) :
    m.act (.job i step) = { m with
      service := .up (job.step storage step).2.1
      jobs := m.jobs.set i { job with phase := (job.step storage step).1 }
      made := m.made ++ (job.step storage step).2.2.toList } := by
  unfold Monitors.act
  simp only [hservice, h]

theorem act_call_of_other (hservice : m.service = .up storage) (h : isOther op = true) :
    m.act (.call op) = { m with service := .up (op.apply storage) } := by
  unfold Monitors.act
  simp only [hservice, h, if_true]

theorem act_call_of_not_other (hservice : m.service = .up storage) (h : ¬ isOther op = true) :
    m.act (.call op) = m := by
  unfold Monitors.act
  simp only [hservice, if_neg h]

end Act

/-! ## All of them -/

/-- **What every event keeps.** -/
structure Intact (id : String) (m : Monitors) : Prop where
  recorded : Recorded id m.service.conn (m.resetAt id) m.made
  crew : ∀ storage, m.service = .up storage → Crew id storage m.jobs m.made
  waiting : ∀ storage prepared, m.service = .up storage → m.prepared = some prepared →
    Waiting id storage m.jobs prepared

theorem Intact.recorded_up (h : Intact id m) (hservice : m.service = .up storage) :
    Recorded id storage.inner.conn (m.resetAt id) m.made := by
  have hrecorded := h.recorded
  rw [hservice] at hrecorded
  exact hrecorded

/-- An event leaves the resets to the observer. -/
theorem resetAt_act (m : Monitors) (event : Event) : (m.act event).resetAt = m.resetAt := by
  unfold Monitors.act
  rcases m with ⟨conn | storage, jobs, prepared, made, resetAt⟩ <;> cases event <;>
    dsimp only <;> split <;> rfl

theorem resetAt_step (m : Monitors) (event : Event) (id : String) :
    (m.step event).resetAt id =
      resetSince m.service.conn (m.act event).service.conn id (m.resetAt id) := by
  rw [← resetAt_act m event]
  rfl

/-- What an event is to leave. -/
theorem intact_step_of {event : Event}
    (hrecorded : Recorded id (m.act event).service.conn
      (resetSince m.service.conn (m.act event).service.conn id (m.resetAt id)) (m.act event).made)
    (hcrew : ∀ storage, (m.act event).service = .up storage →
      Crew id storage (m.act event).jobs (m.act event).made)
    (hwaiting : ∀ storage prepared, (m.act event).service = .up storage →
      (m.act event).prepared = some prepared → Waiting id storage (m.act event).jobs prepared) :
    Intact id (m.step event) :=
  ⟨resetAt_step m event id ▸ hrecorded, hcrew, hwaiting⟩

/-- An event that changes nothing. -/
theorem Intact.idle (h : Intact id m) {event : Event} (hact : m.act event = m) :
    Intact id (m.step event) := by
  refine intact_step_of ?_ ?_ ?_ <;> rw [hact]
  · exact h.recorded.same_reset (.refl id _)
  · exact h.crew
  · exact h.waiting

/-- **A restart** begins with no job. -/
theorem Intact.restart (h : Intact id m) (faults : Faults) (readError : Option StorageError)
    (now : ℤ) (hosts : List Host) (config : Option IcmpMonitorConfig) :
    Intact id (m.step (.restart faults readError now hosts config)) := by
  -- the database does not open, opens but cannot be read, or is up
  rcases start_cases faults readError now hosts m.service with hstart | ⟨conn, hs, hstart | hstart⟩
  · have hact := act_restart_down config hstart
    refine intact_step_of ?_ (fun storage hservice => ?_) fun storage prepared hservice => ?_
    · rw [hact]
      exact h.recorded.same_reset (.refl id _)
    · rw [hact] at hservice
      cases hservice
    · rw [hact] at hservice
      cases hservice
  · have hact := act_restart_down config hstart
    refine intact_step_of ?_ (fun storage hservice => ?_) fun storage prepared hservice => ?_
    · rw [hact]
      exact h.recorded.synced hs
    · rw [hact] at hservice
      cases hservice
    · rw [hact] at hservice
      cases hservice
  · have hact := act_restart_up config hstart
    refine intact_step_of ?_ (fun storage hservice => ?_) fun storage prepared hservice hprepared => ?_
    · rw [hact]
      exact h.recorded.synced hs
    · rw [hact]
      exact ⟨List.nodup_nil, fun job hjob => (by cases hjob)⟩
    · rw [hact] at hservice hprepared ⊢
      obtain rfl := Service.up.inj hservice
      obtain rfl := Option.some.inj hprepared
      exact waiting_prepare hs.nodup (identified_of_synced hs) config fun job hjob => (by cases hjob)

/-- **A reload** outdates every job there is. -/
theorem Intact.reload (h : Intact id m) (hservice : m.service = .up storage) (faults : Faults)
    (now now' : ℤ) (hosts : List Host) (policies : StoragePolicies)
    (config : Option IcmpMonitorConfig) :
    Intact id (m.step (.reload faults now now' hosts policies config)) := by
  rcases updateConfiguration_cases faults now now' hosts policies storage with
    ⟨e, hrun⟩ | ⟨conn, hnd, hexec, hrun⟩
  · refine h.idle ?_
    rw [act_reload_error config hservice hrun, ← hservice]
  · have hact : m.act (.reload faults now now' hosts policies config) = { m with
        service := .up (published storage (Catalog.ofHosts hosts) (some policies) conn)
        prepared := prepare hosts config } := act_reload_ok config hservice hrun
    have hs := synced_of_reload hexec
    have hcrew := h.crew storage hservice
    have hlt : storage.inner.generation <
        (published storage (Catalog.ofHosts hosts) (some policies) conn).inner.generation :=
      Nat.lt_succ_self _
    refine intact_step_of ?_ (fun storage' hservice' => ?_) fun storage' prepared hservice' hprepared => ?_
    · rw [hact, hservice]
      exact ((h.recorded_up hservice).synced hs).same ⟨rfl, rfl, rfl, le_rfl⟩
    · rw [hact] at hservice' ⊢
      obtain rfl := Service.up.inj hservice'
      exact hcrew.outdated hlt
    · rw [hact] at hservice' hprepared ⊢
      obtain rfl := Service.up.inj hservice'
      obtain rfl := Option.some.inj hprepared
      refine waiting_prepare hnd (fun host hhost => ?_) config fun job hjob =>
        lt_of_le_of_lt (hcrew.sound job hjob).generation_le hlt
      exact identified_of_synced hs host ((Catalog.mem_ofHosts hnd).mpr hhost)

/-- **New jobs** begin with what is stored. -/
theorem Intact.spawn (h : Intact id m) (hservice : m.service = .up storage) (faults : Faults) :
    Intact id (m.step (.spawn faults)) := by
  have hnone : m.act (.spawn faults) = { m with prepared := none } → Intact id (m.step (.spawn faults)) := by
    intro hact
    refine intact_step_of ?_ (fun storage' hservice' => ?_) fun storage' prepared _ hprepared => ?_
    · rw [hact]
      exact h.recorded.same_reset (.refl id _)
    · rw [hact] at hservice' ⊢
      exact h.crew storage' hservice'
    · rw [hact] at hprepared
      cases hprepared
  rcases hprepared : m.prepared with - | prepared
  · exact hnone (act_spawn_none hservice hprepared)
  · rcases hrun : (Program.run (monitorGeneration faults) storage).1 with e | generation
    · exact hnone (act_spawn_error hservice hrun)
    · obtain rfl := monitorGeneration_eq_ok hrun
      have hact := act_spawn_ok hservice hprepared hrun
      refine intact_step_of ?_ (fun storage' hservice' => ?_) fun storage' prepared' _ hprepared' => ?_
      · rw [hact]
        exact h.recorded.same_reset (.refl id _)
      · rw [hact] at hservice' ⊢
        obtain rfl := Service.up.inj (hservice.symm.trans hservice')
        exact (h.crew storage hservice).spawn (h.waiting storage prepared hservice hprepared)
      · rw [hact] at hprepared'
        cases hprepared'

/-- **A job takes a step.** -/
theorem Intact.jobStep (h : Intact id m) (hservice : m.service = .up storage) (i : ℕ) (step : JobStep)
    (hdistinct : Distinct id (m.step (.job i step)).made) : Intact id (m.step (.job i step)) := by
  rcases hjob : m.jobs[i]? with - | job
  · exact h.idle (act_job_none step hservice hjob)
  · have hact := act_job_some step hservice hjob
    have ht := job.turn storage step
    have hcrew := h.crew storage hservice
    have hrecorded := h.recorded_up hservice
    have hs := hcrew.sound job (List.mem_of_getElem? hjob)
    have hmade : (m.step (.job i step)).made = m.made ++ (job.step storage step).2.2.toList :=
      congrArg Monitors.made hact
    rw [hmade] at hdistinct
    refine intact_step_of ?_ (fun storage' hservice' => ?_) fun storage' prepared hservice' hprepared => ?_
    · have haddress : Monitors.addressOf (job.step storage step).2.1.inner.conn id =
          Monitors.addressOf storage.inner.conn id := by
        rw [Monitors.addressOf, ht.hostIdentity, Monitors.addressOf]
      have hsince : resetSince storage.inner.conn (job.step storage step).2.1.inner.conn id
          (m.resetAt id) = m.resetAt id := if_pos haddress
      rw [hact, hservice]
      exact hsince.symm ▸ ht.recorded hs hrecorded
    · rw [hact] at hservice' ⊢
      obtain rfl := Service.up.inj hservice'
      exact hcrew.turn hjob ht hrecorded hdistinct
    · rw [hact] at hservice' hprepared ⊢
      obtain rfl := Service.up.inj hservice'
      exact (h.waiting storage prepared hservice hprepared).turn hjob ht

/-- **Another task calls.** -/
theorem Intact.call (h : Intact id m) (hservice : m.service = .up storage) (op : StorageOp)
    (hkept : rowsOf m.service.conn id ⊆ rowsOf (m.step (.call op)).service.conn id) :
    Intact id (m.step (.call op)) := by
  by_cases hother : isOther op = true
  · have hact := act_call_of_other hservice hother
    have hconn : (m.step (.call op)).service.conn = (op.apply storage).inner.conn :=
      congrArg (Service.conn ∘ Monitors.service) hact
    rw [hconn, hservice] at hkept
    have hu := undisturbed_other hother storage hkept
    refine intact_step_of ?_ (fun storage' hservice' => ?_) fun storage' prepared hservice' hprepared => ?_
    · rw [hact, hservice]
      exact (h.recorded_up hservice).same_reset hu.same
    · rw [hact] at hservice' ⊢
      obtain rfl := Service.up.inj hservice'
      exact (h.crew storage hservice).undisturbed hu
    · rw [hact] at hservice' hprepared ⊢
      obtain rfl := Service.up.inj hservice'
      exact (h.waiting storage prepared hservice hprepared).undisturbed hu
  · exact h.idle (act_call_of_not_other hservice hother)

/-- **Every event keeps it.** -/
theorem Intact.step (h : Intact id m) (event : Event) (hdistinct : Distinct id (m.step event).made)
    (hkept : rowsOf m.service.conn id ⊆ rowsOf (m.step event).service.conn id) :
    Intact id (m.step event) := by
  cases event with
  | restart faults readError now hosts config => exact h.restart faults readError now hosts config
  | reload faults now now' hosts policies config =>
    rcases hservice : m.service with conn | storage
    · exact h.idle (act_of_down hservice (by simp))
    · exact h.reload hservice faults now now' hosts policies config
  | spawn faults =>
    rcases hservice : m.service with conn | storage
    · exact h.idle (act_of_down hservice (by simp))
    · exact h.spawn hservice faults
  | job i step =>
    rcases hservice : m.service with conn | storage
    · exact h.idle (act_of_down hservice (by simp))
    · exact h.jobStep hservice i step hdistinct
  | call op =>
    rcases hservice : m.service with conn | storage
    · exact h.idle (act_of_down hservice (by simp))
    · exact h.call hservice op hkept

/-! ## Runs -/

/-- What was made, was made. -/
theorem made_prefix_step (m : Monitors) (event : Event) : m.made <+: (m.step event).made := by
  have hact : m.made <+: (m.act event).made := by
    unfold Monitors.act
    rcases m with ⟨conn | storage, jobs, prepared, made, resetAt⟩ <;> cases event <;>
      dsimp only <;> first
        | exact List.prefix_rfl
        | split <;> first | exact List.prefix_rfl | exact List.prefix_append _ _
  exact hact

theorem run_concat (events : List Event) (event : Event) :
    Monitors.run (events ++ [event]) = (Monitors.run events).step event := by
  rw [Monitors.run, List.foldl_append]
  rfl

theorem made_prefix_run (events rest : List Event) :
    (Monitors.run events).made <+: (Monitors.run (events ++ rest)).made := by
  induction rest using List.reverseRecOn with
  | nil => rw [List.append_nil]
  | append_singleton rest event ih =>
    rw [← List.append_assoc, run_concat]
    exact ih.trans (made_prefix_step _ event)

/-- **No transition of an ID is pruned** in a run. -/
def Unpruned (events : List Event) (id : String) : Prop :=
  ∀ n < events.length, rowsOf (Monitors.run (events.take n)).service.conn id ⊆
    rowsOf (Monitors.run (events.take (n + 1))).service.conn id

instance (id : String) (made : List IcmpTransition) : Decidable (Distinct id made) :=
  inferInstanceAs (Decidable (List.Nodup _))

instance (events : List Event) (id : String) : Decidable (Unpruned events id) :=
  inferInstanceAs (Decidable (∀ n < events.length,
    rowsOf (Monitors.run (events.take n)).service.conn id ⊆
      rowsOf (Monitors.run (events.take (n + 1))).service.conn id))

theorem intact_start (id : String) : Intact id {} where
  recorded := ⟨List.chained_nil, le_rfl, fun _ => rfl, fun row hrow => by cases hrow⟩
  crew storage hservice := by cases hservice
  waiting storage prepared hservice := by cases hservice

theorem intact_run (events : List Event) (id : String)
    (hdistinct : Distinct id (Monitors.run events).made) (hkept : Unpruned events id) :
    Intact id (Monitors.run events) := by
  have key : Monitors.run events = Monitors.run events ∧ Intact id (Monitors.run events) := by
    refine List.foldl_invariant (P := fun done m => m = Monitors.run done ∧ Intact id m)
      (fun done rest m event hevents h => ?_) ⟨rfl, intact_start id⟩
    obtain ⟨rfl, h⟩ := h
    have hsplit : events = (done ++ [event]) ++ rest := by simpa using hevents
    have hmade : (Monitors.run (done ++ [event])).made <+: (Monitors.run events).made := by
      rw [hsplit]
      exact made_prefix_run (done ++ [event]) rest
    have hrows := hkept done.length (by simp [hevents])
    have htake : events.take done.length = done := by simp [hevents]
    have htake' : events.take (done.length + 1) = done ++ [event] := by
      rw [hsplit, List.take_left' (by simp)]
    rw [htake, htake', run_concat] at hrows
    rw [run_concat] at hmade
    exact ⟨(run_concat done event).symm, h.step event (hdistinct.of_prefix hmade) hrows⟩
  exact key.2

/-- **The transition log is a chain that ends in the status.** In every run of
checks, attempts, failures, reloads, aborts and restarts that makes the
transitions of an ID at different times and prunes none of them, those since
the ID was last reset start with unknown, each starts where the one before
ended and ends elsewhere, and the last ends with the status that is stored. -/
theorem transitions_chained (events : List Event) (id : String)
    (hdistinct : Distinct id (Monitors.run events).made) (hkept : Unpruned events id) :
    ChainedSince (Monitors.run events).service.conn id ((Monitors.run events).resetAt id) :=
  (intact_run events id hdistinct hkept).recorded.chained

/-! ## A sample -/

def sampleMonitoredHost : Host where
  id := "r1"
  address := "192.0.2.1"
  name := "r1"
  groups := []
  modules := { icmp := { enabled := true } }

def sampleThresholds (failureThreshold : ℕ) (h : failureThreshold ≤ U32_MAX) : IcmpMonitorConfig :=
  ⟨failureThreshold, 1, h, by decide⟩

def samplePolicies : StoragePolicies := ⟨{}, {}, fromSecs 86400, fromSecs 86400⟩

/-- A job observes and stores what it found, which may take several attempts. -/
def sampleObserved (i : ℕ) (check : Check) (attempts : List (Option StorageError)) : List Event :=
  .job i (.check check) :: attempts.flatMap fun lost =>
    [.job i (.attempt {}), .job i .acquire, .job i (.write {} check.checkedAt lost)]

/-- A host is seen up, which is stored twice; a lower threshold is loaded; the
host is seen down, and the job that stores it is aborted meanwhile. -/
def sampleMonitored : List Event :=
  ([.restart {} none 0 [sampleMonitoredHost] (some (sampleThresholds 2 (by decide))), .spawn {},
    .job 0 (.load none)] : List Event) ++
  sampleObserved 0 ⟨1000000000, .ok ⟨1000000⟩, "icmp"⟩ [some .busy, none] ++
  sampleObserved 0 ⟨2000000000, .error ⟨"timeout"⟩, "icmp"⟩ [none] ++
  ([.reload {} 3000000000 3000000000 [sampleMonitoredHost] samplePolicies
      (some (sampleThresholds 1 (by decide))),
    .job 0 (.check ⟨3500000000, .error ⟨"timeout"⟩, "icmp"⟩), .job 0 (.attempt {}), .spawn {},
    .job 1 (.load none), .job 0 .acquire, .job 0 (.write {} 4000000000 none),
    .job 1 (.check ⟨4000000000, .error ⟨"timeout"⟩, "icmp"⟩), .job 1 (.attempt {}), .job 1 .acquire,
    .job 1 .abort, .job 1 (.write {} 5000000000 none),
    .restart {} none 6000000000 [sampleMonitoredHost] none] : List Event)

theorem sampleMonitored_chained :
    ChainedSince (Monitors.run sampleMonitored).service.conn "r1"
        ((Monitors.run sampleMonitored).resetAt "r1") ∧
      (transitionsSince (Monitors.run sampleMonitored).service.conn "r1"
        ((Monitors.run sampleMonitored).resetAt "r1")).map (·.newStatus) = [.up, .down] :=
  ⟨transitions_chained sampleMonitored "r1" (by decide +kernel) (by decide +kernel), by decide +kernel⟩

end SimpleNetworkMonitor.Icmp
