import SimpleNetworkMonitor.Storage.Helpers.Steps
import SimpleNetworkMonitor.Storage.Model.World
/-!
# What a step of the world can do

The pieces of a call, run by themselves, and the invariant of every world:
the catalog a call can read is the one published with the generation it can
read, and a write that waits has read a catalog no older than its handle.
-/

namespace SimpleNetworkMonitor.Storage

variable {storage : SqliteStorage} {inner : Inner} {faults : Faults} {now now' : ℤ}

/-! ## Requests -/

/-- What a request leaves of the process, where it succeeds. -/
inductive Performed (inner : Inner) (now : ℤ) : Request → Inner → Prop where
  | checkResult (hostId : String) (state : HostRuntimeState) (transition : Option IcmpTransition) :
      Performed inner now (.checkResult hostId state transition)
        { inner with conn := inner.conn.putCheckResult hostId state transition now }
  | usage (host : Host) (snapshot : UsageSnapshot) {shouldInsertHistory : Bool}
      (usageSamples : Log UsageRow)
      (hinsert : shouldInsertHistory =
        (inner.usage.find? host.id).all (snapshot.differsForHistory ·)) :
      Performed inner now (.usage host snapshot)
        { inner with
          conn := { inner.conn.putUsage host snapshot shouldInsertHistory now with usageSamples }
          usage := inner.usage.upsert host.id snapshot }
  | tcp (host : Host) (check : TcpCheckConfig) (snapshot : TcpSnapshot) :
      Performed inner now (.tcp host check snapshot)
        { inner with conn := inner.conn.putTcp host check snapshot now }

/-- **A request fails and changes nothing, or is performed.** -/
theorem perform_cases (request : Request) (faults : Faults) (now now' : ℤ) (inner : Inner) :
    (∃ e, request.perform faults now now' inner = (.error e, inner)) ∨
      ∃ inner', Performed inner now request inner' ∧
        request.perform faults now now' inner = (.ok (), inner') := by
  cases request with
  | checkResult hostId state transition =>
    rcases inner.transaction_cases (checkResultTransaction hostId state transition now) faults with
      h | ⟨⟨⟩, conn, hexec, h⟩
    · exact Or.inl h
    · rw [exec_checkResultTransaction] at hexec
      obtain ⟨-, rfl⟩ := Prod.mk.inj (Except.ok.inj hexec)
      exact Or.inr ⟨_, .checkResult hostId state transition, h⟩
  | usage host snapshot =>
    rcases writeUsage_cases inner host snapshot faults now now' with
      ⟨e, h⟩ | ⟨shouldInsertHistory, usageSamples, hinsert, -, h⟩
    · exact Or.inl ⟨e, by simp only [Request.perform, h]; rfl⟩
    · exact Or.inr ⟨_, .usage host snapshot usageSamples hinsert, by
        simp only [Request.perform, h]; rfl⟩
  | tcp host check snapshot =>
    rcases inner.transaction_cases (tcpTransaction host check snapshot now) faults with
      h | ⟨⟨⟩, conn, hexec, h⟩
    · exact Or.inl h
    · rw [exec_tcpTransaction] at hexec
      obtain ⟨-, rfl⟩ := Prod.mk.inj (Except.ok.inj hexec)
      exact Or.inr ⟨_, .tcp host check snapshot, h⟩

theorem Performed.generation {request : Request} {inner' : Inner}
    (h : Performed inner now request inner') : inner'.generation = inner.generation := by
  cases h <;> rfl

/-! ## Steps of a write -/

/-- What a write has read when it waits for its permit, or for its second
look at the catalog. -/
def Ready (catalog : Catalog) (write : Write) : TaskState → Prop
  | .called => True
  | .checked hostId snapshot => write = .usage hostId snapshot
  | .queued request | .admitted request => write.request catalog = .ok request

theorem begin_cases (write : Write) (faults : Faults) (storage : SqliteStorage) :
    (∃ e, Program.run (write.begin faults) storage = (.error e, storage)) ∨
      ∃ state, Ready storage.hosts write state ∧
        Program.run (write.begin faults) storage = (.ok state, storage) := by
  cases write with
  | checkResult hostId state transition =>
    rw [Write.begin, Program.run_bind]
    rcases run_ensureHostExists_cases faults hostId storage with ⟨e, h⟩ | ⟨hkey, h⟩ <;> rw [h]
    · exact Or.inl ⟨e, rfl⟩
    · exact Or.inr ⟨.queued (.checkResult hostId state transition), if_pos hkey, rfl⟩
  | usage hostId snapshot =>
    rw [Write.begin, Program.run_bind]
    rcases run_ensureHostExists_cases faults hostId storage with ⟨e, h⟩ | ⟨-, h⟩ <;> rw [h]
    · exact Or.inl ⟨e, rfl⟩
    · rcases hvalid : orInvalidData snapshot.validate with e | ⟨⟨⟩⟩
      · exact Or.inl ⟨e, by simp only [Program.run_bind, Program.run_mk]⟩
      · exact Or.inr ⟨.checked hostId snapshot, rfl, by
          simp only [Program.run_bind, Program.run_mk, Program.run_pure]⟩
  | tcp hostId checkId snapshot =>
    rw [Write.begin, Program.run_bind]
    rcases run_lookupHost_cases faults hostId storage with ⟨e, h⟩ | ⟨host, hget, h⟩ <;> rw [h]
    · exact Or.inl ⟨e, rfl⟩
    · rcases hcheck : findCheck host checkId with e | check
      · exact Or.inl ⟨e, by simp only [Program.run_bind, Program.run_mk, hcheck]⟩
      · refine Or.inr ⟨.queued (.tcp host check snapshot), ?_, by
          simp only [Program.run_bind, Program.run_mk, hcheck, Program.run_pure]⟩
        simp only [Ready, Write.request, hget, hcheck]
        rfl

/-- **What a step of a write can do.** -/
inductive Stepped (storage : SqliteStorage) (faults : Faults) (now now' : ℤ) (task : Task) :
    Except StorageError (Option TaskState) → SqliteStorage → Prop where
  | failed (e : StorageError) : Stepped storage faults now now' task (.error e) storage
  | read {state : TaskState} (hstate : task.state = .called ∨ ∃ hostId snapshot,
        task.state = .checked hostId snapshot ∧ task.write = .usage hostId snapshot)
      (hready : Ready storage.hosts task.write state) :
      Stepped storage faults now now' task (.ok (some state)) storage
  | admitted {request : Request} (hstate : task.state = .queued request) :
      Stepped storage faults now now' task (.ok (some (.admitted request))) storage
  | done {request : Request} {inner : Inner} (hstate : task.state = .admitted request)
      (hgeneration : storage.inner.generation = task.handle)
      (hperformed : Performed storage.inner now request inner)
      (hperform : request.perform faults now now' storage.inner = (.ok (), inner)) :
      Stepped storage faults now now' task (.ok none) { storage with inner }

theorem step_cases (task : Task) (faults : Faults) (now now' : ℤ) (storage : SqliteStorage)
    (hchecked : ∀ hostId snapshot, task.state = .checked hostId snapshot →
      task.write = .usage hostId snapshot) :
    Stepped storage faults now now' task (Program.run (task.step faults now now') storage).1
      (Program.run (task.step faults now now') storage).2 := by
  rcases hstate : task.state with - | ⟨hostId, snapshot⟩ | request | request <;>
    simp only [Task.step, hstate]
  · rw [Program.run_bind]
    rcases begin_cases task.write faults storage with ⟨e, h⟩ | ⟨state, hready, h⟩ <;> rw [h]
    · exact .failed e
    · exact .read (Or.inl hstate) hready
  · rw [Program.run_bind]
    have hwrite := hchecked hostId snapshot hstate
    rcases run_lookupHost_cases faults hostId storage with ⟨e, h⟩ | ⟨host, hget, h⟩ <;> rw [h]
    · exact .failed e
    · refine .read (Or.inr ⟨hostId, snapshot, hstate, hwrite⟩) ?_
      simp only [Ready, hwrite, Write.request, hget]
  · exact .admitted hstate
  · rw [Program.run_bind, run_withInner]
    split_ifs with hp hg
    · exact .failed _
    · exact .failed _
    · have hgeneration : task.handle = storage.inner.generation := by simpa using hg
      rcases perform_cases request faults now now' storage.inner with ⟨e, h⟩ | ⟨inner, hp, h⟩ <;>
        rw [h]
      · exact .failed e
      · exact .done hstate hgeneration.symm hp h

/-! ## Maintenance -/

/-- **Maintenance touches neither the catalog nor what is current.** -/
structure Maintained (storage storage' : SqliteStorage) : Prop where
  hosts : storage'.hosts = storage.hosts
  generation : storage'.inner.generation = storage.inner.generation
  latestStatus : storage'.inner.conn.latestStatus = storage.inner.conn.latestStatus
  latestUsage : storage'.inner.conn.latestUsage = storage.inner.conn.latestUsage
  latestTcp : storage'.inner.conn.latestTcp = storage.inner.conn.latestTcp
  hostIdentity : storage'.inner.conn.hostIdentity = storage.inner.conn.hostIdentity

theorem SameData.maintained {storage storage' : SqliteStorage} (h : SameData storage storage') :
    Maintained storage storage' :=
  ⟨h.hosts, h.generation, by rw [h.conn], by rw [h.conn], by rw [h.conn], by rw [h.conn]⟩

theorem maintained_apply {op : StorageOp} (hop : op.isMaintenance = true)
    (storage : SqliteStorage) : Maintained storage (op.apply storage) := by
  have hsame : Maintained storage storage := (SameData.refl storage).maintained
  cases op with
  | pruneHistory scan faults now =>
    rcases pruneHistory_cases scan faults now storage with ⟨e, h⟩ | ⟨n, h⟩ <;>
      simp only [StorageOp.apply, h]
    · exact hsame
    · exact ⟨rfl, rfl, rfl, rfl, rfl, rfl⟩
  | rollup faults now =>
    rcases rollup_cases faults now storage with ⟨e, h⟩ | ⟨done, h⟩ <;>
      simp only [StorageOp.apply, h]
    · exact hsame
    · exact ⟨rfl, rfl, rfl, rfl, rfl, rfl⟩
  | prune scan faults now =>
    rcases prune_cases scan faults now storage with ⟨e, h⟩ | h <;>
      simp only [StorageOp.apply, h]
    · exact hsame
    · exact ⟨rfl, rfl, rfl, rfl, rfl, rfl⟩
  | setHistoryRetention faults duration =>
    exact (sameData_setHistoryRetention faults duration).maintained
  | setUsageSampleRetention faults retention =>
    exact (sameData_setUsageSampleRetention faults retention).maintained
  | configureMaintenance faults now history maintenance =>
    exact (sameData_configureMaintenance faults now history maintenance).maintained
  | scheduleJobs jobs => exact ⟨rfl, rfl, rfl, rfl, rfl, rfl⟩
  | updateCheckResult => cases hop
  | updateUsage => cases hop
  | updateTcp => cases hop
  | updateHosts => cases hop
  | updateConfiguration => cases hop

/-! ## Catalogs and generations -/

namespace World

/-- The catalog of the current generation. It is the one that can be read,
except where a reload has bumped the generation and not yet replaced the
catalog. -/
def catalog (w : World) : Catalog :=
  match w.reload with
  | some reload =>
    if reload.stage = .generationBumped ∨ reload.stage = .usageRetained then reload.hostMap
    else w.storage.hosts
  | none => w.storage.hosts

/-- A write in flight is through a handle that was handed out, and waits
with what it read of a catalog no older than its handle. -/
def Waiting (w : World) (task : Task) : Prop :=
  task.handle ≤ w.storage.inner.generation ∧
    ∃ generation catalog, task.handle ≤ generation ∧ w.published[generation]? = some catalog ∧
      Ready catalog task.write task.state

/-- **Catalogs go with generations**: each generation has the catalog that
was published with it, and no write in flight has read an older one than
its handle is of. -/
structure Coherent (w : World) : Prop where
  length : w.published.length = w.storage.inner.generation + 1
  current : w.published[w.storage.inner.generation]? = some w.catalog
  handles : ∀ handle ∈ w.handles, handle ≤ w.storage.inner.generation
  tasks : ∀ task ∈ w.tasks, w.Waiting task

variable {w w' : World}

theorem coherent_empty : Coherent {} :=
  ⟨rfl, rfl, fun _ h => (nomatch h), fun _ h => (nomatch h)⟩

/-- Where the catalog can be read, it is that of the generation. -/
theorem catalog_of_free (h : w.catalogFree = true) : w.catalog = w.storage.hosts := by
  have hnone : w.reload = none := by simpa [catalogFree] using h
  simp only [catalog, hnone]

/-- What the invariant is about stays, and there are no new calls. -/
theorem Coherent.mono (hw : w.Coherent)
    (hgeneration : w'.storage.inner.generation = w.storage.inner.generation)
    (hcatalog : w'.catalog = w.catalog) (hpublished : w'.published = w.published)
    (hhandles : ∀ handle ∈ w'.handles, handle ∈ w.handles)
    (htasks : ∀ task ∈ w'.tasks, task ∈ w.tasks) : w'.Coherent := by
  refine ⟨?_, ?_, fun handle h => ?_, fun task h => ?_⟩
  · rw [hpublished, hgeneration, hw.length]
  · rw [hpublished, hgeneration, hcatalog, hw.current]
  · rw [hgeneration]
    exact hw.handles handle (hhandles handle h)
  · obtain ⟨hle, generation, catalog, hread, hpub, hready⟩ := hw.tasks task (htasks task h)
    exact ⟨hgeneration ▸ hle, generation, catalog, hread, hpublished ▸ hpub, hready⟩

/-- A write in flight has what it needs to know of its own state. -/
theorem Coherent.checked (hw : w.Coherent) {task : Task} (h : task ∈ w.tasks)
    (hostId : String) (snapshot : UsageSnapshot) (hstate : task.state = .checked hostId snapshot) :
    task.write = .usage hostId snapshot := by
  obtain ⟨-, _, _, -, -, hready⟩ := hw.tasks task h
  rwa [hstate] at hready

/-- **The request of a write that is let through** is the one that it makes
of the catalog published with its handle. -/
theorem Coherent.request (hw : w.Coherent) {task : Task} (h : task ∈ w.tasks)
    (hgeneration : w.storage.inner.generation = task.handle) {request : Request}
    (hstate : task.state = .admitted request) :
    ∃ catalog, w.published[task.handle]? = some catalog ∧
      task.write.request catalog = .ok request := by
  obtain ⟨-, generation, catalog, hread, hpub, hready⟩ := hw.tasks task h
  rw [hstate] at hready
  have hlt : generation < w.published.length := (List.getElem?_eq_some_iff.mp hpub).1
  rw [hw.length] at hlt
  obtain rfl : generation = task.handle := by omega
  exact ⟨catalog, hpub, hready⟩

/-! ## Each step keeps it -/

theorem coherent_finish (hw : w.Coherent) (i : ℕ) (task : Task) (result : Except StorageError Unit)
    (faults : Faults) (now now' : ℤ) {storage : SqliteStorage} (hhosts : storage.hosts = w.storage.hosts)
    (hgeneration : storage.inner.generation = w.storage.inner.generation) :
    (w.finish i task result faults now now' storage).Coherent := by
  refine hw.mono hgeneration ?_ rfl (fun _ h => h) fun _ h => List.mem_of_mem_eraseIdx h
  simp only [catalog, finish, hhosts]

/-- **What a step of a write makes of the world**: nothing, where there is
none or it has to wait; else what the write can do. -/
inductive Advanced (w : World) (i : ℕ) (faults : Faults) (now now' : ℤ) : World → Prop where
  | stuck : Advanced w i faults now now' w
  | failed {task : Task} (htask : w.tasks[i]? = some task) (e : StorageError) :
      Advanced w i faults now now' (w.finish i task (.error e) faults now now' w.storage)
  | read {task : Task} {state : TaskState} (htask : w.tasks[i]? = some task)
      (hfree : w.catalogFree = true) (hready : Ready w.storage.hosts task.write state) :
      Advanced w i faults now now' { w with tasks := w.tasks.set i { task with state } }
  | admitted {task : Task} {request : Request} (htask : w.tasks[i]? = some task)
      (hstate : task.state = .queued request) :
      Advanced w i faults now now'
        { w with tasks := w.tasks.set i { task with state := .admitted request } }
  | done {task : Task} {request : Request} {inner : Inner} (htask : w.tasks[i]? = some task)
      (hstate : task.state = .admitted request) (hfree : w.innerFree = true)
      (hgeneration : w.storage.inner.generation = task.handle)
      (hperformed : Performed w.storage.inner now request inner)
      (hperform : request.perform faults now now' w.storage.inner = (.ok (), inner)) :
      Advanced w i faults now now'
        (w.finish i task (.ok ()) faults now now' { w.storage with inner })

theorem Coherent.advanced (hw : w.Coherent) (i : ℕ) (faults : Faults) (now now' : ℤ) :
    Advanced w i faults now now' (w.advance i faults now now') := by
  unfold advance
  rcases htask : w.tasks[i]? with - | task
  · exact .stuck
  · rcases hblocked : w.blocked task with - | -
    · have hstep := step_cases task faults now now' w.storage
        (hw.checked (List.mem_of_getElem? htask))
      simp only [hblocked, Bool.false_eq_true, if_false]
      generalize Program.run (task.step faults now now') w.storage = r at hstep
      obtain ⟨result, storage⟩ := r
      cases hstep with
      | failed e => exact .failed htask e
      | read hstate hready =>
        refine .read htask ?_ hready
        rcases hstate with hstate | ⟨hostId, snapshot, hstate, -⟩ <;>
          simpa only [blocked, hstate, Bool.not_eq_false'] using hblocked
      | admitted hstate => exact .admitted htask hstate
      | done hstate hgeneration hperformed hperform =>
        refine .done htask hstate ?_ hgeneration hperformed hperform
        simpa only [blocked, hstate, Bool.not_eq_false'] using hblocked
    · simp only [hblocked, if_true]
      exact .stuck

/-- A write that moves on has still read no older catalog than its handle. -/
theorem coherent_set (hw : w.Coherent) {i : ℕ} {task : Task} {state : TaskState}
    (hwaiting : w.Waiting { task with state }) :
    World.Coherent { w with tasks := w.tasks.set i { task with state } } := by
  refine ⟨hw.length, hw.current, hw.handles, fun other h => ?_⟩
  rcases List.mem_or_eq_of_mem_set h with h | rfl
  · exact hw.tasks other h
  · exact hwaiting

theorem coherent_advance (hw : w.Coherent) (i : ℕ) (faults : Faults) (now now' : ℤ) :
    (w.advance i faults now now').Coherent := by
  have h := hw.advanced i faults now now'
  generalize w.advance i faults now now' = w' at h
  cases h with
  | stuck => exact hw
  | failed htask e => exact coherent_finish hw i _ _ faults now now' rfl rfl
  | read htask hfree hready =>
    obtain ⟨hle, -⟩ := hw.tasks _ (List.mem_of_getElem? htask)
    refine coherent_set hw ⟨hle, _, _, hle, hw.current, ?_⟩
    rw [catalog_of_free hfree]
    exact hready
  | admitted htask hstate =>
    obtain ⟨hle, generation, catalog, hread, hpub, hready⟩ :=
      hw.tasks _ (List.mem_of_getElem? htask)
    rw [hstate] at hready
    exact coherent_set hw ⟨hle, generation, catalog, hread, hpub, hready⟩
  | done htask hstate hfree hgeneration hperformed hperform =>
    exact coherent_finish hw i _ _ faults now now' rfl hperformed.generation

/-- A reload that moves on to a stage where the same catalog can be read. -/
theorem coherent_reloadTo (hw : w.Coherent) {reload : Reload} {stage : ReloadStage}
    {storage : SqliteStorage}
    (hgeneration : storage.inner.generation = w.storage.inner.generation)
    (hcatalog : (w.reloadTo reload stage storage).catalog = w.catalog) :
    (w.reloadTo reload stage storage).Coherent :=
  hw.mono hgeneration hcatalog rfl (fun _ h => h) fun _ h => h

/-- A new generation comes with its catalog; what was handed out and read
before is older. -/
theorem coherent_bumped (hw : w.Coherent) (reload : Reload) :
    World.Coherent { w.reloadTo reload .generationBumped w.storage.bumpGeneration with
      published := w.published ++ [reload.hostMap] } := by
  have hgeneration : (w.reloadTo reload .generationBumped
      w.storage.bumpGeneration).storage.inner.generation = w.storage.inner.generation + 1 := rfl
  refine ⟨?_, ?_, fun handle h => ?_, fun task h => ?_⟩
  · rw [hgeneration, List.length_append, hw.length, List.length_singleton]
  · rw [hgeneration, ← hw.length, List.getElem?_concat_length]
    rfl
  · exact Nat.le_succ_of_le (hw.handles handle h)
  · obtain ⟨hle, generation, catalog, hread, hpub, hready⟩ := hw.tasks task h
    refine ⟨Nat.le_succ_of_le hle, generation, catalog, hread, ?_, hready⟩
    rw [List.getElem?_append_left (List.getElem?_eq_some_iff.mp hpub).1, hpub]

theorem coherent_reloadStep (hw : w.Coherent) (faults : Faults) (now now' : ℤ) :
    (w.reloadStep faults now now').Coherent := by
  unfold reloadStep
  rcases hreload : w.reload with - | reload
  · exact hw
  · have hdropped : reload.stage ≠ .generationBumped → reload.stage ≠ .usageRetained →
        World.Coherent { w with reload := none } := fun h₁ h₂ =>
      hw.mono rfl (by simp only [catalog, hreload, h₁, h₂, or_self, if_false]) rfl (fun _ h => h)
        fun _ h => h
    rcases hstage : reload.stage <;> simp only [hstage]
    · split_ifs
      · exact hdropped (by simp [hstage]) (by simp [hstage])
      · exact coherent_reloadTo hw rfl (by simp [catalog, reloadTo, hreload, hstage])
    · split_ifs
      · exact hdropped (by simp [hstage]) (by simp [hstage])
      · exact coherent_reloadTo hw rfl (by simp [catalog, reloadTo, hreload, hstage])
    · rcases w.storage.inner.transaction_cases
          (reloadTransaction reload.hostMap reload.policies now now') faults with
        ⟨e, h⟩ | ⟨⟨⟩, conn, -, h⟩ <;> simp only [h]
      · exact hdropped (by simp [hstage]) (by simp [hstage])
      · exact coherent_reloadTo hw rfl (by simp [catalog, reloadTo, hreload, hstage])
    · rcases reload.policies with - | config
      · exact coherent_reloadTo hw rfl (by simp [catalog, reloadTo, hreload, hstage])
      · exact coherent_reloadTo hw rfl
          (by simp [catalog, reloadTo, hreload, hstage, SqliteStorage.publishPolicies])
    · exact coherent_bumped hw reload
    · refine coherent_reloadTo hw rfl ?_
      simp [catalog, reloadTo, hreload, hstage, Reload.hostMap]
    · exact coherent_reloadTo hw rfl (by simp [catalog, reloadTo, hreload, hstage])
    · exact coherent_reloadTo hw rfl
        (by simp [catalog, reloadTo, hreload, hstage, SqliteStorage.retainUsage])
    · exact coherent_reloadTo hw rfl (by simp [catalog, reloadTo, hreload, hstage])
    · exact hdropped (by simp [hstage]) (by simp [hstage])

/-- **Every step keeps catalogs and generations together.** -/
theorem coherent_step (event : Event) (hw : w.Coherent) : (w.step event).Coherent := by
  cases event with
  | monitorGeneration faults =>
    simp only [step]
    split_ifs
    · exact hw
    · simp only [monitorGeneration, Program.run_bind, run_lock]
      split_ifs
      · exact hw
      · refine ⟨hw.length, hw.current, fun handle h => ?_, hw.tasks⟩
        rcases List.mem_cons.mp h with rfl | h
        · exact le_rfl
        · exact hw.handles handle h
  | call handle write =>
    simp only [step]
    split_ifs with h
    · refine ⟨hw.length, hw.current, hw.handles, fun task htask => ?_⟩
      rcases List.mem_append.mp htask with htask | htask
      · exact hw.tasks task htask
      · obtain rfl := List.mem_singleton.mp htask
        exact ⟨hw.handles handle h, _, _, hw.handles handle h, hw.current, trivial⟩
    · exact hw
  | advance i faults now now' => exact coherent_advance hw i faults now now'
  | cancel i =>
    simp only [step]
    split
    · split_ifs
      · exact hw
      · exact hw.mono rfl rfl rfl (fun _ h => h) fun _ h => List.mem_of_mem_eraseIdx h
    · exact hw
  -- a reload that begins has published nothing yet
  | reload faults hosts policies =>
    simp only [step]
    split_ifs with h
    · exact hw
    · have hnone : w.reload = none := by
        simp only [Bool.or_eq_true, not_or, catalogFree] at h
        simpa using h.2
      exact hw.mono rfl (by simp [catalog, hnone]) rfl (fun _ h => h) fun _ h => h
  | reloadStep faults now now' => exact coherent_reloadStep hw faults now now'
  | maintain op =>
    simp only [step]
    split_ifs with h
    · have hop := maintained_apply (Bool.and_eq_true_iff.mp h).1 w.storage
      refine hw.mono hop.generation ?_ rfl (fun _ h => h) fun _ h => h
      simp only [catalog, hop.hosts]
    · exact hw
  | clone read =>
    simp only [step]
    split_ifs
    · exact hw.mono rfl rfl rfl (fun _ h => h) fun _ h => h
    · exact hw
  | query reader =>
    simp only [step]
    split
    · exact hw.mono rfl rfl rfl (fun _ h => h) fun _ h => h
    · exact hw
  -- the tasks and handles of the old process are gone
  | restart faults now hosts =>
    simp only [step, newInitialized]
    rcases (syncIdentitiesInTransaction hosts now).transact_cases faults.sql
      w.storage.inner.conn with ⟨e, h⟩ | ⟨⟨⟩, conn, -, h⟩ <;> simp only [h]
    · exact hw
    · exact ⟨rfl, rfl, fun _ h => absurd h List.not_mem_nil, fun _ h => absurd h List.not_mem_nil⟩

/-- A reload ends no write. -/
theorem outcomes_reloadStep (w : World) (faults : Faults) (now now' : ℤ) :
    (w.reloadStep faults now now').outcomes = w.outcomes := by
  unfold reloadStep reloadTo
  split
  · rfl
  · split <;> try split
    all_goals rfl

theorem coherent_run (events : List Event) : (World.run events).Coherent :=
  World.run_induction coherent_empty (fun event _ hw => coherent_step event hw) events

end World

end SimpleNetworkMonitor.Storage
