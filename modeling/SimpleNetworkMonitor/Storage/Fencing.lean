import SimpleNetworkMonitor.Storage.Helpers.World
/-!
# Generation fencing

A write through a monitor's handle that returns has committed in the
handle's generation, with the targets of the catalog that was published with
it. Any other write has left everything as it was.
-/

namespace SimpleNetworkMonitor.Storage

/-! ## A call by itself -/

/-- A write that nothing slips into, for a number of steps. -/
def Task.runAlone (faults : Faults) (now now' : ℤ) : ℕ → Task → Call Unit
  | 0, _ => pure ()
  | fuel + 1, task => do
    match ← task.step faults now now' with
    | some state => Task.runAlone faults now now' fuel { task with state }
    | none => pure ()

section Alone

variable (faults : Faults) (now now' : ℤ) (handle : ℕ) (write : Write) (fuel : ℕ)
  (storage : SqliteStorage)

/-- A write that waits for its permit gets it, and does what it asks for. -/
theorem run_runAlone_queued (request : Request) :
    Program.run (Task.runAlone faults now now' (fuel + 2) ⟨handle, write, .queued request⟩) storage =
      Program.run (withInner (some handle) faults (request.perform faults now now')) storage := by
  simp only [Task.runAlone, Task.step, Program.run_bind, Program.run_pure]
  rcases Program.run (withInner (some handle) faults (request.perform faults now now')) storage with
    ⟨_ | ⟨⟨⟩⟩, storage'⟩ <;> rfl

/-- The call of a usage write returns what the writer mutex gave it. -/
theorem run_withInner_writeUsage (host : Host) (snapshot : UsageSnapshot) :
    Program.run (withInner (some handle) faults
        ((Request.usage host snapshot).perform faults now now')) storage =
      Program.run (do
        let _ ← withInner (some handle) faults fun inner =>
          inner.writeUsage host snapshot faults now now'
        return ()) storage := by
  simp only [Program.run_bind, run_withInner, Request.perform]
  split_ifs
  · rfl
  · rfl
  · rcases storage.inner.writeUsage host snapshot faults now now' with ⟨_ | _, inner⟩ <;> rfl

theorem run_runAlone_checked (hostId : String) (snapshot : UsageSnapshot) :
    Program.run (Task.runAlone faults now now' (fuel + 3)
        ⟨handle, write, .checked hostId snapshot⟩) storage =
      Program.run (do
        let host ← lookupHost faults hostId
        let _ ← withInner (some handle) faults fun inner =>
          inner.writeUsage host snapshot faults now now'
        return ()) storage := by
  rw [Task.runAlone]
  simp only [Task.step, Program.run_bind]
  rcases run_lookupHost_cases faults hostId storage with ⟨e, h⟩ | ⟨host, -, h⟩ <;> rw [h]
  simp only [Program.run_pure]
  rw [run_runAlone_queued, run_withInner_writeUsage, Program.run_bind]
  rfl

/-- **A write by itself is the call.** -/
theorem run_runAlone :
    Program.run (Task.runAlone faults now now' 4 ⟨handle, write, .called⟩) storage =
      Program.run (write.call (some handle) faults now now') storage := by
  have hfirst : Program.run (Task.runAlone faults now now' 4 ⟨handle, write, .called⟩) storage =
      Program.run (do
        let state ← write.begin faults
        Task.runAlone faults now now' 3 ⟨handle, write, state⟩) storage := by
    rw [Task.runAlone]
    simp only [Task.step, Program.run_bind]
    rcases Program.run (write.begin faults) storage with ⟨_ | _, storage'⟩ <;> rfl
  rw [hfirst, Program.run_bind]
  cases write with
  | checkResult hostId state transition =>
    simp only [Write.begin, Write.call, updateCheckResult, Program.run_bind]
    rcases run_ensureHostExists_cases faults hostId storage with ⟨e, h⟩ | ⟨-, h⟩ <;> rw [h]
    exact run_runAlone_queued faults now now' handle _ 1 storage _
  | usage hostId snapshot =>
    simp only [Write.begin, Write.call, updateUsage, Program.run_bind]
    rcases run_ensureHostExists_cases faults hostId storage with ⟨e, h⟩ | ⟨-, h⟩ <;> rw [h]
    simp only [Program.run_mk]
    rcases orInvalidData snapshot.validate with e | ⟨⟨⟩⟩
    · rfl
    · simp only [Program.run_pure]
      rw [run_runAlone_checked, Program.run_bind]
      rcases run_lookupHost_cases faults hostId storage with ⟨e, h⟩ | ⟨host, -, h⟩ <;> rw [h]
      exact Program.run_bind storage _ _
  | tcp hostId checkId snapshot =>
    simp only [Write.begin, Write.call, updateTcp, Program.run_bind]
    rcases run_lookupHost_cases faults hostId storage with ⟨e, h⟩ | ⟨host, -, h⟩ <;> rw [h]
    simp only [Program.run_mk]
    rcases findCheck host checkId with e | check
    · rfl
    · exact run_runAlone_queued faults now now' handle _ 1 storage _

/-- What a reload assigns once it has committed. -/
def SqliteStorage.publish (hosts : List Host) (policies : Option StoragePolicies)
    (storage : SqliteStorage) : SqliteStorage :=
  let hostMap := Catalog.ofHosts hosts
  let policed := policies.elim storage fun config => storage.publishPolicies config
  let bumped := policed.bumpGeneration.retainUsage (sameAddress storage.hosts hostMap)
  SqliteStorage.retainUsage ((hosts.map (·.id)).dedup.contains ·) { bumped with hosts := hostMap }

theorem run_publish (hosts : List Host) (policies : Option StoragePolicies) :
    Program.run (do
      if let some config := policies then modify (·.publishPolicies config)
      modify (·.bumpGeneration)
      modify (·.retainUsage (sameAddress storage.hosts (Catalog.ofHosts hosts)))
      modify fun storage => { storage with hosts := Catalog.ofHosts hosts }
      modify (·.retainUsage ((hosts.map (·.id)).dedup.contains ·)) : Call Unit) storage =
      (.ok (), storage.publish hosts policies) := by
  cases policies <;> rfl

theorem reloadSteps_publish (w : World) (hosts : List Host) (policies : Option StoragePolicies) :
    (World.reloadStep · faults now now')^[7] { w with reload := some ⟨hosts, policies, .committed⟩ } =
      { w with
        storage := w.storage.publish hosts policies
        reload := none
        published := w.published ++ [Catalog.ofHosts hosts] } := by
  cases policies <;> rfl

/-- A reload takes its locks and commits, or it is over. -/
theorem reloadSteps_commit (w : World) (hosts : List Host) (policies : Option StoragePolicies) :
    (World.reloadStep · faults now now')^[3]
        { w with reload := some ⟨hosts, policies, .catalogLocked⟩ } =
      if faults.poisoned .inner || faults.poisoned .historyPolicy then { w with reload := none }
      else
        match w.storage.inner.transaction
          (reloadTransaction (Catalog.ofHosts hosts) policies now now') faults with
        | (.error _, inner) => { w with storage := { w.storage with inner }, reload := none }
        | (.ok (), inner) =>
          { w with
            storage := { w.storage with inner }
            reload := some ⟨hosts, policies, .committed⟩ } := by
  show World.reloadStep (World.reloadStep (World.reloadStep _ _ _ _) _ _ _) _ _ _ = _
  rcases hi : faults.poisoned .inner with - | -
  · rcases hp : faults.poisoned .historyPolicy with - | -
    · simp only [World.reloadStep, World.reloadTo, hi, hp, Bool.false_eq_true, if_false, Bool.or_false]
      rfl
    · simp only [World.reloadStep, World.reloadTo, hi, hp, Bool.false_eq_true, if_false, if_true,
        Bool.or_true]
  · simp only [World.reloadStep, hi, if_true, Bool.true_or]

/-- **A reload by itself is the call**: after its ten steps it is over, and
has left what the call leaves. -/
theorem reload_alone (w : World) (hfree : w.catalogFree = true) (hosts : List Host)
    (policies : Option StoragePolicies) :
    let w' := (World.reloadStep · faults now now')^[7 + 3] (w.step (.reload faults hosts policies))
    w'.reload = none ∧
      w'.storage =
        (Program.run (replaceConfiguration faults now now' hosts policies) w.storage).2 := by
  have hnone : w.reload = none := by simpa [World.catalogFree] using hfree
  -- once it is over, the steps that remain do nothing
  have hover : ∀ (n : ℕ) (v : World), v.reload = none →
      (World.reloadStep · faults now now')^[n] v = v := fun n v hv =>
    Function.iterate_fixed (by simp only [World.reloadStep, hv]) n
  unfold replaceConfiguration
  by_cases hlen : (hosts.map (·.id)).dedup.length = hosts.length
  · simp only [hlen, ne_eq, not_true_eq_false, if_false, Program.run_bind, Program.run_get, run_lock]
    rcases hh : faults.poisoned .hosts with - | -
    · have hstep : w.step (.reload faults hosts policies) =
          { w with reload := some ⟨hosts, policies, .catalogLocked⟩ } := by
        simp [World.step, hlen, hh, hfree]
      rw [hstep, Function.iterate_add_apply, reloadSteps_commit]
      rcases hi : faults.poisoned .inner with - | -
      · rcases hp : faults.poisoned .historyPolicy with - | -
        · simp only [Bool.false_eq_true, if_false, Bool.or_false, Program.run_modify,
            Program.run_mk]
          rcases w.storage.inner.transaction_cases
              (reloadTransaction (Catalog.ofHosts hosts) policies now now') faults with
            ⟨e, h⟩ | ⟨⟨⟩, conn, -, h⟩ <;> rw [h]
          · simp only [hover _ { w with reload := none } rfl]
            trivial
          · have hpublish := reloadSteps_publish faults now now'
              { w with storage := { w.storage with inner := { w.storage.inner with conn } } } hosts
              policies
            have hrun := run_publish { w.storage with inner := { w.storage.inner with conn } } hosts
              policies
            refine ⟨congrArg World.reload hpublish, (congrArg World.storage hpublish).trans ?_⟩
            exact (congrArg Prod.snd hrun).symm
        · -- a poisoned lock ends the reload where it is taken
          simp [hover _ { w with reload := none } rfl]
      · simp [hover _ { w with reload := none } rfl]
    · have hstep : w.step (.reload faults hosts policies) = w := by
        simp [World.step, hlen, hh]
      rw [hstep, hover _ w hnone]
      exact ⟨hnone, rfl⟩
  · have hstep : w.step (.reload faults hosts policies) = w := by
      simp [World.step, hlen]
    rw [hstep, hover _ w hnone]
    simp only [hlen, ne_eq, not_false_eq_true, if_true, Program.run_bind, Program.run_throw]
    exact ⟨hnone, trivial⟩

end Alone

/-! ## Fencing -/

/-- **A write that is over was fenced.** One that returned found its handle's
generation current, with no later catalog published, and did what it asks of
the catalog that was published with the generation; one that was rejected
changed nothing. -/
structure Outcome.Fenced (outcome : Outcome) : Prop where
  generation : outcome.result = .ok () → outcome.before.inner.generation = outcome.task.handle
  last : outcome.result = .ok () → outcome.published.length = outcome.task.handle + 1
  committed : outcome.result = .ok () → ∃ catalog request inner,
    outcome.published[outcome.task.handle]? = some catalog ∧
      outcome.task.write.request catalog = .ok request ∧
      request.perform outcome.faults outcome.now outcome.now' outcome.before.inner =
        (.ok (), inner) ∧
      outcome.after = { outcome.before with inner }
  rejected : ∀ e, outcome.result = .error e → outcome.after = outcome.before

/-- A world all of whose writes were fenced. -/
def World.Fenced (w : World) : Prop := ∀ outcome ∈ w.outcomes, outcome.Fenced

namespace World

variable {w : World}

/-- **One more write is over.** -/
theorem fenced_finish (hw : w.Fenced) {i : ℕ} {task : Task} {result : Except StorageError Unit}
    {faults : Faults} {now now' : ℤ} {storage : SqliteStorage}
    (h : Outcome.Fenced ⟨task, result, faults, now, now', w.storage, storage, w.published⟩) :
    (w.finish i task result faults now now' storage).Fenced := by
  intro outcome ho
  rcases List.mem_append.mp ho with ho | ho
  · exact hw outcome ho
  · obtain rfl := List.mem_singleton.mp ho
    exact h

theorem fenced_advance (hw : w.Fenced) (hcoherent : w.Coherent) (i : ℕ) (faults : Faults)
    (now now' : ℤ) : (w.advance i faults now now').Fenced := by
  have h := hcoherent.advanced i faults now now'
  generalize w.advance i faults now now' = w' at h
  cases h with
  | stuck => exact hw
  | failed htask e =>
    exact fenced_finish hw ⟨fun h => (nomatch h), fun h => (nomatch h), fun h => (nomatch h),
      fun _ _ => rfl⟩
  | read htask hfree hready => exact hw
  | admitted htask hstate => exact hw
  | done htask hstate hfree hgeneration hperformed hperform =>
    obtain ⟨catalog, hpub, hrequest⟩ :=
      hcoherent.request (List.mem_of_getElem? htask) hgeneration hstate
    exact fenced_finish hw ⟨fun _ => hgeneration, fun _ => by rw [hcoherent.length, hgeneration],
      fun _ => ⟨catalog, _, _, hpub, hrequest, hperform, rfl⟩, fun _ h => (nomatch h)⟩

/-- Only a step of a write ends one. -/
theorem fenced_step (event : Event) (hw : w.Fenced) (hcoherent : w.Coherent) :
    (w.step event).Fenced := by
  cases event with
  | advance i faults now now' => exact fenced_advance hw hcoherent i faults now now'
  | reloadStep faults now now' =>
    simp only [step, Fenced, outcomes_reloadStep]
    exact hw
  | monitorGeneration faults =>
    simp only [step]
    split_ifs
    · exact hw
    · split <;> exact hw
  | call handle write =>
    simp only [step]
    split_ifs <;> exact hw
  | cancel i =>
    simp only [step]
    split
    · split_ifs <;> exact hw
    · exact hw
  | reload faults hosts policies =>
    simp only [step]
    split_ifs <;> exact hw
  | maintain op =>
    simp only [step]
    split_ifs <;> exact hw
  | clone read =>
    simp only [step]
    split_ifs <;> exact hw
  | query reader =>
    simp only [step]
    split <;> exact hw
  | restart faults now hosts =>
    simp only [step]
    split <;> exact hw

theorem fenced_run (events : List Event) : (World.run events).Fenced := by
  have h : (World.run events).Fenced ∧ (World.run events).Coherent :=
    World.run_induction (P := fun w => w.Fenced ∧ w.Coherent)
      ⟨fun _ h => (nomatch h), coherent_empty⟩
      (fun event _ hw => ⟨fenced_step event hw.1 hw.2, coherent_step event hw.2⟩) events
  exact h.1

/-- A step of a write leaves the storage alone, or it is the last of a write
that returns. -/
theorem storage_advance (hcoherent : w.Coherent) (i : ℕ) (faults : Faults) (now now' : ℤ) :
    (w.advance i faults now now').storage = w.storage ∨
      ∃ outcome, (w.advance i faults now now').outcomes = w.outcomes ++ [outcome] ∧
        outcome.result = .ok () ∧ outcome.before = w.storage ∧
        outcome.after = (w.advance i faults now now').storage := by
  have h := hcoherent.advanced i faults now now'
  generalize w.advance i faults now now' = w' at h
  cases h with
  | done htask hstate hfree hgeneration hperformed hperform =>
    exact Or.inr ⟨_, rfl, rfl, rfl, rfl⟩
  | stuck => exact Or.inl rfl
  | failed htask e => exact Or.inl rfl
  | read htask hfree hready => exact Or.inl rfl
  | admitted htask hstate => exact Or.inl rfl

end World

/-- **Generation fencing is exact.** Whatever slips in between: every write
that is over was fenced, and no step of a write touches the database or the
cache but the one it returns from. -/
theorem writes_fenced (events : List Event) :
    (∀ outcome ∈ (World.run events).outcomes, outcome.Fenced) ∧
      ∀ (i : ℕ) (faults : Faults) (now now' : ℤ),
        ((World.run events).advance i faults now now').storage = (World.run events).storage ∨
          ∃ outcome, ((World.run events).advance i faults now now').outcomes =
              (World.run events).outcomes ++ [outcome] ∧
            outcome.result = .ok () ∧ outcome.before = (World.run events).storage ∧
            outcome.after = ((World.run events).advance i faults now now').storage :=
  ⟨World.fenced_run events, World.storage_advance (World.coherent_run events)⟩

end SimpleNetworkMonitor.Storage
