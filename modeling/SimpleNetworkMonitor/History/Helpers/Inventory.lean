import SimpleNetworkMonitor.History.Helpers.Epochs
/-!
# The open epochs of an inventory

After a synchronization the open epochs are those of the inventory: one for
every enabled check, with its signature, and no other. This holds whatever
the tables were before.
-/

namespace SimpleNetworkMonitor.History

/-- An open epoch is of a target, configured as the target is. -/
def Serves (row : EpochRow) (target : Host × EpochCheck) : Prop :=
  row.isOpen = true ∧ row.key = targetKey target ∧ row.signature = signature target.1 target.2

/-- **The open epochs are those of the targets.** -/
structure Serving (db : HistoryDb) (targets : List (Host × EpochCheck)) : Prop where
  served : ∀ t ∈ targets, ∃ id row, (id, row) ∈ db.epochs.rows ∧ Serves row t
  only : ∀ id row, (id, row) ∈ db.epochs.rows → row.isOpen = true → ∃ t ∈ targets, Serves row t
  one : OneActive db

/-- The epochs marked active, while the targets are gone through. -/
structure Marked (db : HistoryDb) (active : List ℕ) (done : List (Host × EpochCheck)) : Prop where
  served : ∀ t ∈ done, ∃ id ∈ active, ∃ row, (id, row) ∈ db.epochs.rows ∧ Serves row t
  only : ∀ id ∈ active, ∃ row, (id, row) ∈ db.epochs.rows ∧ ∃ t ∈ done, Serves row t
  one : ∀ id ∈ active, ∀ id' ∈ active, ∀ row row', (id, row) ∈ db.epochs.rows →
    (id', row') ∈ db.epochs.rows → row.key = row'.key → id = id'

section

variable {db db' : HistoryDb} {active : List ℕ} {done : List (Host × EpochCheck)}
variable {t : Host × EpochCheck} {id : ℕ} {row : EpochRow} {now : ℤ}

/-- A marked epoch is not of a target still to come. -/
theorem Marked.ne_of_key (h : Marked db active done) (hfresh : ∀ d ∈ done, targetKey d ≠ targetKey t)
    (hmem : (id, row) ∈ db.epochs.rows) (hkey : row.key = targetKey t) : id ∉ active := by
  intro hact
  obtain ⟨row', hmem', d, hd, -, hkey', -⟩ := h.only id hact
  obtain rfl := Table.eq_of_mem hmem hmem'
  exact hfresh d hd (hkey'.symm.trans hkey)

/-- What keeps the marked epochs keeps the marking. -/
theorem Marked.of_kept (h : Marked db active done)
    (hkept : ∀ id ∈ active, ∀ row, (id, row) ∈ db.epochs.rows → (id, row) ∈ db'.epochs.rows) :
    Marked db' active done := by
  have hback : ∀ id ∈ active, ∀ row, (id, row) ∈ db'.epochs.rows → (id, row) ∈ db.epochs.rows := by
    intro id hact row hmem
    obtain ⟨row', hmem', -⟩ := h.only id hact
    rwa [Table.eq_of_mem hmem (hkept id hact row' hmem')]
  refine ⟨fun t ht => ?_, fun id hact => ?_, fun id hact id' hact' row row' hmem hmem' hkey => ?_⟩
  · obtain ⟨id, hact, row, hmem, hserves⟩ := h.served t ht
    exact ⟨id, hact, row, hkept id hact row hmem, hserves⟩
  · obtain ⟨row, hmem, hserves⟩ := h.only id hact
    exact ⟨row, hkept id hact row hmem, hserves⟩
  · exact h.one id hact id' hact' row row' (hback id hact row hmem) (hback id' hact' row' hmem') hkey

/-- The epoch of one more target is marked. -/
theorem Marked.cons (h : Marked db active done) (hfresh : ∀ d ∈ done, targetKey d ≠ targetKey t)
    (hmem : (id, row) ∈ db.epochs.rows) (hserves : Serves row t) :
    Marked db (id :: active) (done ++ [t]) := by
  have hother : ∀ id' ∈ active, ∀ row', (id', row') ∈ db.epochs.rows → row'.key ≠ row.key := by
    intro id' hact row' hmem' hkey
    exact h.ne_of_key hfresh hmem' (hkey.trans hserves.2.1) hact
  refine ⟨fun d hd => ?_, fun id' hact => ?_, fun id₁ h₁ id₂ h₂ row₁ row₂ hm₁ hm₂ hkey => ?_⟩
  · rcases List.mem_append.mp hd with hd | hd
    · obtain ⟨id', hact, rest⟩ := h.served d hd
      exact ⟨id', List.mem_cons_of_mem _ hact, rest⟩
    · obtain rfl := List.mem_singleton.mp hd
      exact ⟨id, List.mem_cons_self, row, hmem, hserves⟩
  · rcases List.mem_cons.mp hact with rfl | hact
    · exact ⟨row, hmem, t, by simp, hserves⟩
    · obtain ⟨row', hmem', d, hd, hserves'⟩ := h.only id' hact
      exact ⟨row', hmem', d, List.mem_append_left _ hd, hserves'⟩
  · rcases List.mem_cons.mp h₁ with heq₁ | hact₁ <;> rcases List.mem_cons.mp h₂ with heq₂ | hact₂
    · exact heq₁.trans heq₂.symm
    · subst heq₁
      rw [Table.eq_of_mem hm₁ hmem] at hkey
      exact absurd hkey.symm (hother id₂ hact₂ row₂ hm₂)
    · subst heq₂
      rw [Table.eq_of_mem hm₂ hmem] at hkey
      exact absurd hkey (hother id₁ hact₁ row₁ hm₁)
    · exact h.one id₁ hact₁ id₂ hact₂ row₁ row₂ hm₁ hm₂ hkey

/-- A new epoch serves its target. -/
theorem Marked.opened (h : Marked db active done)
    (hfresh : ∀ d ∈ done, targetKey d ≠ targetKey t) :
    Marked (openEpoch db t.1 t.2 now) (db.epochs.nextId :: active) (done ++ [t]) :=
  Marked.cons (h.of_kept fun _ _ _ hmem => mem_openEpoch.mpr (Or.inl hmem)) hfresh
    (mem_openEpoch.mpr (Or.inr ⟨rfl, rfl⟩)) ⟨rfl, rfl, rfl⟩

theorem marked_syncCheck (h : Marked db active done)
    (hfresh : ∀ d ∈ done, targetKey d ≠ targetKey t) :
    Marked (syncCheck now (db, active) t).1 (syncCheck now (db, active) t).2 (done ++ [t]) := by
  rcases hprior : activeEpoch db (targetKey t) with - | ⟨id, row⟩
  · have hstep : syncCheck now (db, active) t =
        (openEpoch db t.1 t.2 now, db.epochs.nextId :: active) := by simp [syncCheck, hprior]
    rw [hstep]
    exact h.opened hfresh
  · obtain ⟨hmem, hkey, hopen⟩ := activeEpoch_eq_some hprior
    by_cases hsig : row.signature = signature t.1 t.2
    · have hstep : syncCheck now (db, active) t = (db, id :: active) := by
        simp [syncCheck, hprior, Option.filter_some, hsig]
      rw [hstep]
      exact h.cons hfresh hmem ⟨hopen, hkey, hsig⟩
    · have hstep : syncCheck now (db, active) t =
          (openEpoch (closeEpoch db id now) t.1 t.2 now,
            (closeEpoch db id now).epochs.nextId :: active) := by
        simp [syncCheck, hprior, Option.filter_some, hsig]
      rw [hstep]
      refine Marked.opened (h.of_kept fun id' hact row' hmem' => ?_) hfresh
      refine mem_closeEpoch_of_ne hmem' ?_
      rintro rfl
      exact h.ne_of_key hfresh hmem hkey hact

/-- Closing the epochs left over keeps those that are marked, and no other
stays open. -/
theorem closeRest_open (db : HistoryDb) (active : List ℕ) (now : ℤ) :
    (∀ id ∈ active, ∀ row, (id, row) ∈ db.epochs.rows → (id, row) ∈
      ((leftOver db active).foldl (fun db id => closeEpoch db id now) db).epochs.rows) ∧
    ∀ id row, (id, row) ∈
      ((leftOver db active).foldl (fun db id => closeEpoch db id now) db).epochs.rows →
        row.isOpen = true → (id, row) ∈ db.epochs.rows ∧ id ∈ active := by
  have hloop := List.foldl_invariant (l := leftOver db active)
    (f := fun db id => closeEpoch db id now) (b := db)
    (P := fun done db' => (∀ id ∈ active, ∀ row, (id, row) ∈ db.epochs.rows →
        (id, row) ∈ db'.epochs.rows) ∧
      ∀ id row, (id, row) ∈ db'.epochs.rows → row.isOpen = true →
        (id, row) ∈ db.epochs.rows ∧ id ∉ done)
    (fun done rest db' id hl ⟨hkept, hopen⟩ => by
      have hid : id ∉ active :=
        (mem_leftOver.mp (hl ▸ List.mem_append_right _ List.mem_cons_self)).2
      refine ⟨fun id' hact row hmem => mem_closeEpoch_of_ne (hkept id' hact row hmem) ?_,
        fun id' row hmem ho => ?_⟩
      · rintro rfl
        exact hid hact
      · obtain ⟨hmem', hne⟩ := open_of_mem_closeEpoch hmem ho
        obtain ⟨hwas, hdone⟩ := hopen id' row hmem' ho
        exact ⟨hwas, by simp [hdone, hne]⟩)
    ⟨fun _ _ _ h => h, fun _ _ h _ => ⟨h, by simp⟩⟩
  refine ⟨hloop.1, fun id row hmem hopen => ?_⟩
  obtain ⟨hwas, hdone⟩ := hloop.2 id row hmem hopen
  refine ⟨hwas, ?_⟩
  by_contra hact
  exact hdone (mem_leftOver.mpr ⟨⟨row, hwas, hopen⟩, hact⟩)

end

/-! ## The targets of a valid inventory -/

theorem nodup_enabledChecks {host : Host} (h : host.validate = .ok ()) :
    ((enabledChecks host).map fun check => (check.module, check.checkId)).Nodup := by
  have hchecks : (host.modules.tcp.checks.map fun check => (Module.tcp, check.id.value)).Nodup := by
    refine List.Nodup.of_map Prod.snd ?_
    rw [List.map_map]
    exact Host.nodup_checkIds h
  rcases hicmp : host.modules.icmp.enabled <;> rcases husage : host.modules.usage.enabled <;>
    rcases htcp : host.modules.tcp.enabled <;>
    simp [enabledChecks, hicmp, husage, htcp, Function.comp_def, hchecks]

/-- No check of a valid inventory is listed twice. -/
theorem nodup_targetKeys {hosts : List Host} (hnd : (hosts.map (·.id)).Nodup)
    (hvalid : ∀ host ∈ hosts, host.validate = .ok ()) :
    ((targets hosts).map targetKey).Nodup := by
  induction hosts with
  | nil => exact List.nodup_nil
  | cons host hosts ih =>
    obtain ⟨hfresh, hnd⟩ := List.nodup_cons.mp hnd
    have htargets : targets (host :: hosts) =
        (enabledChecks host).map (fun check => (host, check)) ++ targets hosts := by
      simp [targets]
    rw [htargets, List.map_append, List.map_map]
    refine List.Nodup.append ?_ (ih hnd fun h hh => hvalid h (List.mem_cons_of_mem _ hh)) ?_
    · have hpairs := nodup_enabledChecks (hvalid host List.mem_cons_self)
      refine List.Nodup.of_map (fun key : CheckKey => (key.module, key.checkId)) ?_
      rwa [List.map_map]
    · intro key hkey hkey'
      obtain ⟨check, -, rfl⟩ := List.mem_map.mp hkey
      obtain ⟨⟨other, check'⟩, hmem, heq⟩ := List.mem_map.mp hkey'
      obtain ⟨other', hother, hpair⟩ := List.mem_flatMap.mp hmem
      obtain ⟨_, -, hpair⟩ := List.mem_map.mp hpair
      obtain ⟨rfl, -⟩ := Prod.mk.inj hpair
      have hid : other'.id = host.id := congrArg CheckKey.hostId heq
      exact hfresh (List.mem_map.mpr ⟨other', hother, hid⟩)

/-- **A synchronization leaves the open epochs of the inventory**, where no
check is listed twice. -/
theorem serving_syncEpochs (db : HistoryDb) {hosts : List Host} (now : ℤ)
    (hnd : ((targets hosts).map targetKey).Nodup) :
    Serving (syncEpochs db hosts now) (targets hosts) := by
  have hmarked : Marked ((targets hosts).foldl (syncCheck now) (db, [])).1
      ((targets hosts).foldl (syncCheck now) (db, [])).2 (targets hosts) := by
    refine List.foldl_invariant (l := targets hosts) (f := syncCheck now) (b := (db, []))
      (P := fun done acc => Marked acc.1 acc.2 done) (fun done rest acc t hl h => ?_)
      ⟨by simp, by simp, by simp⟩
    refine @marked_syncCheck acc.1 acc.2 done t now h fun d hd heq => ?_
    rw [hl, List.map_append, List.map_cons] at hnd
    exact (List.disjoint_of_nodup_append hnd) (List.mem_map_of_mem (f := targetKey) hd)
      (heq ▸ List.mem_cons_self)
  rw [syncEpochs_eq]
  generalize (targets hosts).foldl (syncCheck now) (db, []) = acc at hmarked
  obtain ⟨hkept, hopen⟩ := closeRest_open acc.1 acc.2 now
  refine ⟨fun t ht => ?_, fun id row hmem ho => ?_, fun id row id' row' h₁ h₂ ho₁ ho₂ hkey => ?_⟩
  · obtain ⟨id, hact, row, hmem, hserves⟩ := hmarked.served t ht
    exact ⟨id, row, hkept id hact row hmem, hserves⟩
  · obtain ⟨hmem', hact⟩ := hopen id row hmem ho
    obtain ⟨row', hrow', t, ht, hserves⟩ := hmarked.only id hact
    obtain rfl := Table.eq_of_mem hmem' hrow'
    exact ⟨t, ht, hserves⟩
  · obtain ⟨hm₁, ha₁⟩ := hopen id row h₁ ho₁
    obtain ⟨hm₂, ha₂⟩ := hopen id' row' h₂ ho₂
    exact hmarked.one id ha₁ id' ha₂ row row' hm₁ hm₂ hkey

/-! ## What becomes of an open epoch -/

section Continuing

variable {db : HistoryDb} {hosts : List Host} {id : ℕ} {row : EpochRow} {now : ℤ}

/-- An epoch whose check is in the inventory, configured as it was. -/
def Continues (hosts : List Host) (row : EpochRow) : Prop :=
  ∃ t ∈ targets hosts, targetKey t = row.key ∧ signature t.1 t.2 = row.signature

/-- A check that is listed once is not replaced where it is kept. -/
theorem Continues.not_replaced (h : Continues hosts row) (hnd : ((targets hosts).map targetKey).Nodup) :
    ¬ Replaced hosts row.toEpochInfo := by
  obtain ⟨t, ht, hkey, hsig⟩ := h
  rintro (hgone | ⟨t', ht', hkey', hsig'⟩)
  · exact hgone t ht hkey
  · obtain rfl := List.inj_on_of_nodup_map hnd ht' ht (hkey'.trans hkey.symm)
    exact hsig' hsig

/-- **An open epoch** stays as it is, or it is closed because its check is gone
or configured in another way. -/
theorem mem_or_closed_syncEpochs (hone : OneActive db) (hmem : (id, row) ∈ db.epochs.rows) :
    (id, row) ∈ (syncEpochs db hosts now).epochs.rows ∨
      Replaced hosts row.toEpochInfo ∧
        (id, row.close now) ∈ (syncEpochs db hosts now).epochs.rows := by
  refine syncEpochs_induction (P := fun db' => (id, row) ∈ db'.epochs.rows ∨
    Replaced hosts row.toEpochInfo ∧ (id, row.close now) ∈ db'.epochs.rows) hone
    (fun db' id' row' _ hmem' hopen' _ hrep hP => ?_) (fun db' t _ _ _ hP => ?_) (Or.inl hmem)
  · rcases hP with hkept | ⟨hrep', hclosed⟩
    · by_cases hid : id = id'
      · subst hid
        obtain rfl := Table.eq_of_mem hkept hmem'
        exact Or.inr ⟨hrep, mem_closeEpoch.mpr ⟨row, hkept, if_pos rfl⟩⟩
      · exact Or.inl (mem_closeEpoch_of_ne hkept hid)
    · refine Or.inr ⟨hrep', mem_closeEpoch_of_ne hclosed ?_⟩
      rintro rfl
      rw [← Table.eq_of_mem hclosed hmem', close_isOpen] at hopen'
      cases hopen'
  · rcases hP with hkept | ⟨hrep', hclosed⟩
    · exact Or.inl (mem_openEpoch.mpr (Or.inl hkept))
    · exact Or.inr ⟨hrep', mem_openEpoch.mpr (Or.inl hclosed)⟩

/-- **It stays exactly where its check does.** -/
theorem mem_syncEpochs_iff (hone : OneActive db) (hnd : ((targets hosts).map targetKey).Nodup)
    (hmem : (id, row) ∈ db.epochs.rows) (hopen : row.isOpen = true) :
    (id, row) ∈ (syncEpochs db hosts now).epochs.rows ↔ Continues hosts row := by
  constructor
  · intro hkept
    obtain ⟨t, ht, -, hkey, hsig⟩ := (serving_syncEpochs db now hnd).only id row hkept hopen
    exact ⟨t, ht, hkey.symm, hsig.symm⟩
  · intro hkept
    rcases mem_or_closed_syncEpochs hone hmem with h | ⟨hrep, -⟩
    · exact h
    · exact absurd hrep (hkept.not_replaced hnd)

theorem closed_syncEpochs (hone : OneActive db) (hnd : ((targets hosts).map targetKey).Nodup)
    (hmem : (id, row) ∈ db.epochs.rows) (hopen : row.isOpen = true) (hkept : ¬ Continues hosts row) :
    (id, row.close now) ∈ (syncEpochs db hosts now).epochs.rows := by
  rcases mem_or_closed_syncEpochs hone hmem with h | ⟨-, h⟩
  · exact absurd ((mem_syncEpochs_iff hone hnd hmem hopen).mp h) hkept
  · exact h

/-! ## A synchronization that finds nothing to do -/

/-- A target that is served is left alone. -/
theorem syncCheck_of_serves {t : Host × EpochCheck} (hone : OneActive db)
    (hmem : (id, row) ∈ db.epochs.rows) (hserves : Serves row t) (active : List ℕ) :
    syncCheck now (db, active) t = (db, id :: active) := by
  obtain ⟨hopen, hkey, hsig⟩ := hserves
  have hactive : activeEpoch db (targetKey t) = some (id, row) :=
    hkey ▸ activeEpoch_of_mem hone hmem hopen
  simp [syncCheck, hactive, Option.filter_some, hsig]

/-- **The epochs of the inventory stay as they are** when it is published
again. -/
theorem syncEpochs_of_serving (h : Serving db (targets hosts)) : syncEpochs db hosts now = db := by
  have hloop : ((targets hosts).foldl (syncCheck now) (db, [])).1 = db ∧
      ∀ t ∈ targets hosts, ∃ id ∈ ((targets hosts).foldl (syncCheck now) (db, [])).2,
        ∃ row, (id, row) ∈ db.epochs.rows ∧ Serves row t := by
    refine List.foldl_invariant (l := targets hosts) (f := syncCheck now) (b := (db, []))
      (P := fun done acc => acc.1 = db ∧
        ∀ t ∈ done, ∃ id ∈ acc.2, ∃ row, (id, row) ∈ db.epochs.rows ∧ Serves row t)
      (fun done rest acc t hl hp => ?_) ⟨rfl, fun t ht => absurd ht List.not_mem_nil⟩
    obtain ⟨db', active⟩ := acc
    obtain ⟨rfl, hdone⟩ := hp
    obtain ⟨id, row, hmem, hserves⟩ := h.served t (hl ▸ List.mem_append_right _ List.mem_cons_self)
    rw [syncCheck_of_serves h.one hmem hserves]
    refine ⟨rfl, fun t' ht' => ?_⟩
    rcases List.mem_append.mp ht' with ht' | ht'
    · obtain ⟨id', hact, rest⟩ := hdone t' ht'
      exact ⟨id', List.mem_cons_of_mem _ hact, rest⟩
    · obtain rfl := List.mem_singleton.mp ht'
      exact ⟨id, List.mem_cons_self, row, hmem, hserves⟩
  obtain ⟨hdb, hserved⟩ := hloop
  -- an open epoch is of a target, and a target has been served by its only one
  have hnone : leftOver ((targets hosts).foldl (syncCheck now) (db, [])).1
      ((targets hosts).foldl (syncCheck now) (db, [])).2 = [] := by
    rw [List.eq_nil_iff_forall_not_mem]
    intro id hleft
    obtain ⟨⟨row, hmem, hopen⟩, hact⟩ := mem_leftOver.mp hleft
    rw [hdb] at hmem
    obtain ⟨t, ht, -, hkey, -⟩ := h.only id row hmem hopen
    obtain ⟨id', hact', row', hmem', hopen', hkey', -⟩ := hserved t ht
    obtain rfl := h.one id row id' row' hmem hmem' hopen hopen' (hkey.trans hkey'.symm)
    exact hact hact'
  rw [syncEpochs_eq, hnone, hdb]
  rfl

end Continuing

/-! ## Signatures -/

theorem pairwise_normalizedGroups (groups : List String) :
    (normalizedGroups groups).Pairwise (· < ·) := by
  have hsorted : (groups.insertionSort (· ≤ ·)).Pairwise (· ≤ ·) :=
    List.pairwise_insertionSort (· ≤ ·) groups
  unfold normalizedGroups
  rw [hsorted.destutter_eq_dedup]
  have hle := hsorted.sublist (List.dedup_sublist _)
  exact (hle.and (List.nodup_iff_pairwise_ne.mp (List.nodup_dedup _))).imp fun h =>
    lt_of_le_of_ne h.1 h.2

theorem mem_normalizedGroups {groups : List String} {group : String} :
    group ∈ normalizedGroups groups ↔ group ∈ groups := by
  have hsorted : (groups.insertionSort (· ≤ ·)).Pairwise (· ≤ ·) :=
    List.pairwise_insertionSort (· ≤ ·) groups
  unfold normalizedGroups
  rw [hsorted.destutter_eq_dedup, List.mem_dedup, List.mem_insertionSort]

/-- **Groups are compared as sets.** -/
theorem normalizedGroups_eq_iff {groups groups' : List String} :
    normalizedGroups groups = normalizedGroups groups' ↔
      ∀ group, group ∈ groups ↔ group ∈ groups' := by
  constructor
  · intro h group
    rw [← mem_normalizedGroups, h, mem_normalizedGroups]
  · intro h
    refine (pairwise_normalizedGroups groups).eq_of_mem_iff (pairwise_normalizedGroups groups') ?_
    intro group
    rw [mem_normalizedGroups, mem_normalizedGroups, h]

/-- Two checks that an epoch does not tell apart. -/
structure SameCheck (a b : Host × EpochCheck) : Prop where
  address : a.1.address = b.1.address
  name : a.1.name = b.1.name
  groups : ∀ group, group ∈ a.1.groups ↔ group ∈ b.1.groups
  interval : asMillis a.2.interval = asMillis b.2.interval
  timeout : asMillis a.2.timeout = asMillis b.2.timeout
  port : a.2.port = b.2.port

/-- **Signatures agree exactly where these do.** -/
theorem signature_eq_iff {a b : Host × EpochCheck} :
    signature a.1 a.2 = signature b.1 b.2 ↔ SameCheck a b := by
  unfold signature
  rw [Signature.mk.injEq, normalizedGroups_eq_iff]
  constructor
  · rintro ⟨h₁, h₂, h₃, h₄, h₅, h₆⟩
    exact ⟨h₁, h₂, h₃, h₄, h₅, h₆⟩
  · intro h
    exact ⟨h.address, h.name, h.groups, h.interval, h.timeout, h.port⟩

end SimpleNetworkMonitor.History
