import SimpleNetworkMonitor.Common.Fold
import SimpleNetworkMonitor.History.Helpers.Steps
/-!
# Open epochs

A check has at most one open epoch. What a synchronization does to the
tables is a sequence of closings and openings, and the rule proved here
reduces a property of the whole to those two steps.
-/

namespace SimpleNetworkMonitor.History

/-- **One open epoch a check.** -/
def OneActive (db : HistoryDb) : Prop :=
  ∀ id row id' row', (id, row) ∈ db.epochs.rows → (id', row') ∈ db.epochs.rows →
    row.isOpen = true → row'.isOpen = true → row.key = row'.key → id = id'

section Active

variable {db : HistoryDb} {key : CheckKey} {id id' : ℕ} {row row' : EpochRow} {now : ℤ}

theorem activeEpoch_eq_some (h : activeEpoch db key = some (id, row)) :
    (id, row) ∈ db.epochs.rows ∧ row.key = key ∧ row.isOpen = true := by
  have hrow := List.find?_some h
  simp only [decide_eq_true_eq] at hrow
  exact ⟨List.mem_of_find?_eq_some h, hrow⟩

theorem activeEpoch_eq_none : activeEpoch db key = none ↔
    ∀ id row, (id, row) ∈ db.epochs.rows → row.key = key → row.isOpen = false := by
  simp [activeEpoch]

/-- The one open epoch of a check is the one found. -/
theorem activeEpoch_of_mem (hone : OneActive db) (h : (id, row) ∈ db.epochs.rows)
    (hopen : row.isOpen = true) : activeEpoch db row.key = some (id, row) := by
  rcases hf : activeEpoch db row.key with - | ⟨id', row'⟩
  · rw [activeEpoch_eq_none.mp hf id row h rfl] at hopen
    cases hopen
  · obtain ⟨hmem, hkey, hopen'⟩ := activeEpoch_eq_some hf
    obtain rfl := hone id row id' row' h hmem hopen hopen' hkey.symm
    rw [Table.eq_of_mem h hmem]

@[simp] theorem close_isOpen : (row.close now).isOpen = false := by
  simp [EpochRow.close, EpochInfo.close, EpochInfo.isOpen]

@[simp] theorem close_key : (row.close now).key = row.key := rfl

@[simp] theorem newEpoch_isOpen (host : Host) (check : EpochCheck) :
    (newEpoch host check now).isOpen = true := rfl

theorem closeEpoch_epochs (db : HistoryDb) (id : ℕ) (now : ℤ) :
    (closeEpoch db id now).epochs = db.epochs.modify id (·.close now) := by
  simp only [closeEpoch, (flushTail_frame db id now).1]

theorem mem_closeEpoch : (id', row') ∈ (closeEpoch db id now).epochs.rows ↔
    ∃ w, (id', w) ∈ db.epochs.rows ∧ (if id' = id then w.close now else w) = row' := by
  rw [closeEpoch_epochs, Table.mem_modify]

/-- An epoch that is open after a closing is another, as it was. -/
theorem open_of_mem_closeEpoch (h : (id', row') ∈ (closeEpoch db id now).epochs.rows)
    (hopen : row'.isOpen = true) : (id', row') ∈ db.epochs.rows ∧ id' ≠ id := by
  obtain ⟨w, hw, hval⟩ := mem_closeEpoch.mp h
  split_ifs at hval with hid
  · subst hval
    simp at hopen
  · exact ⟨hval ▸ hw, hid⟩

theorem mem_closeEpoch_of_ne (h : (id', row') ∈ db.epochs.rows) (hne : id' ≠ id) :
    (id', row') ∈ (closeEpoch db id now).epochs.rows :=
  mem_closeEpoch.mpr ⟨row', h, if_neg hne⟩

theorem oneActive_closeEpoch (hone : OneActive db) : OneActive (closeEpoch db id now) := by
  intro id₁ row₁ id₂ row₂ h₁ h₂ ho₁ ho₂ hkey
  exact hone id₁ row₁ id₂ row₂ (open_of_mem_closeEpoch h₁ ho₁).1 (open_of_mem_closeEpoch h₂ ho₂).1
    ho₁ ho₂ hkey

theorem activeEpoch_closeEpoch (hone : OneActive db) (h : (id, row) ∈ db.epochs.rows)
    (hopen : row.isOpen = true) : activeEpoch (closeEpoch db id now) row.key = none := by
  refine activeEpoch_eq_none.mpr fun id' row' h' hkey => ?_
  by_contra hne
  have hopen' : row'.isOpen = true := by simpa using hne
  obtain ⟨hmem, hid⟩ := open_of_mem_closeEpoch h' hopen'
  exact hid (hone id' row' id row hmem h hopen' hopen hkey)

theorem mem_openEpoch {host : Host} {check : EpochCheck} :
    (id, row) ∈ (openEpoch db host check now).epochs.rows ↔
      (id, row) ∈ db.epochs.rows ∨
        (id = db.epochs.nextId ∧ row = ⟨newEpoch host check now, none, none⟩) := by
  rw [openEpoch, Table.mem_insert, Prod.mk.injEq]

theorem oneActive_openEpoch (hone : OneActive db) {target : Host × EpochCheck}
    (hnone : activeEpoch db (targetKey target) = none) :
    OneActive (openEpoch db target.1 target.2 now) := by
  intro id₁ row₁ id₂ row₂ h₁ h₂ ho₁ ho₂ hkey
  rcases mem_openEpoch.mp h₁ with h₁ | ⟨rfl, rfl⟩ <;> rcases mem_openEpoch.mp h₂ with h₂ | ⟨rfl, rfl⟩
  · exact hone id₁ row₁ id₂ row₂ h₁ h₂ ho₁ ho₂ hkey
  · rw [activeEpoch_eq_none.mp hnone id₁ row₁ h₁ hkey] at ho₁
    cases ho₁
  · rw [activeEpoch_eq_none.mp hnone id₂ row₂ h₂ hkey.symm] at ho₂
    cases ho₂
  · rfl

end Active

/-! ## Synchronization -/

/-- An open epoch that a synchronization closes: its check is gone, or is
configured in another way. -/
def Replaced (hosts : List Host) (info : EpochInfo) : Prop :=
  (∀ t ∈ targets hosts, targetKey t ≠ info.key) ∨
    ∃ t ∈ targets hosts, targetKey t = info.key ∧ signature t.1 t.2 ≠ info.signature

/-- A check that a synchronization opens an epoch for: none is open that is
configured the same way. -/
def Reopened (db : HistoryDb) (hosts : List Host) (key : CheckKey) : Prop :=
  ∃ t ∈ targets hosts, targetKey t = key ∧
    ∀ id row, (id, row) ∈ db.epochs.rows → row.isOpen = true → row.key = key →
      row.signature ≠ signature t.1 t.2

/-- An open epoch of a synchronization under way: one from before it, or one
it opened. -/
def Fresh (db₀ : HistoryDb) (now : ℤ) (id : ℕ) (row : EpochRow) : Prop :=
  (id, row) ∈ db₀.epochs.rows ∨ ∃ host check, row = ⟨newEpoch host check now, none, none⟩

/-- What the loop over the targets keeps, apart from the property of
interest. -/
structure Syncing (db₀ : HistoryDb) (hosts : List Host) (now : ℤ) (done : List (Host × EpochCheck))
    (db : HistoryDb) (active : List ℕ) : Prop where
  one : OneActive db
  fresh : ∀ id row, (id, row) ∈ db.epochs.rows → row.isOpen = true → Fresh db₀ now id row
  replaced : ∀ id row, (id, row) ∈ db₀.epochs.rows → row.isOpen = true →
    (id, row) ∈ db.epochs.rows ∨ Replaced hosts row.toEpochInfo
  covered : ∀ t ∈ done, ∃ id row, (id, row) ∈ db.epochs.rows ∧ row.isOpen = true ∧
    row.key = targetKey t ∧ id ∈ active
  wanted : ∀ id row, (id, row) ∈ db.epochs.rows → row.isOpen = true → id ∈ active →
    ∃ t ∈ done, targetKey t = row.key
  known : ∀ id ∈ active, id ∈ db.epochs.keys

section Syncing

variable {db₀ db : HistoryDb} {hosts : List Host} {now : ℤ} {done : List (Host × EpochCheck)}
variable {active : List ℕ} {t : Host × EpochCheck} {id : ℕ} {row : EpochRow}

theorem Syncing.keep (h : Syncing db₀ hosts now done db active)
    (hmem : (id, row) ∈ db.epochs.rows) (hopen : row.isOpen = true) (hkey : row.key = targetKey t) :
    Syncing db₀ hosts now (done ++ [t]) db (id :: active) where
  one := h.one
  fresh := h.fresh
  replaced := h.replaced
  covered := by
    intro t' ht'
    rcases List.mem_append.mp ht' with ht' | ht'
    · obtain ⟨id', row', h₁, h₂, h₃, h₄⟩ := h.covered t' ht'
      exact ⟨id', row', h₁, h₂, h₃, List.mem_cons_of_mem _ h₄⟩
    · obtain rfl := List.mem_singleton.mp ht'
      exact ⟨id, row, hmem, hopen, hkey, List.mem_cons_self⟩
  wanted := by
    intro id' row' hmem' hopen' hact
    rcases List.mem_cons.mp hact with rfl | hact
    · obtain rfl := Table.eq_of_mem hmem hmem'
      exact ⟨t, by simp, hkey.symm⟩
    · obtain ⟨t', ht', hk⟩ := h.wanted id' row' hmem' hopen' hact
      exact ⟨t', List.mem_append_left _ ht', hk⟩
  known := by
    intro id' hid'
    rcases List.mem_cons.mp hid' with rfl | hid'
    · exact Table.mem_keys_of_mem hmem
    · exact h.known id' hid'

theorem keys_closeEpoch : (closeEpoch db id now).epochs.keys = db.epochs.keys := by
  rw [closeEpoch_epochs, Table.modify, Table.keys_mapVals]

/-- Opening an epoch for the next target, once no epoch of its check is
open. The ones open before are still there, those of the check apart. -/
theorem Syncing.opened {db' : HistoryDb} (h : Syncing db₀ hosts now done db active)
    (ht : t ∈ targets hosts) (hone : OneActive db') (hnone : activeEpoch db' (targetKey t) = none)
    (hsub : ∀ id row, (id, row) ∈ db'.epochs.rows → row.isOpen = true →
      (id, row) ∈ db.epochs.rows)
    (hkeys : db'.epochs.keys = db.epochs.keys)
    (hrest : ∀ id row, (id, row) ∈ db.epochs.rows → row.isOpen = true → row.key ≠ targetKey t →
      (id, row) ∈ db'.epochs.rows)
    (hclosed : ∀ id row, (id, row) ∈ db.epochs.rows → row.isOpen = true → row.key = targetKey t →
      row.signature ≠ signature t.1 t.2) :
    Syncing db₀ hosts now (done ++ [t]) (openEpoch db' t.1 t.2 now) (db'.epochs.nextId :: active) where
  one := oneActive_openEpoch hone hnone
  fresh := by
    intro id row hmem hopen
    rcases mem_openEpoch.mp hmem with hmem | ⟨-, rfl⟩
    · exact h.fresh id row (hsub id row hmem hopen) hopen
    · exact Or.inr ⟨t.1, t.2, rfl⟩
  replaced := by
    intro id row hmem hopen
    rcases h.replaced id row hmem hopen with hmem | hrep
    · by_cases hkey : row.key = targetKey t
      · exact Or.inr (Or.inr ⟨t, ht, hkey.symm, (hclosed id row hmem hopen hkey).symm⟩)
      · exact Or.inl (mem_openEpoch.mpr (Or.inl (hrest id row hmem hopen hkey)))
    · exact Or.inr hrep
  covered := by
    -- the target of this pass is covered by the epoch just opened
    have hnew : ∃ id row, (id, row) ∈ (openEpoch db' t.1 t.2 now).epochs.rows ∧
        row.isOpen = true ∧ row.key = targetKey t ∧ id ∈ db'.epochs.nextId :: active :=
      ⟨_, _, mem_openEpoch.mpr (Or.inr ⟨rfl, rfl⟩), rfl, rfl, List.mem_cons_self⟩
    intro t' ht'
    rcases List.mem_append.mp ht' with ht' | ht'
    · obtain ⟨id', row', h₁, h₂, h₃, h₄⟩ := h.covered t' ht'
      by_cases hkey : row'.key = targetKey t
      · rw [← h₃, hkey]
        exact hnew
      · exact ⟨id', row', mem_openEpoch.mpr (Or.inl (hrest id' row' h₁ h₂ hkey)), h₂, h₃,
          List.mem_cons_of_mem _ h₄⟩
    · obtain rfl := List.mem_singleton.mp ht'
      exact hnew
  wanted := by
    intro id row hmem hopen hact
    rcases mem_openEpoch.mp hmem with hmem | ⟨-, rfl⟩
    · rcases List.mem_cons.mp hact with rfl | hact
      · -- a number just handed out is of no epoch that was there
        exact absurd (Table.mem_keys_of_mem hmem) (Table.nextId_not_mem _)
      · obtain ⟨t', ht', hk⟩ := h.wanted id row (hsub id row hmem hopen) hopen hact
        exact ⟨t', List.mem_append_left _ ht', hk⟩
    · exact ⟨t, by simp, rfl⟩
  known := by
    intro id hid
    simp only [openEpoch, Table.keys_insert, List.mem_append, List.mem_singleton]
    rcases List.mem_cons.mp hid with rfl | hid
    · exact Or.inr rfl
    · exact Or.inl (hkeys ▸ h.known id hid)

/-- A check the loop opens an epoch for is one to be reopened. -/
theorem Syncing.reopened (h : Syncing db₀ hosts now done db active) (hone : OneActive db₀)
    (ht : t ∈ targets hosts)
    (hclosed : ∀ id row, (id, row) ∈ db.epochs.rows → row.isOpen = true → row.key = targetKey t →
      row.signature ≠ signature t.1 t.2) : Reopened db₀ hosts (targetKey t) := by
  by_cases hsame : ∃ id row, (id, row) ∈ db₀.epochs.rows ∧ row.isOpen = true ∧
      row.key = targetKey t ∧ row.signature = signature t.1 t.2
  · -- the epoch that was open has been closed for an earlier target of the check
    obtain ⟨id, row, hmem, hopen, hkey, hsig⟩ := hsame
    rcases h.replaced id row hmem hopen with hmem' | hrep
    · exact absurd hsig (hclosed id row hmem' hopen hkey)
    · rcases hrep with hgone | ⟨t', ht', hkey', hsig'⟩
      · exact absurd hkey.symm (hgone t ht)
      · refine ⟨t', ht', hkey'.trans hkey, fun id' row' hmem' hopen' hk' => ?_⟩
        obtain rfl := hone id' row' id row hmem' hmem hopen' hopen (hk'.trans hkey.symm)
        rw [Table.eq_of_mem hmem' hmem]
        exact hsig'.symm
  · push Not at hsame
    exact ⟨t, ht, rfl, hsame⟩

end Syncing

/-- The epochs a synchronization is left with to close: open ones that no
target is of. -/
theorem Syncing.replaced_of_not_active {db₀ db : HistoryDb} {hosts : List Host} {now : ℤ}
    {active : List ℕ} {id : ℕ} {row : EpochRow} (h : Syncing db₀ hosts now (targets hosts) db active)
    (hmem : (id, row) ∈ db.epochs.rows) (hopen : row.isOpen = true) (hact : id ∉ active) :
    ∀ t ∈ targets hosts, targetKey t ≠ row.key := by
  intro t ht hkey
  obtain ⟨id', row', hmem', hopen', hkey', hact'⟩ := h.covered t ht
  obtain rfl := h.one id row id' row' hmem hmem' hopen hopen' (hkey.symm.trans hkey'.symm)
  exact hact hact'

section Rule

variable {γ : Type*} {P : HistoryDb → γ → Prop} {f : γ → Host × EpochCheck → γ}
variable {g : γ → CheckKey → γ} {db₀ : HistoryDb} {s : γ} {hosts : List Host} {now : ℤ}

/-- The loop over the targets: each is left alone, or its epoch is replaced or
opened. -/
theorem syncLoop_simulation (hone : OneActive db₀)
    (keep : ∀ db s t id row, OneActive db → (id, row) ∈ db.epochs.rows → row.isOpen = true →
      row.key = targetKey t → row.signature = signature t.1 t.2 → P db s → P db (f s t))
    (replace : ∀ db s t id row, OneActive db → (id, row) ∈ db.epochs.rows → row.isOpen = true →
      row.key = targetKey t → row.signature ≠ signature t.1 t.2 → Fresh db₀ now id row →
      Replaced hosts row.toEpochInfo → Reopened db₀ hosts (targetKey t) → P db s →
      P (openEpoch (closeEpoch db id now) t.1 t.2 now) (f s t))
    (start : ∀ db s t, OneActive db → activeEpoch db (targetKey t) = none →
      Reopened db₀ hosts (targetKey t) → P db s → P (openEpoch db t.1 t.2 now) (f s t))
    (h : P db₀ s) :
    Syncing db₀ hosts now (targets hosts) ((targets hosts).foldl (syncCheck now) (db₀, [])).1
        ((targets hosts).foldl (syncCheck now) (db₀, [])).2 ∧
      P ((targets hosts).foldl (syncCheck now) (db₀, [])).1 ((targets hosts).foldl f s) := by
  refine List.foldl_simulation (l := targets hosts) (f := syncCheck now) (g := f)
    (P := fun done acc s => Syncing db₀ hosts now done acc.1 acc.2 ∧ P acc.1 s)
    (fun done rest acc s t hl hp => ?_)
    ⟨⟨hone, fun id row hmem _ => Or.inl hmem, fun id row hmem _ => Or.inl hmem, by simp, by simp,
      by simp⟩, h⟩
  have ht : t ∈ targets hosts := hl ▸ List.mem_append_right _ List.mem_cons_self
  obtain ⟨db, active⟩ := acc
  obtain ⟨hs, hP⟩ := hp
  simp only [syncCheck]
  rcases hact : activeEpoch db (targetKey t) with - | ⟨id, row⟩
  · have hclosed : ∀ id row, (id, row) ∈ db.epochs.rows → row.isOpen = true →
        row.key = targetKey t → row.signature ≠ signature t.1 t.2 := by
      intro id row hmem hopen hkey
      rw [activeEpoch_eq_none.mp hact id row hmem hkey] at hopen
      cases hopen
    exact ⟨hs.opened ht hs.one hact (fun _ _ h _ => h) rfl (fun _ _ h _ _ => h) hclosed,
      start db s t hs.one hact (hs.reopened hone ht hclosed) hP⟩
  · obtain ⟨hmem, hkey, hopen⟩ := activeEpoch_eq_some hact
    by_cases hsig : row.signature = signature t.1 t.2
    · simp only [Option.filter, hsig, decide_true, if_true]
      -- the open epoch is of the same series
      exact ⟨hs.keep hmem hopen hkey, keep db s t id row hs.one hmem hopen hkey hsig hP⟩
    · simp only [Option.filter, hsig, decide_false]
      have hclosed : ∀ id' row', (id', row') ∈ db.epochs.rows → row'.isOpen = true →
          row'.key = targetKey t → row'.signature ≠ signature t.1 t.2 := by
        intro id' row' hmem' hopen' hkey'
        obtain rfl := hs.one id' row' id row hmem' hmem hopen' hopen (hkey'.trans hkey.symm)
        rwa [Table.eq_of_mem hmem' hmem]
      -- it was the only open one of its check, so none is once it is closed
      have hnone : activeEpoch (closeEpoch db id now) (targetKey t) = none :=
        hkey ▸ activeEpoch_closeEpoch hs.one hmem hopen
      refine ⟨hs.opened ht (oneActive_closeEpoch hs.one) hnone
        (fun id' row' h' ho' => (open_of_mem_closeEpoch h' ho').1) keys_closeEpoch
        (fun id' row' h' ho' hne => mem_closeEpoch_of_ne h' ?_) hclosed,
        replace db s t id row hs.one hmem hopen hkey hsig (hs.fresh id row hmem hopen)
          (Or.inr ⟨t, ht, hkey.symm, Ne.symm hsig⟩) (hs.reopened hone ht hclosed) hP⟩
      rintro rfl
      exact hne (Table.eq_of_mem h' hmem ▸ hkey)

/-- The open epochs a synchronization has not seen. -/
def leftOver (db : HistoryDb) (active : List ℕ) : List ℕ :=
  ((db.epochs.rows.filter fun r => r.2.isOpen).map Prod.fst).filter (· ∉ active)

theorem mem_leftOver {db : HistoryDb} {active : List ℕ} {id : ℕ} :
    id ∈ leftOver db active ↔ (∃ row, (id, row) ∈ db.epochs.rows ∧ row.isOpen = true) ∧
      id ∉ active := by
  simp [leftOver]

theorem nodup_leftOver (db : HistoryDb) (active : List ℕ) : (leftOver db active).Nodup :=
  List.Nodup.filter _ ((List.Sublist.map _ List.filter_sublist).nodup db.epochs.nodup)

theorem syncEpochs_eq (db : HistoryDb) (hosts : List Host) (now : ℤ) :
    syncEpochs db hosts now =
      (leftOver ((targets hosts).foldl (syncCheck now) (db, [])).1
        ((targets hosts).foldl (syncCheck now) (db, [])).2).foldl
          (fun db id => closeEpoch db id now) ((targets hosts).foldl (syncCheck now) (db, [])).1 :=
  rfl

/-- The epochs left over are closed, one by one. -/
theorem closeRest_simulation {db₁ : HistoryDb} {active : List ℕ}
    (hs : Syncing db₀ hosts now (targets hosts) db₁ active)
    (stop : ∀ db s id row, OneActive db → (id, row) ∈ db.epochs.rows → row.isOpen = true →
      Fresh db₀ now id row → Replaced hosts row.toEpochInfo → P db s →
      P (closeEpoch db id now) (g s row.key))
    (h : P db₁ s) :
    OneActive ((leftOver db₁ active).foldl (fun db id => closeEpoch db id now) db₁) ∧
    (∀ id row, (id, row) ∈ ((leftOver db₁ active).foldl (fun db id => closeEpoch db id now)
        db₁).epochs.rows → row.isOpen = true → ∃ t ∈ targets hosts, targetKey t = row.key) ∧
    ∃ keys : List CheckKey, (∀ k ∈ keys, ∀ t ∈ targets hosts, targetKey t ≠ k) ∧
      P ((leftOver db₁ active).foldl (fun db id => closeEpoch db id now) db₁) (keys.foldl g s) := by
  -- closing keeps the key of an epoch, so it can be read off the tables before the loop
  let keyOf : ℕ → CheckKey := fun id => (db₁.epochs.find? id).elim ⟨"", .icmp, ""⟩ (·.key)
  have hkey : ∀ {id row}, (id, row) ∈ db₁.epochs.rows → keyOf id = row.key := fun hmem => by
    simp only [keyOf, Table.find?_eq_some.mpr hmem, Option.elim_some]
  -- the invariant: what is not closed yet is as before the loop, and what is open then
  -- has not had its turn
  have hclose := List.foldl_simulation (l := leftOver db₁ active)
    (f := fun db id => closeEpoch db id now) (g := fun s id => g s (keyOf id)) (b := db₁) (c := s)
    (P := fun done db s => OneActive db ∧ P db s ∧
      (∀ id row, (id, row) ∈ db₁.epochs.rows → id ∉ done → (id, row) ∈ db.epochs.rows) ∧
      ∀ id row, (id, row) ∈ db.epochs.rows → row.isOpen = true →
        (id, row) ∈ db₁.epochs.rows ∧ id ∉ done)
    (fun done rest db s id hl hp => by
      obtain ⟨hone', hP', hstill, hwas⟩ := hp
      have hid : id ∈ leftOver db₁ active := hl ▸ List.mem_append_right _ List.mem_cons_self
      have hnot : id ∉ done := by
        have hnodup := nodup_leftOver db₁ active
        rw [hl] at hnodup
        exact fun hd => (List.disjoint_of_nodup_append hnodup) hd List.mem_cons_self
      obtain ⟨⟨row, hr, hopen⟩, hact⟩ := mem_leftOver.mp hid
      refine ⟨oneActive_closeEpoch hone', ?_, fun id row h₁ hd => ?_, fun id row h₁ ho => ?_⟩
      · simp only [hkey hr]
        exact stop db s id row hone' (hstill id row hr hnot) hopen (hs.fresh id row hr hopen)
          (Or.inl (hs.replaced_of_not_active hr hopen hact)) hP'
      · simp only [List.mem_append, List.mem_singleton, not_or] at hd
        exact mem_closeEpoch_of_ne (hstill id row h₁ hd.1) hd.2
      · obtain ⟨h₂, hne⟩ := open_of_mem_closeEpoch h₁ ho
        obtain ⟨h₃, hd⟩ := hwas id row h₂ ho
        exact ⟨h₃, by simp [hd, hne]⟩)
    ⟨hs.one, h, fun _ _ h _ => h, fun _ _ h _ => ⟨h, by simp⟩⟩
  obtain ⟨hone', hP', -, hwas⟩ := hclose
  refine ⟨hone', fun id row hmem hopen => ?_, (leftOver db₁ active).map keyOf, ?_, ?_⟩
  · obtain ⟨hmem₁, hdone⟩ := hwas id row hmem hopen
    have hact : id ∈ active := by
      by_contra hact
      exact hdone (mem_leftOver.mpr ⟨⟨row, hmem₁, hopen⟩, hact⟩)
    exact hs.wanted id row hmem₁ hopen hact
  · intro k hk
    obtain ⟨id, hid, rfl⟩ := List.mem_map.mp hk
    obtain ⟨⟨row, hr, hopen⟩, hact⟩ := mem_leftOver.mp hid
    rw [hkey hr]
    exact hs.replaced_of_not_active hr hopen hact
  · rwa [List.foldl_map]

/-- **The synchronization rule.** A property of the tables, and of a second
state that moves along with them, is kept by a synchronization if each
of its steps keeps it: a check left alone, a check whose epoch is opened
or replaced, a check that is gone. -/
theorem syncEpochs_simulation (hone : OneActive db₀)
    (keep : ∀ db s t id row, OneActive db → (id, row) ∈ db.epochs.rows → row.isOpen = true →
      row.key = targetKey t → row.signature = signature t.1 t.2 → P db s → P db (f s t))
    (replace : ∀ db s t id row, OneActive db → (id, row) ∈ db.epochs.rows → row.isOpen = true →
      row.key = targetKey t → row.signature ≠ signature t.1 t.2 → Fresh db₀ now id row →
      Replaced hosts row.toEpochInfo → Reopened db₀ hosts (targetKey t) → P db s →
      P (openEpoch (closeEpoch db id now) t.1 t.2 now) (f s t))
    (start : ∀ db s t, OneActive db → activeEpoch db (targetKey t) = none →
      Reopened db₀ hosts (targetKey t) → P db s → P (openEpoch db t.1 t.2 now) (f s t))
    (stop : ∀ db s id row, OneActive db → (id, row) ∈ db.epochs.rows → row.isOpen = true →
      Fresh db₀ now id row → Replaced hosts row.toEpochInfo → P db s →
      P (closeEpoch db id now) (g s row.key))
    (h : P db₀ s) :
    OneActive (syncEpochs db₀ hosts now) ∧
    (∀ id row, (id, row) ∈ (syncEpochs db₀ hosts now).epochs.rows → row.isOpen = true →
      ∃ t ∈ targets hosts, targetKey t = row.key) ∧
    ∃ keys : List CheckKey, (∀ k ∈ keys, ∀ t ∈ targets hosts, targetKey t ≠ k) ∧
      P (syncEpochs db₀ hosts now) (keys.foldl g ((targets hosts).foldl f s)) := by
  obtain ⟨hs, hP⟩ := syncLoop_simulation hone keep replace start h
  rw [syncEpochs_eq]
  exact closeRest_simulation hs stop hP

end Rule

/-- The rule for a property of the tables alone. -/
theorem syncEpochs_induction {P : HistoryDb → Prop} {db₀ : HistoryDb} {hosts : List Host} {now : ℤ}
    (hone : OneActive db₀)
    (close : ∀ db id row, OneActive db → (id, row) ∈ db.epochs.rows → row.isOpen = true →
      Fresh db₀ now id row → Replaced hosts row.toEpochInfo → P db → P (closeEpoch db id now))
    (open_ : ∀ db t, OneActive db → activeEpoch db (targetKey t) = none →
      Reopened db₀ hosts (targetKey t) → P db → P (openEpoch db t.1 t.2 now))
    (h : P db₀) : P (syncEpochs db₀ hosts now) := by
  obtain ⟨-, -, keys, -, hP⟩ := syncEpochs_simulation (P := fun db (_ : Unit) => P db)
    (f := fun s _ => s) (g := fun s _ => s) (s := ()) hone (fun _ _ _ _ _ _ _ _ _ _ h => h)
    (fun db _ t id row h₁ h₂ h₃ h₄ _ h₅ h₆ h₇ hP =>
      open_ _ t (oneActive_closeEpoch h₁) (h₄ ▸ activeEpoch_closeEpoch h₁ h₂ h₃) h₇
        (close db id row h₁ h₂ h₃ h₅ h₆ hP))
    (fun db _ t h₁ h₂ h₃ hP => open_ db t h₁ h₂ h₃ hP)
    (fun db _ id row h₁ h₂ h₃ h₄ h₅ hP => close db id row h₁ h₂ h₃ h₄ h₅ hP) h
  exact hP

theorem oneActive_syncEpochs {db : HistoryDb} (h : OneActive db) (hosts : List Host) (now : ℤ) :
    OneActive (syncEpochs db hosts now) :=
  syncEpochs_induction h (fun _ _ _ h _ _ _ _ _ => oneActive_closeEpoch h)
    (fun _ _ h hnone _ _ => oneActive_openEpoch h hnone) h

/-- A synchronization touches neither samples nor events. -/
theorem syncEpochs_frame {db : HistoryDb} (h : OneActive db) (hosts : List Host) (now : ℤ) :
    (syncEpochs db hosts now).raw = db.raw ∧ (syncEpochs db hosts now).events = db.events ∧
      (syncEpochs db hosts now).buckets = db.buckets := by
  refine syncEpochs_induction (P := fun db' => db'.raw = db.raw ∧ db'.events = db.events ∧
    db'.buckets = db.buckets) h (fun db' id row _ _ _ _ _ hP => ?_) (fun _ _ _ _ _ hP => hP)
    ⟨rfl, rfl, rfl⟩
  obtain ⟨-, hraw, hevents, hbuckets⟩ := flushTail_frame db' id now
  exact ⟨hraw.trans hP.1, hevents.trans hP.2.1, hbuckets.trans hP.2.2⟩

/-! ## Recording -/

section Record

variable {db : HistoryDb} {host check : String} {module : Module} {at_ now : ℤ}
variable {observation : HistoryObservation} {id : ℕ} {row : EpochRow}

/-- An observation an open epoch takes. -/
structure Accepts (db : HistoryDb) (id : ℕ) (row : EpochRow) (at_ now : ℤ) : Prop where
  mem : (id, row) ∈ db.epochs.rows
  isOpen : row.isOpen = true
  le_now : at_ ≤ now
  started : row.startedMs ≤ at_
  last : ∀ last, row.lastMs = some last → last < at_
  unseen : ∀ r ∈ db.raw.rows, r.2.epochId = id → r.2.atMs ≠ at_

/-- An observation that is accepted is written. -/
theorem record_of_accepts (hact : activeEpoch db ⟨host, module, check⟩ = some (id, row))
    (hacc : Accepts db id row at_ now) :
    record db host module check at_ observation now = accept db id row at_ observation := by
  have hnow : ¬ at_ > now := not_lt.mpr hacc.le_now
  have hlate : ¬ (at_ < row.startedMs ∨ row.lastMs.any (at_ ≤ ·)) := by
    rintro (hlt | hany)
    · exact absurd hacc.started (not_le.mpr hlt)
    · obtain ⟨last, hl, hle⟩ := (Option.any_eq_true _ _).mp hany
      exact absurd (hacc.last last hl) (not_lt.mpr (of_decide_eq_true hle))
  have hseen : (db.raw.rows.any fun r => r.2.epochId = id ∧ r.2.atMs = at_) = false := by
    rw [List.any_eq_false]
    intro r hr
    simp only [decide_eq_true_eq]
    exact fun h => hacc.unseen r hr h.1 h.2
  simp only [record, if_neg hnow, hact, if_neg hlate, hseen]
  rfl

/-- Any other changes nothing. -/
theorem record_of_not_accepts (h : ∀ id row, activeEpoch db ⟨host, module, check⟩ = some (id, row) →
    ¬ Accepts db id row at_ now) : record db host module check at_ observation now = db := by
  by_cases hnow : at_ > now
  · simp [record, hnow]
  · rcases hact : activeEpoch db ⟨host, module, check⟩ with - | ⟨id, row⟩
    · simp [record, hact]
    · by_cases hlate : at_ < row.startedMs ∨ row.lastMs.any (at_ ≤ ·)
      · simp [record, hact, hlate]
      · by_cases hseen : db.raw.rows.any fun r => r.2.epochId = id ∧ r.2.atMs = at_
        · simp only [record, hact, if_neg hnow, if_neg hlate, hseen, if_true]
        · obtain ⟨hmem, -, hopen⟩ := activeEpoch_eq_some hact
          refine absurd ⟨hmem, hopen, by omega, by omega, fun last hl => ?_, fun r hr he hat =>
            hseen (List.any_eq_true.mpr ⟨r, hr, by simp [he, hat]⟩)⟩ (h id row hact)
          have : ¬ at_ ≤ last := fun hle => hlate (Or.inr (by simp [hl, hle]))
          omega

/-- **What recording does**: nothing, or one observation is accepted. -/
theorem record_cases (db : HistoryDb) (host : String) (module : Module) (check : String)
    (at_ : ℤ) (observation : HistoryObservation) (now : ℤ) :
    record db host module check at_ observation now = db ∨
      ∃ id row, activeEpoch db ⟨host, module, check⟩ = some (id, row) ∧ Accepts db id row at_ now ∧
        record db host module check at_ observation now = accept db id row at_ observation := by
  by_cases h : ∃ id row, activeEpoch db ⟨host, module, check⟩ = some (id, row) ∧
      Accepts db id row at_ now
  · obtain ⟨id, row, hact, hacc⟩ := h
    exact Or.inr ⟨id, row, hact, hacc, record_of_accepts hact hacc⟩
  · push Not at h
    exact Or.inl (record_of_not_accepts h)

theorem accept_epochs : (accept db id row at_ observation).epochs =
    db.epochs.modify id fun row =>
      { row with lastMs := some at_, lastJson := some observation } := by
  simp only [accept, setLast, (addSample_frame (recordChange _ _ _ _ _) _ at_ observation).2.1,
    (recordChange_frame _ _ _ _ _).1, (flushTail_frame _ _ _).1]

theorem mem_accept_epochs {id' : ℕ} {row' : EpochRow} :
    (id', row') ∈ (accept db id row at_ observation).epochs.rows ↔
      ∃ w, (id', w) ∈ db.epochs.rows ∧
        (if id' = id then { w with lastMs := some at_, lastJson := some observation } else w) =
          row' := by
  rw [accept_epochs, Table.mem_modify]

/-- Recording changes no epoch but its last observation. -/
theorem info_of_mem_accept {id' : ℕ} {row' : EpochRow}
    (h : (id', row') ∈ (accept db id row at_ observation).epochs.rows) :
    ∃ w, (id', w) ∈ db.epochs.rows ∧ w.toEpochInfo = row'.toEpochInfo := by
  obtain ⟨w, hw, rfl⟩ := mem_accept_epochs.mp h
  exact ⟨w, hw, by split_ifs <;> rfl⟩

theorem oneActive_accept (h : OneActive db) : OneActive (accept db id row at_ observation) := by
  intro id₁ row₁ id₂ row₂ h₁ h₂ ho₁ ho₂ hkey
  obtain ⟨w₁, hw₁, he₁⟩ := info_of_mem_accept h₁
  obtain ⟨w₂, hw₂, he₂⟩ := info_of_mem_accept h₂
  exact h id₁ w₁ id₂ w₂ hw₁ hw₂ (by rw [he₁, ho₁]) (by rw [he₂, ho₂]) (by rw [he₁, he₂, hkey])

end Record

theorem oneActive_of_mem {db db' : HistoryDb} (h : OneActive db)
    (hsub : ∀ r ∈ db'.epochs.rows, r ∈ db.epochs.rows) : OneActive db' :=
  fun id row id' row' h₁ h₂ => h id row id' row' (hsub _ h₁) (hsub _ h₂)

/-- What is left of the epochs after pruning. -/
theorem prune_epochs {db : HistoryDb} {scan : Table.LimitScan} {limit : ℕ} {now : ℤ}
    {config : HistoryConfig} {usageRetention : ℕ} :
    ∀ r ∈ (prune scan limit db now config usageRetention).1.epochs.rows, r ∈ db.epochs.rows := by
  obtain ⟨raw, gone, events, heq, -⟩ := prune_eq config now scan limit db usageRetention
  rw [heq]
  exact fun r hr => Table.mem_of_mem_deleteLimit hr

end SimpleNetworkMonitor.History
