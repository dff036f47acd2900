import SimpleNetworkMonitor.Common.Fold
import SimpleNetworkMonitor.History.Helpers.Epochs
import SimpleNetworkMonitor.History.Model.Run
/-!
# Sound tables

What holds of the history tables in every state the component reaches,
whatever the clock reads: one open epoch a check, no row of an epoch that
is not there, no sample of an open epoch past its last observation.
-/

namespace SimpleNetworkMonitor.History

/-- **Sound tables.** -/
structure Sound (db : HistoryDb) : Prop where
  one : OneActive db
  aligned : Aligned db
  /-- Rows refer to epochs that are there. -/
  buckets : ∀ key stats, (key, stats) ∈ db.buckets.rows → key.epochId ∈ db.epochs.keys
  spans : ∀ id span, (id, span) ∈ db.spans.rows → span.epochId ∈ db.epochs.keys
  raw : ∀ id row, (id, row) ∈ db.raw.rows → row.epochId ∈ db.epochs.keys
  /-- The last observation has an instant and a body, or neither. -/
  paired : ∀ id row, (id, row) ∈ db.epochs.rows → (row.lastMs = none ↔ row.lastJson = none)
  closed : ∀ id row, (id, row) ∈ db.epochs.rows → row.isOpen = false → row.lastMs = none
  /-- No sample of an open epoch is later than its last observation. -/
  seen : ∀ id row, (id, row) ∈ db.epochs.rows → row.isOpen = true →
    ∀ r ∈ db.raw.rows, r.2.epochId = id → ∃ last, row.lastMs = some last ∧ r.2.atMs ≤ last

theorem sound_empty : Sound {} where
  one := fun _ _ _ _ h => absurd h (by simp)
  aligned := fun _ _ h => absurd h (by simp)
  buckets := fun _ _ h => absurd h (by simp)
  spans := fun _ _ h => absurd h (by simp)
  raw := fun _ _ h => absurd h (by simp)
  paired := fun _ _ h => absurd h (by simp)
  closed := fun _ _ h => absurd h (by simp)
  seen := fun _ _ h => absurd h (by simp)

variable {db : HistoryDb} {config : HistoryConfig} {now at_ : ℤ} {id : ℕ} {row : EpochRow}

/-- A number no epoch has holds nothing. -/
theorem content_of_not_mem (h : Sound db) (hid : id ∉ db.epochs.keys) (tier : Tier) (lo hi : ℤ) :
    content db id tier lo hi = 0 := by
  have hb : bucketTotal db id tier lo hi = 0 := by
    refine Table.sum_eq_zero fun key stats hk => if_neg ?_
    rintro ⟨rfl, -⟩
    exact hid (h.buckets key stats hk)
  have hs : spanTotal db id lo hi = 0 := by
    refine Table.sum_eq_zero fun sid span hk => if_neg ?_
    rintro rfl
    exact hid (h.spans sid span hk)
  rw [content, hb, hs, add_zero]

/-- A span of the tables with a tail closed: one from before, or the tail. -/
theorem mem_flushTail_spans (h : (id, row) ∈ db.epochs.rows) {end_ : ℤ} {sid : ℕ} {span : SpanRow}
    (hs : (sid, span) ∈ (flushTail db id end_).spans.rows) :
    (sid, span) ∈ db.spans.rows ∨ ∃ last body, row.lastMs = some last ∧ row.lastJson = some body ∧
      span = ⟨id, last, min end_ (last + row.freshnessMs), body⟩ ∧
      last < min end_ (last + row.freshnessMs) := by
  rw [flushTail_eq (Table.find?_eq_some.mpr h)] at hs
  rcases hl : row.lastMs with - | last
  · simp only [hl] at hs
    exact Or.inl hs
  · rcases hb : row.lastJson with - | body
    · simp only [hl, hb] at hs
      exact Or.inl hs
    · simp only [hl, hb] at hs
      split_ifs at hs with hgt
      · rcases Table.mem_insert.mp hs with hs | hs
        · exact Or.inl hs
        · exact Or.inr ⟨last, body, rfl, rfl, (Prod.mk.inj hs).2, hgt⟩
      · exact Or.inl hs

theorem sound_closeEpoch (h : Sound db) (hmem : (id, row) ∈ db.epochs.rows) :
    Sound (closeEpoch db id now) := by
  have hkeys : (closeEpoch db id now).epochs.keys = db.epochs.keys := keys_closeEpoch
  obtain ⟨-, hraw, -, hbuckets⟩ := flushTail_frame db id now
  refine ⟨oneActive_closeEpoch h.one, aligned_congr hbuckets h.aligned, ?_, ?_, ?_, ?_, ?_, ?_⟩
  · intro key stats hs
    rw [hkeys]
    exact h.buckets key stats (by rwa [closeEpoch, hbuckets] at hs)
  · intro sid span hs
    rw [hkeys]
    rcases mem_flushTail_spans hmem hs with hs | ⟨_, _, -, -, rfl, -⟩
    · exact h.spans sid span hs
    · exact Table.mem_keys_of_mem hmem
  · intro rid r hr
    rw [hkeys]
    exact h.raw rid r (by rwa [closeEpoch, hraw] at hr)
  · intro id' row' h'
    obtain ⟨w, hw, rfl⟩ := mem_closeEpoch.mp h'
    split_ifs
    · simp [EpochRow.close]
    · exact h.paired id' w hw
  · intro id' row' h' hopen
    obtain ⟨w, hw, rfl⟩ := mem_closeEpoch.mp h'
    split_ifs with hid
    · rfl
    · rw [if_neg hid] at hopen
      exact h.closed id' w hw hopen
  · intro id' row' h' hopen r hr he
    obtain ⟨hw, -⟩ := open_of_mem_closeEpoch h' hopen
    exact h.seen id' row' hw hopen r (by rwa [closeEpoch, hraw] at hr) he

theorem sound_openEpoch (h : Sound db) {target : Host × EpochCheck}
    (hnone : activeEpoch db (targetKey target) = none) :
    Sound (openEpoch db target.1 target.2 now) := by
  have hkeys : ∀ id, id ∈ db.epochs.keys → id ∈ (openEpoch db target.1 target.2 now).epochs.keys := by
    intro id hid
    simp [openEpoch, Table.keys_insert, hid]
  refine ⟨oneActive_openEpoch h.one hnone, h.aligned, ?_, ?_, ?_, ?_, ?_, ?_⟩
  · exact fun key stats hs => hkeys _ (h.buckets key stats hs)
  · exact fun sid span hs => hkeys _ (h.spans sid span hs)
  · exact fun rid r hr => hkeys _ (h.raw rid r hr)
  · intro id' row' h'
    rcases mem_openEpoch.mp h' with h' | ⟨-, rfl⟩
    · exact h.paired id' row' h'
    · simp
  · intro id' row' h' hopen
    rcases mem_openEpoch.mp h' with h' | ⟨-, rfl⟩
    · exact h.closed id' row' h' hopen
    · rfl
  · intro id' row' h' hopen r hr he
    rcases mem_openEpoch.mp h' with h' | ⟨rfl, -⟩
    · exact h.seen id' row' h' hopen r hr he
    · exact absurd (he ▸ h.raw r.1 r.2 hr) (Table.nextId_not_mem _)

theorem sound_syncEpochs (h : Sound db) (hosts : List Host) : Sound (syncEpochs db hosts now) :=
  syncEpochs_induction h.one (fun _ _ _ _ hmem _ _ _ hs => sound_closeEpoch hs hmem)
    (fun _ _ _ hnone _ hs => sound_openEpoch hs hnone) h

section Accept

variable {observation : HistoryObservation}

theorem accept_raw : (accept db id row at_ observation).raw =
    db.raw.insert ⟨id, at_, observation⟩ := by
  simp only [accept, setLast, (addSample_frame (recordChange _ _ _ _ _) _ at_ observation).2.2.1,
    (recordChange_frame _ _ _ _ _).2.1, (flushTail_frame _ _ _).2.1]

theorem accept_events : (accept db id row at_ observation).events =
    (recordChange db id row.lastJson at_ observation).events := by
  have hchange : ∀ {db db' : HistoryDb}, db'.events = db.events →
      (recordChange db' id row.lastJson at_ observation).events =
        (recordChange db id row.lastJson at_ observation).events := by
    intro db db' h
    simp only [recordChange, insertEvent, h]
    split_ifs <;> first | exact h | rfl
  simp only [accept, setLast]
  exact hchange (flushTail_frame _ _ _).2.2.1

theorem accept_spans : (accept db id row at_ observation).spans = (flushTail db id at_).spans := by
  simp only [accept, setLast, (addSample_frame (recordChange _ _ _ _ _) _ at_ observation).1,
    (recordChange_frame _ _ _ _ _).2.2.1]
  unfold flushTail
  split
  · rename_i heq
    simp [heq]
  · rename_i row' heq
    simp only at heq
    rw [heq]
    simp only
    split
    · split_ifs <;> rfl
    · rfl

theorem keys_accept : (accept db id row at_ observation).epochs.keys = db.epochs.keys := by
  rw [accept_epochs, Table.modify, Table.keys_mapVals]

/-- The buckets of one epoch are the only ones a sample touches. -/
theorem mem_addSample_buckets {key : BucketKey} {stats : HistoryStats}
    (h : (key, stats) ∈ (addSample db id at_ observation).buckets.rows) :
    key.epochId = id ∨ (key, stats) ∈ db.buckets.rows := by
  have step : ∀ (db : HistoryDb) (res : Tier),
      (key, stats) ∈ (addStats db id res (floor at_ res.seconds) observation.sampleStats).buckets.rows →
        key.epochId = id ∨ (key, stats) ∈ db.buckets.rows := by
    intro db res hs
    rcases Table.mem_upsert.mp hs with ⟨hs, -⟩ | heq
    · exact Or.inr hs
    · obtain ⟨rfl, -⟩ := Prod.mk.inj heq
      exact Or.inl rfl
  rcases step _ _ h with h | h
  · exact Or.inl h
  · rcases step _ _ h with h | h
    · exact Or.inl h
    · exact step _ _ h

theorem sound_accept (h : Sound db) (hacc : Accepts db id row at_ now) :
    Sound (accept db id row at_ observation) := by
  refine ⟨oneActive_accept h.one, ?_, ?_, ?_, ?_, ?_, ?_, ?_⟩
  · -- its buckets are on the grid
    refine aligned_congr accept_buckets ?_
    rw [addSample_eq]
    exact aligned_addTiers h.aligned id _ _ fun _ => width_dvd_floor
  · -- and every row is of an epoch that is there
    intro key stats hs
    rw [keys_accept]
    rw [accept_buckets] at hs
    rcases mem_addSample_buckets hs with rfl | hs
    · exact Table.mem_keys_of_mem hacc.mem
    · exact h.buckets key stats hs
  · intro sid span hs
    rw [keys_accept]
    rw [accept_spans] at hs
    rcases mem_flushTail_spans hacc.mem hs with hs | ⟨_, _, -, -, rfl, -⟩
    · exact h.spans sid span hs
    · exact Table.mem_keys_of_mem hacc.mem
  · intro rid r hr
    rw [keys_accept]
    rw [accept_raw] at hr
    rcases Table.mem_insert.mp hr with hr | heq
    · exact h.raw rid r hr
    · obtain ⟨-, rfl⟩ := Prod.mk.inj heq
      exact Table.mem_keys_of_mem hacc.mem
  · intro id' row' h'
    obtain ⟨w, hw, rfl⟩ := mem_accept_epochs.mp h'
    split_ifs
    · simp
    · exact h.paired id' w hw
  · -- a row that is closed was closed before
    intro id' row' h' hopen
    obtain ⟨w, hw, rfl⟩ := mem_accept_epochs.mp h'
    split_ifs at hopen ⊢ with hid
    · subst hid
      obtain rfl := Table.eq_of_mem hw hacc.mem
      have := hacc.isOpen
      simp only [EpochInfo.isOpen] at this hopen
      rw [this] at hopen
      cases hopen
    · exact h.closed id' w hw hopen
  · -- no raw row is later than the last observation of its epoch
    intro id' row' h' hopen r hr he
    obtain ⟨w, hw, rfl⟩ := mem_accept_epochs.mp h'
    rw [accept_raw] at hr
    split_ifs at hopen ⊢ with hid
    · subst hid
      obtain rfl := Table.eq_of_mem hw hacc.mem
      refine ⟨at_, rfl, ?_⟩
      rcases Table.mem_insert.mp hr with hr | rfl
      · obtain ⟨last, hl, hle⟩ := h.seen id' w hw hacc.isOpen r hr he
        have := hacc.last last hl
        omega
      · exact le_rfl
    · rcases Table.mem_insert.mp hr with hr | rfl
      · exact h.seen id' w hw hopen r hr he
      · exact absurd he.symm hid

theorem sound_record (h : Sound db) (host : String) (module : Module) (check : String) :
    Sound (record db host module check at_ observation now) := by
  rcases record_cases db host module check at_ observation now with heq | ⟨id, row, -, hacc, heq⟩
  · rwa [heq]
  · rw [heq]
    exact sound_accept h hacc

end Accept

/-! ## Maintenance -/

theorem mem_addChunk_buckets {start : ℤ} {stats' : HistoryStats} {key : BucketKey}
    {stats : HistoryStats}
    (h : (key, stats) ∈ (addChunk config now db id start stats').buckets.rows) :
    key.epochId = id ∨ (key, stats) ∈ db.buckets.rows := by
  have step : ∀ (db : HistoryDb) (res : Tier),
      (key, stats) ∈ (if start ≥ boundary config now res then
        addStats db id res (floor start res.seconds) stats' else db).buckets.rows →
        key.epochId = id ∨ (key, stats) ∈ db.buckets.rows := by
    intro db res hs
    split_ifs at hs
    · rcases Table.mem_upsert.mp hs with ⟨hs, -⟩ | heq
      · exact Or.inr hs
      · obtain ⟨rfl, -⟩ := Prod.mk.inj heq
        exact Or.inl rfl
    · exact Or.inr hs
  rcases step _ _ h with h | h
  · exact Or.inl h
  · rcases step _ _ h with h | h
    · exact Or.inl h
    · exact step _ _ h

theorem sound_rollup (h : Sound db) (limit : ℕ) : Sound (rollup config now db limit).1 := by
  refine rollup_induction limit (fun db id span hmem h => ?_) h
  obtain ⟨hepochs, hraw, -⟩ := materialize_frame config now db id span
  have hspan : span.epochId ∈ db.epochs.keys := h.spans id span hmem
  -- one unit of work: new buckets are of the span's epoch, and no span is new
  obtain ⟨hb, hs, ha⟩ : (∀ key stats, (key, stats) ∈ (materialize config now db id span).buckets.rows →
      key.epochId = span.epochId ∨ (key, stats) ∈ db.buckets.rows) ∧
      (∀ sid s, (sid, s) ∈ (materialize config now db id span).spans.rows →
        s.epochId ∈ db.epochs.keys) ∧ Aligned (materialize config now db id span) := by
    rcases materialize_cases config now db id span with
      ⟨-, hbuckets, hspans⟩ | ⟨-, hbuckets, hspans⟩
    · refine ⟨fun key stats hk => Or.inr (by rwa [hbuckets] at hk), fun sid s hk => ?_,
        aligned_congr hbuckets h.aligned⟩
      rw [hspans] at hk
      exact h.spans sid s (Table.mem_erase.mp hk).1
    · refine ⟨fun key stats hk => ?_, fun sid s hk => ?_, aligned_congr hbuckets
        (aligned_addTiers h.aligned span.epochId _ _ fun _ => width_dvd_floor)⟩
      · rw [hbuckets] at hk
        exact mem_addChunk_buckets hk
      · rw [hspans] at hk
        split_ifs at hk
        · exact h.spans sid s (Table.mem_erase.mp hk).1
        · obtain ⟨w, hw, rfl⟩ := Table.mem_modify.mp hk
          split_ifs
          · exact h.spans sid w hw
          · exact h.spans sid w hw
  refine ⟨oneActive_of_mem h.one (by simp [hepochs]), ha, ?_, ?_, ?_, ?_, ?_, ?_⟩
  · intro key stats hk
    rw [hepochs]
    rcases hb key stats hk with heq | hk
    · rwa [heq]
    · exact h.buckets key stats hk
  · rw [hepochs]
    exact hs
  · rw [hepochs, hraw]
    exact h.raw
  · rw [hepochs]
    exact h.paired
  · rw [hepochs]
    exact h.closed
  · rw [hepochs, hraw]
    exact h.seen

theorem sound_of_sub {db' : HistoryDb} (h : Sound db) (hepochs : db'.epochs = db.epochs)
    (hb : ∀ r ∈ db'.buckets.rows, r ∈ db.buckets.rows) (hs : ∀ r ∈ db'.spans.rows, r ∈ db.spans.rows)
    (hr : ∀ r ∈ db'.raw.rows, r ∈ db.raw.rows) : Sound db' := by
  refine ⟨oneActive_of_mem h.one (by simp [hepochs]), fun key stats hk => h.aligned key stats (hb _ hk),
    ?_, ?_, ?_, ?_, ?_, ?_⟩ <;> rw [hepochs]
  · exact fun key stats hk => h.buckets key stats (hb _ hk)
  · exact fun sid span hk => h.spans sid span (hs _ hk)
  · exact fun rid r hk => h.raw rid r (hr _ hk)
  · exact h.paired
  · exact h.closed
  · exact fun id row hmem hopen r hk => h.seen id row hmem hopen r (hr r hk)

theorem isSpent_eq_true {id : ℕ} {row : EpochRow} : isSpent db at_ id row = true ↔
    (∃ ended, row.endedMs = some ended ∧ ended < at_) ∧ (∀ r ∈ db.raw.rows, r.2.epochId ≠ id) ∧
      (∀ r ∈ db.buckets.rows, r.1.epochId ≠ id) ∧ (∀ r ∈ db.spans.rows, r.2.epochId ≠ id) ∧
      ∀ r ∈ db.events.rows, r.2.epochId ≠ id := by
  simp only [isSpent, Bool.and_eq_true, List.all_eq_true, decide_eq_true_eq, Option.any_eq_true,
    and_assoc]

/-- An epoch nothing refers to may go. -/
theorem sound_pruneEpochs (h : Sound db) (scan : Table.LimitScan) (limit : ℕ) :
    Sound (pruneEpochs scan limit at_ db) := by
  have hkeep : ∀ id ∈ db.epochs.keys, (∀ row, isSpent db at_ id row = true → False) →
      id ∈ (pruneEpochs scan limit at_ db).epochs.keys := by
    intro id hid hnot
    obtain ⟨row, hrow⟩ := Table.mem_keys.mp hid
    exact Table.mem_keys_of_mem
      (Table.mem_deleteLimit_of_not hrow (Bool.eq_false_iff.mpr (hnot row)))
  have hsub : ∀ r ∈ (pruneEpochs scan limit at_ db).epochs.rows, r ∈ db.epochs.rows :=
    fun r hr => Table.mem_of_mem_deleteLimit hr
  refine ⟨oneActive_of_mem h.one hsub, h.aligned, ?_, ?_, ?_, ?_, ?_, ?_⟩
  · exact fun key stats hk => hkeep _ (h.buckets key stats hk)
      fun row hs => (isSpent_eq_true.mp hs).2.2.1 _ hk rfl
  · exact fun sid span hk => hkeep _ (h.spans sid span hk)
      fun row hs => (isSpent_eq_true.mp hs).2.2.2.1 _ hk rfl
  · exact fun rid r hk => hkeep _ (h.raw rid r hk)
      fun row hs => (isSpent_eq_true.mp hs).2.1 _ hk rfl
  · exact fun id row hmem => h.paired id row (hsub _ hmem)
  · exact fun id row hmem => h.closed id row (hsub _ hmem)
  · exact fun id row hmem => h.seen id row (hsub _ hmem)

theorem sound_prune (h : Sound db) (scan : Table.LimitScan) (usageRetention limit : ℕ) :
    Sound (prune scan limit db now config usageRetention).1 := by
  obtain ⟨raw, gone, events, heq, hraw, -⟩ := prune_eq config now scan limit db usageRetention
  rw [heq]
  have hsound : Sound { db with raw, buckets := db.buckets.deleteWhere gone, events } :=
    sound_of_sub h rfl (fun r hr => (Table.mem_deleteWhere.mp hr).1) (fun r hr => hr) hraw
  exact sound_pruneEpochs hsound scan limit

/-- **Every call keeps the tables sound.** -/
theorem sound_apply (op : HistoryOp) (h : Sound db) : Sound (op.apply config now db) := by
  cases op with
  | syncEpochs hosts => exact sound_syncEpochs h hosts
  | record host module check at_ observation => exact sound_record h host module check
  | rollup limit => exact sound_rollup h limit
  | prune scan usageRetention limit => exact sound_prune h scan usageRetention limit

/-- **The tables are sound after every run**, whatever the clock reads. -/
theorem sound_runWith (steps : List (ℤ × HistoryConfig × HistoryOp)) : Sound (runWith steps) :=
  List.foldl_invariant (P := fun _ db => Sound db) (fun _ _ _ step _ h => sound_apply step.2.2 h)
    sound_empty

end SimpleNetworkMonitor.History
