import SimpleNetworkMonitor.History.Helpers.Tracking
/-!
# Every call tracks the timeline

A synchronization and a recording do to the tables what they do to the
timeline; rolling up and pruning change only where the tables keep it.
-/

namespace SimpleNetworkMonitor.History

open HalfOpen

variable {config : HistoryConfig} {now : ℤ} {db : HistoryDb} {timeline : Timeline}
variable {acc : ℕ → List (ℤ × HistoryObservation)} {pruned : Timeline} {id : ℕ} {row : EpochRow}

/-! ## Synchronization -/

/-- An open stint is the epoch of a row. -/
theorem Tracks.open_mem (h : Tracks config now db timeline acc pruned) {stint : Stint}
    (hs : stint ∈ timeline) (hopen : stint.isOpen = true) :
    ∃ id row, (id, row) ∈ db.epochs.rows ∧ stint = ⟨row.toEpochInfo, acc id⟩ := by
  rw [h.split, Multiset.mem_add] at hs
  rcases hs with hs | hs
  · rw [(h.silent stint hs).isOpen] at hopen
    cases hopen
  · exact mem_live.mp hs

theorem Tracks.holds (h : Tracks config now db timeline acc pruned) {t : Host × EpochCheck}
    (hmem : (id, row) ∈ db.epochs.rows) (hopen : row.isOpen = true) (hkey : row.key = targetKey t)
    (hsig : row.signature = signature t.1 t.2) : timeline.Holds t := by
  refine ⟨⟨row.toEpochInfo, acc id⟩, ?_, hkey, hopen, hsig⟩
  rw [h.split, Multiset.mem_add]
  exact Or.inr (mem_live.mpr ⟨id, row, hmem, rfl⟩)

theorem Tracks.not_holds (h : Tracks config now db timeline acc pruned) {t : Host × EpochCheck}
    (hne : ∀ id row, (id, row) ∈ db.epochs.rows → row.isOpen = true → row.key = targetKey t →
      row.signature ≠ signature t.1 t.2) : ¬ timeline.Holds t := by
  rintro ⟨stint, hs, hkey, hopen, hsig⟩
  obtain ⟨id, row, hmem, rfl⟩ := h.open_mem hs hopen
  exact hne id row hmem hopen hkey hsig

/-- Closing a check that has no open epoch changes nothing. -/
theorem Tracks.closeKey_of_none (h : Tracks config now db timeline acc pruned) {key : CheckKey}
    (hnone : activeEpoch db key = none) : timeline.closeKey now key = timeline := by
  conv_rhs => rw [← Multiset.map_id timeline]
  refine Multiset.map_congr rfl fun stint hs => if_neg ?_
  rintro ⟨hkey, hopen⟩
  obtain ⟨id, row, hmem, rfl⟩ := h.open_mem hs hopen
  have hclosed : row.isOpen = false := activeEpoch_eq_none.mp hnone id row hmem hkey
  have hopen' : row.isOpen = true := hopen
  rw [hclosed] at hopen'
  cases hopen'

/-- Closing several checks closes each of their open stints. -/
theorem foldl_closeKey (keys : List CheckKey) (timeline : Timeline) :
    keys.foldl (Timeline.closeKey now) timeline = timeline.map fun stint =>
      if stint.isOpen = true ∧ stint.key ∈ keys then stint.close now else stint := by
  induction keys generalizing timeline with
  | nil => simp
  | cons key keys ih =>
    rw [List.foldl_cons, ih, Timeline.closeKey, Multiset.map_map]
    refine Multiset.map_congr rfl fun stint _ => ?_
    by_cases hopen : stint.isOpen = true
    · by_cases hkey : stint.key = key
      · have hclosed : (stint.close now).isOpen = false := by
          simp [Stint.close, EpochInfo.close, EpochInfo.isOpen]
        simp [hopen, hkey, hclosed]
      · simp [hopen, hkey]
    · simp [hopen]

/-- **A synchronization** does to the tables what it does to the timeline. -/
theorem tracks_syncEpochs (h : Tracks config now db timeline acc pruned) (hosts : List Host) :
    ∃ acc', Tracks config now (syncEpochs db hosts now) (timeline.sync hosts now) acc' pruned := by
  obtain ⟨-, hwanted, keys, hkeys, acc', h'⟩ := syncEpochs_simulation
    (P := fun db timeline => ∃ acc, Tracks config now db timeline acc pruned)
    (f := Timeline.syncCheck now) (g := Timeline.closeKey now) h.sound.one
    (fun db s t id row _ hmem hopen hkey hsig ⟨acc, h⟩ =>
      ⟨acc, by rwa [Timeline.syncCheck, if_pos (h.holds hmem hopen hkey hsig)]⟩)
    (fun db s t id row hone hmem hopen hkey hsig _ _ _ ⟨acc, h⟩ => by
      -- the stint open for the check is of another series
      have hnot : ¬ Timeline.Holds s t := h.not_holds fun id' row' hmem' hopen' hkey' => by
        obtain rfl := hone id' row' id row hmem' hmem hopen' hopen (hkey'.trans hkey.symm)
        rwa [Table.eq_of_mem hmem' hmem]
      rw [Timeline.syncCheck, if_neg hnot, ← hkey]
      exact ⟨_, tracks_openEpoch (tracks_closeEpoch h hmem hopen)
        (hkey ▸ activeEpoch_closeEpoch hone hmem hopen)⟩)
    (fun db s t _ hnone _ ⟨acc, h⟩ => by
      have hnot : ¬ Timeline.Holds s t := h.not_holds fun id row hmem hopen hkey => by
        rw [activeEpoch_eq_none.mp hnone id row hmem hkey] at hopen
        cases hopen
      rw [Timeline.syncCheck, if_neg hnot, h.closeKey_of_none hnone]
      exact ⟨_, tracks_openEpoch h hnone⟩)
    (fun db s id row _ hmem hopen _ _ ⟨acc, h⟩ => ⟨acc, tracks_closeEpoch h hmem hopen⟩)
    ⟨acc, h⟩
  refine ⟨acc', ?_⟩
  have heq : keys.foldl (Timeline.closeKey now) ((targets hosts).foldl (Timeline.syncCheck now)
      timeline) = timeline.sync hosts now := by
    rw [foldl_closeKey, Timeline.sync]
    refine Multiset.map_congr rfl fun stint hs => ?_
    by_cases hopen : stint.isOpen = true
    · by_cases hkey : stint.key ∈ keys
      · rw [if_pos ⟨hopen, hkey⟩, if_pos ⟨hopen, hkeys stint.key hkey⟩]
      · -- a stint still open after the loop is of a check of the inventory
        have hs' : stint ∈ keys.foldl (Timeline.closeKey now)
            ((targets hosts).foldl (Timeline.syncCheck now) timeline) := by
          rw [foldl_closeKey]
          exact Multiset.mem_map.mpr ⟨stint, hs, if_neg fun hc => hkey hc.2⟩
        obtain ⟨id, row, hmem, rfl⟩ := h'.open_mem hs' hopen
        obtain ⟨t, ht, hkt⟩ := hwanted id row hmem hopen
        rw [if_neg fun hc => hkey hc.2, if_neg fun hc => hc.2 t ht hkt]
    · rw [if_neg fun hc => hopen hc.1, if_neg fun hc => hopen hc.1]
  rwa [heq] at h'

/-! ## Recording -/

section Record

variable {host check : String} {module : Module} {at_ : ℤ} {observation : HistoryObservation}

/-- A stint takes an observation exactly where its epoch does. -/
theorem Tracks.takes_iff (h : Tracks config now db timeline acc pruned)
    (hmem : (id, row) ∈ db.epochs.rows) (key : CheckKey) :
    (⟨row.toEpochInfo, acc id⟩ : Stint).takes key at_ now = true ↔
      row.key = key ∧ Accepts db id row at_ now := by
  have hkept := h.kept id row hmem
  simp only [Stint.takes, decide_eq_true_eq]
  constructor
  · rintro ⟨hkey, hopen, hnow, hstarted, hlast⟩
    have hlast' : ∀ last, row.lastMs = some last → last < at_ := by
      intro last hl
      rw [hkept.lastMs hopen] at hl
      obtain ⟨x, hx, rfl⟩ := Option.map_eq_some_iff.mp hl
      exact hlast x hx
    refine ⟨hkey, hmem, hopen, hnow, hstarted, hlast', fun r hr he hat => ?_⟩
    obtain ⟨last, hl, hle⟩ := h.sound.seen id row hmem hopen r hr he
    have := hlast' last hl
    omega
  · rintro ⟨hkey, hacc⟩
    refine ⟨hkey, hacc.isOpen, hacc.le_now, hacc.started, fun x hx => hacc.last x.1 ?_⟩
    rw [hkept.lastMs hacc.isOpen, Option.mem_def.mp hx]
    rfl

/-- **An accepted observation** is taken by the stint of its epoch. -/
theorem tracks_accept (h : Tracks config now db timeline acc pruned) {key : CheckKey}
    (hact : activeEpoch db key = some (id, row)) (hacc : Accepts db id row at_ now) :
    Tracks config now (accept db id row at_ observation)
      (timeline.record key at_ observation now)
      (Function.update acc id ((at_, observation) :: acc id)) pruned := by
  have hkept := h.kept id row hacc.mem
  have hfind : db.epochs.find? id = some row := Table.find?_eq_some.mpr hacc.mem
  -- the observations taken so far are sorted, the latest at the head
  have hlt : ∀ x ∈ acc id, x.1 < at_ := by
    intro x hx
    rcases hcons : acc id with - | ⟨last, older⟩
    · rw [hcons] at hx
      cases hx
    · have hlast : last.1 < at_ := hacc.last last.1 (by rw [hkept.lastMs hacc.isOpen, hcons]; rfl)
      rw [hcons] at hx
      rcases List.mem_cons.mp hx with rfl | hx
      · exact hlast
      · have hsorted := hkept.ordered.sorted
        rw [hcons, List.map_cons, List.pairwise_cons] at hsorted
        exact lt_trans (hsorted.1 x.1 (List.mem_map_of_mem hx)) hlast
  refine ⟨sound_accept h.sound hacc, fun sid span hs => ?_, ?_, h.silent, fun id' row' h' => ?_⟩
  · rw [accept_spans] at hs
    rcases mem_flushTail_spans hacc.mem hs with hs | ⟨_, _, -, -, rfl, -⟩
    · exact h.ends sid span hs
    · exact le_trans (min_le_left _ _) hacc.le_now
  · rw [h.split, Timeline.record, Multiset.map_add]
    refine congrArg₂ _ ?_ ?_
    · -- a pruned stint is closed, and takes nothing
      conv_rhs => rw [← Multiset.map_id pruned]
      refine Multiset.map_congr rfl fun stint hs => if_neg ?_
      simp [Stint.takes, (h.silent stint hs).isOpen]
    · -- of the live ones the open epoch of the check takes it, and no other
      rw [live, live, Multiset.map_coe, accept_epochs, Table.modify, Table.mapVals, List.map_map,
        List.map_map]
      refine congrArg Multiset.ofList (List.map_congr_left fun r hr => ?_)
      obtain ⟨id', row'⟩ := r
      by_cases hid : id' = id
      · subst hid
        obtain rfl := Table.eq_of_mem hr hacc.mem
        have htakes := (h.takes_iff hr key).mpr ⟨(activeEpoch_eq_some hact).2.1, hacc⟩
        simp only [Function.comp_apply, htakes, if_true, Function.update_self]
        rfl
      · have hnot : ¬ (⟨row'.toEpochInfo, acc id'⟩ : Stint).takes key at_ now = true := by
          intro htakes
          obtain ⟨hkey, hacc'⟩ := (h.takes_iff hr key).mp htakes
          exact hid (h.sound.one id' row' id row hr hacc.mem hacc'.isOpen hacc.isOpen
            (hkey.trans (activeEpoch_eq_some hact).2.1.symm))
        simp only [Function.comp_apply, if_neg hnot, if_neg hid, Function.update_of_ne hid]
  · obtain ⟨w, hw, rfl⟩ := mem_accept_epochs.mp h'
    split_ifs with hid
    · subst hid
      obtain rfl := Table.eq_of_mem hw hacc.mem
      rw [Function.update_self]
      refine ⟨⟨?_, ?_, ?_, hkept.ordered.started_le, fun e he => ?_, hkept.ordered.groups⟩,
        fun _ => rfl, fun _ => rfl, fun φ p hφ tier lo hi hlo hhi hb => ?_⟩
      · rw [List.map_cons, List.pairwise_cons]
        refine ⟨fun x hx => ?_, hkept.ordered.sorted⟩
        obtain ⟨y, hy, rfl⟩ := List.mem_map.mp hx
        exact hlt y hy
      · intro x hx
        rcases List.mem_cons.mp hx with rfl | hx
        · exact hacc.started
        · exact hkept.ordered.started x hx
      · intro x hx
        rcases List.mem_cons.mp hx with rfl | hx
        · exact hacc.le_now
        · exact hkept.ordered.le_now x hx
      · rw [isOpen_iff.mp hacc.isOpen] at he
        cases he
      · -- the span that ends at the observation is the time it adds to the stint
        rw [content_accept hfind, if_pos rfl, hφ.add, hφ.add,
          hkept.held φ p hφ tier lo hi hlo hhi hb, hkept.measure_tailTotal hacc.isOpen hφ,
          apply_ite φ, hφ.sample, hφ.zero, ite_self, add_zero]
        exact (timeOf_flushed_take hkept.ordered.sorted hlt w.toEpochInfo
          (isOpen_iff.mp hacc.isOpen)).symm
    · rw [Function.update_of_ne hid]
      have hk := h.kept id' w hw
      refine ⟨hk.ordered, hk.lastMs, hk.lastJson, fun φ p hφ tier lo hi hlo hhi hb => ?_⟩
      have hne : ¬ id = id' := Ne.symm hid
      rw [content_accept hfind, if_neg hne, if_neg fun hc => hne hc.1, add_zero, add_zero]
      exact hk.held φ p hφ tier lo hi hlo hhi hb

/-- **Recording** does to the tables what it does to the timeline. -/
theorem tracks_record (h : Tracks config now db timeline acc pruned) :
    ∃ acc', Tracks config now (record db host module check at_ observation now)
      (timeline.record ⟨host, module, check⟩ at_ observation now) acc' pruned := by
  by_cases hacc : ∃ id row, activeEpoch db ⟨host, module, check⟩ = some (id, row) ∧
      Accepts db id row at_ now
  · obtain ⟨id, row, hact, hacc⟩ := hacc
    rw [record_of_accepts hact hacc]
    exact ⟨_, tracks_accept h hact hacc⟩
  · push Not at hacc
    rw [record_of_not_accepts hacc]
    have hsame : timeline.record ⟨host, module, check⟩ at_ observation now = timeline := by
      conv_rhs => rw [← Multiset.map_id timeline]
      refine Multiset.map_congr rfl fun stint hs => if_neg fun htakes => ?_
      have hopen : stint.isOpen = true := by
        simp only [Stint.takes, decide_eq_true_eq] at htakes
        exact htakes.2.1
      obtain ⟨id, row, hmem, rfl⟩ := h.open_mem hs hopen
      obtain ⟨hkey, hacc'⟩ := (h.takes_iff hmem _).mp htakes
      exact hacc id row (hkey ▸ activeEpoch_of_mem h.sound.one hmem hopen) hacc'
    exact ⟨acc, by rwa [hsame]⟩

end Record

/-! ## Maintenance -/

theorem live_congr {db' : HistoryDb} (h : db'.epochs = db.epochs) : live db' acc = live db acc := by
  rw [live, live, h]

/-- **Rolling up** means nothing to the timeline. -/
theorem tracks_rollup (hv : config.Valid) (h : Tracks config now db timeline acc pruned)
    (limit : ℕ) : Tracks config now (rollup config now db limit).1 timeline acc pruned := by
  obtain ⟨hepochs, -, -⟩ := rollup_frame config now db limit
  refine ⟨sound_rollup h.sound limit, endsBy_rollup h.ends limit, ?_, h.silent,
    fun id row hmem => ?_⟩
  · rw [live_congr hepochs]
    exact h.split
  · rw [hepochs] at hmem
    have hk := h.kept id row hmem
    refine ⟨hk.ordered, hk.lastMs, hk.lastJson, fun φ p hφ tier lo hi hlo hhi hb => ?_⟩
    rw [content_rollup hv limit id hlo hhi hb]
    exact hk.held φ p hφ tier lo hi hlo hhi hb

/-- **What pruning takes of the epochs**: some that were closed and have no
bucket and no span left. -/
theorem prune_epochs_cases (config : HistoryConfig) (now : ℤ) (db : HistoryDb)
    (scan : Table.LimitScan) (limit usageRetention : ℕ) :
    ∃ gone : ℕ → Bool, (prune scan limit db now config usageRetention).1.epochs.rows =
        db.epochs.rows.filter (fun r => !gone r.1) ∧
      ∀ id row, (id, row) ∈ db.epochs.rows → gone id = true →
        (∃ ended, row.endedMs = some ended) ∧ ∀ tier lo hi,
          content (prune scan limit db now config usageRetention).1 id tier lo hi = 0 := by
  obtain ⟨raw, gone, events, heq, -⟩ := prune_eq config now scan limit db usageRetention
  rw [heq]
  set at_ := cutoff now (max config.dailyRetention config.eventRetention)
  set next : HistoryDb := { db with raw, buckets := db.buckets.deleteWhere gone, events }
  refine ⟨fun id => id ∈ db.epochs.doomed scan limit (isSpent next at_), rfl,
    fun id row hmem hgone => ?_⟩
  obtain ⟨row', hmem', hspent⟩ := Table.mem_of_mem_doomed (of_decide_eq_true hgone)
  obtain rfl := Table.eq_of_mem hmem' hmem
  obtain ⟨⟨ended, he, -⟩, -, hb, hs, -⟩ := isSpent_eq_true.mp hspent
  refine ⟨⟨ended, he⟩, fun tier lo hi => ?_⟩
  have hbucket : bucketTotal next id tier lo hi = 0 :=
    Table.sum_eq_zero fun k v hk => if_neg fun hc => hb _ hk hc.1
  have hspan : spanTotal next id lo hi = 0 :=
    Table.sum_eq_zero fun k v hk => if_neg fun hc => hs _ hk hc
  have hsame : content (pruneEpochs scan limit at_ next) id tier lo hi =
      content next id tier lo hi := content_congr rfl rfl id tier lo hi
  rw [hsame, content, hbucket, hspan, add_zero]

/-- **Pruning** means nothing to the timeline: an epoch that goes had nothing
in force that is still to be kept. -/
theorem tracks_prune (h : Tracks config now db timeline acc pruned) (scan : Table.LimitScan)
    (usageRetention limit : ℕ) : ∃ pruned', Tracks config now
      (prune scan limit db now config usageRetention).1 timeline acc pruned' := by
  set next := (prune scan limit db now config usageRetention).1 with hnext
  have hcontent : ∀ id tier lo hi, boundary config now tier ≤ lo →
      content next id tier lo hi = content db id tier lo hi :=
    fun id tier lo hi hb => content_prune usageRetention id hb
  obtain ⟨gone, hrows, hcases⟩ := prune_epochs_cases config now db scan limit usageRetention
  rw [← hnext] at hrows hcases
  let went : Timeline := ((db.epochs.rows.filter fun r => gone r.1).map
    fun r => (⟨r.2.toEpochInfo, acc r.1⟩ : Stint) : List Stint)
  refine ⟨pruned + went, sound_prune h.sound scan usageRetention limit, ?_, ?_, ?_, ?_⟩
  · intro sid span hs
    rw [hnext, prune_spans] at hs
    exact h.ends sid span hs
  · rw [h.split, add_assoc]
    refine congrArg _ ?_
    rw [live, live, hrows, Multiset.coe_add, ← List.map_append]
    exact Multiset.coe_eq_coe.mpr ((List.filter_append_perm _ _).symm.map _)
  · intro stint hs
    rcases Multiset.mem_add.mp hs with hs | hs
    · exact h.silent stint hs
    · obtain ⟨⟨id, row⟩, hr, rfl⟩ := List.mem_map.mp (Multiset.mem_coe.mp hs)
      obtain ⟨hmem, hgone⟩ := List.mem_filter.mp hr
      obtain ⟨⟨ended, he⟩, hzero⟩ := hcases id row hmem hgone
      have hk := h.kept id row hmem
      refine ⟨ended, he, (hk.ordered.ended ended he).1, fun φ p hφ lo hi hb => ?_⟩
      -- the boundary is on the grid, and so is some instant past the window
      have hheld := hk.held φ p hφ .daily (boundary config now .daily)
        (floor hi Tier.daily.seconds + Tier.daily.width) width_dvd_boundary
        (Int.dvd_add width_dvd_floor dvd_rfl) le_rfl
      rw [← hcontent id .daily _ _ le_rfl, hzero, hφ.zero] at hheld
      have hnext : hi < floor hi Tier.daily.seconds + Tier.daily.width := lt_floor_add
      have hflushed : flushed row.toEpochInfo (acc id) =
          inForce row.freshnessMs ended none (acc id) := by
        simp [flushed, he]
      rw [hflushed] at hheld
      have hmono := timeOf_mono (p := p) (inForce row.freshnessMs ended none (acc id)) hb hnext.le
      exact Nat.le_zero.mp (hheld ▸ hmono)
  · intro id row hmem
    have hk := h.kept id row (prune_epochs _ hmem)
    refine ⟨hk.ordered, hk.lastMs, hk.lastJson, fun φ p hφ tier lo hi hlo hhi hb => ?_⟩
    rw [hcontent id tier lo hi hb]
    exact hk.held φ p hφ tier lo hi hlo hhi hb

/-! ## Every call -/

/-- **Every call tracks the timeline.** -/
theorem tracks_apply (hv : config.Valid) (op : HistoryOp)
    (h : ∃ acc pruned, Tracks config now db timeline acc pruned) :
    ∃ acc pruned, Tracks config now (op.apply config now db) (op.trace now timeline) acc pruned := by
  obtain ⟨acc, pruned, h⟩ := h
  cases op with
  | syncEpochs hosts =>
    obtain ⟨acc', h'⟩ := tracks_syncEpochs h hosts
    exact ⟨acc', pruned, h'⟩
  | record host module check at_ observation =>
    obtain ⟨acc', h'⟩ := tracks_record h
    exact ⟨acc', pruned, h'⟩
  | rollup limit => exact ⟨acc, pruned, tracks_rollup hv h limit⟩
  | prune scan usageRetention limit =>
    obtain ⟨pruned', h'⟩ := tracks_prune h scan usageRetention limit
    exact ⟨acc, pruned', h'⟩

/-- **The tables of a run track its timeline.** -/
theorem tracks_run (hv : config.Valid) {steps : List (ℤ × HistoryOp)}
    (hclock : Clocked.Steady steps now) :
    ∃ acc pruned, Tracks config now (run config steps) (History.timeline steps) acc pruned :=
  Clocked.run_simulation (f := HistoryOp.apply config) (g := HistoryOp.trace)
    (P := fun now db timeline => ∃ acc pruned, Tracks config now db timeline acc pruned)
    (fun hle ⟨acc, pruned, h⟩ => ⟨acc, pruned, h.mono hle⟩)
    (fun {_ op _ _} h => tracks_apply hv op h) hclock
    fun _ => ⟨fun _ => [], 0, sound_empty, fun _ _ h => absurd h (by simp), by simp [live],
      by simp, fun _ _ h => absurd h (by simp)⟩

end SimpleNetworkMonitor.History
