import SimpleNetworkMonitor.History.Helpers.Content
import Mathlib.Tactic.Abel
/-!
# How each operation changes the content

One lemma for each operation: what it adds to the content of an epoch in
an aligned window, or that it leaves the content alone.
-/

namespace SimpleNetworkMonitor.History

open HalfOpen

/-! ## Rollup -/

section Rollup

variable {config : HistoryConfig} {now lo hi : ℤ} {tier : Tier} {db : HistoryDb}

theorem bucketTotal_addChunk (id epoch : ℕ) (start : ℤ) (stats : HistoryStats) :
    bucketTotal (addChunk config now db id start stats) epoch tier lo hi =
      bucketTotal db epoch tier lo hi +
        if id = epoch ∧ boundary config now tier ≤ start ∧ lo ≤ floor start tier.seconds ∧
          floor start tier.seconds < hi then stats else 0 :=
  bucketTotal_addTiers db epoch id tier lo hi stats _ fun res => floor start res.seconds

theorem addChunk_spans (id : ℕ) (start : ℤ) (stats : HistoryStats) :
    (addChunk config now db id start stats).spans = db.spans :=
  addTiers_spans db id stats _ _

/-- The part of a span that its chunk takes away, as the buckets of a
resolution take it in: whole where they keep its start, and otherwise not
at all. -/
theorem overlap_chunk (config : HistoryConfig) (now : ℤ) {start end_ : ℤ} (hlt : start < end_) (hlo : tier.width ∣ lo)
    (hhi : tier.width ∣ hi) :
    ∃ lost : ℕ, overlap start (chunkEnd config now start end_) lo hi =
        (if boundary config now tier ≤ start ∧ lo ≤ floor start tier.seconds ∧
          floor start tier.seconds < hi then (chunkEnd config now start end_ - start).toNat else 0)
          + lost ∧ (boundary config now tier ≤ lo → lost = 0) := by
  have hpos := lt_chunkEnd config now hlt
  by_cases hb : boundary config now tier ≤ start
  · refine ⟨0, ?_, fun _ => rfl⟩
    rw [overlap_of_cell width_dvd_floor hlo hhi floor_le (chunkEnd_le_floor_add config now hb)]
    simp [hb]
  · refine ⟨overlap start (chunkEnd config now start end_) lo hi, by simp [hb],
      fun hle => overlap_eq_zero_of_le ?_⟩
    exact le_trans (chunkEnd_le_boundary config now (by omega)) hle

/-- **What one unit of work does to the tables.** Nothing is left of the
span to keep, or a chunk of it is counted and the cursor moves on. -/
theorem materialize_cases (config : HistoryConfig) (now : ℤ) (db : HistoryDb) (id : ℕ)
    (span : SpanRow) :
    (span.endMs ≤ chunkStart config now span.cursorMs ∧
      (materialize config now db id span).buckets = db.buckets ∧
      (materialize config now db id span).spans = db.spans.erase id) ∨
    (chunkStart config now span.cursorMs < span.endMs ∧
      (materialize config now db id span).buckets =
        (addChunk config now db span.epochId (chunkStart config now span.cursorMs)
          (span.observation.durationStats (chunkEnd config now
            (chunkStart config now span.cursorMs) span.endMs -
              chunkStart config now span.cursorMs).toNat)).buckets ∧
      (materialize config now db id span).spans =
        if chunkEnd config now (chunkStart config now span.cursorMs) span.endMs = span.endMs then
          db.spans.erase id
        else db.spans.modify id ({ · with
          cursorMs := chunkEnd config now (chunkStart config now span.cursorMs) span.endMs })) := by
  rcases le_or_gt span.endMs (chunkStart config now span.cursorMs) with hdone | hlt
  · refine Or.inl ⟨hdone, ?_, ?_⟩ <;> rw [materialize, if_pos hdone]
  · refine Or.inr ⟨hlt, ?_, ?_⟩ <;> simp only [materialize, ge_iff_le, if_neg (not_le.mpr hlt)]
    · split_ifs <;> rfl
    · rw [addChunk_spans]
      split_ifs <;> rfl

/-- The spans, one of them apart. -/
theorem spanTotal_erase {id : ℕ} {span : SpanRow} (h : (id, span) ∈ db.spans.rows) (epoch : ℕ) :
    spanTotal db epoch lo hi =
      ((db.spans.erase id).sum fun _ span =>
        span.stats epoch (overlap span.cursorMs span.endMs lo hi)) +
        span.stats epoch (overlap span.cursorMs span.endMs lo hi) := by
  rw [spanTotal, Table.sum_erase _ id, Table.find?_eq_some.mpr h]
  rfl

/-- **One unit of rollup.** What the content of an epoch loses is time of
the span it worked on, and none of it after the boundary. -/
theorem content_materialize (config : HistoryConfig) (now : ℤ) {id : ℕ} {span : SpanRow}
    (h : (id, span) ∈ db.spans.rows)
    (epoch : ℕ) (hlo : tier.width ∣ lo) (hhi : tier.width ∣ hi) :
    ∃ lost : ℕ, content db epoch tier lo hi =
        content (materialize config now db id span) epoch tier lo hi + span.stats epoch lost ∧
      (config.Valid → boundary config now tier ≤ lo → lost = 0) := by
  -- what is skipped is before the boundary of the last tier, and so of any tier
  have hskip : config.Valid → boundary config now tier ≤ lo →
      chunkStart config now span.cursorMs = span.cursorMs ∨
        chunkStart config now span.cursorMs ≤ lo := by
    intro hv hle
    have : boundary config now .daily ≤ boundary config now tier := boundary_daily_le hv tier
    rw [chunkStart]
    omega
  have hcursor : span.cursorMs ≤ chunkStart config now span.cursorMs := le_max_left _ _
  have hcases := materialize_cases config now db id span
  rw [content, content, spanTotal_erase h]
  generalize chunkStart config now span.cursorMs = start at hskip hcursor hcases
  rcases hcases with ⟨hdone, hbuckets, hspans⟩ | ⟨hlt, hbuckets, hspans⟩
  · -- nothing of the span is left to keep
    refine ⟨overlap span.cursorMs span.endMs lo hi, ?_, fun hv hle => ?_⟩
    · rw [bucketTotal, bucketTotal, hbuckets, spanTotal, hspans, add_assoc]
    · rcases hskip hv hle with heq | hle'
      · exact overlap_eq_zero_of_empty (heq ▸ hdone)
      · exact overlap_eq_zero_of_le (le_trans hdone hle')
  · obtain ⟨lost, hchunk, hlost⟩ := overlap_chunk config now hlt hlo hhi
    have hpos := lt_chunkEnd config now hlt
    have hle : chunkEnd config now start span.endMs ≤ span.endMs := chunkEnd_le config now
    generalize chunkEnd config now start span.endMs = until_ at hbuckets hspans hchunk hpos hle
    -- the span in three pieces: skipped, counted, left
    have hcut : overlap span.cursorMs span.endMs lo hi = overlap span.cursorMs start lo hi +
        (overlap start until_ lo hi + overlap until_ span.endMs lo hi) := by
      rw [overlap_split hcursor hlt.le, overlap_split hpos.le hle]
    have hleft : spanTotal (materialize config now db id span) epoch lo hi =
        ((db.spans.erase id).sum fun _ span =>
          span.stats epoch (overlap span.cursorMs span.endMs lo hi)) +
          span.stats epoch (overlap until_ span.endMs lo hi) := by
      rw [spanTotal, hspans]
      split_ifs with hend
      · rw [hend, overlap_eq_zero_of_empty le_rfl, SpanRow.stats_zero, add_zero]
      · rw [Table.sum_modify h]
        rfl
    -- the piece that is counted lies in one cell, which the window holds or not
    have hcounted : bucketTotal (materialize config now db id span) epoch tier lo hi =
        bucketTotal db epoch tier lo hi + span.stats epoch (if boundary config now tier ≤ start ∧
          lo ≤ floor start tier.seconds ∧ floor start tier.seconds < hi then (until_ - start).toNat
          else 0) := by
      rw [bucketTotal, hbuckets, ← bucketTotal, bucketTotal_addChunk, SpanRow.stats]
      congr 1
      split_ifs <;> simp_all
    refine ⟨overlap span.cursorMs start lo hi + lost, ?_, fun hv hle' => ?_⟩
    · rw [hcounted, hleft, hcut, hchunk]
      simp only [SpanRow.stats_add]
      abel
    · have hz : overlap span.cursorMs start lo hi = 0 := by
        rcases hskip hv hle' with heq | hle''
        · exact overlap_eq_zero_of_empty heq.le
        · exact overlap_eq_zero_of_le hle''
      rw [hz, hlost hle']

theorem materialize_frame (config : HistoryConfig) (now : ℤ) (db : HistoryDb) (id : ℕ)
    (span : SpanRow) :
    (materialize config now db id span).epochs = db.epochs ∧
      (materialize config now db id span).raw = db.raw ∧
      (materialize config now db id span).events = db.events := by
  have hraw : ∀ start stats, (addChunk config now db span.epochId start stats).raw = db.raw :=
    fun _ _ => by simp only [addChunk, TIERS, List.foldl_cons, List.foldl_nil]; split_ifs <;> rfl
  have hevents : ∀ start stats,
      (addChunk config now db span.epochId start stats).events = db.events :=
    fun _ _ => by simp only [addChunk, TIERS, List.foldl_cons, List.foldl_nil]; split_ifs <;> rfl
  have hepochs : ∀ start stats,
      (addChunk config now db span.epochId start stats).epochs = db.epochs :=
    fun _ _ => addTiers_epochs db span.epochId _ _ _
  simp only [materialize]
  split_ifs <;> simp [hraw, hevents, hepochs]

/-- **The loop rule of a batch**: what every unit of work preserves, the
batch preserves. -/
theorem rollup_induction {P : HistoryDb → Prop} (limit : ℕ)
    (step : ∀ db id span, (id, span) ∈ db.spans.rows → P db →
      P (materialize config now db id span)) (h : P db) :
    P (rollup config now db limit).1 := by
  have key : ∀ limit db, P db → P (rollupUnits config now limit db).1 := by
    intro limit
    induction limit with
    | zero => exact fun db h => h
    | succ limit ih =>
      intro db h
      rw [rollupUnits]
      rcases hf : db.spans.first? with - | ⟨id, span⟩
      · exact h
      · exact ih _ (step db id span (Table.mem_of_first? hf) h)
  exact key limit db h

theorem rollup_frame (config : HistoryConfig) (now : ℤ) (db : HistoryDb) (limit : ℕ) :
    (rollup config now db limit).1.epochs = db.epochs ∧
      (rollup config now db limit).1.raw = db.raw ∧
      (rollup config now db limit).1.events = db.events := by
  refine rollup_induction (P := fun db' => db'.epochs = db.epochs ∧ db'.raw = db.raw ∧
    db'.events = db.events) limit (fun db' id span _ h => ?_) ⟨rfl, rfl, rfl⟩
  obtain ⟨he, hr, hv⟩ := materialize_frame config now db' id span
  exact ⟨he.trans h.1, hr.trans h.2.1, hv.trans h.2.2⟩

/-- **A batch of rollup changes no content after the boundary.** -/
theorem content_rollup (hv : config.Valid) (limit epoch : ℕ) (hlo : tier.width ∣ lo)
    (hhi : tier.width ∣ hi) (hle : boundary config now tier ≤ lo) :
    content (rollup config now db limit).1 epoch tier lo hi = content db epoch tier lo hi := by
  refine rollup_induction (P := fun db' => content db' epoch tier lo hi =
    content db epoch tier lo hi) limit (fun db' id span hmem h => ?_) rfl
  obtain ⟨lost, hlost, hzero⟩ := content_materialize config now hmem epoch
    hlo hhi
  rw [hzero hv hle, SpanRow.stats_zero, add_zero] at hlost
  exact hlost.symm.trans h

/-- Whatever the clock and the configuration, a batch only loses content. -/
theorem content_rollup_le (limit epoch : ℕ) (hlo : tier.width ∣ lo) (hhi : tier.width ∣ hi) :
    ∃ lost, content db epoch tier lo hi =
      content (rollup config now db limit).1 epoch tier lo hi + lost := by
  refine rollup_induction (P := fun db' => ∃ lost, content db epoch tier lo hi =
    content db' epoch tier lo hi + lost) limit (fun db' id span hmem h => ?_) ⟨0, by simp⟩
  obtain ⟨lost, hlost⟩ := h
  obtain ⟨lost', hlost', -⟩ := content_materialize config now hmem epoch
    hlo hhi
  exact ⟨span.stats epoch lost' + lost, by rw [hlost, hlost', add_assoc]⟩

/-- What is left of a span after a batch: the same span, further on. -/
theorem spans_rollup (limit : ℕ) :
    ∀ id span, (id, span) ∈ (rollup config now db limit).1.spans.rows →
      ∃ cursor, (id, { span with cursorMs := cursor }) ∈ db.spans.rows ∧ cursor ≤ span.cursorMs ∧
        (cursor < span.cursorMs → span.cursorMs < span.endMs) := by
  refine rollup_induction (P := fun db' => ∀ id span, (id, span) ∈ db'.spans.rows →
    ∃ cursor, (id, { span with cursorMs := cursor }) ∈ db.spans.rows ∧ cursor ≤ span.cursorMs ∧
        (cursor < span.cursorMs → span.cursorMs < span.endMs)) limit
    (fun db' id span hmem h => ?_) fun id span hs => ⟨span.cursorMs, hs, le_rfl, by omega⟩
  intro id' span' hs
  rcases materialize_cases config now db' id span with
    ⟨-, -, hspans⟩ | ⟨hlt, -, hspans⟩
  · rw [hspans, Table.mem_erase] at hs
    exact h id' span' hs.1
  · have hpos := lt_chunkEnd config now hlt
    have hle : chunkEnd config now (chunkStart config now span.cursorMs) span.endMs ≤ span.endMs :=
      chunkEnd_le config now
    have hskip : span.cursorMs ≤ chunkStart config now span.cursorMs := le_max_left _ _
    rw [hspans] at hs
    split_ifs at hs with hend
    · exact h id' span' (Table.mem_erase.mp hs).1
    · obtain ⟨w, hw, hval⟩ := Table.mem_modify.mp hs
      split_ifs at hval with hid
      · subst hval hid
        obtain rfl := Table.eq_of_mem hw hmem
        obtain ⟨cursor, hc, hcle, -⟩ := h _ w hw
        exact ⟨cursor, hc, by simp only; omega, fun _ => by simp only; omega⟩
      · exact h id' span' (hval ▸ hw)

/-- What is left of a span ends where it did. -/
theorem endsBy_rollup {bound : ℤ} (h : EndsBy db bound) (limit : ℕ) :
    EndsBy (rollup config now db limit).1 bound := by
  intro id span hs
  obtain ⟨cursor, hc, -, -⟩ := spans_rollup limit id span hs
  exact h id { span with cursorMs := cursor } hc

theorem aligned_rollup (h : Aligned db) (limit : ℕ) :
    Aligned (rollup config now db limit).1 := by
  refine rollup_induction limit (fun db id span _ h => ?_) h
  rcases materialize_cases config now db id span with
    ⟨-, hbuckets, -⟩ | ⟨-, hbuckets, -⟩
  · exact aligned_congr hbuckets h
  · refine aligned_congr hbuckets ?_
    exact aligned_addTiers h span.epochId _ _ fun _ => width_dvd_floor

end Rollup

/-! ## Ingestion -/

section Ingest

variable {lo hi : ℤ} {tier : Tier} {db : HistoryDb} {id : ℕ} {row : EpochRow}

/-- The span an epoch's last observation leaves. -/
theorem flushTail_eq (h : db.epochs.find? id = some row) (end_ : ℤ) :
    flushTail db id end_ =
      { db with
        spans := match row.lastMs, row.lastJson with
          | some start, some body =>
            if min end_ (start + row.freshnessMs) > start then
              db.spans.insert ⟨id, start, min end_ (start + row.freshnessMs), body⟩
            else db.spans
          | _, _ => db.spans } := by
  simp only [flushTail, h]
  rcases row.lastMs with - | start
  · rfl
  · rcases row.lastJson with - | body
    · rfl
    · simp only
      split_ifs <;> rfl

theorem flushTail_frame (db : HistoryDb) (id : ℕ) (end_ : ℤ) :
    (flushTail db id end_).epochs = db.epochs ∧ (flushTail db id end_).raw = db.raw ∧
      (flushTail db id end_).events = db.events ∧
      (flushTail db id end_).buckets = db.buckets := by
  rcases h : db.epochs.find? id with - | row
  · simp [flushTail, h]
  · simp [flushTail_eq h]

/-- **Closing the tail** adds the last observation's time to the content. -/
theorem content_flushTail (h : db.epochs.find? id = some row) (epoch : ℕ) (end_ : ℤ) :
    content (flushTail db id end_) epoch tier lo hi =
      content db epoch tier lo hi + if id = epoch then tailTotal row end_ lo hi else 0 := by
  have hb : bucketTotal (flushTail db id end_) epoch tier lo hi =
      bucketTotal db epoch tier lo hi := by
    rw [bucketTotal, (flushTail_frame db id end_).2.2.2, ← bucketTotal]
  have hs : spanTotal (flushTail db id end_) epoch lo hi =
      spanTotal db epoch lo hi + if id = epoch then tailTotal row end_ lo hi else 0 := by
    rw [spanTotal, flushTail_eq h, tailTotal, spanTotal]
    rcases row.lastMs with - | start
    · simp
    · rcases row.lastJson with - | body
      · simp
      · simp only
        split_ifs with hgt hid
        · rw [Table.sum_insert]
          simp [SpanRow.stats, hid]
        · rw [Table.sum_insert]
          simp [SpanRow.stats, hid]
        · rw [overlap_eq_zero_of_empty (not_lt.mp hgt)]
          simp
        · simp
  rw [content, hb, hs, content, add_assoc]

theorem addSample_eq (db : HistoryDb) (epoch : ℕ) (at_ : ℤ) (observation : HistoryObservation) :
    addSample db epoch at_ observation =
      TIERS.foldl (fun db res => if True then
        addStats db epoch res (floor at_ res.seconds) observation.sampleStats else db) db := by
  simp [addSample]

/-- A sample goes in the bucket of its instant. -/
theorem bucketTotal_addSample (epoch : ℕ) (at_ : ℤ) (observation : HistoryObservation) :
    bucketTotal (addSample db id at_ observation) epoch tier lo hi =
      bucketTotal db epoch tier lo hi +
        if id = epoch ∧ lo ≤ floor at_ tier.seconds ∧ floor at_ tier.seconds < hi then
          observation.sampleStats else 0 := by
  rw [addSample_eq, bucketTotal_addTiers]
  simp

theorem addSample_frame (db : HistoryDb) (id : ℕ) (at_ : ℤ) (observation : HistoryObservation) :
    (addSample db id at_ observation).spans = db.spans ∧
      (addSample db id at_ observation).epochs = db.epochs ∧
      (addSample db id at_ observation).raw = db.raw ∧
      (addSample db id at_ observation).events = db.events :=
  ⟨rfl, rfl, rfl, rfl⟩

theorem recordChange_frame (db : HistoryDb) (id : ℕ) (prior : Option HistoryObservation)
    (at_ : ℤ) (observation : HistoryObservation) :
    (recordChange db id prior at_ observation).epochs = db.epochs ∧
      (recordChange db id prior at_ observation).raw = db.raw ∧
      (recordChange db id prior at_ observation).spans = db.spans ∧
      (recordChange db id prior at_ observation).buckets = db.buckets := by
  unfold recordChange insertEvent
  split_ifs <;> simp

/-- **An accepted observation** adds the time of the one before it, and its
own sample. -/
theorem content_accept (h : db.epochs.find? id = some row) (epoch : ℕ) (at_ : ℤ)
    (observation : HistoryObservation) :
    content (accept db id row at_ observation) epoch tier lo hi =
      content db epoch tier lo hi +
        (if id = epoch then tailTotal row at_ lo hi else 0) +
        if id = epoch ∧ lo ≤ floor at_ tier.seconds ∧ floor at_ tier.seconds < hi then
          observation.sampleStats else 0 := by
  set before : HistoryDb := { db with raw := db.raw.insert ⟨id, at_, observation⟩ } with hbefore
  have hraw : content before epoch tier lo hi = content db epoch tier lo hi :=
    content_congr rfl rfl epoch tier lo hi
  have hchange : content (recordChange (flushTail before id at_) id row.lastJson at_ observation)
      epoch tier lo hi = content (flushTail before id at_) epoch tier lo hi :=
    content_congr (recordChange_frame _ _ _ _ _).2.2.2 (recordChange_frame _ _ _ _ _).2.2.1 _ _ _ _
  have hsample : ∀ db : HistoryDb, content (addSample db id at_ observation) epoch tier lo hi =
      content db epoch tier lo hi +
        if id = epoch ∧ lo ≤ floor at_ tier.seconds ∧ floor at_ tier.seconds < hi then
          observation.sampleStats else 0 := by
    intro db
    rw [content, bucketTotal_addSample, content, spanTotal, (addSample_frame db _ at_ observation).1,
      ← spanTotal]
    abel
  have hlast : ∀ db : HistoryDb, content (setLast db id at_ observation) epoch tier lo hi =
      content db epoch tier lo hi := fun db => content_congr rfl rfl epoch tier lo hi
  simp only [accept]
  rw [hlast, hsample, hchange, content_flushTail (show before.epochs.find? id = some row from h), hraw]

/-- The buckets an accepted observation leaves: its sample's. -/
theorem accept_buckets {at_ : ℤ} {observation : HistoryObservation} :
    (accept db id row at_ observation).buckets = (addSample db id at_ observation).buckets := by
  have hsample : ∀ {db db' : HistoryDb}, db'.buckets = db.buckets →
      (addSample db' id at_ observation).buckets = (addSample db id at_ observation).buckets := by
    intro db db' h
    simp only [addSample, TIERS, List.foldl_cons, List.foldl_nil, addStats, h]
  simp only [accept, setLast]
  exact hsample ((recordChange_frame _ _ _ _ _).2.2.2.trans (flushTail_frame _ _ _).2.2.2)

end Ingest

/-! ## Pruning -/

section Prune

variable {config : HistoryConfig} {now lo hi : ℤ} {tier : Tier} {db : HistoryDb}
variable {scan : Table.LimitScan} {limit : ℕ}

theorem bucketTotal_pruneBuckets (resolution : Tier) (epoch : ℕ)
    (hle : boundary config now tier ≤ lo) :
    bucketTotal (pruneBuckets scan limit config now db resolution) epoch tier lo hi =
      bucketTotal db epoch tier lo hi := by
  refine Table.sum_deleteLimit fun key stats _ hp => if_neg ?_
  rintro ⟨-, rfl, hlo, -⟩
  have := of_decide_eq_true hp
  obtain ⟨rfl, hlt⟩ := this
  omega

/-- **Pruning drops no bucket after the boundary.** -/
theorem bucketTotal_prune (usageRetention epoch : ℕ) (hle : boundary config now tier ≤ lo) :
    bucketTotal (prune scan limit db now config usageRetention).1 epoch tier lo hi =
      bucketTotal db epoch tier lo hi := by
  have key : ∀ (tiers : List Tier) (db : HistoryDb),
      bucketTotal (tiers.foldl (pruneBuckets scan limit config now) db) epoch tier lo hi =
        bucketTotal db epoch tier lo hi := by
    intro tiers
    induction tiers with
    | nil => exact fun db => rfl
    | cons t ts ih =>
      intro db
      rw [List.foldl_cons, ih, bucketTotal_pruneBuckets t epoch hle]
  exact key TIERS _

/-- Pruning the buckets leaves the other tables. -/
theorem foldl_pruneBuckets (config : HistoryConfig) (now : ℤ) (scan : Table.LimitScan)
    (limit : ℕ) (tiers : List Tier) (db : HistoryDb) :
    ∃ gone, tiers.foldl (pruneBuckets scan limit config now) db =
      { db with buckets := db.buckets.deleteWhere gone } := by
  induction tiers generalizing db with
  | nil => exact ⟨fun _ _ => false, by simp⟩
  | cons t ts ih =>
    obtain ⟨gone, heq⟩ := ih (pruneBuckets scan limit config now db t)
    rw [List.foldl_cons, heq, pruneBuckets, Table.deleteLimit, Table.deleteWhere_deleteWhere]
    exact ⟨_, rfl⟩

/-- **What pruning does**: some raw rows, events and buckets go, and then some
of the epochs nothing refers to any more. -/
theorem prune_eq (config : HistoryConfig) (now : ℤ) (scan : Table.LimitScan) (limit : ℕ)
    (db : HistoryDb) (usageRetention : ℕ) : ∃ raw gone events,
    (prune scan limit db now config usageRetention).1 = pruneEpochs scan limit
      (cutoff now (max config.dailyRetention config.eventRetention))
      { db with raw, buckets := db.buckets.deleteWhere gone, events } ∧
    (∀ r ∈ raw.rows, r ∈ db.raw.rows) ∧ ∀ r ∈ events.rows, r ∈ db.events.rows := by
  obtain ⟨gone, heq⟩ := foldl_pruneBuckets config now scan limit TIERS (pruneEvents scan limit
    (cutoff now config.eventRetention) (pruneRaw scan limit (cutoff now usageRetention) (· = .usage)
      (pruneRaw scan limit (cutoff now config.rawRetention) (· ≠ .usage) db)))
  exact ⟨_, gone, _, congrArg (pruneEpochs scan limit _) heq,
    fun r hr => Table.mem_of_mem_deleteLimit (Table.mem_of_mem_deleteLimit hr),
    fun r hr => Table.mem_of_mem_deleteLimit hr⟩

theorem prune_spans (usageRetention : ℕ) :
    (prune scan limit db now config usageRetention).1.spans = db.spans := by
  obtain ⟨raw, gone, events, heq, -⟩ := prune_eq config now scan limit db usageRetention
  rw [heq]
  rfl

/-- Nor does it change the content there. -/
theorem content_prune (usageRetention epoch : ℕ) (hle : boundary config now tier ≤ lo) :
    content (prune scan limit db now config usageRetention).1 epoch tier lo hi =
      content db epoch tier lo hi := by
  rw [content, bucketTotal_prune usageRetention epoch hle, spanTotal, prune_spans]
  rfl

/-- Pruning only takes from the content. -/
theorem content_prune_le (usageRetention epoch : ℕ) : ∃ lost, content db epoch tier lo hi =
    content (prune scan limit db now config usageRetention).1 epoch tier lo hi + lost := by
  obtain ⟨raw, gone, events, heq, -⟩ := prune_eq config now scan limit db usageRetention
  have hsplit := Table.sum_split db.buckets gone fun key stats =>
    if key.epochId = epoch ∧ key.resolution = tier ∧ lo ≤ key.startMs ∧ key.startMs < hi then stats
    else 0
  rw [heq, content, bucketTotal, hsplit, add_right_comm]
  exact ⟨_, rfl⟩

end Prune

end SimpleNetworkMonitor.History
