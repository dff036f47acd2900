import SimpleNetworkMonitor.Common.Draining
import SimpleNetworkMonitor.History.Helpers.Steps
import SimpleNetworkMonitor.History.Model.Run
/-!
# Rollup drains

A batch works on the oldest span, one piece at a time. Each piece brings
the span to its end or its cursor on, and nothing of it that is still to
be kept is left out. So the queue gets shorter with every unit, and
batches called again and again empty it, whatever the clock does.
-/

namespace SimpleNetworkMonitor.History

/-! ## One unit -/

section Unit

variable {config : HistoryConfig} {now : ℤ} {db : HistoryDb}

theorem bucket_addStats (epoch id : ℕ) (tier resolution : Tier) (start at_ : ℤ)
    (stats : HistoryStats) :
    bucket (addStats db id resolution start stats) epoch tier at_ = bucket db epoch tier at_ +
      if epoch = id ∧ tier = resolution ∧ at_ = start then stats else 0 := by
  simp only [bucket, addStats]
  split_ifs with h
  · obtain ⟨rfl, rfl, rfl⟩ := h
    rw [Table.find?_upsert_self]
    rfl
  · have hne : (⟨epoch, tier, at_⟩ : BucketKey) ≠ ⟨id, resolution, start⟩ := by
      simpa using h
    rw [Table.find?_upsert_of_ne hne, add_zero]

/-- **A chunk** goes in the bucket it starts in, at every resolution that keeps
its start, and in no other. -/
theorem bucket_addChunk (epoch id : ℕ) (tier : Tier) (start at_ : ℤ) (stats : HistoryStats) :
    bucket (addChunk config now db id start stats) epoch tier at_ = bucket db epoch tier at_ +
      if epoch = id ∧ boundary config now tier ≤ start ∧ at_ = floor start tier.seconds then stats
      else 0 := by
  have step : ∀ (db : HistoryDb) (res : Tier),
      bucket (if start ≥ boundary config now res then
        addStats db id res (floor start res.seconds) stats else db) epoch tier at_ =
        bucket db epoch tier at_ +
          if res = tier then
            if epoch = id ∧ boundary config now tier ≤ start ∧ at_ = floor start tier.seconds then
              stats else 0
          else 0 := by
    intro db res
    by_cases hres : res = tier
    · subst hres
      by_cases hk : start ≥ boundary config now res
      · rw [if_pos hk, bucket_addStats]
        simp [ge_iff_le.mp hk]
      · simp [hk]
    · split_ifs with hk
      · rw [bucket_addStats, if_neg fun h => hres h.2.1.symm]
      · rw [add_zero]
  simp only [addChunk, TIERS, List.foldl_cons, List.foldl_nil, step]
  cases tier <;> simp

/-- **A piece of a span is in the buckets.** Nothing of it is older than the
daily boundary, it lies within one bucket of every resolution that keeps
its start, and that bucket has grown by all of it, and no other bucket has. -/
structure Counted (config : HistoryConfig) (now : ℤ) (db db' : HistoryDb) (span : SpanRow)
    (start until_ : ℤ) : Prop where
  daily : boundary config now .daily ≤ start
  within : ∀ tier, boundary config now tier ≤ start →
    floor start tier.seconds ≤ start ∧ until_ ≤ floor start tier.seconds + tier.width
  added : ∀ epoch tier at_, bucket db' epoch tier at_ = bucket db epoch tier at_ +
    if epoch = span.epochId ∧ boundary config now tier ≤ start ∧ at_ = floor start tier.seconds then
      span.observation.durationStats (until_ - start).toNat
    else 0

/-- **What one unit does** to the oldest span: nothing of it is left to keep, or
its last piece is counted, and it is deleted; or a piece is counted, and its
cursor moves to where the piece ends. -/
inductive Worked (config : HistoryConfig) (now : ℤ) (db db' : HistoryDb) (id : ℕ)
    (span : SpanRow) : Prop where
  | expired (h : span.endMs ≤ max span.cursorMs (boundary config now .daily))
      (buckets : db'.buckets = db.buckets) (spans : db'.spans = db.spans.erase id)
  | finished (start : ℤ) (hstart : start = max span.cursorMs (boundary config now .daily))
      (hlt : start < span.endMs) (counted : Counted config now db db' span start span.endMs)
      (spans : db'.spans = db.spans.erase id)
  | moved (start until_ : ℤ) (hstart : start = max span.cursorMs (boundary config now .daily))
      (hlt : start < until_) (hle : until_ ≤ span.endMs)
      (counted : Counted config now db db' span start until_)
      (spans : db'.spans = db.spans.modify id ({ · with cursorMs := until_ }))

theorem worked_materialize (config : HistoryConfig) (now : ℤ) (db : HistoryDb) (id : ℕ)
    (span : SpanRow) : Worked config now db (materialize config now db id span) id span := by
  rcases materialize_cases config now db id span with
    ⟨hdone, hbuckets, hspans⟩ | ⟨hlt, hbuckets, hspans⟩
  · exact .expired hdone hbuckets hspans
  · have hpos := lt_chunkEnd config now hlt
    have hle : chunkEnd config now (chunkStart config now span.cursorMs) span.endMs ≤ span.endMs :=
      chunkEnd_le config now
    have counted : Counted config now db (materialize config now db id span) span
        (chunkStart config now span.cursorMs)
        (chunkEnd config now (chunkStart config now span.cursorMs) span.endMs) := by
      refine ⟨le_max_right _ _, fun tier htier =>
        ⟨floor_le, chunkEnd_le_floor_add config now htier⟩, fun epoch tier at_ => ?_⟩
      rw [← bucket_addChunk, bucket, bucket, hbuckets]
    split_ifs at hspans with hend
    · rw [hend] at counted
      exact .finished _ rfl hlt counted hspans
    · exact .moved _ _ rfl hpos hle counted hspans

end Unit

/-! ## A batch -/

section Batch

variable {config : HistoryConfig} {now : ℤ} {db : HistoryDb} {id : ℕ} {span : SpanRow}

/-- `n` units of work, each on the oldest span there is. -/
inductive Units (config : HistoryConfig) (now : ℤ) : ℕ → HistoryDb → HistoryDb → Prop
  | done (db : HistoryDb) : Units config now 0 db db
  | next {n : ℕ} {db db' : HistoryDb} {id : ℕ} {span : SpanRow}
      (oldest : db.spans.first? = some (id, span))
      (rest : Units config now n (materialize config now db id span) db') :
      Units config now (n + 1) db db'

/-- How much there is to do: a span counts its milliseconds, and itself. -/
def backlog (db : HistoryDb) : ℕ := db.spans.sum fun _ span => (span.endMs - span.cursorMs).toNat + 1

/-- **Every unit shortens the queue.** -/
theorem backlog_materialize_lt (h : (id, span) ∈ db.spans.rows) :
    backlog (materialize config now db id span) < backlog db := by
  have hdb : backlog db = (db.spans.erase id).sum (fun _ span =>
      (span.endMs - span.cursorMs).toNat + 1) + ((span.endMs - span.cursorMs).toNat + 1) := by
    rw [backlog, Table.sum_erase _ id, Table.find?_eq_some.mpr h]
    rfl
  rw [hdb, backlog]
  cases worked_materialize config now db id span with
  | expired _ _ hspans => rw [hspans]; omega
  | finished _ _ _ _ hspans => rw [hspans]; omega
  | moved start until_ hstart hlt hle _ hspans =>
    rw [hspans, Table.sum_modify h]
    simp only
    omega

/-- **The loop**: it works until nothing is left or the limit is reached. -/
theorem rollupUnits_spec (config : HistoryConfig) (now : ℤ) (limit : ℕ) (db : HistoryDb) :
    Units config now (rollupUnits config now limit db).2 db (rollupUnits config now limit db).1 ∧
      (rollupUnits config now limit db).2 ≤ limit ∧
      ((rollupUnits config now limit db).2 = limit ∨
        (rollupUnits config now limit db).1.spans.rows = []) := by
  induction limit generalizing db with
  | zero => exact ⟨.done db, Nat.le_refl 0, Or.inl rfl⟩
  | succ limit ih =>
    rw [rollupUnits]
    rcases hfirst : db.spans.first? with - | ⟨id, span⟩
    · exact ⟨.done db, Nat.zero_le _, Or.inr (Table.first?_eq_none.mp hfirst)⟩
    · obtain ⟨hunits, hle, hstop⟩ := ih (materialize config now db id span)
      exact ⟨.next hfirst hunits, Nat.succ_le_succ hle, hstop.imp_left (congrArg (· + 1))⟩

/-- Units take their number away from the queue, at least. -/
theorem Units.backlog_le {n : ℕ} {db db' : HistoryDb} (h : Units config now n db db') :
    backlog db' + n ≤ backlog db := by
  induction h with
  | done db => exact Nat.le_refl _
  | next oldest rest ih =>
    have hlt : backlog (materialize config now _ _ _) < backlog _ :=
      backlog_materialize_lt (Table.mem_of_first? oldest)
    omega

theorem rollup_more_iff (limit : ℕ) :
    (rollup config now db limit).2.2 = false ↔ (rollup config now db limit).1.spans.rows = [] := by
  simp [rollup]

theorem backlog_rollup_lt {limit : ℕ} (hlimit : 0 < limit)
    (hmore : (rollup config now db limit).2.2 = true) :
    backlog (rollup config now db limit).1 < backlog db := by
  obtain ⟨hunits, -, hstop⟩ := rollupUnits_spec config now limit db
  have hwork : (rollupUnits config now limit db).2 = limit := by
    refine hstop.resolve_right fun hnone => ?_
    rw [(rollup_more_iff limit).mpr hnone] at hmore
    exact absurd hmore (by simp)
  have hle : backlog (rollup config now db limit).1 + _ ≤ backlog db := hunits.backlog_le
  omega

/-- Batch after batch, each with its own clock reading. -/
def batches (config : HistoryConfig) (limit : ℕ) (clock : ℕ → ℤ) : ℕ → HistoryDb → HistoryDb :=
  Draining.calls fun n db =>
    ((rollup config (clock n) db limit).1, (rollup config (clock n) db limit).2.2)

/-- **Rollup always drains.** A unit works on the oldest span: it deletes the
span or moves its cursor strictly forward, not past the end, and all of what
it passes over that is not older than the daily boundary is counted. A batch
returns the number of its units, at most its limit, and says that there is no
more where no span is left; and batches repeated get there, whatever their
clocks read. -/
theorem rollup_drains (config : HistoryConfig) (now : ℤ) (db : HistoryDb) (clock : ℕ → ℤ)
    {limit : ℕ} (hlimit : 0 < limit) :
    (∀ id span, db.spans.first? = some (id, span) → (∀ k ∈ db.spans.keys, id ≤ k) ∧
      Worked config now db (materialize config now db id span) id span) ∧
    Units config now (rollup config now db limit).2.1 db (rollup config now db limit).1 ∧
    (rollup config now db limit).2.1 ≤ limit ∧
    ((rollup config now db limit).2.2 = false ↔
      (rollup config now db limit).1.spans.rows = []) ∧
    ∃ n ≤ backlog db,
      (rollup config (clock n) (batches config limit clock n db) limit).2.2 = false := by
  obtain ⟨hunits, hle, -⟩ := rollupUnits_spec config now limit db
  refine ⟨fun id span hfirst => ⟨?_, worked_materialize config now db id span⟩, hunits, hle,
    rollup_more_iff limit, ?_⟩
  · simpa using List.find?_some hfirst
  · exact @Draining.exists_done _ (fun n db =>
      ((rollup config (clock n) db limit).1, (rollup config (clock n) db limit).2.2)) backlog
      (fun n db hmore => backlog_rollup_lt hlimit hmore) db

end Batch

/-- The span of the sample run, worked off one unit a batch. -/
theorem rollup_drains_sample :
    (rollup {} 40000 (run {} (sampleSteps.take 3)) 1).2.1 ≤ 1 ∧
      ∃ n ≤ backlog (run {} (sampleSteps.take 3)), (rollup {} 40000
        (batches {} 1 (fun _ => 40000) n (run {} (sampleSteps.take 3))) 1).2.2 = false := by
  obtain ⟨-, -, hle, -, hdrains⟩ := rollup_drains {} 40000 (run {} (sampleSteps.take 3))
    (fun _ => 40000) (show 0 < 1 by decide)
  exact ⟨hle, hdrains⟩

end SimpleNetworkMonitor.History
