import SimpleNetworkMonitor.Common.Streak
import SimpleNetworkMonitor.History.Helpers.Sound
/-!
# The event feed compresses the samples

An observation that is accepted goes to the samples of its epoch, and to
its events where it differs from the observation the epoch remembers. As
long as nothing is pruned, what the epoch remembers is its last sample; so
the events are the changes in the samples, and tell the same at every
instant.
-/

namespace SimpleNetworkMonitor.History

/-! ## What the two tables tell of an epoch -/

/-- The samples of an epoch, in the order of their numbers. -/
def rawOf (db : HistoryDb) (id : ℕ) : List RawRow :=
  (db.raw.rows.filter fun r => r.2.epochId = id).map Prod.snd

/-- The events of an epoch, in the order of their numbers. -/
def eventsOf (db : HistoryDb) (id : ℕ) : List EventRow :=
  (db.events.rows.filter fun r => r.2.epochId = id).map Prod.snd

def RawRow.changedFrom (r previous : RawRow) : Bool :=
  r.observation.changedFrom previous.observation

/-- A sample that has none before it in its epoch, or differs from it. -/
def tellsNew (p : Option RawRow × RawRow) : Bool := p.1.all (p.2.changedFrom ·)

/-- The event of a sample, with the sample before it. -/
def eventOf (p : Option RawRow × RawRow) : EventRow :=
  ⟨p.2.epochId, p.2.atMs, p.1.map (·.observation.state), p.2.observation⟩

/-- What an observation tells: its state, its users and its error. -/
def tells (observation : HistoryObservation) :
    String × Option ℕ × Option ℕ × Option String :=
  (observation.state, observation.consoleUsers, observation.remoteUsers, observation.error)

/-- **The events are the changes in the samples**, and an open epoch remembers
its last sample. -/
structure Compressed (db : HistoryDb) : Prop where
  sound : Sound db
  events : ∀ id, eventsOf db id = ((rawOf db id).withPrevious.filter tellsNew).map eventOf
  ascending : ∀ id, (rawOf db id).Pairwise (·.atMs < ·.atMs)
  last : ∀ id row, (id, row) ∈ db.epochs.rows → row.isOpen = true →
    row.lastMs = (rawOf db id).getLast?.map (·.atMs) ∧
      row.lastJson = (rawOf db id).getLast?.map (·.observation)

section Steps

variable {db db' : HistoryDb} {id : ℕ} {row : EpochRow} {at_ now : ℤ}
variable {observation : HistoryObservation} {config : HistoryConfig}

theorem compressed_empty : Compressed {} where
  sound := sound_empty
  events := fun _ => rfl
  ascending := fun _ => List.Pairwise.nil
  last := fun _ _ h => absurd h (by simp)

theorem mem_rawOf {r : RawRow} : r ∈ rawOf db id ↔ ∃ n, (n, r) ∈ db.raw.rows ∧ r.epochId = id := by
  simp [rawOf]

theorem rawOf_congr (h : db'.raw = db.raw) (id : ℕ) : rawOf db' id = rawOf db id := by
  rw [rawOf, h, ← rawOf]

theorem eventsOf_congr (h : db'.events = db.events) (id : ℕ) : eventsOf db' id = eventsOf db id := by
  rw [eventsOf, h, ← eventsOf]

/-- An epoch that is not there has no samples. -/
theorem rawOf_of_notMem (hs : Sound db) (hid : id ∉ db.epochs.keys) : rawOf db id = [] := by
  refine List.eq_nil_iff_forall_not_mem.mpr fun r hr => ?_
  obtain ⟨n, hrow, rfl⟩ := mem_rawOf.mp hr
  exact hid (hs.raw n r hrow)

/-- Steps that touch neither samples nor events, nor what an open epoch
remembers. -/
theorem Compressed.congr (h : Compressed db) (hs : Sound db') (hraw : db'.raw = db.raw)
    (hevents : db'.events = db.events)
    (hepochs : ∀ id row, (id, row) ∈ db'.epochs.rows → row.isOpen = true →
      (id, row) ∈ db.epochs.rows ∨ id ∉ db.epochs.keys ∧ row.lastMs = none ∧ row.lastJson = none) :
    Compressed db' where
  sound := hs
  events id := by rw [eventsOf_congr hevents, rawOf_congr hraw, h.events]
  ascending id := by rw [rawOf_congr hraw]; exact h.ascending id
  last id row hmem hopen := by
    rw [rawOf_congr hraw]
    rcases hepochs id row hmem hopen with hmem | ⟨hnew, hms, hjson⟩
    · exact h.last id row hmem hopen
    · rw [rawOf_of_notMem h.sound hnew, hms, hjson]
      exact ⟨rfl, rfl⟩

theorem compressed_syncEpochs (h : Compressed db) (hosts : List Host) :
    Compressed (syncEpochs db hosts now) := by
  refine syncEpochs_induction (P := Compressed) h.sound.one (fun db id row _ hmem _ _ _ h => ?_)
    (fun db t _ hnone _ h => ?_) h
  · obtain ⟨-, hraw, hevents, -⟩ := flushTail_frame db id now
    exact h.congr (sound_closeEpoch h.sound hmem) hraw hevents
      fun id' row' h' hopen => Or.inl (open_of_mem_closeEpoch h' hopen).1
  · refine h.congr (sound_openEpoch h.sound hnone) rfl rfl fun id' row' h' _ => ?_
    rcases mem_openEpoch.mp h' with h' | ⟨rfl, rfl⟩
    · exact Or.inl h'
    · exact Or.inr ⟨Table.nextId_not_mem _, rfl, rfl⟩

theorem compressed_rollup (h : Compressed db) (limit : ℕ) :
    Compressed (rollup config now db limit).1 := by
  obtain ⟨hepochs, hraw, hevents⟩ := rollup_frame config now db limit
  exact h.congr (sound_rollup h.sound limit) hraw hevents
    fun id row hmem _ => Or.inl (hepochs ▸ hmem)

/-! ## An accepted observation -/

theorem rawOf_accept (id' : ℕ) : rawOf (accept db id row at_ observation) id' =
    rawOf db id' ++ if id' = id then [⟨id, at_, observation⟩] else [] := by
  rw [rawOf, accept_raw, Table.insert, Table.insertNew, List.filter_append, List.map_append, ← rawOf]
  by_cases hid : id' = id
  · simp [hid]
  · simp [hid, Ne.symm hid]

theorem eventsOf_accept (hnew : ∀ e ∈ eventsOf db id, e.atMs ≠ at_) (id' : ℕ) :
    eventsOf (accept db id row at_ observation) id' = eventsOf db id' ++
      if id' = id ∧ row.lastJson.all (observation.changedFrom ·) = true then
        [⟨id, at_, row.lastJson.map (·.state), observation⟩] else [] := by
  have hfree : ¬ (db.events.rows.any fun r => r.2.epochId = id ∧ r.2.atMs = at_) = true := by
    intro hany
    obtain ⟨r, hr, heq⟩ := List.any_eq_true.mp hany
    obtain ⟨hid, hat⟩ := of_decide_eq_true heq
    exact hnew r.2 (List.mem_map.mpr ⟨r, List.mem_filter.mpr ⟨hr, decide_eq_true hid⟩, rfl⟩) hat
  rw [eventsOf, accept_events, recordChange]
  by_cases hchanged : row.lastJson.all (observation.changedFrom ·) = true
  · rw [if_pos hchanged, insertEvent, if_neg hfree, Table.insert, Table.insertNew,
      List.filter_append, List.map_append, ← eventsOf]
    by_cases hid : id' = id
    · simp [hid, hchanged]
    · simp [hid, Ne.symm hid]
  · rw [if_neg hchanged, if_neg fun h => hchanged h.2, ← eventsOf, List.append_nil]

/-- The sample that an event is of. -/
def EventRow.sample (e : EventRow) : RawRow := ⟨e.epochId, e.atMs, e.observation⟩

/-- **The events are of the changes** in the samples. -/
theorem Compressed.samples (h : Compressed db) (id : ℕ) :
    (eventsOf db id).map EventRow.sample = (rawOf db id).changes RawRow.changedFrom := by
  rw [h.events, List.map_map, List.changes_eq_withPrevious]
  rfl

/-- An event of an epoch is at the instant of one of its samples. -/
theorem Compressed.mem_raw (h : Compressed db) {e : EventRow} (he : e ∈ eventsOf db id) :
    e.sample ∈ rawOf db id := by
  have hmem := List.mem_map_of_mem (f := EventRow.sample) he
  rw [h.samples] at hmem
  exact List.changesFrom_sublist.mem hmem

theorem compressed_accept (h : Compressed db) (hacc : Accepts db id row at_ now) :
    Compressed (accept db id row at_ observation) := by
  obtain ⟨hms, hjson⟩ := h.last id row hacc.mem hacc.isOpen
  -- all the samples of the epoch are earlier
  have hbefore : ∀ r ∈ rawOf db id, r.atMs < at_ := by
    intro r hr
    obtain ⟨n, hrow, hid⟩ := mem_rawOf.mp hr
    obtain ⟨last, hlast, hle⟩ := h.sound.seen id row hacc.mem hacc.isOpen (n, r) hrow hid
    exact lt_of_le_of_lt hle (hacc.last last hlast)
  refine ⟨sound_accept h.sound hacc, fun id' => ?_, fun id' => ?_, fun id' row' hmem hopen => ?_⟩
  · rw [eventsOf_accept (fun e he => (hbefore _ (h.mem_raw he)).ne), rawOf_accept, h.events id']
    by_cases hid : id' = id
    · subst hid
      -- the epoch's last observation is its last sample
      have hnew : tellsNew ((rawOf db id').getLast?, ⟨id', at_, observation⟩) =
          row.lastJson.all (observation.changedFrom ·) := by
        rw [tellsNew, hjson, Option.all_map]
        rfl
      rw [if_pos rfl, List.withPrevious_concat, List.filter_append, List.map_append]
      by_cases hchanged : row.lastJson.all (observation.changedFrom ·) = true
      · rw [if_pos ⟨rfl, hchanged⟩, List.filter_cons_of_pos (hnew.trans hchanged), hjson,
          Option.map_map]
        rfl
      · rw [if_neg fun hc => hchanged hc.2, List.filter_cons_of_neg (hnew ▸ hchanged)]
        rfl
    · simp [hid]
  · rw [rawOf_accept]
    by_cases hid : id' = id
    · subst hid
      rw [if_pos rfl, List.pairwise_append]
      refine ⟨h.ascending id', List.pairwise_singleton _ _, fun r hr r' hr' => ?_⟩
      rw [List.mem_singleton.mp hr']
      exact hbefore r hr
    · rw [if_neg hid, List.append_nil]
      exact h.ascending id'
  · obtain ⟨w, hw, rfl⟩ := mem_accept_epochs.mp hmem
    rw [rawOf_accept]
    split_ifs at hopen ⊢ with hid
    · rw [List.getLast?_concat]
      exact ⟨rfl, rfl⟩
    · rw [List.append_nil]
      exact h.last id' w hw hopen

theorem compressed_record (h : Compressed db) (host : String) (module : Module) (check : String) :
    Compressed (record db host module check at_ observation now) := by
  rcases record_cases db host module check at_ observation now with heq | ⟨id, row, -, hacc, heq⟩
  · rwa [heq]
  · rw [heq]
    exact compressed_accept h hacc

end Steps

/-! ## A run -/

/-- A call that prunes. -/
def HistoryOp.isPrune : HistoryOp → Bool
  | .prune .. => true
  | .syncEpochs _ | .record .. | .rollup _ => false

variable {steps : List (ℤ × HistoryConfig × HistoryOp)}

theorem compressed_runWith (hsteps : ∀ step ∈ steps, step.2.2.isPrune = false) :
    Compressed (runWith steps) := by
  refine List.foldl_invariant (P := fun _ db => Compressed db) (fun done rest db step hl h => ?_)
    compressed_empty
  have hkeep := hsteps step (hl ▸ List.mem_append_right done List.mem_cons_self)
  obtain ⟨now, config, op⟩ := step
  cases op with
  | syncEpochs hosts => exact compressed_syncEpochs h hosts
  | record host module check at_ observation => exact compressed_record h host module check
  | rollup limit => exact compressed_rollup h limit
  | prune scan usageRetention limit => cases hkeep

/-- **Up to an instant**, the last event of an epoch tells what its last sample
does. -/
theorem Compressed.agree {db : HistoryDb} (h : Compressed db) (id : ℕ) (t : ℤ) :
    (((eventsOf db id).filter (·.atMs ≤ t)).getLast?.map (tells ·.observation)) =
      ((rawOf db id).filter (·.atMs ≤ t)).getLast?.map (tells ·.observation) := by
  have hsame : ∀ a b : RawRow, a.changedFrom b = false → tells a.observation = tells b.observation := by
    intro a b hab
    simp only [RawRow.changedFrom, HistoryObservation.changedFrom, Bool.or_eq_false_iff,
      decide_eq_false_iff_not, not_not] at hab
    obtain ⟨⟨⟨hstate, hconsole⟩, hremote⟩, herror⟩ := hab
    rw [tells, tells, hstate, hconsole, hremote, herror]
  obtain ⟨l₁, l₂, hraw, h₁, h₂⟩ :=
    List.exists_append_of_sorted ((h.ascending id).imp fun hlt => hlt.le) t
  have hbefore : (rawOf db id).filter (·.atMs ≤ t) = l₁ := by
    rw [hraw, List.filter_append, List.filter_eq_self.mpr fun r hr => by simpa using h₁ r hr,
      List.filter_eq_nil_iff.mpr fun r hr => by simpa using h₂ r hr, List.append_nil]
  have hchanges : ((l₁ ++ l₂).changes RawRow.changedFrom).filter (·.atMs ≤ t) =
      l₁.changes RawRow.changedFrom :=
    List.filter_changes (fun r hr => by simpa using h₁ r hr) fun r hr => by simpa using h₂ r hr
  have hevents : ((eventsOf db id).filter (·.atMs ≤ t)).map EventRow.sample =
      l₁.changes RawRow.changedFrom := by
    rw [← hchanges, ← hraw, ← h.samples, List.filter_map]
    rfl
  calc ((eventsOf db id).filter (·.atMs ≤ t)).getLast?.map (tells ·.observation)
      = (l₁.changes RawRow.changedFrom).getLast?.map (tells ·.observation) := by
        rw [← hevents, List.getLast?_map, Option.map_map]
        rfl
    _ = ((rawOf db id).filter (·.atMs ≤ t)).getLast?.map (tells ·.observation) := by
        rw [hbefore, List.map_getLast?_changes hsame]

/-- **The event feed is a faithful compression of the samples.** After every
run that does not prune, whatever the clocks read and whichever observations
were offered: the events of an epoch are its samples that are the first or
differ from the one just before, whose state they remember; samples are in
the order of their instants, and so are events; and at every instant the
latest event tells what the latest sample does. -/
theorem events_compress_samples (hsteps : ∀ step ∈ steps, step.2.2.isPrune = false) (id : ℕ) :
    eventsOf (runWith steps) id =
      ((rawOf (runWith steps) id).withPrevious.filter tellsNew).map eventOf ∧
    (rawOf (runWith steps) id).Pairwise (·.atMs < ·.atMs) ∧
    (eventsOf (runWith steps) id).Pairwise (·.atMs < ·.atMs) ∧
    ∀ t, ((eventsOf (runWith steps) id).filter (·.atMs ≤ t)).getLast?.map (tells ·.observation) =
      ((rawOf (runWith steps) id).filter (·.atMs ≤ t)).getLast?.map (tells ·.observation) := by
  have h := compressed_runWith hsteps
  have hevents : ((eventsOf (runWith steps) id).map EventRow.sample).Pairwise (·.atMs < ·.atMs) := by
    rw [h.samples]
    exact (h.ascending id).sublist List.changesFrom_sublist
  rw [List.pairwise_map] at hevents
  exact ⟨h.events id, h.ascending id, hevents, h.agree id⟩

/-- A check is up, still up, late, and down. -/
def sampleFeed : List (ℤ × HistoryConfig × HistoryOp) :=
  [(1000, {}, .syncEpochs [{ id := "h1", address := "10.0.0.1", name := "H", groups := [] }]),
    (2000, {}, .record "h1" .icmp "" 2000 ⟨"up", true, some 4, none, none, none⟩),
    (3000, {}, .record "h1" .icmp "" 3000 ⟨"up", true, some 5, none, none, none⟩),
    (3500, {}, .record "h1" .icmp "" 2500 ⟨"down", false, none, none, none, none⟩),
    (4000, {}, .record "h1" .icmp "" 4000 ⟨"down", false, none, none, none, none⟩),
    (5000, {}, .rollup 5)]

theorem events_compress_samples_sample :
    (eventsOf (runWith sampleFeed) 1).length = 2 ∧ (rawOf (runWith sampleFeed) 1).length = 3 ∧
      eventsOf (runWith sampleFeed) 1 =
        ((rawOf (runWith sampleFeed) 1).withPrevious.filter tellsNew).map eventOf :=
  ⟨by decide +kernel, by decide +kernel, (events_compress_samples (by decide) 1).1⟩

end SimpleNetworkMonitor.History
