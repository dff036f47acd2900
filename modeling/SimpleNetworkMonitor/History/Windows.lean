import SimpleNetworkMonitor.History.Helpers.Events
/-!
# Windows of events and samples

The rows of a window are those observed in its range, `[from, to)`, by a
check in its scope. The epochs are selected before the rows, and by other
comparisons: an epoch that ended at the start of the range is left out,
with the row that was observed at that very instant.
-/

namespace SimpleNetworkMonitor.History

open Paging (Walked)

/-! ## The window -/

/-- **A row in the window** of a request, with the epoch it is of. -/
structure InWindow (db : HistoryDb) (request : HistoryRequest) (r : ℕ × EventRow) (row : EpochRow) :
    Prop where
  epoch : (r.2.epochId, row) ∈ db.epochs.rows
  scope : inScope request row.toEpochInfo = true
  fromMs : request.fromMs ≤ r.2.atMs
  toMs : r.2.atMs < request.toMs

/-- A page as a client asks for it, by the cursor of the page before. -/
def eventsPage (db : HistoryDb) (request : HistoryRequest) (limit : ℕ) (samples : Bool)
    (now now' : ℤ) (cursor : Option ℤ) : Except StorageError (List HistoryEvent × Option ℤ) :=
  (historyEvents db request cursor limit samples now now').map (·.page)

/-! ## When a row is observed -/

/-- **Every row is of an epoch** that had started when it was observed. -/
def Dated (db : HistoryDb) : Prop :=
  ∀ samples, ∀ r ∈ feed samples db, ∃ row, (r.2.epochId, row) ∈ db.epochs.rows ∧
    row.startedMs ≤ r.2.atMs

section Steps

variable {db db' : HistoryDb} {config : HistoryConfig} {now at_ : ℤ} {id : ℕ} {row : EpochRow}
variable {observation : HistoryObservation}

theorem dated_empty : Dated {} := fun samples r hr => by
  cases samples <;> exact absurd hr List.not_mem_nil

/-- Steps that write no row, and leave the epochs of rows with their start. -/
theorem Dated.of_subset (h : Dated db)
    (hfeed : ∀ samples, ∀ r ∈ feed samples db', r ∈ feed samples db)
    (hepochs : ∀ samples, ∀ r ∈ feed samples db', ∀ row, (r.2.epochId, row) ∈ db.epochs.rows →
      ∃ row', (r.2.epochId, row') ∈ db'.epochs.rows ∧ row'.startedMs = row.startedMs) :
    Dated db' := by
  intro samples r hr
  obtain ⟨row, hrow, hle⟩ := h samples r (hfeed samples r hr)
  obtain ⟨row', hrow', hstarted⟩ := hepochs samples r hr row hrow
  exact ⟨row', hrow', hstarted ▸ hle⟩

theorem feed_congr (hraw : db'.raw = db.raw) (hevents : db'.events = db.events) (samples : Bool) :
    feed samples db' = feed samples db := by
  rw [feed, hraw, hevents, feed]

theorem dated_syncEpochs (h : Dated db) (hone : OneActive db) (hosts : List Host) :
    Dated (syncEpochs db hosts now) := by
  refine syncEpochs_induction (P := Dated) hone (fun db closed row _ hmem _ _ _ h => ?_)
    (fun db t _ _ _ h => ?_) h
  · obtain ⟨-, hraw, hevents, -⟩ := flushTail_frame db closed now
    refine h.of_subset (fun samples r hr => feed_congr hraw hevents samples ▸ hr)
      fun samples r hr row' hrow' => ?_
    by_cases hid : r.2.epochId = closed
    · exact ⟨_, mem_closeEpoch.mpr ⟨row', hrow', if_pos hid⟩, rfl⟩
    · exact ⟨row', mem_closeEpoch_of_ne hrow' hid, rfl⟩
  · exact h.of_subset (fun samples r hr => hr) fun samples r hr row' hrow' =>
      ⟨row', mem_openEpoch.mpr (Or.inl hrow'), rfl⟩

/-- A row after an observation was accepted: one from before, or the
observation's. -/
theorem mem_feed_accept {samples : Bool} {r : ℕ × EventRow}
    (hr : r ∈ feed samples (accept db id row at_ observation)) :
    r ∈ feed samples db ∨ r.2.epochId = id ∧ r.2.atMs = at_ := by
  cases samples with
  | true =>
    obtain ⟨raw, hraw, rfl⟩ := List.mem_map.mp hr
    rw [accept_raw] at hraw
    rcases Table.mem_insert.mp hraw with hraw | rfl
    · exact Or.inl (List.mem_map.mpr ⟨raw, hraw, rfl⟩)
    · exact Or.inr ⟨rfl, rfl⟩
  | false =>
    have hr : r ∈ (accept db id row at_ observation).events.rows := hr
    rw [accept_events, recordChange] at hr
    split_ifs at hr
    · rw [insertEvent] at hr
      split_ifs at hr
      · exact Or.inl hr
      · rcases Table.mem_insert.mp hr with hr | rfl
        · exact Or.inl hr
        · exact Or.inr ⟨rfl, rfl⟩
    · exact Or.inl hr

theorem dated_accept (h : Dated db) (hacc : Accepts db id row at_ now) :
    Dated (accept db id row at_ observation) := by
  intro samples r hr
  have hkept : ∀ epochId row', (epochId, row') ∈ db.epochs.rows → ∃ row'',
      (epochId, row'') ∈ (accept db id row at_ observation).epochs.rows ∧
        row''.startedMs = row'.startedMs := by
    intro epochId row' hrow'
    refine ⟨_, mem_accept_epochs.mpr ⟨row', hrow', rfl⟩, ?_⟩
    split_ifs <;> rfl
  rcases mem_feed_accept hr with hr | ⟨hid, hat⟩
  · obtain ⟨row', hrow', hle⟩ := h samples r hr
    obtain ⟨row'', hrow'', hstarted⟩ := hkept _ _ hrow'
    exact ⟨row'', hrow'', hstarted ▸ hle⟩
  · obtain ⟨row'', hrow'', hstarted⟩ := hkept id row hacc.mem
    exact ⟨row'', hid ▸ hrow'', by rw [hstarted, hat]; exact hacc.started⟩

theorem dated_apply (op : HistoryOp) (hs : Sound db) (h : Dated db) :
    Dated (op.apply config now db) := by
  cases op with
  | syncEpochs hosts => exact dated_syncEpochs h hs.one hosts
  | record host module check at_ observation =>
    simp only [HistoryOp.apply]
    rcases record_cases db host module check at_ observation now with heq | ⟨id, row, -, hacc, heq⟩
    · rwa [heq]
    · rw [heq]
      exact dated_accept h hacc
  | rollup limit =>
    obtain ⟨hepochs, hraw, hevents⟩ := rollup_frame config now db limit
    exact h.of_subset (fun samples r hr => feed_congr hraw hevents samples ▸ hr)
      fun samples r _ row hrow => ⟨row, hepochs.symm ▸ hrow, rfl⟩
  | prune scan usageRetention limit =>
    refine h.of_subset (fun samples r hr => ?_) fun samples r hr row hrow =>
      ⟨row, mem_epochs_prune hrow ⟨r, hr, rfl⟩, rfl⟩
    obtain ⟨raw, gone, events, heq, hraw, hevents⟩ := prune_eq config now scan limit db usageRetention
    simp only [HistoryOp.apply, heq] at hr
    cases samples with
    | true =>
      obtain ⟨sample, hsample, rfl⟩ := List.mem_map.mp hr
      exact List.mem_map.mpr ⟨sample, hraw sample hsample, rfl⟩
    | false => exact hevents r hr

theorem dated_runWith (steps : List (ℤ × HistoryConfig × HistoryOp)) : Dated (runWith steps) :=
  (List.foldl_invariant (l := steps) (P := fun _ db => Sound db ∧ Dated db)
    (fun _ _ _ step _ h => ⟨sound_apply step.2.2 h.1, dated_apply step.2.2 h.1 h.2⟩)
    ⟨sound_empty, dated_empty⟩).2

end Steps

/-! ## The result -/

section Pages

variable {db : HistoryDb} {request : HistoryRequest} {selected : List Epoch} {limit : ℕ}
variable {samples : Bool} {now now' : ℤ}

/-- A request that is valid is answered, a page at a time. -/
theorem exists_historyEvents (cursor : Option ℤ) (hvalid : request.validate now = .ok ())
    (hlimit : 1 ≤ limit ∧ limit ≤ 1000) (hepochs : epochs db request now' = .ok selected) :
    ∃ response, historyEvents db request cursor limit samples now now' = .ok response := by
  unfold historyEvents
  rw [hvalid, if_neg (not_not.mpr hlimit), hepochs]
  by_cases hnone : selected = []
  · exact ⟨_, if_pos hnone⟩
  · exact ⟨_, if_neg hnone⟩

/-- **Following the cursors**, a client is shown the rows that match, newest
first. -/
theorem walked_eventsPage (samples : Bool) (hvalid : request.validate now = .ok ())
    (hlimit : 1 ≤ limit ∧ limit ≤ 1000) (hepochs : epochs db request now' = .ok selected) :
    ∃ events, Walked (eventsPage db request limit samples now now') none events ∧
      events.Pairwise (fun a b => eventId b < eventId a) ∧
      ∀ event, event ∈ events ↔
        event ∈ matching db request 9223372036854775807 samples selected := by
  set rows := matching db request 9223372036854775807 samples selected with hrows
  have hpage : ∀ cursor : Option ℤ, cursor.getD 9223372036854775807 ≤ 9223372036854775807 →
      ∃ page, eventsPage db request limit samples now now' cursor = .ok page ∧
        Scroll.IsPage eventId rows (cursor.getD 9223372036854775807) page := by
    intro cursor hle
    obtain ⟨response, hresponse⟩ := exists_historyEvents cursor hvalid hlimit hepochs
    obtain ⟨-, selected', hepochs', hispage⟩ := isPage_historyEvents hresponse
    obtain rfl := Except.ok.inj (hepochs.symm.trans hepochs')
    refine ⟨_, Except.map_eq_ok_iff.mpr ⟨_, hresponse, rfl⟩, hispage.congr fun event hlt => ?_⟩
    rw [hrows, mem_matching hepochs, mem_matching hepochs]
    have hbelow : eventId event < 9223372036854775807 := lt_of_lt_of_le hlt hle
    simp only [hlt, hbelow]
  have hbelow : ∀ event ∈ rows, eventId event < 9223372036854775807 := fun event hevent =>
    ((mem_matching hepochs).mp hevent).2.2.2
  obtain ⟨first, hfirst, hispage⟩ := hpage none le_rfl
  obtain ⟨events, hwalked, hsorted, hmem⟩ := Scroll.exists_walked
    (fun event hevent => hpage (some (eventId event)) (le_of_lt (hbelow event hevent))) hfirst hispage
  exact ⟨events, hwalked, hsorted, fun event => (hmem event).trans
    ⟨And.left, fun hevent => ⟨hevent, hbelow event hevent⟩⟩⟩

end Pages

/-- **When a window is complete.** In every state that a run reaches, a client
that follows the cursors of a request comes to an end, and was shown the rows
of the window, each once: all of them if and only if none is of an epoch that
had ended when the range starts, nor has the greatest of the row numbers. -/
theorem window_complete_iff (steps : List (ℤ × HistoryConfig × HistoryOp)) (request : HistoryRequest)
    (limit : ℕ) (samples : Bool) (now now' : ℤ) (selected : List Epoch)
    (hvalid : request.validate now = .ok ()) (hlimit : 1 ≤ limit ∧ limit ≤ 1000)
    (hepochs : epochs (runWith steps) request now' = .ok selected) :
    ∃ events, Walked (eventsPage (runWith steps) request limit samples now now') none events ∧
      events.Pairwise (fun a b => eventId b < eventId a) ∧
      ((∀ event, event ∈ events ↔ ∃ r ∈ feed samples (runWith steps), ∃ row,
          InWindow (runWith steps) request r row ∧ HistoryEvent.ofRow r row.toEpochInfo = event) ↔
        ∀ r ∈ feed samples (runWith steps), ∀ row, InWindow (runWith steps) request r row →
          (∀ ended ∈ row.endedMs, request.fromMs < ended) ∧ r.1 < 9223372036854775807) := by
  obtain ⟨events, hwalked, hsorted, hmem⟩ := walked_eventsPage samples hvalid hlimit hepochs
  refine ⟨events, hwalked, hsorted, fun hcomplete r hr row hrow => ?_, fun hvisible event => ?_⟩
  · -- the row is shown, so its epoch was selected
    have hshown := (hmem _).mp ((hcomplete _).mpr ⟨r, hr, row, hrow, rfl⟩)
    obtain ⟨⟨r', hr', row', hrow', hsel, heq⟩, -, -, hbelow⟩ := (mem_matching hepochs).mp hshown
    have hid : r'.1 = r.1 := congrArg HistoryEvent.id heq
    obtain rfl : r' = r := List.inj_on_of_nodup_map (nodup_feed samples _) hr' hr hid
    obtain rfl := Table.eq_of_mem hrow.epoch hrow'
    exact ⟨hsel.2.2, Int.ofNat_lt.mp hbelow⟩
  · rw [hmem, mem_matching hepochs]
    constructor
    · rintro ⟨⟨r, hr, row, hrow, hsel, rfl⟩, hfrom, hto, -⟩
      exact ⟨r, hr, row, ⟨hrow, hsel.1, hfrom, hto⟩, rfl⟩
    · rintro ⟨r, hr, row, hrow, rfl⟩
      obtain ⟨hended, hbelow⟩ := hvisible r hr row hrow
      obtain ⟨row', hrow', hstarted⟩ := dated_runWith steps samples r hr
      obtain rfl := Table.eq_of_mem hrow.epoch hrow'
      have hstarts : row.startedMs < request.toMs := lt_of_le_of_lt hstarted hrow.toMs
      exact ⟨⟨r, hr, row, hrow.epoch, ⟨hrow.scope, hstarts, hended⟩, rfl⟩, hrow.fromMs, hrow.toMs,
        Int.ofNat_lt.mpr hbelow⟩

/-! ## A sample -/

/-- A host is observed up, and removed at that very instant. -/
def sampleClosing : List (ℤ × HistoryConfig × HistoryOp) :=
  [(1000, {}, .syncEpochs [{ id := "h1", address := "10.0.0.1", name := "H", groups := [] }]),
    (2000, {}, .record "h1" .icmp "" 2000 ⟨"up", true, some 4, none, none, none⟩),
    (2000, {}, .syncEpochs [])]

/-- The row of the observation. -/
def sampleClosingRow : ℕ × EventRow := (1, ⟨1, 2000, none, "up", true, some 4, none, none, none⟩)

/-- The range starts where the row is, or before it. -/
def sampleWindow (fromMs : ℤ) : HistoryRequest := { sampleRequest with fromMs, toMs := 50000 }

/-- Before the end of the epoch the window is complete. -/
theorem sampleClosing_complete :
    ∃ events, Walked (eventsPage (runWith sampleClosing) (sampleWindow 1999) 100 false 50000 50000)
      none events ∧ ∀ event, event ∈ events ↔ ∃ r ∈ feed false (runWith sampleClosing), ∃ row,
        InWindow (runWith sampleClosing) (sampleWindow 1999) r row ∧
          HistoryEvent.ofRow r row.toEpochInfo = event := by
  obtain ⟨selected, hselected⟩ : ∃ selected,
      epochs (runWith sampleClosing) (sampleWindow 1999) 50000 = .ok selected := ⟨_, rfl⟩
  obtain ⟨events, hwalked, -, hiff⟩ := window_complete_iff sampleClosing (sampleWindow 1999) 100
    false 50000 50000 selected (by decide +kernel) (by decide) hselected
  have hended : ∀ e ∈ (runWith sampleClosing).epochs.rows, ∀ ended ∈ e.2.endedMs,
      (sampleWindow 1999).fromMs < ended := by decide +kernel
  have hnumber : ∀ r ∈ feed false (runWith sampleClosing), r.1 < 9223372036854775807 := by
    decide +kernel
  exact ⟨events, hwalked, hiff.mpr fun r hr row hrow => ⟨hended _ hrow.epoch, hnumber r hr⟩⟩

/-- **From its end on the row is not shown**, though it is in the window. -/
theorem sampleClosing_hidden :
    sampleClosingRow ∈ feed false (runWith sampleClosing) ∧
      (∃ row, InWindow (runWith sampleClosing) (sampleWindow 2000) sampleClosingRow row) ∧
        Walked (eventsPage (runWith sampleClosing) (sampleWindow 2000) 100 false 50000 50000) none
          [] := by
  refine ⟨by decide +kernel, ?_, .last (by decide +kernel)⟩
  obtain ⟨⟨id, row⟩, hmem, rfl, hscope⟩ : ∃ e ∈ (runWith sampleClosing).epochs.rows,
      1 = e.1 ∧ inScope (sampleWindow 2000) e.2.toEpochInfo = true := by decide +kernel
  exact ⟨row, hmem, hscope, by decide, by decide⟩

end SimpleNetworkMonitor.History
