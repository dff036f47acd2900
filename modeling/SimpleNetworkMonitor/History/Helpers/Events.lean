import SimpleNetworkMonitor.Common.Scroll
import SimpleNetworkMonitor.History.Helpers.Answer
import SimpleNetworkMonitor.History.Helpers.Sound
import SimpleNetworkMonitor.History.Model.Events
/-!
# What a page of events shows

The rows of the epochs that a request selects. An epoch once selected stays
so, as long as one of its rows does, and is shown the same: nothing about it
changes but its end, which comes after the start of the request's range.
-/

namespace SimpleNetworkMonitor.History

open Scroll (IsPage)

/-- What a row of an epoch is shown as. -/
def HistoryEvent.ofRow (r : ℕ × EventRow) (info : EpochInfo) : HistoryEvent where
  id := r.1
  hostId := info.hostId
  name := info.name
  groups := info.groups
  module := info.module.id
  checkId := info.checkId
  atMs := r.2.atMs
  previousState := r.2.previousState
  observation := r.2.observation

/-- **A request selects an epoch**: it is in scope and meets the range. -/
def Selects (request : HistoryRequest) (info : EpochInfo) : Prop :=
  inScope request info = true ∧ info.startedMs < request.toMs ∧
    ∀ ended ∈ info.endedMs, request.fromMs < ended

/-- The row number of an event. -/
def eventId (event : HistoryEvent) : ℤ := event.id

variable {db db' : HistoryDb} {config : HistoryConfig} {request : HistoryRequest}
  {samples : Bool} {selected : List Epoch} {now now' before : ℤ} {id : ℕ} {row : EpochRow}
  {r : ℕ × EventRow} {event : HistoryEvent}

/-! ## The rows of a page -/

theorem mem_epochs {epoch : Epoch} (h : epochs db request now = .ok selected) :
    epoch ∈ selected ↔ ∃ e ∈ db.epochs.rows, Selects request e.2.toEpochInfo ∧
      Epoch.ofRow now e.1 e.2 = epoch := by
  rw [epochs_eq_ok h]
  simp only [List.mem_map, List.mem_filter, decide_eq_true_eq, Selects, Option.all_eq_true,
    gt_iff_lt, and_assoc]
  rfl

/-- **A row is shown where its epoch is selected.** -/
theorem toEvent_eq_some (h : epochs db request now = .ok selected) :
    toEvent db selected r = some event ↔ ∃ row, (r.2.epochId, row) ∈ db.epochs.rows ∧
      Selects request row.toEpochInfo ∧ HistoryEvent.ofRow r row.toEpochInfo = event := by
  -- the epochs have different numbers, so a number finds the epoch it is of
  have hunique : ∀ epoch ∈ selected, ∀ row, (epoch.id, row) ∈ db.epochs.rows →
      Selects request row.toEpochInfo ∧ epoch = Epoch.ofRow now epoch.id row := by
    intro epoch hepoch row hrow
    obtain ⟨⟨id, row'⟩, hmem, hsel, rfl⟩ := (mem_epochs h).mp hepoch
    obtain rfl := Table.eq_of_mem hmem hrow
    exact ⟨hsel, rfl⟩
  unfold toEvent
  constructor
  · intro hevent
    split at hevent
    · rename_i row epoch hrow hepoch
      have hid : epoch.id = r.2.epochId := by simpa using List.find?_some hepoch
      have hmem := Table.find?_eq_some.mp hrow
      obtain ⟨hsel, heq⟩ := hunique epoch (List.mem_of_find?_eq_some hepoch) row (hid ▸ hmem)
      refine ⟨row, hmem, hsel, ?_⟩
      rw [heq] at hevent
      exact Option.some.inj hevent
    · exact absurd hevent (by simp)
  · rintro ⟨row, hrow, hsel, rfl⟩
    have hmem : Epoch.ofRow now r.2.epochId row ∈ selected :=
      (mem_epochs h).mpr ⟨_, hrow, hsel, rfl⟩
    obtain ⟨epoch, hepoch⟩ := Option.isSome_iff_exists.mp
      (List.find?_isSome.mpr ⟨_, hmem, decide_eq_true rfl⟩ :
        (selected.find? (·.id = r.2.epochId)).isSome = true)
    have hid : epoch.id = r.2.epochId := by simpa using List.find?_some hepoch
    obtain ⟨-, heq⟩ := hunique epoch (List.mem_of_find?_eq_some hepoch) row (hid ▸ hrow)
    rw [Table.find?_eq_some.mpr hrow, hepoch, heq]
    rfl

theorem mem_matching (h : epochs db request now = .ok selected) :
    event ∈ matching db request before samples selected ↔
      (∃ r ∈ feed samples db, ∃ row, (r.2.epochId, row) ∈ db.epochs.rows ∧
        Selects request row.toEpochInfo ∧ HistoryEvent.ofRow r row.toEpochInfo = event) ∧
      request.fromMs ≤ event.atMs ∧ event.atMs < request.toMs ∧ eventId event < before := by
  simp only [matching, List.mem_filter, List.mem_filterMap, toEvent_eq_some h, ge_iff_le,
    decide_eq_true_eq]
  rfl

/-- The rows that are read have different numbers. -/
theorem nodup_feed (samples : Bool) (db : HistoryDb) : ((feed samples db).map Prod.fst).Nodup := by
  unfold feed
  split_ifs
  · rw [List.map_map]
    exact db.raw.nodup
  · exact db.events.nodup

theorem pairwise_matching (samples : Bool) (before : ℤ)
    (h : epochs db request now = .ok selected) :
    (matching db request before samples selected).Pairwise fun a b => a.id ≠ b.id := by
  refine List.Pairwise.filter _ (List.Pairwise.filterMap (R := fun r r' : ℕ × EventRow => r.1 ≠ r'.1)
    _ (fun r r' hne a ha b hb => ?_) (List.pairwise_map.mp (nodup_feed samples db)))
  obtain ⟨_, -, -, rfl⟩ := (toEvent_eq_some h).mp ha
  obtain ⟨_, -, -, rfl⟩ := (toEvent_eq_some h).mp hb
  exact hne

/-- Sorted, they go strictly down. -/
theorem pairwise_sorted (h : epochs db request now = .ok selected) :
    ((matching db request before samples selected).insertionSort fun a b => b.id ≤ a.id).Pairwise
      fun a b => eventId b < eventId a := by
  have : Std.Total fun a b : HistoryEvent => b.id ≤ a.id := ⟨fun a b => le_total b.id a.id⟩
  have : IsTrans HistoryEvent fun a b => b.id ≤ a.id := ⟨fun a b c hab hbc => le_trans hbc hab⟩
  have hle := List.pairwise_insertionSort (fun a b : HistoryEvent => b.id ≤ a.id)
    (matching db request before samples selected)
  have hne := (List.perm_insertionSort (fun a b : HistoryEvent => b.id ≤ a.id) _).symm.pairwise
    (pairwise_matching samples before h) (fun hne => hne.symm)
  refine (hle.and hne).imp fun {a b} hab => ?_
  exact Int.ofNat_lt.mpr (lt_of_le_of_ne hab.1 (Ne.symm hab.2))

/-- **A page is a page** of the rows that match. -/
theorem isPage_historyEvents {cursor : Option ℤ} {limit : ℕ} {response : HistoryEventsResponse}
    (h : historyEvents db request cursor limit samples now now' = .ok response) :
    request.fromMs < now ∧ ∃ selected, epochs db request now' = .ok selected ∧
      IsPage eventId (matching db request (cursor.getD 9223372036854775807) samples selected)
        (cursor.getD 9223372036854775807) response.page := by
  obtain ⟨⟨⟩, hvalid, h⟩ := Except.bind_eq_ok_iff.mp h
  refine ⟨(HistoryRequest.valid_of_validate (Except.mapError_eq_ok_iff.mp hvalid)).fromMs_lt, ?_⟩
  dsimp only at h
  split_ifs at h with hlimit
  · obtain ⟨selected, hepochs, h⟩ := Except.bind_eq_ok_iff.mp h
    refine ⟨selected, hepochs, ?_⟩
    by_cases hnone : selected = []
    · -- no epoch, no row
      rw [if_pos hnone] at h
      obtain rfl := Except.ok.inj h
      refine Scroll.isPage_nil fun event hevent => ?_
      obtain ⟨⟨r, -, row, hrow, hsel, -⟩, -⟩ := (mem_matching hepochs).mp hevent
      have hmem := (mem_epochs hepochs).mpr ⟨_, hrow, hsel, rfl⟩
      rw [hnone] at hmem
      exact absurd hmem List.not_mem_nil
    · rw [if_neg hnone] at h
      obtain rfl := Except.ok.inj h
      refine Scroll.isPage_cut (by omega) (fun event => ?_) (pairwise_sorted hepochs)
      rw [List.mem_insertionSort]
      exact ⟨fun hmem => ⟨hmem, ((mem_matching hepochs).mp hmem).2.2.2⟩, fun hmem => hmem.1⟩
  · cases h

/-! ## The epochs of a run -/

/-- The epoch is selected, and its rows are shown as they were. -/
def ShownAs (request : HistoryRequest) (info info' : EpochInfo) : Prop :=
  Selects request info' ∧ ∀ r, HistoryEvent.ofRow r info' = HistoryEvent.ofRow r info

theorem shownAs_close {info : EpochInfo} (h : Selects request row.toEpochInfo)
    (hshown : ∀ r, HistoryEvent.ofRow r row.toEpochInfo = HistoryEvent.ofRow r info)
    (hfrom : request.fromMs < now) : ShownAs request info (row.close now).toEpochInfo := by
  refine ⟨⟨h.1, h.2.1, fun ended hended => ?_⟩, hshown⟩
  obtain rfl : max row.startedMs now = ended := Option.some.inj hended
  exact lt_of_lt_of_le hfrom (le_max_right _ _)

/-- Synchronizing closes epochs and opens others. -/
theorem shownAs_syncEpochs (hone : OneActive db) (hosts : List Host)
    (hmem : (id, row) ∈ db.epochs.rows) (hsel : Selects request row.toEpochInfo)
    (hfrom : request.fromMs < now) : ∃ row', (id, row') ∈ (syncEpochs db hosts now).epochs.rows ∧
      ShownAs request row.toEpochInfo row'.toEpochInfo := by
  refine syncEpochs_induction (P := fun db' => ∃ row', (id, row') ∈ db'.epochs.rows ∧
    ShownAs request row.toEpochInfo row'.toEpochInfo) hone ?_ ?_ ⟨row, hmem, hsel, fun _ => rfl⟩
  · rintro db' closed - - - - - - ⟨row', hmem', hsel', hshown⟩
    by_cases hid : id = closed
    · exact ⟨_, mem_closeEpoch.mpr ⟨row', hmem', if_pos hid⟩, shownAs_close hsel' hshown hfrom⟩
    · exact ⟨row', mem_closeEpoch_of_ne hmem' hid, hsel', hshown⟩
  · rintro db' t - - - ⟨row', hmem', hshown⟩
    exact ⟨row', mem_openEpoch.mpr (Or.inl hmem'), hshown⟩

/-- Pruning leaves the epochs of the rows that it leaves. -/
theorem mem_epochs_prune {scan : Table.LimitScan} {limit usageRetention : ℕ}
    (hmem : (id, row) ∈ db.epochs.rows)
    (hr : ∃ r ∈ feed samples (prune scan limit db now config usageRetention).1, r.2.epochId = id) :
    (id, row) ∈ (prune scan limit db now config usageRetention).1.epochs.rows := by
  obtain ⟨raw, gone, events, heq, -⟩ := prune_eq config now scan limit db usageRetention
  rw [heq] at hr ⊢
  obtain ⟨r, hr, rfl⟩ := hr
  refine Table.mem_deleteLimit_of_not hmem (Bool.eq_false_iff.mpr fun hspent => ?_)
  obtain ⟨-, hraw, -, -, hevents⟩ := isSpent_eq_true.mp hspent
  unfold feed at hr
  split_ifs at hr
  · obtain ⟨raw, hraw', rfl⟩ := List.mem_map.mp hr
    exact hraw raw hraw' rfl
  · exact hevents r hr rfl

/-- **An epoch that is selected stays so**, and is shown the same, through
every call that leaves one of its rows. -/
theorem shownAs_apply (hone : OneActive db) (op : HistoryOp) (hmem : (id, row) ∈ db.epochs.rows)
    (hsel : Selects request row.toEpochInfo) (hfrom : request.fromMs < now)
    (hr : ∃ r ∈ feed samples (op.apply config now db), r.2.epochId = id) :
    ∃ row', (id, row') ∈ (op.apply config now db).epochs.rows ∧
      ShownAs request row.toEpochInfo row'.toEpochInfo := by
  cases op with
  | syncEpochs hosts => exact shownAs_syncEpochs hone hosts hmem hsel hfrom
  | record host module check at_ observation =>
    simp only [HistoryOp.apply]
    rcases record_cases db host module check at_ observation now with
      h | ⟨active, last, -, -, h⟩ <;> rw [h]
    · exact ⟨row, hmem, hsel, fun _ => rfl⟩
    · refine ⟨_, mem_accept_epochs.mpr ⟨row, hmem, rfl⟩, ?_⟩
      split_ifs <;> exact ⟨hsel, fun _ => rfl⟩
  | rollup limit =>
    simp only [HistoryOp.apply, (rollup_frame config now db limit).1]
    exact ⟨row, hmem, hsel, fun _ => rfl⟩
  | prune scan usageRetention limit => exact ⟨row, mem_epochs_prune hmem hr, hsel, fun _ => rfl⟩

end SimpleNetworkMonitor.History
