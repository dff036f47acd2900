import SimpleNetworkMonitor.Storage.Model.Text
/-!
# Comparing text is comparing times

Within the years 0 to 9999 the text of an instant orders as the instant does.
A statement that compares, orders or takes the maximum of stored text then
does what the same statement does with the instants.
-/

namespace SimpleNetworkMonitor.Storage

variable {db : Database} {cutoff : ℤ}

/-- **Every timestamp of the database** is of the years 0 to 9999. -/
structure Database.InYears (db : Database) : Prop where
  samples : ∀ r ∈ db.usageSamples.rows, SimpleNetworkMonitor.InYears r.2.snapshot.collectedAt
  history : ∀ r ∈ db.usageHistory.rows, SimpleNetworkMonitor.InYears r.2.snapshot.collectedAt
  transitions : ∀ r ∈ db.transitions.rows, SimpleNetworkMonitor.InYears r.2.changedAt
  coverage : ∀ r ∈ db.usageCoverage.rows, SimpleNetworkMonitor.InYears r.2.startedAt
  floor : ∀ floor ∈ db.retentionFloor, SimpleNetworkMonitor.InYears floor

instance (db : Database) : Decidable db.InYears :=
  decidable_of_iff
    ((∀ r ∈ db.usageSamples.rows, SimpleNetworkMonitor.InYears r.2.snapshot.collectedAt) ∧
      (∀ r ∈ db.usageHistory.rows, SimpleNetworkMonitor.InYears r.2.snapshot.collectedAt) ∧
      (∀ r ∈ db.transitions.rows, SimpleNetworkMonitor.InYears r.2.changedAt) ∧
      (∀ r ∈ db.usageCoverage.rows, SimpleNetworkMonitor.InYears r.2.startedAt) ∧
      ∀ floor ∈ db.retentionFloor, SimpleNetworkMonitor.InYears floor)
    ⟨fun ⟨h₁, h₂, h₃, h₄, h₅⟩ => ⟨h₁, h₂, h₃, h₄, h₅⟩,
      fun ⟨h₁, h₂, h₃, h₄, h₅⟩ => ⟨h₁, h₂, h₃, h₄, h₅⟩⟩

/-- **The statements over text do what they do over instants**, at a cutoff. -/
structure Chronological (db : Database) (cutoff : ℤ) : Prop where
  deleteOldSamples : ∀ hostId, Text.deleteOldSamples db hostId cutoff =
    db.usageSamples.deleteWhere fun _ row =>
      row.hostId = hostId && row.snapshot.collectedAt < cutoff
  pruneSamples : ∀ scan, Text.pruneSamples db cutoff scan =
    pruneLog scan db.usageSamples fun _ row => row.snapshot.collectedAt < cutoff
  pruneTransitions : ∀ scan, Text.pruneTransitions db cutoff scan =
    pruneLog scan db.transitions fun _ row => row.changedAt < cutoff
  pruneUsageHistory : ∀ scan, Text.pruneUsageHistory db cutoff scan =
    pruneLog scan db.usageHistory (isOutdated db cutoff)
  raiseFloor : Text.raiseFloor db cutoff =
    textOf (db.retentionFloor.elim cutoff (max · cutoff))
  isCovered : ∀ hostId, Text.isCovered db hostId cutoff = isCovered db hostId cutoff
  stateAtOrBefore : ∀ hostId predicate, Except.ok (Text.stateAtOrBefore db hostId cutoff predicate) =
    (sqliteInactivityHistory db hostId).stateAtOrBefore cutoff predicate
  windowBreaksInactivity : ∀ hostId predicate,
    Except.ok (Text.windowBreaksInactivity db hostId cutoff predicate) =
      (sqliteInactivityHistory db hostId).windowBreaksInactivity cutoff predicate
  sameTransition : ∀ event, event.changedAt = cutoff → ∀ r ∈ db.transitions.rows,
    Text.sameTransition event r.2 = sameTransition event r.2
  loadHistory : ∀ hostId limit, Text.loadHistory db hostId limit =
    (db.transitions.newestFirst (·.changedAt) (·.hostId = hostId)).take limit
  loadUsageRows : ∀ rows ∈ [db.usageHistory, db.usageSamples], ∀ hostId limit,
    Text.loadUsageRows hostId rows limit =
      (rows.newestFirst (·.snapshot.collectedAt) (·.hostId = hostId)).take limit

/-! ## Logs of instants -/

section Logs

variable {α : Type} {l : Log α} {p q : α → Bool}

/-- **Ordering rows by text** orders them by time. -/
theorem newestFirst_textOf (key : α → ℤ) (h : ∀ r ∈ l.rows, InYears (key r.2))
    (hp : ∀ r ∈ l.rows, p r.2 = q r.2) :
    l.newestFirst (fun v => textOf (key v)) p = l.newestFirst key q :=
  Log.newestFirst_congr hp (fun r hr s hs => textOf_lt_iff (h r hr) (h s hs))
    fun r hr s hs => textOf_inj (h r hr) (h s hs)

theorem pruneLog_congr {p q : ℕ → α → Bool} (scan : Table.LimitScan)
    (h : ∀ r ∈ l.rows, p r.1 r.2 = q r.1 r.2) : pruneLog scan l p = pruneLog scan l q := by
  unfold pruneLog
  rw [Log.deleteLimit_congr scan _ h]

end Logs

theorem any_congr_mem {α : Type} {l : List α} {p q : α → Bool} (h : ∀ r ∈ l, p r = q r) :
    l.any p = l.any q := by
  rw [Bool.eq_iff_iff, List.any_eq_true, List.any_eq_true]
  exact exists_congr fun r => and_congr_right fun hr => by rw [h r hr]

section Instants

variable {a b : ℤ}

theorem decide_textOf_lt (ha : InYears a) (hb : InYears b) :
    decide (textOf a < textOf b) = decide (a < b) := decide_eq_decide.mpr (textOf_lt_iff ha hb)

theorem decide_textOf_le (ha : InYears a) (hb : InYears b) :
    decide (textOf a ≤ textOf b) = decide (a ≤ b) := decide_eq_decide.mpr (textOf_le_iff ha hb)

theorem decide_textOf_eq (ha : InYears a) (hb : InYears b) :
    decide (textOf a = textOf b) = decide (a = b) := decide_eq_decide.mpr (textOf_inj ha hb)

theorem max_textOf (ha : InYears a) (hb : InYears b) :
    max (textOf a) (textOf b) = textOf (max a b) := by
  rcases le_total a b with hle | hle
  · rw [max_eq_right hle, max_eq_right ((textOf_le_iff ha hb).mpr hle)]
  · rw [max_eq_left hle, max_eq_left ((textOf_le_iff hb ha).mpr hle)]

end Instants

/-! ## The statements -/

theorem anchor_textOf (hdb : db.InYears) (hcutoff : InYears cutoff) (hostId : String) :
    Text.anchor db hostId cutoff = anchor db hostId cutoff := by
  rw [Text.anchor, anchor, ← Log.head?_newestFirst,
    newestFirst_textOf (fun row : UsageRow => row.snapshot.collectedAt) hdb.history]
  intro r hr
  rw [decide_textOf_lt (hdb.history r hr) hcutoff]

theorem isOutdated_textOf (hdb : db.InYears) (hcutoff : InYears cutoff) {r : ℕ × UsageRow}
    (hr : r ∈ db.usageHistory.rows) :
    Text.isOutdated db cutoff r.1 r.2 = isOutdated db cutoff r.1 r.2 := by
  rw [Text.isOutdated, isOutdated, anchor_textOf hdb hcutoff,
    decide_textOf_lt (hdb.history r hr) hcutoff]

theorem isCovered_textOf (hdb : db.InYears) (hcutoff : InYears cutoff) (hostId : String) :
    Text.isCovered db hostId cutoff = isCovered db hostId cutoff := by
  have hfloor : db.retentionFloor.any (fun floor => decide (textOf cutoff < textOf floor)) =
      db.retentionFloor.any (fun floor => decide (cutoff < floor)) := by
    rcases h : db.retentionFloor with - | floor
    · rfl
    · simp only [Option.any_some]
      rw [decide_textOf_lt hcutoff (hdb.floor floor h)]
  have hstarted : (db.usageCoverage.find? hostId).any
      (fun coverage => decide (textOf coverage.startedAt ≤ textOf cutoff)) =
      (db.usageCoverage.find? hostId).any (fun coverage => decide (coverage.startedAt ≤ cutoff)) := by
    rcases h : db.usageCoverage.find? hostId with - | coverage
    · rfl
    · have hrow := Table.find?_eq_some.mp h
      simp only [Option.any_some]
      rw [decide_textOf_le (hdb.coverage (hostId, coverage) hrow) hcutoff]
  rw [Text.isCovered, isCovered, hfloor, hstarted]

theorem stateAtOrBefore_textOf (hdb : db.InYears) (hcutoff : InYears cutoff) (hostId : String)
    (predicate : ActivityPredicate) :
    Except.ok (Text.stateAtOrBefore db hostId cutoff predicate) =
      (sqliteInactivityHistory db hostId).stateAtOrBefore cutoff predicate := by
  refine congrArg Except.ok ?_
  rw [Text.stateAtOrBefore, ← Log.head?_newestFirst,
    newestFirst_textOf (fun row : UsageRow => row.snapshot.collectedAt) hdb.history]
  intro r hr
  rw [decide_textOf_le (hdb.history r hr) hcutoff]

theorem windowBreaksInactivity_textOf (hdb : db.InYears) (hcutoff : InYears cutoff)
    (hostId : String) (predicate : ActivityPredicate) :
    Except.ok (Text.windowBreaksInactivity db hostId cutoff predicate) =
      (sqliteInactivityHistory db hostId).windowBreaksInactivity cutoff predicate := by
  refine congrArg Except.ok ?_
  simp only [Text.windowBreaksInactivity, Log.values, List.any_map]
  refine any_congr_mem fun r hr => ?_
  simp only [Function.comp_apply]
  rw [decide_textOf_lt hcutoff (hdb.history r hr)]

theorem chronological (hdb : db.InYears) (hcutoff : InYears cutoff) : Chronological db cutoff where
  deleteOldSamples hostId := Log.deleteWhere_congr fun r hr => by
    rw [decide_textOf_lt (hdb.samples r hr) hcutoff]
  pruneSamples scan := pruneLog_congr scan fun r hr =>
    decide_textOf_lt (hdb.samples r hr) hcutoff
  pruneTransitions scan := pruneLog_congr scan fun r hr =>
    decide_textOf_lt (hdb.transitions r hr) hcutoff
  pruneUsageHistory scan := pruneLog_congr scan fun _ hr => isOutdated_textOf hdb hcutoff hr
  raiseFloor := by
    unfold Text.raiseFloor
    rcases h : db.retentionFloor with - | floor
    · rfl
    · exact max_textOf (hdb.floor floor h) hcutoff
  isCovered hostId := isCovered_textOf hdb hcutoff hostId
  stateAtOrBefore hostId predicate := stateAtOrBefore_textOf hdb hcutoff hostId predicate
  windowBreaksInactivity hostId predicate :=
    windowBreaksInactivity_textOf hdb hcutoff hostId predicate
  sameTransition event hevent r hr := by
    rw [Text.sameTransition, sameTransition,
      decide_textOf_eq (hdb.transitions r hr) (hevent ▸ hcutoff)]
  loadHistory hostId limit := by
    rw [Text.loadHistory, newestFirst_textOf (fun row : IcmpTransition => row.changedAt) hdb.transitions fun _ _ => rfl]
  loadUsageRows rows hrows hostId limit := by
    have hyears : ∀ r ∈ rows.rows, InYears r.2.snapshot.collectedAt := by
      rcases List.mem_pair.mp hrows with rfl | rfl
      · exact hdb.history
      · exact hdb.samples
    rw [Text.loadUsageRows, newestFirst_textOf (fun row : UsageRow => row.snapshot.collectedAt) hyears fun _ _ => rfl]

/-- **Comparing stored timestamps as text is comparing times**: the bytes of
two texts compare as the instants do, and every statement over text is the
statement over instants. -/
theorem text_order_is_time_order :
    (∀ a b : ℤ, InYears a → InYears b →
      (textOf a < textOf b ↔ a < b) ∧ (textOf a = textOf b ↔ a = b) ∧
        max (textOf a) (textOf b) = textOf (max a b)) ∧
    (∀ {α : Type} (rows : Log α) (column : α → ℤ) (accepted : α → Bool),
      (∀ r ∈ rows.rows, InYears (column r.2)) →
        rows.newestFirst (fun v => textOf (column v)) accepted = rows.newestFirst column accepted) ∧
    ∀ (db : Database) (cutoff : ℤ), db.InYears → InYears cutoff → Chronological db cutoff :=
  ⟨fun _ _ ha hb => ⟨textOf_lt_iff ha hb, textOf_inj ha hb, max_textOf ha hb⟩,
    fun _ column _ h => newestFirst_textOf column h fun _ _ => rfl, fun _ _ => chronological⟩

/-- Two usage rows within one second, of texts of different lengths. -/
def sampleTexts : Database where
  usageHistory :=
    ((∅ : Log UsageRow).append ⟨"node-a", .success 1709210096120000000 0 0⟩).append
      ⟨"node-a", .success 1709210096123456000 1 0⟩
  retentionFloor := some 0

theorem sampleTexts_chronological :
    (textOf 1709210096120000000 < textOf 1709210096123456000 ↔
      (1709210096120000000 : ℤ) < 1709210096123456000) ∧
      Chronological sampleTexts 1709210096123000000 :=
  ⟨(text_order_is_time_order.1 1709210096120000000 1709210096123456000 (by decide +kernel)
      (by decide +kernel)).1,
    text_order_is_time_order.2.2 sampleTexts 1709210096123000000 (by decide +kernel)
      (by decide +kernel)⟩

end SimpleNetworkMonitor.Storage
