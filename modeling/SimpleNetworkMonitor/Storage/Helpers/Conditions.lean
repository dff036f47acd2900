import SimpleNetworkMonitor.Domain.Conditions
import SimpleNetworkMonitor.Storage.Helpers.Watched
import SimpleNetworkMonitor.Storage.Model.Read
/-!
# A filter is a conjunction of its conditions

The matcher shares the checks of freshness and of coverage between the two
inactivity conditions, and makes the second for the longer window only.
Coverage since an instant is coverage since any later one, so each condition
is met as if it stood alone.
-/

namespace SimpleNetworkMonitor.Storage

variable {db : Database} {host : Host} {snapshot : UsageSnapshot} {record : HostRecord} {now : ℤ}
variable {predicate : ActivityPredicate} {duration : ℕ}

/-! ## One inactivity condition -/

/-- **A snapshot that breaks no claim** of inactivity. -/
def Quiet (predicate : ActivityPredicate) (snapshot : UsageSnapshot) : Prop :=
  snapshot.status = .ok ∧ predicate.matchesCounts snapshot = false

/-- **Quiet since the cutoff**: so says the row at the cutoff, and each later
one. -/
structure QuietSince (db : Database) (hostId : String) (predicate : ActivityPredicate) (cutoff : ℤ) :
    Prop where
  atCutoff : ∃ r, rowAt db hostId cutoff = some r ∧ Quiet predicate r.2.snapshot
  later : ∀ r ∈ db.usageHistory.rows, r.2.hostId = hostId → cutoff < r.2.snapshot.collectedAt →
    Quiet predicate r.2.snapshot

/-- **Inactive for a duration**, as a filter that asks for it alone decides
it. -/
structure InactiveFor (db : Database) (host : Host) (snapshot : UsageSnapshot) (now : ℤ)
    (predicate : ActivityPredicate) (duration : ℕ) : Prop where
  enabled : host.modules.usage.enabled = true
  fresh : isFresh (some snapshot.collectedAt) host.modules.usage.interval
    host.modules.usage.timeout now = true
  covered : isCovered db host.id (now - duration) = true
  current : predicate.currentStateIsInactive snapshot = true
  valid : validateDuration duration = .ok ()
  hasCutoff : HasCutoff now duration
  quiet : QuietSince db host.id predicate (now - duration)

/-- **The two questions** to the rows of the history. -/
theorem quietSince_iff {cutoff : ℤ} :
    QuietSince db host.id predicate cutoff ↔
      (sqliteInactivityHistory db host.id).stateAtOrBefore cutoff predicate =
          .ok (some (.ok false)) ∧
        (sqliteInactivityHistory db host.id).windowBreaksInactivity cutoff predicate =
          .ok false := by
  have hstate : (sqliteInactivityHistory db host.id).stateAtOrBefore cutoff predicate =
      .ok (some (.ok false)) ↔
        ∃ r, rowAt db host.id cutoff = some r ∧ Quiet predicate r.2.snapshot := by
    refine ⟨fun h => ?_, fun ⟨r, hr, hok, hcounts⟩ => ?_⟩
    · obtain ⟨r, hr, h⟩ := Option.map_eq_some_iff.mp (Except.ok.inj h)
      split_ifs at h with hok
      exact ⟨r, hr, hok, StateAtCutoff.ok.inj h⟩
    · refine congrArg Except.ok (Option.map_eq_some_iff.mpr ⟨r, hr, ?_⟩)
      rw [if_pos hok, hcounts]
  have hwindow : (sqliteInactivityHistory db host.id).windowBreaksInactivity cutoff predicate =
      .ok false ↔ ∀ r ∈ db.usageHistory.rows, r.2.hostId = host.id →
        cutoff < r.2.snapshot.collectedAt → Quiet predicate r.2.snapshot := by
    refine ⟨fun h r hr hid hlt => ?_, fun h => congrArg Except.ok (List.any_eq_false.mpr ?_)⟩
    · have hnone := List.any_eq_false.mp (Except.ok.inj h) r.2 (List.mem_map_of_mem hr)
      simpa [hid, hlt, Quiet] using hnone
    · intro row hrow
      obtain ⟨r, hr, rfl⟩ := List.mem_map.mp hrow
      simp only [Bool.and_eq_true, Bool.or_eq_true, decide_eq_true_eq, not_and, not_or]
      rintro ⟨hid, hlt⟩
      obtain ⟨hok, hcounts⟩ := h r hr hid hlt
      simp [hok, hcounts]
  rw [hstate, hwindow]
  exact ⟨fun h => ⟨h.atCutoff, h.later⟩, fun h => ⟨h.1, h.2⟩⟩

/-- **The row at an instant** that is as old as an earlier one is the row
there too: nothing was written in between. -/
theorem rowAt_of_le {early late : ℤ} {r : ℕ × UsageRow} {id : String}
    (hr : rowAt db id late = some r) (hle : early ≤ late)
    (hold : r.2.snapshot.collectedAt ≤ early) : rowAt db id early = some r := by
  obtain ⟨hmem, hid, -⟩ := mem_rowAt hr
  refine Log.latest?_eq_some hmem (by simp [hid, hold]) fun q hq hp => ?_
  simp only [Bool.and_eq_true, decide_eq_true_eq] at hp
  have hle' : q.2.snapshot.collectedAt ≤ late := le_trans hp.2 hle
  exact Log.le_of_latest? hr hq (by simp [hp.1, hle'])

/-- **Quiet since the cutoff is quiet at any later instant.** -/
theorem QuietSince.quiet_rowAt {id : String} {cutoff t : ℤ} {r : ℕ × UsageRow}
    (h : QuietSince db id predicate cutoff) (ht : cutoff ≤ t) (hr : rowAt db id t = some r) :
    Quiet predicate r.2.snapshot := by
  obtain ⟨hmem, hid, -⟩ := mem_rowAt hr
  by_cases hold : r.2.snapshot.collectedAt ≤ cutoff
  · obtain ⟨r', hr', hquiet⟩ := h.atCutoff
    obtain rfl : r' = r := Option.some.inj (hr'.symm.trans (rowAt_of_le hr ht hold))
    exact hquiet
  · exact h.later r hmem hid (not_le.mp hold)

theorem matchesInactivity_eq_ok_true {asked : Option ℕ} :
    matchesInactivity db host snapshot now asked predicate = .ok true ↔
      ∀ duration, asked = some duration →
        predicate.currentStateIsInactive snapshot = true ∧ validateDuration duration = .ok () ∧
          HasCutoff now duration ∧ QuietSince db host.id predicate (now - duration) := by
  cases asked with
  | none => simp [matchesInactivity]
  | some duration =>
    rw [matchesInactivity, Except.mapError_eq_ok_iff, evaluateInactivity_eq_ok_true,
      ← quietSince_iff]
    exact ⟨fun h _ he => Option.some.inj he ▸ h, fun h => h duration rfl⟩

/-! ## The shared checks -/

theorem checkedCutoff_of_hasCutoff (h : HasCutoff now duration) :
    checkedCutoff now duration = .ok (now - duration) := by
  simp only [checkedCutoff, fromStd_of_hasCutoff h, checkedSubSigned_of_hasCutoff h]

/-- **Covered since an instant** is covered since any later one. -/
theorem isCovered_mono {early late : ℤ} (h : isCovered db host.id early = true) (hle : early ≤ late) :
    isCovered db host.id late = true := by
  rw [isCovered, Bool.and_eq_true] at h ⊢
  obtain ⟨coverage, hcoverage, hstarted⟩ := (Option.any_eq_true _ _).mp h.1
  refine ⟨(Option.any_eq_true _ _).mpr ⟨coverage, hcoverage, ?_⟩, ?_⟩
  · exact decide_eq_true (le_trans (of_decide_eq_true hstarted) hle)
  · rcases hfloor : db.retentionFloor with - | floor
    · rfl
    · have hkept := h.2
      rw [hfloor] at hkept
      simp only [Option.any_some, Bool.not_eq_true', decide_eq_false_iff_not, not_lt] at hkept ⊢
      exact le_trans hkept hle

theorem isFresh_and_enabled :
    (!host.modules.usage.enabled || !isFresh (some snapshot.collectedAt) host.modules.usage.interval
      host.modules.usage.timeout now) = false ↔
        host.modules.usage.enabled = true ∧ isFresh (some snapshot.collectedAt)
          host.modules.usage.interval host.modules.usage.timeout now = true := by
  rw [Bool.or_eq_false_iff, Bool.not_eq_false', Bool.not_eq_false']

/-- **A usage filter** accepts a snapshot where each of its conditions does. -/
theorem matchesUsageFilter_eq_ok_true {filter : UsageFilter} :
    matchesUsageFilter db host snapshot filter = .ok true ↔
      (∀ status, filter.status = some status → snapshot.status = status) ∧
        ∀ predicate duration, ActivityPredicate.durationOf predicate filter = some duration →
          InactiveFor db host snapshot filter.now predicate duration := by
  unfold matchesUsageFilter
  rw [Except.guard_eq_ok_true]
  refine and_congr (by cases filter.status <;> simp) ?_
  by_cases hasked : (filter.inactiveConsoleFor.isSome || filter.noUsersFor.isSome) = true
  · simp only [hasked, if_true]
    rw [Except.guard_eq_ok_true, Except.bind_eq_ok_iff]
    simp only [Except.guard_eq_ok_true, Except.demand_eq_ok_true, matchesInactivity_eq_ok_true,
      isFresh_and_enabled, Bool.not_eq_false']
    constructor
    · rintro ⟨⟨henabled, hfresh⟩, cutoff, hcutoff, hcovered, hconsole, hany, -⟩ predicate duration hd
      have hinactive : predicate.currentStateIsInactive snapshot = true ∧
          validateDuration duration = .ok () ∧ HasCutoff filter.now duration ∧
            QuietSince db host.id predicate (filter.now - duration) := by
        cases predicate with
        | consoleOnly => exact hconsole duration hd
        | anyUser => exact hany duration hd
      obtain ⟨hcurrent, hvalid, hhas, hquiet⟩ := hinactive
      -- the coverage was checked for the longer window
      have hle : cutoff ≤ filter.now - duration := by
        rw [checkedCutoff_eq_ok hcutoff]
        cases predicate <;> simp only [ActivityPredicate.durationOf] at hd <;>
          simp only [hd, Option.getD_some] <;> omega
      exact ⟨henabled, hfresh, isCovered_mono hcovered hle, hcurrent, hvalid, hhas, hquiet⟩
    · intro h
      -- the longer window is the one of a condition
      obtain ⟨predicate, hd⟩ : ∃ predicate : ActivityPredicate, predicate.durationOf filter =
          some (max (filter.inactiveConsoleFor.getD 0) (filter.noUsersFor.getD 0)) := by
        rcases hconsole : filter.inactiveConsoleFor with - | console <;>
          rcases hany : filter.noUsersFor with - | any
        · simp [hconsole, hany] at hasked
        · exact ⟨.anyUser, by simp [ActivityPredicate.durationOf, hany]⟩
        · exact ⟨.consoleOnly, by simp [ActivityPredicate.durationOf, hconsole]⟩
        · rcases le_total console any with hle | hle
          · exact ⟨.anyUser, by simp [ActivityPredicate.durationOf, hany, hle]⟩
          · exact ⟨.consoleOnly, by simp [ActivityPredicate.durationOf, hconsole, hle]⟩
      have hlonger := h predicate _ hd
      refine ⟨⟨hlonger.enabled, hlonger.fresh⟩, _, checkedCutoff_of_hasCutoff hlonger.hasCutoff,
        hlonger.covered, fun duration hd => ?_, fun duration hd => ?_, rfl⟩
      · have hthis := h .consoleOnly duration hd
        exact ⟨hthis.current, hthis.valid, hthis.hasCutoff, hthis.quiet⟩
      · have hthis := h .anyUser duration hd
        exact ⟨hthis.current, hthis.valid, hthis.hasCutoff, hthis.quiet⟩
  · obtain ⟨hconsole, hany⟩ : filter.inactiveConsoleFor = none ∧ filter.noUsersFor = none := by
      simpa using hasked
    simp only [hconsole, hany]
    refine ⟨fun _ predicate duration hd => ?_, fun _ => rfl⟩
    cases predicate <;> simp [ActivityPredicate.durationOf, hconsole, hany] at hd

/-! ## All conditions -/

/-- **Met** by a host with its record. -/
def Met (db : Database) (record : HostRecord) (now : ℤ) : Condition → Prop
  | .group group => group ∈ record.host.groups
  | .icmpStatus status => record.state.status = status
  | .metadata field expected => ∃ entry, record.host.metadata.find? (·.1 = field) = some entry ∧
      metadataValueMatches entry.2 expected = true
  | .usageStatus status => ∃ snapshot, record.usage = some snapshot ∧ snapshot.status = status
  | .inactive predicate duration => ∃ snapshot, record.usage = some snapshot ∧
      InactiveFor db record.host snapshot now predicate duration

/-- A usage filter without a condition. -/
theorem isEmpty_iff {filter : UsageFilter} : filter.isEmpty = true ↔
    (∀ status, filter.status ≠ some status) ∧
      ∀ predicate duration, ActivityPredicate.durationOf predicate filter ≠ some duration := by
  simp only [UsageFilter.isEmpty, Bool.and_eq_true, Option.isNone_iff_eq_none]
  constructor
  · rintro ⟨⟨hstatus, hconsole⟩, hany⟩
    refine ⟨by simp [hstatus], fun predicate duration => ?_⟩
    cases predicate <;> simp [ActivityPredicate.durationOf, hconsole, hany]
  · rintro ⟨hstatus, hduration⟩
    exact ⟨⟨Option.eq_none_iff_forall_ne_some.mpr hstatus,
      Option.eq_none_iff_forall_ne_some.mpr (hduration .consoleOnly)⟩,
      Option.eq_none_iff_forall_ne_some.mpr (hduration .anyUser)⟩

/-- What is asked of the usage of a host is met by the snapshot it has. -/
theorem matches_usage_iff {filter : UsageFilter} :
    (if (!filter.isEmpty) = true then
      match record.usage with
      | none => pure false
      | some snapshot => matchesUsageFilter db record.host snapshot filter
    else pure true : Except StorageError Bool) = .ok true ↔
      (∀ status, filter.status = some status → Met db record filter.now (.usageStatus status)) ∧
        ∀ predicate duration, ActivityPredicate.durationOf predicate filter = some duration →
          Met db record filter.now (.inactive predicate duration) := by
  by_cases hempty : filter.isEmpty = true
  · obtain ⟨hstatus, hduration⟩ := isEmpty_iff.mp hempty
    simp only [hempty, Bool.not_true, Bool.false_eq_true, if_false]
    exact ⟨fun _ => ⟨fun status h => absurd h (hstatus status),
      fun predicate duration h => absurd h (hduration predicate duration)⟩, fun _ => rfl⟩
  · simp only [hempty, Bool.not_false, if_true]
    rcases husage : record.usage with - | snapshot
    · -- a host without usage meets no condition on it, and there is one
      simp only [Met, husage, reduceCtorEq, false_and, exists_false, imp_false]
      exact ⟨fun h => absurd (Except.ok.inj h) (by simp), fun h => absurd (isEmpty_iff.mpr h) hempty⟩
    · simp only [matchesUsageFilter_eq_ok_true, Met, husage, Option.some.injEq, exists_eq_left']

/-- **A filter accepts** a host that meets each of its conditions, and no
other. -/
theorem matchesHostFilter_eq_ok_true {filter : HostFilter} :
    matchesHostFilter db record filter = .ok true ↔
      ∀ c ∈ filter.conditions, Met db record filter.usage.now c := by
  unfold matchesHostFilter
  rw [Except.guard_eq_ok_true, Except.guard_eq_ok_true, Except.guard_eq_ok_true,
    forall_mem_conditions]
  refine and_congr ?_ (and_congr ?_ (and_congr ?_ ?_))
  · cases filter.icmpStatus <;> simp [Met]
  · cases filter.group <;> simp [Met]
  · simp [Met, Option.any_eq_true]
  · exact matches_usage_iff

/-- A filter that asks nothing of the usage can be evaluated. -/
theorem exists_matchesHostFilter {filter : HostFilter} (h : filter.usage.isEmpty = true) :
    ∃ b, matchesHostFilter db record filter = .ok b := by
  unfold matchesHostFilter
  simp only [h, Bool.not_true, Bool.false_eq_true, if_false]
  split_ifs
  all_goals exact ⟨_, rfl⟩

theorem matchesHostFilter_alone {c : Condition} :
    matchesHostFilter db record (c.alone now) = .ok true ↔ Met db record now c := by
  rw [matchesHostFilter_eq_ok_true, conditions_alone, now_alone, List.forall_mem_singleton]

end SimpleNetworkMonitor.Storage
