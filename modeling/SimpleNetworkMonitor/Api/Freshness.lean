import SimpleNetworkMonitor.Api.Helpers.Metrics
import SimpleNetworkMonitor.Api.Model.Responses
/-!
# Freshness is the same everywhere

The JSON of a host reports each of its checks as enabled or not, and as
stale or not. The gauges, the readiness counts and the measurements that
need a fresh check are all read off the same reports.
-/

namespace SimpleNetworkMonitor.Api

open App Api.Metric

/-! ## What the JSON reports -/

/-- A check as the JSON of its host reports it. -/
structure CheckReport where
  id : String
  enabled : Bool
  stale : Bool

/-- The checks of a host, in the order the JSON has them, each under the name
it is scraped by. -/
def HostResponse.checks (dto : HostResponse) : List CheckReport :=
  ⟨"icmp", dto.icmpEnabled, dto.icmpStale⟩ :: ⟨"usage", dto.usageEnabled, dto.usageStale⟩ ::
    dto.tcp.map fun check => ⟨"tcp." ++ check.id, check.enabled, check.stale⟩

def reports (now : ℤ) (record : HostRecord) : List CheckReport :=
  (HostResponse.ofRecord now record).checks

/-- The timing of every check of a record. -/
def timings (record : HostRecord) : List (String × Timing) :=
  ("icmp", icmpTiming record) :: ("usage", usageTiming record) ::
    record.host.modules.tcp.checks.map fun check =>
      ("tcp." ++ check.id.value, tcpTiming record check)

variable {record : HostRecord} {now : ℤ} {s : Sample} {id : String}

/-- **A check is stale where it is not fresh.** -/
theorem reports_eq (now : ℤ) (record : HostRecord) :
    reports now record = (timings record).map fun check =>
      ⟨check.1, check.2.enabled, !check.2.fresh now⟩ := by
  simp [reports, HostResponse.checks, HostResponse.ofRecord, timings, Timing.fresh, icmpTiming,
    usageTiming, tcpTiming, Bool.not_and, Function.comp_def]

theorem enabled_and_fresh (timing : Timing) (now : ℤ) :
    (timing.enabled && !!timing.fresh now) = timing.fresh now := by
  rw [Bool.not_not, Timing.fresh, ← Bool.and_assoc, Bool.and_self]

/-! ## Gauges -/

theorem family_append (metric : Metric) (l l' : List Sample) :
    family metric (l ++ l') = family metric l ++ family metric l' :=
  List.filter_append l l'

theorem family_flatMap {α : Type} (metric : Metric) (l : List α) (f : α → List Sample) :
    family metric (l.flatMap f) = l.flatMap fun a => family metric (f a) :=
  List.filter_flatMap

theorem family_eq_nil {metric : Metric} {l : List Sample} (h : ∀ s ∈ l, s.metric ≠ metric) :
    family metric l = [] :=
  List.filter_eq_nil_iff.mpr fun s hs => by simpa using h s hs

/-- A gauge of a check that is one or zero. -/
def gauge (metric : Metric) (record : HostRecord) (checkId : String) (value : Bool) : Sample :=
  { metric, labels := checkLabels record.host checkId, value := .count value.toNat }

theorem family_common (record : HostRecord) (checkId : String) (timing : Timing) (now : ℤ) :
    family ENABLED (common (checkLabels record.host checkId) timing now) =
        [gauge ENABLED record checkId timing.enabled] ∧
      family FRESH (common (checkLabels record.host checkId) timing now) =
        [gauge FRESH record checkId (timing.fresh now)] := by
  obtain ⟨enabled, observed, interval, timeout⟩ := timing
  cases enabled with
  | false => exact ⟨rfl, rfl⟩
  | true => cases observed <;> exact ⟨rfl, rfl⟩

/-- The samples of a check have one gauge of each family, whatever else the
check writes. -/
theorem family_check {checkId : String} {timing : Timing} {l own : List Sample}
    (hl : l = common (checkLabels record.host checkId) timing now ++ own)
    (hown : ∀ s ∈ own, s.metric ≠ ENABLED ∧ s.metric ≠ FRESH) :
    family ENABLED l = [gauge ENABLED record checkId timing.enabled] ∧
      family FRESH l = [gauge FRESH record checkId (timing.fresh now)] := by
  obtain ⟨henabled, hfresh⟩ := family_common record checkId timing now
  rw [hl, family_append, family_append, henabled, hfresh,
    family_eq_nil fun s hs => (hown s hs).1, family_eq_nil fun s hs => (hown s hs).2]
  exact ⟨rfl, rfl⟩

theorem family_icmpMetrics (record : HostRecord) (now : ℤ) :
    family ENABLED (icmpMetrics record now) =
        [gauge ENABLED record "icmp" (icmpTiming record).enabled] ∧
      family FRESH (icmpMetrics record now) =
        [gauge FRESH record "icmp" ((icmpTiming record).fresh now)] := by
  obtain ⟨own, heq, hown⟩ := exists_icmpMetrics_eq record now
  refine family_check heq fun s hs => ?_
  rcases hown s hs with h | ⟨h, -⟩ <;> rw [h] <;> decide

theorem family_usageMetrics (record : HostRecord) (now : ℤ) :
    family ENABLED (usageMetrics record now) =
        [gauge ENABLED record "usage" (usageTiming record).enabled] ∧
      family FRESH (usageMetrics record now) =
        [gauge FRESH record "usage" ((usageTiming record).fresh now)] := by
  obtain ⟨own, heq, hown⟩ := exists_usageMetrics_eq record now
  refine family_check heq fun s hs => ?_
  rcases hown s hs with h | ⟨h, -⟩ <;> rw [h] <;> decide

theorem family_tcpCheckMetrics (record : HostRecord) (now : ℤ) (check : TcpCheckConfig) :
    family ENABLED (tcpCheckMetrics record now check) =
        [gauge ENABLED record ("tcp." ++ check.id.value) (tcpTiming record check).enabled] ∧
      family FRESH (tcpCheckMetrics record now check) =
        [gauge FRESH record ("tcp." ++ check.id.value) ((tcpTiming record check).fresh now)] := by
  obtain ⟨own, heq, hown⟩ := exists_tcpCheckMetrics_eq record now check
  refine family_check heq fun s hs => ?_
  rcases (hown s hs).2 with h | ⟨h, -⟩ <;> rw [h] <;> decide

/-- **The gauges of a record**, one of each family for every check. -/
theorem family_recordSamples (record : HostRecord) (now : ℤ) :
    family ENABLED (recordSamples record now) =
        (timings record).map (fun check => gauge ENABLED record check.1 check.2.enabled) ∧
      family FRESH (recordSamples record now) =
        (timings record).map fun check => gauge FRESH record check.1 (check.2.fresh now) := by
  obtain ⟨hicmp, hicmp'⟩ := family_icmpMetrics record now
  obtain ⟨husage, husage'⟩ := family_usageMetrics record now
  simp only [recordSamples, tcpMetrics, family_append, family_flatMap, hicmp, hicmp', husage,
    husage', (family_tcpCheckMetrics record now _).1, (family_tcpCheckMetrics record now _).2,
    timings, List.map_cons, List.map_map, Function.comp_def, List.nil_append, List.cons_append,
    ← List.map_eq_flatMap, and_self]

/-- The samples of the process hold no gauge of a check. -/
theorem family_runtimeMetrics (stats : RuntimeMetrics) :
    family ENABLED (stats.rows.flatMap fun row => runtimeMetrics row.1 row.2) = [] ∧
      family FRESH (stats.rows.flatMap fun row => runtimeMetrics row.1 row.2) = [] := by
  constructor <;> refine family_eq_nil fun s hs => ?_ <;>
    obtain ⟨row, -, hs⟩ := List.mem_flatMap.mp hs <;>
    rcases mem_runtimeMetrics hs with h | h | h <;> rw [h] <;> decide

/-- **The gauges of a scrape** are the reports of the JSON. -/
theorem family_samples (records : List HostRecord) (stats : RuntimeMetrics) (now : ℤ) :
    family ENABLED (samples records stats now) = records.flatMap (fun record =>
        (reports now record).map fun report => gauge ENABLED record report.id report.enabled) ∧
      family FRESH (samples records stats now) = records.flatMap fun record =>
        (reports now record).map fun report =>
          gauge FRESH record report.id (report.enabled && !report.stale) := by
  rw [samples, family_append, family_append, (family_runtimeMetrics stats).1,
    (family_runtimeMetrics stats).2, List.append_nil, List.append_nil]
  simp only [family_flatMap, (family_recordSamples _ now).1, (family_recordSamples _ now).2,
    reports_eq, List.map_map, Function.comp_def, enabled_and_fresh, and_self]

/-! ## Readiness -/

theorem sum_counts_gauges {α : Type} (metric : Metric) (record : HostRecord) (name : α → String)
    (p : α → Bool) (l : List α) :
    (counts (l.map fun a => gauge metric record (name a) (p a))).sum = l.countP p := by
  induction l with
  | nil => rfl
  | cons a l ih =>
    rw [List.map_cons, List.countP_cons, ← ih]
    cases p a <;> simp [counts, gauge, Nat.add_comm]

/-- The gauges of all records add up to the reports that are counted. -/
theorem sum_counts_flatMap (metric : Metric) (p : CheckReport → Bool) (now : ℤ)
    (records : List HostRecord) :
    (counts (records.flatMap fun record =>
        (reports now record).map fun report => gauge metric record report.id (p report))).sum =
      (records.map fun record => (reports now record).countP p).sum := by
  induction records with
  | nil => rfl
  | cons record records ih =>
    rw [List.flatMap_cons, List.map_cons, List.sum_cons, ← ih,
      ← sum_counts_gauges metric record CheckReport.id p, counts, counts, counts,
      List.filterMap_append, List.sum_append]

/-- What the readiness endpoint adds for a record is what its JSON reports. -/
theorem countP_reports (now : ℤ) (record : HostRecord) :
    (reports now record).countP (·.enabled) =
        (HostResponse.ofRecord now record).icmpEnabled.toNat +
          (HostResponse.ofRecord now record).usageEnabled.toNat +
          ((HostResponse.ofRecord now record).tcp.filter fun check => check.enabled).length ∧
      (reports now record).countP (fun report => report.enabled && !report.stale) =
        ((HostResponse.ofRecord now record).icmpEnabled &&
            !(HostResponse.ofRecord now record).icmpStale).toNat +
          ((HostResponse.ofRecord now record).usageEnabled &&
            !(HostResponse.ofRecord now record).usageStale).toNat +
          ((HostResponse.ofRecord now record).tcp.filter
            fun check => check.enabled && !check.stale).length := by
  generalize hdto : HostResponse.ofRecord now record = dto
  unfold reports HostResponse.checks
  rw [hdto]
  have htoNat : ∀ b : Bool, b.toNat = if b = true then 1 else 0 := by decide
  simp only [List.countP_cons, List.countP_map, Function.comp_def, ← List.countP_eq_length_filter,
    htoNat]
  constructor <;> omega

/-- How many of the reports of the records are counted. -/
def countReports (p : CheckReport → Bool) (now : ℤ) (records : List HostRecord) : ℕ :=
  (records.map fun record => (reports now record).countP p).sum

/-- **What the readiness endpoint answers**, in terms of the reports. -/
theorem readyz_ok (records : List HostRecord) (now : ℤ) :
    let enabled := countReports (·.enabled) now records
    let current := countReports (fun report => report.enabled && !report.stale) now records
    readyz (.ok records) now =
      .ok ⟨if enabled = current then 200 else 503,
        if enabled = current then "ready" else "waiting", enabled, current⟩ := by
  -- induction on the records, from any counts so far
  have hfold : ∀ (records : List HostRecord) (counts : ℕ × ℕ), records.foldl
      (fun (counts : ℕ × ℕ) record =>
        let dto := HostResponse.ofRecord now record
        (counts.1 + (dto.icmpEnabled.toNat + dto.usageEnabled.toNat +
            (dto.tcp.filter fun check => check.enabled).length),
          counts.2 + ((dto.icmpEnabled && !dto.icmpStale).toNat +
            (dto.usageEnabled && !dto.usageStale).toNat +
            (dto.tcp.filter fun check => check.enabled && !check.stale).length))) counts =
      (counts.1 + countReports (·.enabled) now records,
        counts.2 + countReports (fun report => report.enabled && !report.stale) now records) := by
    intro records
    induction records with
    | nil => intro counts; rfl
    | cons record records ih =>
      intro counts
      obtain ⟨henabled, hcurrent⟩ := countP_reports now record
      rw [List.foldl_cons, ih]
      simp only [countReports, List.map_cons, List.sum_cons, henabled, hcurrent, Nat.add_assoc]
  have hcounts := hfold records (0, 0)
  rw [Nat.zero_add, Nat.zero_add] at hcounts
  unfold readyz
  simp only [Except.mapError, Except.ok_bind, hcounts]
  rfl

/-! ## Measurements -/

/-- **A measurement that needs a fresh check**, and the check it is about. -/
def Sample.Measures (s : Sample) (checkId : String) : Prop :=
  (s.metric = RTT ∧ checkId = "icmp") ∨ (s.metric = USERS ∧ checkId = "usage") ∨
    (s.metric = TCP_DURATION ∧ ("check_id", checkId) ∈ s.labels)

theorem not_measures_of_mem_common {labels : List (String × String)} {timing : Timing}
    (h : s ∈ common labels timing now) : ¬ s.Measures id := by
  have hmetric := (mem_common h).2.2
  rintro (⟨hm, -⟩ | ⟨hm, -⟩ | ⟨hm, -⟩) <;> rw [hm] at hmetric <;> exact absurd hmetric (by decide)

/-- The names of the checks are told apart by the prefix of the named ones. -/
theorem tcp_ne (id : String) : "tcp." ++ id ≠ "icmp" ∧ "tcp." ++ id ≠ "usage" := by
  constructor <;> intro h <;> have h := congrArg String.toList h <;> simp at h

/-- A timing is found under the name of its check. -/
theorem timing_of_icmp {timing : Timing} (h : ("icmp", timing) ∈ timings record) :
    timing = icmpTiming record := by
  simp only [timings, List.mem_cons, List.mem_map, Prod.mk.injEq] at h
  rcases h with ⟨-, h⟩ | ⟨hid, -⟩ | ⟨check, -, hid, -⟩
  · exact h
  · exact absurd hid (by decide)
  · exact absurd hid (tcp_ne _).1

theorem timing_of_usage {timing : Timing} (h : ("usage", timing) ∈ timings record) :
    timing = usageTiming record := by
  simp only [timings, List.mem_cons, List.mem_map, Prod.mk.injEq] at h
  rcases h with ⟨hid, -⟩ | ⟨-, h⟩ | ⟨check, -, hid, -⟩
  · exact absurd hid (by decide)
  · exact h
  · exact absurd hid (tcp_ne _).2

theorem timing_of_tcp {timing : Timing} {check : TcpCheckConfig}
    (h : ("tcp." ++ check.id.value, timing) ∈ timings record) : timing = tcpTiming record check := by
  simp only [timings, List.mem_cons, List.mem_map, Prod.mk.injEq] at h
  rcases h with ⟨hid, -⟩ | ⟨hid, -⟩ | ⟨other, -, hid, rfl⟩
  · exact absurd hid (tcp_ne _).1
  · exact absurd hid (tcp_ne _).2
  · have hvalue : other.id.value = check.id.value := by
      have htext := congrArg String.toList hid
      rw [String.toList_append, String.toList_append] at htext
      exact String.toList_inj.mp (List.append_cancel_left htext)
    have hid : other.id = check.id := by
      cases hother : other.id
      cases hcheck : check.id
      rw [hother, hcheck] at hvalue
      cases hvalue
      rfl
    rw [tcpTiming, tcpTiming, hid]

/-- **A measurement is of a fresh check.** -/
theorem fresh_of_measures {timing : Timing} (hs : s ∈ recordSamples record now)
    (hmeasures : s.Measures id) (htiming : (id, timing) ∈ timings record) :
    timing.fresh now = true := by
  unfold recordSamples at hs
  rcases List.mem_append.mp hs with hs | hs
  · rcases List.mem_append.mp hs with hs | hs
    · obtain ⟨own, heq, hown⟩ := exists_icmpMetrics_eq record now
      rw [heq] at hs
      rcases List.mem_append.mp hs with hs | hs
      · exact absurd hmeasures (not_measures_of_mem_common hs)
      · rcases hown s hs with hm | ⟨hm, hfresh⟩
        · rcases hmeasures with ⟨h, -⟩ | ⟨h, -⟩ | ⟨h, -⟩ <;> exact absurd (hm.symm.trans h) (by decide)
        · rcases hmeasures with ⟨-, rfl⟩ | ⟨h, -⟩ | ⟨h, -⟩
          · rw [timing_of_icmp htiming]; exact hfresh
          · exact absurd (hm.symm.trans h) (by decide)
          · exact absurd (hm.symm.trans h) (by decide)
    · obtain ⟨own, heq, hown⟩ := exists_usageMetrics_eq record now
      rw [heq] at hs
      rcases List.mem_append.mp hs with hs | hs
      · exact absurd hmeasures (not_measures_of_mem_common hs)
      · rcases hown s hs with hm | ⟨hm, hfresh⟩
        · rcases hmeasures with ⟨h, -⟩ | ⟨h, -⟩ | ⟨h, -⟩ <;> exact absurd (hm.symm.trans h) (by decide)
        · rcases hmeasures with ⟨h, -⟩ | ⟨-, rfl⟩ | ⟨h, -⟩
          · exact absurd (hm.symm.trans h) (by decide)
          · rw [timing_of_usage htiming]; exact hfresh
          · exact absurd (hm.symm.trans h) (by decide)
  · obtain ⟨check, -, hs⟩ := List.mem_flatMap.mp hs
    obtain ⟨own, heq, hown⟩ := exists_tcpCheckMetrics_eq record now check
    rw [heq] at hs
    rcases List.mem_append.mp hs with hs | hs
    · exact absurd hmeasures (not_measures_of_mem_common hs)
    · obtain ⟨hlabels, hm | ⟨hm, hfresh⟩⟩ := hown s hs
      · rcases hmeasures with ⟨h, -⟩ | ⟨h, -⟩ | ⟨h, -⟩ <;> exact absurd (hm.symm.trans h) (by decide)
      · rcases hmeasures with ⟨h, -⟩ | ⟨h, -⟩ | ⟨-, hlabel⟩
        · exact absurd (hm.symm.trans h) (by decide)
        · exact absurd (hm.symm.trans h) (by decide)
        · obtain rfl : id = "tcp." ++ check.id.value := by
            simpa [hlabels, tcpLabels, checkLabels] using hlabel
          rw [timing_of_tcp htiming]; exact hfresh

/-- A measurement in a scrape is one of its records'. -/
theorem mem_recordSamples_of_measures {records : List HostRecord} {stats : RuntimeMetrics}
    (hs : s ∈ samples records stats now) (hmeasures : s.Measures id) :
    ∃ record ∈ records, s ∈ recordSamples record now := by
  rcases List.mem_append.mp hs with hs | hs
  · exact List.mem_flatMap.mp hs
  · obtain ⟨row, -, hs⟩ := List.mem_flatMap.mp hs
    rcases mem_runtimeMetrics hs with hm | hm | hm <;>
      rcases hmeasures with ⟨h, -⟩ | ⟨h, -⟩ | ⟨h, -⟩ <;> exact absurd (hm.symm.trans h) (by decide)

/-! ## The agreement -/

/-- **Freshness is the same everywhere.** For any records and at any instant
the gauges of a scrape are the reports of the JSON, the readiness endpoint
counts what the gauges add up to and is ready where the two sums are equal,
and no measurement is scraped of a check the JSON reports as stale. -/
theorem freshness_agrees (records : List HostRecord) (stats : RuntimeMetrics) (now : ℤ) :
    (family ENABLED (samples records stats now) = records.flatMap fun record =>
        (reports now record).map fun report => gauge ENABLED record report.id report.enabled) ∧
      (family FRESH (samples records stats now) = records.flatMap fun record =>
        (reports now record).map fun report =>
          gauge FRESH record report.id (report.enabled && !report.stale)) ∧
      (∃ answer, readyz (.ok records) now = .ok answer ∧
        answer.body.enabledChecks = (counts (family ENABLED (samples records stats now))).sum ∧
        answer.body.currentChecks = (counts (family FRESH (samples records stats now))).sum ∧
        (answer.code = 200 ↔ (counts (family ENABLED (samples records stats now))).sum =
          (counts (family FRESH (samples records stats now))).sum) ∧
        (answer.body.status = "ready" ↔ answer.code = 200)) ∧
      (∀ record ∈ records, ∀ report ∈ reports now record, report.stale = true →
        ∀ sample ∈ recordSamples record now, ¬ sample.Measures report.id) ∧
      ∀ sample ∈ samples records stats now, ∀ checkId, sample.Measures checkId →
        ∃ record ∈ records, sample ∈ recordSamples record now := by
  obtain ⟨henabled, hfresh⟩ := family_samples records stats now
  have hsum : (counts (family ENABLED (samples records stats now))).sum =
      countReports (·.enabled) now records := by
    rw [henabled]
    exact sum_counts_flatMap ENABLED (·.enabled) now records
  have hsum' : (counts (family FRESH (samples records stats now))).sum =
      countReports (fun report => report.enabled && !report.stale) now records := by
    rw [hfresh]
    exact sum_counts_flatMap FRESH (fun report => report.enabled && !report.stale) now records
  refine ⟨henabled, hfresh, ⟨_, readyz_ok records now, hsum.symm, hsum'.symm, ?_, ?_⟩, ?_, ?_⟩
  · rw [hsum, hsum']
    split_ifs with heq <;> simp [heq]
  · split_ifs <;> simp
  · intro record _ report hreport hstale sample hsample hmeasures
    rw [reports_eq] at hreport
    obtain ⟨check, hcheck, rfl⟩ := List.mem_map.mp hreport
    rw [fresh_of_measures hsample hmeasures hcheck] at hstale
    cases hstale
  · intro sample hsample checkId hmeasures
    exact mem_recordSamples_of_measures hsample hmeasures

end SimpleNetworkMonitor.Api
