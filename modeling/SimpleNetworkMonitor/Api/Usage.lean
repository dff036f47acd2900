import SimpleNetworkMonitor.Api.Inventory
import SimpleNetworkMonitor.Api.Model.Service
import SimpleNetworkMonitor.App.Usage
/-!
# Usage reports and host lists

A query that asks for usage alone may be sent to either. The report then is
of the hosts that the list shows with a snapshot of their usage.
-/

namespace SimpleNetworkMonitor.Api

open Storage

variable {db : Database} {hosts : Catalog} {filter : UsageFilter}

/-- A host with usage passes a filter of usage alone where its usage does. -/
theorem matchesHostFilter_of_latest {host : Host} {snapshot : UsageSnapshot}
    (h : db.latestUsage.find? host.id = some snapshot) :
    matchesHostFilter db (hostRecord db host) { usage := filter } =
      matchesUsageFilter db host snapshot filter := by
  rcases hempty : filter.isEmpty with - | -
  · rw [matchesHostFilter_usage hempty, h]
  · -- a filter that asks for nothing lets everything pass
    obtain ⟨status, inactiveConsoleFor, noUsersFor, now⟩ := filter
    simp only [UsageFilter.isEmpty, Bool.and_eq_true, Option.isNone_iff_eq_none] at hempty
    obtain ⟨⟨rfl, rfl⟩, rfl⟩ := hempty
    rfl

/-- **The report is of the hosts that the list shows with usage.** -/
theorem mem_usageReport {report : UsageReport} {records : List HostRecord}
    (hreport : usageReport db hosts filter = .ok report)
    (hrecords : sortedRecords db hosts { usage := filter } = .ok records) (usage : HostUsage) :
    usage ∈ report.hosts ↔ ∃ record ∈ records, ∃ snapshot,
      record.usage = some snapshot ∧ usage = usageOf record.host snapshot := by
  rw [(usageReport_eq_ok hreport).mem]
  constructor
  · rintro ⟨host, snapshot, hget, hlatest, hmatches, rfl⟩
    refine ⟨hostRecord db host, (mem_sortedRecords hrecords).mpr ⟨?_, ?_⟩, snapshot, hlatest, rfl⟩
    · exact List.mem_map_of_mem (Catalog.get_eq_some.mp hget).1
    · rwa [matchesHostFilter_of_latest hlatest]
  · rintro ⟨record, hrecord, snapshot, hlatest, rfl⟩
    obtain ⟨hmem, hmatches⟩ := (mem_sortedRecords hrecords).mp hrecord
    obtain ⟨host, hhost, rfl⟩ := List.mem_map.mp hmem
    refine ⟨host, snapshot, Catalog.get_eq_some.mpr ⟨hhost, rfl⟩, hlatest, ?_, rfl⟩
    rwa [matchesHostFilter_of_latest hlatest] at hmatches

theorem of_withReader {α : Type} {faults : ApiFaults} {read : Except StorageError α} {a : α}
    (h : faults.withReader read = .ok a) : read = .ok a := by
  unfold ApiFaults.withReader at h
  split at h
  · cases h
  · exact h

theorem of_catalog {faults : ApiFaults} {state : ApiState} {hosts : Catalog}
    (h : catalog faults state = .ok hosts) : state.hosts = hosts := by
  unfold catalog at h
  split_ifs at h
  exact Except.ok.inj h

section Handlers

variable {codec : Codec} {faults : ApiFaults} {state : ApiState} {req : Request} {found : Answer}

/-- **A summary** that is answered: of the filter that the query reads to. -/
theorem usageSummaryHandler_eq_ok (h : usageSummaryHandler codec faults state req = .ok found) :
    ∃ query filter report, uniqueQuery codec req = .ok query ∧
      App.parseUsageFilter codec.duration state.clock.parsed query = .ok filter ∧
      usageReport state.conn state.hosts filter = .ok report ∧ found.body = .usage report := by
  obtain ⟨-, -, h⟩ := Except.bind_eq_ok_iff.mp h
  obtain ⟨query, hquery, h⟩ := Except.bind_eq_ok_iff.mp h
  obtain ⟨filter, hfilter, h⟩ := Except.bind_eq_ok_iff.mp h
  obtain ⟨report, hreport, h⟩ := Except.bind_eq_ok_iff.mp h
  obtain ⟨hosts, hhosts, hreport⟩ := Except.bind_eq_ok_iff.mp (Except.mapError_eq_ok_iff.mp hreport)
  obtain rfl := of_catalog hhosts
  exact ⟨query, filter, report, hquery, Except.mapError_eq_ok_iff.mp hfilter,
    of_withReader hreport, congrArg Answer.body (Except.ok.inj h).symm⟩

/-- **A list** that is answered. -/
theorem allHosts_eq_ok (h : allHosts codec faults state req = .ok found) :
    ∃ query filter records, uniqueQuery codec req = .ok query ∧
      App.parseHostFilter codec.duration state.clock.parsed query = .ok filter ∧
      sortedRecords state.conn state.hosts filter = .ok records ∧
      found.body = .hosts (records.map (HostResponse.ofRecord state.clock.read)) := by
  obtain ⟨-, -, h⟩ := Except.bind_eq_ok_iff.mp h
  obtain ⟨query, hquery, h⟩ := Except.bind_eq_ok_iff.mp h
  obtain ⟨filter, hfilter, h⟩ := Except.bind_eq_ok_iff.mp h
  obtain ⟨records, hrecords, h⟩ := Except.bind_eq_ok_iff.mp h
  obtain ⟨hosts, hhosts, hrecords⟩ :=
    Except.bind_eq_ok_iff.mp (Except.mapError_eq_ok_iff.mp hrecords)
  obtain rfl := of_catalog hhosts
  exact ⟨query, filter, records, hquery, Except.mapError_eq_ok_iff.mp hfilter,
    of_withReader hrecords, congrArg Answer.body (Except.ok.inj h).symm⟩

end Handlers

/-- **Usage requests and host requests agree.** The parser of usage filters
accepts exactly what the other reads to a filter of usage alone. Where both
answer the same query, the report lists exactly the hosts that the list shows
with usage, in the order of their IDs. Its summary counts these, those of them
with an error, and the users of the others. -/
theorem usage_requests_agree (codec : Codec) (faults : ApiFaults) (state : ApiState)
    (req : Request) :
    (∀ query filter, App.parseUsageFilter codec.duration state.clock.parsed query = .ok filter ↔
      App.parseHostFilter codec.duration state.clock.parsed query = .ok { usage := filter }) ∧
    ∀ summary list, usageSummaryHandler codec faults state req = .ok summary →
      allHosts codec faults state req = .ok list →
      ∃ (report : UsageReport) (records : List HostRecord),
        summary.body = .usage report ∧
        list.body = .hosts (records.map (HostResponse.ofRecord state.clock.read)) ∧
        Summarizes (report.hosts.map (·.usage)) report.summary ∧
        (report.hosts.Pairwise fun a b => a.id < b.id) ∧
        ∀ usage, usage ∈ report.hosts ↔ ∃ record ∈ records, ∃ snapshot,
          record.usage = some snapshot ∧ usage = usageOf record.host snapshot := by
  refine ⟨fun query filter => App.parseUsageFilter_eq_ok, fun summary list hsummary hlist => ?_⟩
  obtain ⟨query, filter, report, hquery, hfilter, hreport, hsummaryBody⟩ :=
    usageSummaryHandler_eq_ok hsummary
  obtain ⟨query', hostFilter, records, hquery', hhostFilter, hrecords, hlistBody⟩ :=
    allHosts_eq_ok hlist
  -- both read the same filter
  obtain rfl := Except.ok.inj (hquery.symm.trans hquery')
  obtain rfl := Except.ok.inj ((App.parseUsageFilter_eq_ok.mp hfilter).symm.trans hhostFilter)
  have hreported := usageReport_eq_ok hreport
  exact ⟨report, records, hsummaryBody, hlistBody, hreported.summary, hreported.sorted,
    mem_usageReport hreport hrecords⟩

/-! ## A sample -/

/-- Two queries are decoded. -/
def sampleDecoding : Codec where
  query text := if text = "usage.status=ok" then [("usage.status", "ok")] else []
  duration _ := .error "expected number at 0"
  json _ := []
  hash _ := 0

/-- The inventory of the sample, in a service that asks for no token. -/
def sampleState : ApiState where
  apiToken := none
  hosts := sampleCatalog
  conn := sampleDb
  clock := ⟨0, 0, 0⟩

/-- Asks for everything. -/
def sampleRequest : Request where
  path := ["v1", "usage"]

theorem usageSummaryHandler_sample :
    usageSummaryHandler sampleDecoding {} sampleState sampleRequest =
      .ok { status := 200, body := .usage sampleReport } := by
  have hauthorized : authorize {} sampleState sampleRequest = .ok () := rfl
  have hquery : uniqueQuery sampleDecoding sampleRequest = .ok [] := rfl
  have hfilter : App.parseUsageFilter sampleDecoding.duration sampleState.clock.parsed [] =
      .ok sampleReporting := rfl
  have hcatalog : catalog {} sampleState = .ok sampleCatalog := rfl
  have hreport : ApiFaults.withReader {}
      (usageReport sampleState.conn sampleCatalog sampleReporting) = .ok sampleReport :=
    usageReport_sample
  simp only [usageSummaryHandler, hauthorized, hquery, hfilter, hcatalog, hreport, Except.ok_bind,
    Except.mapError]
  rfl

theorem sampleUsage_agrees :
    App.parseHostFilter sampleDecoding.duration 0 [("usage.status", "ok")] =
      .ok { usage := sampleSucceeded } ∧
    ∃ (list : Answer) (records : List HostRecord),
      usageSummaryHandler sampleDecoding {} sampleState sampleRequest =
        .ok { status := 200, body := .usage sampleReport } ∧
      allHosts sampleDecoding {} sampleState sampleRequest = .ok list ∧
      list.body = .hosts (records.map (HostResponse.ofRecord 0)) ∧
      Summarizes (sampleReport.hosts.map (·.usage)) ⟨3, 1, 3, 3⟩ ∧
      ∀ usage, usage ∈ sampleReport.hosts ↔ ∃ record ∈ records, ∃ snapshot,
        record.usage = some snapshot ∧ usage = usageOf record.host snapshot := by
  obtain ⟨hparse, hagree⟩ := usage_requests_agree sampleDecoding {} sampleState sampleRequest
  obtain ⟨list, hlist⟩ : ∃ list, allHosts sampleDecoding {} sampleState sampleRequest = .ok list :=
    Except.exists_of_isOk (by decide +kernel)
  obtain ⟨report, records, hreport, hrecords, hcounts, -, hmem⟩ :=
    hagree _ list usageSummaryHandler_sample hlist
  obtain rfl := Body.usage.inj hreport
  exact ⟨(hparse _ sampleSucceeded).mp rfl, list, records, usageSummaryHandler_sample, hlist,
    hrecords, hcounts, hmem⟩

end SimpleNetworkMonitor.Api
