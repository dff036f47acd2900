import SimpleNetworkMonitor.Api.Helpers.Parse
import SimpleNetworkMonitor.Api.Model.Inventory
import SimpleNetworkMonitor.Common.Paging
import SimpleNetworkMonitor.Storage.Helpers.Read
/-!
# The inventory, read in any way

Reads of all hosts, of one, of a page, and the usage report are written
apart. On one catalog and one state of the database they tell the same.
-/

namespace SimpleNetworkMonitor.Api

open Storage (Catalog Database)

/-! ## Lists of hosts -/

section Storage

open Storage

variable {db : Database} {catalog : Catalog} {filter : UsageFilter}

/-- **The filter that asks for nothing** accepts every host. -/
theorem sortedRecords_all (db : Database) (catalog : Catalog) (now : ℤ) :
    sortedRecords db catalog { usage := { now } } = .ok (catalog.hosts.map (hostRecord db)) := by
  have hfilter : (catalog.hosts.map (hostRecord db)).filterM
      (matchesHostFilter db · { usage := { now } }) = .ok (catalog.hosts.map (hostRecord db)) :=
    Except.filterM_true fun _ _ => rfl
  rw [sortedRecords, map_bulkRecord, hfilter]
  refine congrArg Except.ok (List.mergeSort_of_pairwise ?_)
  exact (sorted_records db catalog).imp fun hlt => by simpa using le_of_lt hlt

/-- A host is read by its ID as it is listed. -/
theorem host_of_mem {host : Host} (h : host ∈ catalog.hosts) :
    Storage.host db catalog host.id = some (hostRecord db host) := by
  rw [Storage.host, Catalog.get_eq_some.mpr ⟨h, rfl⟩]
  rfl

/-- **The storage's page is the trait's.** -/
theorem hostsPage_eq_default (db : Database) (catalog : Catalog) (now : ℤ) (after : Option String)
    (limit : ℕ) :
    HostRepository.hostsPage (sortedRecords db catalog) now after limit =
      .ok (Storage.hostsPage db catalog after limit) := by
  have hsorted : (catalog.hosts.map (hostRecord db)).mergeSort (fun a b => a.host.id ≤ b.host.id) =
      catalog.hosts.map (hostRecord db) :=
    List.mergeSort_of_pairwise
      ((sorted_records db catalog).imp fun hlt => by simpa using le_of_lt hlt)
  rw [HostRepository.hostsPage, sortedRecords_all]
  show Except.ok _ = _
  rw [hsorted, Storage.hostsPage, List.filter_map, List.map_take]
  rfl

/-! ## The usage report -/

/-- A host passes a filter that asks for usage where its latest usage does. -/
theorem matchesHostFilter_usage (hnonempty : filter.isEmpty = false) (host : Host) :
    matchesHostFilter db (hostRecord db host) { usage := filter } =
      match db.latestUsage.find? host.id with
      | none => .ok false
      | some snapshot => matchesUsageFilter db host snapshot filter := by
  rw [matchesHostFilter]
  rcases hlatest : db.latestUsage.find? host.id with - | snapshot
  · simp [hnonempty, hostRecord, HostRuntimeState.toRecord, hlatest]
    rfl
  · simp [hnonempty, hostRecord, HostRuntimeState.toRecord, hlatest]

/-- **The report lists the hosts that the filter selects.** -/
theorem ids_usageReport (hnonempty : filter.isEmpty = false) {report : UsageReport}
    (hreport : usageReport db catalog filter = .ok report) {records : List HostRecord}
    (hrecords : sortedRecords db catalog { usage := filter } = .ok records) :
    report.hosts.map (·.id) = records.map (·.host.id) := by
  have hr := usageReport_eq_ok hreport
  obtain ⟨hok, rfl⟩ := sortedRecords_eq_ok hrecords
  refine List.Pairwise.eq_of_mem_iff (r := (· < ·)) (List.pairwise_map.mpr hr.sorted)
    (List.pairwise_map.mpr ((sorted_records db catalog).filter _)) fun id => ?_
  simp only [List.mem_map, List.mem_filter]
  constructor
  · rintro ⟨usage, husage, rfl⟩
    obtain ⟨host, snapshot, hget, hlatest, hmatches, rfl⟩ := (hr.mem usage).mp husage
    refine ⟨hostRecord db host, ⟨⟨host, (Catalog.get_eq_some.mp hget).1, rfl⟩, ?_⟩, rfl⟩
    refine Except.passes_of_eq_ok ?_
    rw [matchesHostFilter_usage hnonempty, hlatest]
    exact hmatches
  · rintro ⟨record, ⟨⟨host, hmem, rfl⟩, hpasses⟩, rfl⟩
    obtain ⟨b, hb⟩ := hok host hmem
    obtain rfl : b = true :=
      (Except.passes_of_eq_ok (f := (matchesHostFilter db · { usage := filter })) hb).symm.trans
        hpasses
    rw [matchesHostFilter_usage hnonempty] at hb
    rcases hlatest : db.latestUsage.find? host.id with - | snapshot
    · rw [hlatest] at hb
      exact absurd (Except.ok.inj hb) (by simp)
    · rw [hlatest] at hb
      exact ⟨usageOf host snapshot, (hr.mem _).mpr ⟨host, snapshot,
        Catalog.get_eq_some.mpr ⟨hmem, rfl⟩, hlatest, hb, rfl⟩, rfl⟩

/-! ## Pages -/

/-- A page that the client asks for, of a limit and from a cursor on. -/
def fetchPage (db : Database) (catalog : Catalog) (limit : ℕ) (after : Option String) :
    Except ApiError (List HostRecord × Option String) :=
  (hostsPage (fun after limit => .ok (Storage.hostsPage db catalog after limit))
    (("limit", toString limit) :: after.toList.map ("after", ·))).map fun page =>
      (page.hosts, page.nextAfter)

/-- The storage lists what is past the cursor. -/
theorem hostsPage_eq_take (db : Database) (catalog : Catalog) (after : Option String) (limit : ℕ) :
    Storage.hostsPage db catalog after limit =
      (Paging.beyond (·.host.id) (catalog.hosts.map (hostRecord db)) after).take limit := by
  rw [Storage.hostsPage, Paging.beyond, List.filter_map, List.map_take]
  rfl

/-- **A page of the inventory** is a page of its records. -/
theorem fetchPage_eq (db : Database) (catalog : Catalog) {limit : ℕ} (hlow : 1 ≤ limit)
    (hhigh : limit ≤ 1000) (after : Option String) :
    fetchPage db catalog limit after =
      .ok (Paging.page (·.host.id) (catalog.hosts.map (hostRecord db)) limit after) := by
  have hparse : parseUsize (toString limit) = some limit := parseUsize_toString (by omega)
  have hlimit : ∀ rest, pageLimit (("limit", toString limit) :: rest) = .ok limit := by
    intro rest
    have hrange : (decide (limit < 1) || decide (1000 < limit)) = false := by
      simp only [Bool.or_eq_false_iff, decide_eq_false_iff_not]
      omega
    simp only [pageLimit, List.lookup_cons_self, hparse, pure_bind, hrange]
    rfl
  -- the first page has no cursor, the others have one
  have hquery : ∀ pairs, parseUniqueQuery (("limit", toString limit) :: pairs) =
      .ok (("limit", toString limit) :: pairs) → pairs.lookup "after" = after →
      (∀ pair ∈ pairs, pair.1 = "after") →
      (hostsPage (fun after limit => .ok (Storage.hostsPage db catalog after limit))
        (("limit", toString limit) :: pairs)).map (fun page => (page.hosts, page.nextAfter)) =
      .ok (Paging.page (·.host.id) (catalog.hosts.map (hostRecord db)) limit after) := by
    intro pairs hunique hafter hall
    have hlookup : (("limit", toString limit) :: pairs).lookup "after" = after := by
      rw [← hafter, List.lookup_cons, show ("after" == "limit") = false from rfl]
    have hany : (("limit", toString limit) :: pairs).any
        (fun pair => pair.1 ≠ "limit" && pair.1 ≠ "after") = false := by
      rw [List.any_eq_false]
      intro pair hpair
      rcases List.mem_cons.mp hpair with rfl | hpair
      · simp
      · simp [hall pair hpair]
    simp only [hostsPage, hunique, Except.ok_bind, hlimit, hlookup, hany, hostsPage_eq_take]
    rfl
  rcases after with - | after
  · exact hquery [] rfl rfl (by simp)
  · exact hquery [("after", after)] rfl rfl (by simp)

/-! ## The result -/

/-- **All ways to read the inventory agree**, on every catalog and every state
of the database: the list of all hosts is what the reads of one host are, in
the order of the IDs; a page is the one of the trait; a walk over the pages
collects the list, each host once; the usage report lists the hosts that its
filter selects from the list, and its summary is the fold of these: it counts
them, those of them with an error, and the users of the others. -/
theorem inventory_reads_agree (db : Database) (catalog : Catalog) :
    (∀ now, ∃ records, sortedRecords db catalog { usage := { now } } = .ok records ∧
      records.map some = catalog.hosts.map (fun host => Storage.host db catalog host.id) ∧
      records.Pairwise (fun a b => a.host.id < b.host.id) ∧
      ∀ limit, 1 ≤ limit → limit ≤ 1000 →
        Paging.Walked (fetchPage db catalog limit) none records) ∧
    (∀ now after limit, HostRepository.hostsPage (sortedRecords db catalog) now after limit =
      .ok (Storage.hostsPage db catalog after limit)) ∧
    (∀ filter report records, filter.isEmpty = false → usageReport db catalog filter = .ok report →
      sortedRecords db catalog { usage := filter } = .ok records →
        report.hosts.map (·.id) = records.map (·.host.id)) ∧
    ∀ filter report, usageReport db catalog filter = .ok report →
      report.summary = usageSummary (report.hosts.map (·.usage)) ∧
        Summarizes (report.hosts.map (·.usage)) report.summary := by
  refine ⟨fun now => ⟨_, sortedRecords_all db catalog now, ?_, sorted_records db catalog,
    fun limit hlow hhigh => ?_⟩, hostsPage_eq_default db catalog,
    fun filter report records hnonempty hreport hrecords =>
      ids_usageReport hnonempty hreport hrecords,
    fun filter report hreport => ?_⟩
  · rw [List.map_map]
    exact List.map_congr_left fun host hmem => (host_of_mem hmem).symm
  · have hwalked := Paging.walked_page (sorted_records db catalog) (by omega)
      (fetchPage_eq db catalog hlow hhigh) none
    rwa [Paging.beyond_none] at hwalked
  · have hsummary := (usageReport_eq_ok hreport).summary
    exact ⟨hsummary.eq_usageSummary, hsummary⟩

/-! ## A sample -/

def sampleListed (id : String) : Host where
  id := id
  address := "192.0.2.1"
  name := id
  groups := []
  modules := {}

def sampleCatalog : Catalog :=
  Catalog.ofHosts [sampleListed "b", sampleListed "a", sampleListed "d", sampleListed "c"]

/-- Usage was collected of two of the hosts, failed to be of a third, and was
not asked for of the fourth. -/
def sampleDb : Database where
  latestUsage := (((∅ : Table String UsageSnapshot).upsert "a" (.success 0 2 3)).upsert "b"
    (.success 0 1 0)).upsert "c" ⟨0, none, none, .failed, some "no route"⟩

/-- Asks for what was collected. -/
def sampleSucceeded : UsageFilter where
  status := some .ok
  now := 0

/-- Asks for everything. -/
def sampleReporting : UsageFilter where
  now := 0

/-- Three hosts, of which one failed, with three users on each side. -/
def sampleReport : UsageReport where
  summary := ⟨3, 1, 3, 3⟩
  hosts := [usageOf (sampleListed "a") (.success 0 2 3),
    usageOf (sampleListed "b") (.success 0 1 0),
    usageOf (sampleListed "c") ⟨0, none, none, .failed, some "no route"⟩]

/-- The rows already stand in the order of the IDs. -/
theorem usageReport_sample :
    usageReport sampleDb sampleCatalog sampleReporting = .ok sampleReport := by
  have hfound : sampleDb.latestUsage.rows.mapM
      (hostUsage sampleDb sampleCatalog sampleReporting) =
        .ok (sampleReport.hosts.map some) := by decide +kernel
  have hlisted : (sampleReport.hosts.map some).reduceOption = sampleReport.hosts := rfl
  have hsorted : sampleReport.hosts.Pairwise fun a b => decide (a.id ≤ b.id) = true := by
    decide +kernel
  simp only [usageReport, hfound, Except.ok_bind, hlisted, List.mergeSort_of_pairwise hsorted]
  rfl

theorem sampleInventory_agrees :
    (∃ records, sortedRecords sampleDb sampleCatalog { usage := { now := 0 } } = .ok records ∧
      Paging.Walked (fetchPage sampleDb sampleCatalog 2) none records) ∧
    (∃ report records, usageReport sampleDb sampleCatalog sampleSucceeded = .ok report ∧
      sortedRecords sampleDb sampleCatalog { usage := sampleSucceeded } = .ok records ∧
      report.hosts.map (·.id) = records.map (·.host.id)) ∧
    usageReport sampleDb sampleCatalog sampleReporting = .ok sampleReport ∧
    Summarizes (sampleReport.hosts.map (·.usage)) ⟨3, 1, 3, 3⟩ := by
  obtain ⟨report, hreport⟩ : ∃ report,
      usageReport sampleDb sampleCatalog sampleSucceeded = .ok report :=
    Except.exists_of_isOk (by decide +kernel)
  obtain ⟨selected, hselected⟩ : ∃ records,
      sortedRecords sampleDb sampleCatalog { usage := sampleSucceeded } = .ok records :=
    Except.exists_of_isOk (by decide +kernel)
  obtain ⟨hlist, -, hids, hsummary⟩ := inventory_reads_agree sampleDb sampleCatalog
  obtain ⟨records, hrecords, -, -, hwalked⟩ := hlist 0
  exact ⟨⟨records, hrecords, hwalked 2 (by decide) (by decide)⟩,
    ⟨report, selected, hreport, hselected,
      hids sampleSucceeded report selected rfl hreport hselected⟩,
    usageReport_sample, (hsummary sampleReporting sampleReport usageReport_sample).2⟩

end Storage

end SimpleNetworkMonitor.Api
