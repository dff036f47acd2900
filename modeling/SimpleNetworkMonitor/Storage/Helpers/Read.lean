import SimpleNetworkMonitor.Common.Fallible
import SimpleNetworkMonitor.Storage.Helpers.Sync
import SimpleNetworkMonitor.Storage.Model.Read
import Mathlib.Data.List.ReduceOption
/-!
# What a read puts together

A read of all scans each table once and joins the rows by host; a read of
one host asks for its rows. Both give a host of the catalog the same record.
-/

namespace SimpleNetworkMonitor.Storage

variable {db : Database} {hosts : Catalog} {host : Host}

/-! ## TCP attempts -/

/-- One row of `latest_tcp` for a host. -/
def attach (host : Host) (snapshots : Snapshots) (row : (String × String) × LatestTcp) :
    Snapshots :=
  if host.address ≠ row.2.address || !host.modules.tcp.enabled then snapshots
  else
    match host.modules.tcp.checks.find? fun check =>
      check.id.value = row.1.2 && check.port.get = row.2.port with
    | none => snapshots
    | some check => snapshots.upsert check.id row.2.snapshot

/-- A row goes to its own host, and to no other. -/
theorem find?_loadRow (hget : hosts.get host.id = some host) (result : Table String Snapshots)
    (row : (String × String) × LatestTcp) :
    ((loadRow hosts result row).find? host.id).getD ∅ =
      if row.1.1 = host.id then attach host ((result.find? host.id).getD ∅) row
      else (result.find? host.id).getD ∅ := by
  obtain ⟨⟨hostId, checkId⟩, latest⟩ := row
  by_cases hid : hostId = host.id
  · subst hid
    simp only [loadRow, hget, attach, if_true]
    split_ifs
    · rfl
    · cases List.find? (fun check => decide (check.id.value = checkId) &&
          decide (check.port.get = latest.port)) host.modules.tcp.checks with
      | none => rfl
      | some check => simp only [Table.find?_upsert_self, Option.getD_some]
  · simp only [loadRow, if_neg hid]
    split
    · rfl
    · split_ifs
      · rfl
      · split
        · rfl
        · rw [Table.find?_upsert_of_ne (Ne.symm hid)]

/-- **A scan gives each host what its own rows are.** -/
theorem find?_foldl_loadRow (hget : hosts.get host.id = some host)
    (rows : List ((String × String) × LatestTcp)) (result : Table String Snapshots) :
    ((rows.foldl (loadRow hosts) result).find? host.id).getD ∅ =
      (rows.filter fun row => row.1.1 = host.id).foldl (attach host)
        ((result.find? host.id).getD ∅) := by
  induction rows generalizing result with
  | nil => rfl
  | cons row rows ih =>
    rw [List.foldl_cons, ih, find?_loadRow hget]
    by_cases hid : row.1.1 = host.id
    · rw [if_pos hid, List.filter_cons_of_pos (by simpa using hid), List.foldl_cons]
    · rw [if_neg hid, List.filter_cons_of_neg (by simpa using hid)]

/-- A host is all there is in the map of it. -/
theorem get_ofHosts_singleton (host : Host) : (Catalog.ofHosts [host]).get host.id = some host :=
  (Catalog.get_ofHosts (by simp)).mpr ⟨List.mem_singleton.mpr rfl, rfl⟩

theorem loadHost_eq (db : Database) (host : Host) :
    loadHost db host =
      (db.latestTcp.rows.filter fun row => row.1.1 = host.id).foldl (attach host) ∅ := by
  rw [loadHost, load, find?_foldl_loadRow (get_ofHosts_singleton host), List.filter_filter]
  congr 2
  funext row
  simp [eq_comm]

/-- **A scan of all and a read of one agree** on the attempts of a host. -/
theorem find?_loadAll (hget : hosts.get host.id = some host) :
    ((loadAll db hosts).find? host.id).getD ∅ = loadHost db host := by
  rw [loadHost_eq, loadAll, load, find?_foldl_loadRow hget]
  congr 2
  simp

/-- **An attempt is shown for the check it was on**: the row has the address
of the host and the port of the check. -/
theorem find?_loadHost {checkId : CheckId} {snapshot : TcpSnapshot}
    (h : (loadHost db host).find? checkId = some snapshot) :
    ∃ check ∈ host.modules.tcp.checks, check.id = checkId ∧
      db.latestTcp.find? (host.id, checkId.value) =
        some ⟨host.address, check.port.get, snapshot⟩ := by
  rw [loadHost_eq] at h
  -- induction on the rows: each snapshot attached so far is of a check of the host
  have key : ∀ (rows : List ((String × String) × LatestTcp)) (snapshots : Snapshots),
      (∀ row ∈ rows, row.1.1 = host.id ∧ row ∈ db.latestTcp.rows) →
      (∀ checkId snapshot, snapshots.find? checkId = some snapshot →
        ∃ check ∈ host.modules.tcp.checks, check.id = checkId ∧
          db.latestTcp.find? (host.id, checkId.value) =
            some ⟨host.address, check.port.get, snapshot⟩) →
      ∀ checkId snapshot, (rows.foldl (attach host) snapshots).find? checkId = some snapshot →
        ∃ check ∈ host.modules.tcp.checks, check.id = checkId ∧
          db.latestTcp.find? (host.id, checkId.value) =
            some ⟨host.address, check.port.get, snapshot⟩ := by
    intro rows
    induction rows with
    | nil => exact fun snapshots _ hs => hs
    | cons row rows ih =>
      intro snapshots hrows hs
      refine ih (attach host snapshots row) (fun r hr => hrows r (List.mem_cons_of_mem _ hr)) ?_
      obtain ⟨⟨hostId, checkId⟩, ⟨address, port, latest⟩⟩ := row
      obtain ⟨rfl, hmem⟩ := hrows _ List.mem_cons_self
      intro checkId' snapshot' hfind
      unfold attach at hfind
      split_ifs at hfind with haddress
      · exact hs checkId' snapshot' hfind
      · split at hfind
        · exact hs checkId' snapshot' hfind
        · rename_i check hcheck
          by_cases hid : checkId' = check.id
          · subst hid
            rw [Table.find?_upsert_self] at hfind
            obtain rfl := Option.some.inj hfind
            have hprops := List.find?_some hcheck
            simp only [Bool.and_eq_true, decide_eq_true_eq] at hprops
            -- the row is attached only where its address and port are those of the check
            obtain ⟨rfl, rfl⟩ := hprops
            simp only [ne_eq, Bool.or_eq_true, decide_eq_true_eq, Bool.not_eq_true', not_or,
              Decidable.not_not] at haddress
            refine ⟨check, List.mem_of_find?_eq_some hcheck, rfl, ?_⟩
            rw [haddress.1]
            exact Table.find?_eq_some.mpr hmem
          · rw [Table.find?_upsert_of_ne hid] at hfind
            exact hs checkId' snapshot' hfind
  refine key _ ∅ (fun row hrow => ?_) (fun _ _ hnone => absurd hnone.symm (Option.some_ne_none _)) checkId snapshot h
  obtain ⟨hmem, hid⟩ := List.mem_filter.mp hrow
  exact ⟨by simpa using hid, hmem⟩

/-! ## Records -/

/-- **The record of a host is the same in every read.** -/
theorem bulkRecord_eq (hget : hosts.get host.id = some host) :
    bulkRecord db hosts host = hostRecord db host := by
  simp only [bulkRecord, hostRecord, find?_loadAll hget]

theorem hostRecord_host (db : Database) (host : Host) : (hostRecord db host).host = host := rfl

theorem map_bulkRecord (db : Database) (hosts : Catalog) :
    hosts.hosts.map (bulkRecord db hosts) = hosts.hosts.map (hostRecord db) :=
  List.map_congr_left fun _ hmem => bulkRecord_eq (Catalog.get_eq_some.mpr ⟨hmem, rfl⟩)

/-- Records in the order of the catalog are sorted. -/
theorem sorted_records (db : Database) (hosts : Catalog) :
    (hosts.hosts.map (hostRecord db)).Pairwise fun a b => a.host.id < b.host.id :=
  List.pairwise_map.mpr hosts.sorted

/-- **A filtered read succeeds** where the filter can be evaluated for every
host. -/
theorem sortedRecords_of_forall {filter : HostFilter}
    (h : ∀ host ∈ hosts.hosts, ∃ b, matchesHostFilter db (hostRecord db host) filter = .ok b) :
    sortedRecords db hosts filter = .ok ((hosts.hosts.map (hostRecord db)).filter
      (Except.passes (matchesHostFilter db · filter))) := by
  have hall : ∀ record ∈ hosts.hosts.map (hostRecord db),
      ∃ b, matchesHostFilter db record filter = .ok b := fun record hrecord => by
    obtain ⟨host, hhost, rfl⟩ := List.mem_map.mp hrecord
    exact h host hhost
  rw [sortedRecords, map_bulkRecord, Except.filterM_of_forall hall, Except.ok_bind,
    List.mergeSort_of_pairwise]
  · rfl
  · exact ((sorted_records db hosts).filter _).imp fun hlt => by simpa using le_of_lt hlt

/-- **A filtered read** that succeeds: the filter could be evaluated for every
host, and the records are those that pass, in the order of the catalog. -/
theorem sortedRecords_eq_ok {filter : HostFilter} {records : List HostRecord}
    (h : sortedRecords db hosts filter = .ok records) :
    (∀ host ∈ hosts.hosts, ∃ b, matchesHostFilter db (hostRecord db host) filter = .ok b) ∧
      records = (hosts.hosts.map (hostRecord db)).filter
        (Except.passes (matchesHostFilter db · filter)) := by
  rw [sortedRecords, map_bulkRecord] at h
  obtain ⟨found, hfound, h⟩ := Except.bind_eq_ok_iff.mp h
  obtain ⟨hall, rfl⟩ := Except.filterM_eq_ok hfound
  refine ⟨fun host hmem => hall _ (List.mem_map_of_mem hmem), ?_⟩
  rw [List.mergeSort_of_pairwise] at h
  · exact (Except.ok.inj h).symm
  · exact ((sorted_records db hosts).filter _).imp fun hlt => by simpa using le_of_lt hlt

theorem mem_sortedRecords {filter : HostFilter} {records : List HostRecord} {record : HostRecord}
    (h : sortedRecords db hosts filter = .ok records) :
    record ∈ records ↔ record ∈ hosts.hosts.map (hostRecord db) ∧
      matchesHostFilter db record filter = .ok true := by
  obtain ⟨hall, rfl⟩ := sortedRecords_eq_ok h
  rw [List.mem_filter]
  refine and_congr_right fun hmem => ?_
  obtain ⟨host, hhost, rfl⟩ := List.mem_map.mp hmem
  obtain ⟨b, hb⟩ := hall host hhost
  rw [Except.passes_of_eq_ok (f := (matchesHostFilter db · filter)) hb, hb, Except.ok.injEq]

/-! ## Usage reports -/

/-- What a report lists of a host. -/
def usageOf (host : Host) (snapshot : UsageSnapshot) : HostUsage :=
  ⟨host.id, host.address, host.name, host.groups, snapshot⟩

theorem hostUsage_eq_ok {filter : UsageFilter} {row : String × UsageSnapshot}
    {found : Option HostUsage} (h : hostUsage db hosts filter row = .ok found) (usage : HostUsage) :
    found = some usage ↔ ∃ host, hosts.get row.1 = some host ∧
      matchesUsageFilter db host row.2 filter = .ok true ∧ usage = usageOf host row.2 := by
  unfold hostUsage at h
  rcases hget : hosts.get row.1 with - | host
  · simp only [hget] at h
    obtain rfl := Except.ok.inj h
    simp
  · simp only [hget] at h
    obtain ⟨b, hb, h⟩ := Except.bind_eq_ok_iff.mp h
    cases b <;> obtain rfl := Except.ok.inj h <;> simp [hb, usageOf, eq_comm]

/-- The usages found come from rows, one from each at most, in their order. -/
theorem ids_sublist {filter : UsageFilter} {rows : List (String × UsageSnapshot)}
    {found : List (Option HostUsage)}
    (h : List.Forall₂ (fun row usage => hostUsage db hosts filter row = .ok usage) rows found) :
    (found.reduceOption.map (·.id)).Sublist (rows.map Prod.fst) := by
  induction h with
  | nil => exact .slnil
  | @cons row usage rows found hrow _ ih =>
    rcases usage with - | usage
    · exact ih.cons row.1
    · obtain ⟨host, hget, -, rfl⟩ := (hostUsage_eq_ok hrow usage).mp rfl
      have hid : host.id = row.1 := (Catalog.get_eq_some.mp hget).2
      rw [List.reduceOption_cons_of_some, List.map_cons, List.map_cons]
      exact hid ▸ ih.cons_cons host.id

theorem mem_found {filter : UsageFilter} {rows : List (String × UsageSnapshot)}
    {found : List (Option HostUsage)}
    (h : List.Forall₂ (fun row usage => hostUsage db hosts filter row = .ok usage) rows found)
    (usage : HostUsage) :
    usage ∈ found.reduceOption ↔ ∃ row ∈ rows, hostUsage db hosts filter row = .ok (some usage) := by
  induction h with
  | nil => simp [List.reduceOption]
  | @cons row found? rows found hrow _ ih =>
    rcases found? with - | first
    · rw [List.reduceOption_cons_of_none, ih]
      simp [hrow]
    · rw [List.reduceOption_cons_of_some, List.mem_cons, ih]
      simp [hrow, eq_comm]

/-- **A summary of snapshots**: how many there are and how many of them failed,
and the users that the others counted. A count that is missing adds nothing. -/
structure Summarizes (snapshots : List UsageSnapshot) (summary : UsageSummary) : Prop where
  reporting : summary.hostsReporting = snapshots.length
  errors : summary.hostsWithErrors = snapshots.countP (·.status = .failed)
  console : summary.consoleUsers =
    ((snapshots.filter (·.status = .ok)).map (·.consoleUsers.getD 0)).sum
  remote : summary.remoteUsers =
    ((snapshots.filter (·.status = .ok)).map (·.remoteUsers.getD 0)).sum

/-- One more snapshot, by its status. -/
theorem Summarizes.append_singleton {snapshots : List UsageSnapshot} {summary : UsageSummary}
    (h : Summarizes snapshots summary) (snapshot : UsageSnapshot) :
    Summarizes (snapshots ++ [snapshot]) (match snapshot.status with
      | .ok =>
        { summary with
          hostsReporting := summary.hostsReporting + 1
          consoleUsers := summary.consoleUsers + snapshot.consoleUsers.getD 0
          remoteUsers := summary.remoteUsers + snapshot.remoteUsers.getD 0 }
      | .failed =>
        { summary with
          hostsReporting := summary.hostsReporting + 1
          hostsWithErrors := summary.hostsWithErrors + 1 }) := by
  cases hstatus : snapshot.status <;>
    constructor <;> simp [hstatus, h.reporting, h.errors, h.console, h.remote]

theorem summarizes_usageSummary (snapshots : List UsageSnapshot) :
    Summarizes snapshots (usageSummary snapshots) := by
  induction snapshots using List.reverseRecOn with
  | nil => exact ⟨rfl, rfl, rfl, rfl⟩
  | append_singleton snapshots snapshot ih =>
    rw [usageSummary, List.foldl_append]
    exact ih.append_singleton snapshot

/-- No other summary of the snapshots says this of them. -/
theorem Summarizes.eq_usageSummary {snapshots : List UsageSnapshot} {summary : UsageSummary}
    (h : Summarizes snapshots summary) : summary = usageSummary snapshots := by
  have hfold := summarizes_usageSummary snapshots
  obtain ⟨reporting, errors, console, remote⟩ := summary
  obtain ⟨rfl, rfl, rfl, rfl⟩ := h
  rw [← hfold.reporting, ← hfold.errors, ← hfold.console, ← hfold.remote]

/-- **A report** that succeeds lists the hosts of the catalog whose latest
usage passes the filter, in the order of their IDs, and sums them up. -/
structure Reported (db : Database) (hosts : Catalog) (filter : UsageFilter) (report : UsageReport) :
    Prop where
  summary : Summarizes (report.hosts.map (·.usage)) report.summary
  sorted : report.hosts.Pairwise fun a b => a.id < b.id
  mem : ∀ usage, usage ∈ report.hosts ↔ ∃ host snapshot, hosts.get host.id = some host ∧
    db.latestUsage.find? host.id = some snapshot ∧
    matchesUsageFilter db host snapshot filter = .ok true ∧ usage = usageOf host snapshot

theorem usageReport_eq_ok {filter : UsageFilter} {report : UsageReport}
    (h : usageReport db hosts filter = .ok report) : Reported db hosts filter report := by
  obtain ⟨found, hmap, h⟩ := Except.bind_eq_ok_iff.mp h
  have hfound := Except.mapM_eq_ok hmap
  obtain rfl := Except.ok.inj h
  have hperm := List.mergeSort_perm found.reduceOption fun a b => decide (a.id ≤ b.id)
  refine ⟨summarizes_usageSummary _, ?_, fun usage => ?_⟩
  · have hle : (found.reduceOption.mergeSort fun a b => decide (a.id ≤ b.id)).Pairwise
        fun a b => decide (a.id ≤ b.id) = true :=
      List.pairwise_mergeSort
        (fun a b c hab hbc => by simpa using le_trans (by simpa using hab) (by simpa using hbc))
        (fun a b => by simpa using le_total a.id b.id) found.reduceOption
    have hnodup : (found.reduceOption.mergeSort fun a b => decide (a.id ≤ b.id)).Pairwise
        fun a b => a.id ≠ b.id := by
      have hids := (ids_sublist hfound).nodup db.latestUsage.nodup
      have hmerged := (hperm.map (·.id)).nodup_iff.mpr hids
      exact List.pairwise_map.mp (List.nodup_iff_pairwise_ne.mp hmerged)
    exact (hle.and hnodup).imp fun h => lt_of_le_of_ne (by simpa using h.1) h.2
  · rw [hperm.mem_iff, mem_found hfound]
    constructor
    · rintro ⟨⟨id, snapshot⟩, hmem, hrow⟩
      obtain ⟨host, hget, hmatches, rfl⟩ := (hostUsage_eq_ok hrow usage).mp rfl
      obtain ⟨-, rfl⟩ := Catalog.get_eq_some.mp hget
      exact ⟨host, snapshot, hget, Table.find?_eq_some.mpr hmem, hmatches, rfl⟩
    · rintro ⟨host, snapshot, hget, hlatest, hmatches, rfl⟩
      refine ⟨(host.id, snapshot), Table.find?_eq_some.mp hlatest, ?_⟩
      simp only [hostUsage, hget, hmatches]
      rfl

end SimpleNetworkMonitor.Storage
