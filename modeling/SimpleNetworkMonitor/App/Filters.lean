import SimpleNetworkMonitor.App.Helpers.Filters
import SimpleNetworkMonitor.Storage.Helpers.Read
import SimpleNetworkMonitor.Storage.Inactivity
/-!
# Combined filters are intersections

A filter is the set of the conditions that its parameters ask for, in
whatever order they are read. So it accepts what each part of a split
accepts, and is itself accepted where both parts are.
-/

namespace SimpleNetworkMonitor

/-- **The same filter**: a map of metadata has no order. -/
structure HostFilter.Same (f g : HostFilter) : Prop where
  icmpStatus : f.icmpStatus = g.icmpStatus
  group : f.group = g.group
  metadata : f.metadata.Perm g.metadata
  usage : f.usage = g.usage

namespace App

open Storage

variable {parseDuration : String → Except String ℕ} {now : ℤ}
variable {whole a b : List (String × String)} {f g : HostFilter}

/-- What the same parameters ask for is the same filter. -/
theorem Reads.same (hf : Reads parseDuration now a f) (hg : Reads parseDuration now b g)
    (hperm : a.Perm b) : f.Same g := by
  have hmem : ∀ c, c ∈ f.conditions ↔ c ∈ g.conditions := fun c => by
    simp only [hf.mem, hg.mem, hperm.mem_iff]
  have hdurations : ∀ predicate : ActivityPredicate,
      predicate.durationOf f.usage = predicate.durationOf g.usage := fun predicate =>
    Option.ext fun d => by
      rw [← inactive_mem_conditions, ← inactive_mem_conditions]
      exact hmem _
  constructor
  case icmpStatus =>
    exact Option.ext fun s => by
      rw [← icmpStatus_mem_conditions, ← icmpStatus_mem_conditions]
      exact hmem _
  case group =>
    exact Option.ext fun s => by
      rw [← group_mem_conditions, ← group_mem_conditions]
      exact hmem _
  case metadata =>
    -- each field is asked for once, so the same entries are a permutation
    refine (List.perm_ext_iff_of_nodup hf.nodup.of_map hg.nodup.of_map).mpr fun entry => ?_
    rw [← metadata_mem_conditions, ← metadata_mem_conditions]
    exact hmem _
  case usage =>
    have hstatus : f.usage.status = g.usage.status := Option.ext fun s => by
      rw [← usageStatus_mem_conditions, ← usageStatus_mem_conditions]
      exact hmem _
    have hconsole := hdurations .consoleOnly
    have hany := hdurations .anyUser
    have hnow := hf.now.trans hg.now.symm
    rcases hfu : f.usage with ⟨status, console, any, now⟩
    rcases hgu : g.usage with ⟨status', console', any', now'⟩
    simp only [hfu, hgu, ActivityPredicate.durationOf] at hstatus hconsole hany hnow
    rw [hstatus, hconsole, hany, hnow]

/-- **Intersection**: a host is accepted where both parts accept it, and a
read returns what the reads with both parts do. -/
structure Intersects (whole a b : HostFilter) : Prop where
  host : ∀ db record, matchesHostFilter db record whole = .ok true ↔
    matchesHostFilter db record a = .ok true ∧ matchesHostFilter db record b = .ok true
  hosts : ∀ db hosts found foundA foundB, sortedRecords db hosts whole = .ok found →
    sortedRecords db hosts a = .ok foundA → sortedRecords db hosts b = .ok foundB →
      ∀ record, record ∈ found ↔ record ∈ foundA ∧ record ∈ foundB

theorem Intersects.of_host {whole a b : HostFilter}
    (h : ∀ db record, matchesHostFilter db record whole = .ok true ↔
      matchesHostFilter db record a = .ok true ∧ matchesHostFilter db record b = .ok true) :
    Intersects whole a b := by
  refine ⟨h, fun db hosts found foundA foundB hfound hfoundA hfoundB record => ?_⟩
  rw [mem_sortedRecords hfound, mem_sortedRecords hfoundA, mem_sortedRecords hfoundB, h]
  exact and_and_left

/-- **Combined filters are intersections.** For every split of a request
with distinct keys: the whole is accepted where both parts are, it is the
same filter in any order of iteration, and it accepts the hosts that both
parts accept, in every state of the database. -/
theorem filters_intersect (parseDuration : String → Except String ℕ) (now : ℤ)
    (whole a b : List (String × String)) (hkeys : (whole.map Prod.fst).Nodup)
    (hsplit : whole.Perm (a ++ b)) :
    ((∃ f, parseHostFilter parseDuration now whole = .ok f) ↔
      (∃ f, parseHostFilter parseDuration now a = .ok f) ∧
        ∃ f, parseHostFilter parseDuration now b = .ok f) ∧
    (∀ f, parseHostFilter parseDuration now whole = .ok f → ∀ params, params.Perm whole →
      ∃ g, parseHostFilter parseDuration now params = .ok g ∧ g.Same f) ∧
    ∀ f fa fb, parseHostFilter parseDuration now whole = .ok f →
      parseHostFilter parseDuration now a = .ok fa →
        parseHostFilter parseDuration now b = .ok fb → Intersects f fa fb := by
  have hparts : ((a ++ b).map Prod.fst).Nodup := ((hsplit.map Prod.fst).nodup_iff).mp hkeys
  rw [List.map_append, List.nodup_append] at hparts
  refine ⟨?_, fun f hf params hperm => ?_, fun f fa fb hf hfa hfb => ?_⟩
  · simp only [exists_parseHostFilter_iff, hsplit.mem_iff, List.forall_mem_append]
  · obtain ⟨g, hg⟩ : ∃ g, parseHostFilter parseDuration now params = .ok g := by
      have hall := exists_parseHostFilter_iff.mp ⟨f, hf⟩
      exact exists_parseHostFilter_iff.mpr fun param hparam => hall param (hperm.mem_iff.mp hparam)
    have hkeys' : (params.map Prod.fst).Nodup := ((hperm.map Prod.fst).nodup_iff).mpr hkeys
    exact ⟨g, hg, (reads_of_parseHostFilter hkeys' hg).same (reads_of_parseHostFilter hkeys hf) hperm⟩
  · have hreads := reads_of_parseHostFilter hkeys hf
    have hreadsA := reads_of_parseHostFilter hparts.1 hfa
    have hreadsB := reads_of_parseHostFilter hparts.2.1 hfb
    refine .of_host fun db record => ?_
    have hmem : ∀ c, c ∈ f.conditions ↔ c ∈ fa.conditions ∨ c ∈ fb.conditions := fun c => by
      simp only [hreads.mem, hreadsA.mem, hreadsB.mem, hsplit.mem_iff, List.mem_append, or_and_right,
        exists_or]
    simp only [matchesHostFilter_eq_ok_true, hreads.now, hreadsA.now, hreadsB.now, hmem, or_imp,
      forall_and]

/-! ## A sample -/

/-- The durations that the sample asks about. -/
def sampleDurations (value : String) : Except String ℕ :=
  if value = "100s" then .ok (fromSecs 100)
  else if value = "500s" then .ok (fromSecs 500)
  else .error "expected number at 0"

/-- Two windows of different lengths, which a split takes apart. -/
def sampleWindows : List (String × String) :=
  [("usage.inactive_console_for", "100s"), ("usage.no_users_for", "500s")]

theorem sampleWindows_intersect :
    let db := (Service.run sampleCollections).storage.inner.conn
    let record := hostRecord db sampleWatchedHost
    ∃ f, parseHostFilter sampleDurations 920000000000 sampleWindows = .ok f ∧
      matchesHostFilter db record f = .ok true := by
  intro db record
  obtain ⟨haccepts, -, hintersects⟩ := filters_intersect sampleDurations 920000000000 sampleWindows
    [("usage.no_users_for", "500s")] [("usage.inactive_console_for", "100s")] (by decide) (by decide)
  obtain ⟨f, hf⟩ := haccepts.mpr ⟨⟨_, rfl⟩, ⟨_, rfl⟩⟩
  exact ⟨f, hf, ((hintersects f _ _ hf rfl rfl).host db record).mpr
    ⟨by decide +kernel, by decide +kernel⟩⟩

end App

end SimpleNetworkMonitor
