import SimpleNetworkMonitor.Storage.Helpers.Conditions
import SimpleNetworkMonitor.Storage.Helpers.Observing
/-!
# Inactivity is never claimed falsely

A filter that asks for inactivity accepts a host only where it was observed
without a gap for as long as the filter says, and nobody was there.
-/

namespace SimpleNetworkMonitor.Storage

/-! ## What the rows say of the observations -/

section Observed

variable {db : Database} {host : Host} {predicate : ActivityPredicate}
variable {old stretch : List UsageObservation} {o : UsageObservation}

/-- An observation that is told by a row without activity found nobody. -/
theorem nobody_of_row {row : UsageRow} (hvalid : o.snapshot.validate = .ok ())
    (hsame : row.snapshot.differsForHistory o.snapshot = false) (hok : row.snapshot.status = .ok)
    (hcounts : predicate.matchesCounts row.snapshot = false) : predicate.Nobody o.snapshot := by
  obtain ⟨hstatus, hconsole, hremote, -⟩ := differsForHistory_eq_false.mp hsame
  have hok' : o.snapshot.status = .ok := by rw [← hstatus, hok]
  rw [UsageSnapshot.validate, hok'] at hvalid
  simp only at hvalid
  split_ifs at hvalid with hsome
  obtain ⟨console, hc⟩ := Option.isSome_iff_exists.mp hsome.1
  obtain ⟨remote, hr⟩ := Option.isSome_iff_exists.mp hsome.2.1
  cases predicate with
  | consoleOnly =>
    simp only [ActivityPredicate.matchesCounts, hconsole, hc, Option.any_some, decide_eq_false_iff_not]
      at hcounts
    exact ⟨hok', by rw [hc]; congr 1; omega, fun h => by cases h⟩
  | anyUser =>
    simp only [ActivityPredicate.matchesCounts, hconsole, hremote, hc, hr, Option.any_some,
      Bool.or_eq_false_iff, decide_eq_false_iff_not] at hcounts
    exact ⟨hok', by rw [hc]; congr 1; omega, fun _ => by rw [hr]; congr 1; omega⟩

/-- **Nobody was there** at any observation in force from the cutoff on: a
row since the cutoff tells it, or the row at the cutoff does. -/
theorem nobody_of_inForce {cutoff t : ℤ} (hw : Watched db host.id old stretch)
    (hforce : InForce stretch o t) (hcut : cutoff ≤ t)
    (hfloor : ∀ floor, db.retentionFloor = some floor → floor ≤ cutoff)
    (hquiet : QuietSince db host.id predicate cutoff) :
    predicate.Nobody o.snapshot := by
  obtain ⟨r, hr, hsame⟩ := hw.reported o t hforce fun floor hf => le_trans (hfloor floor hf) hcut
  obtain ⟨hok, hcounts⟩ := hquiet.quiet_rowAt hcut hr
  exact nobody_of_row (hw.valid o hforce.mem) hsame hok hcounts

/-- Where a covered stretch is split at the cutoff. -/
theorem exists_split {cutoff : ℤ} : ∀ {first : UsageObservation} {rest : List UsageObservation},
    (first :: rest).Pairwise (fun a b => a.collectedAt < b.collectedAt) →
    first.collectedAt ≤ cutoff →
    ∃ before inForce later, first :: rest = before ++ inForce :: later ∧
      inForce.collectedAt ≤ cutoff ∧ ∀ o ∈ later, cutoff < o.collectedAt := by
  intro first rest
  induction rest generalizing first with
  | nil => exact fun _ hfirst => ⟨[], first, [], rfl, hfirst, by simp⟩
  | cons next rest ih =>
    intro hpairwise hfirst
    obtain ⟨-, hrest⟩ := List.pairwise_cons.mp hpairwise
    by_cases hnext : next.collectedAt ≤ cutoff
    · obtain ⟨before, inForce, later, heq, hle, hlater⟩ := ih hrest hnext
      exact ⟨first :: before, inForce, later, by rw [heq, List.cons_append], hle, hlater⟩
    · refine ⟨[], first, next :: rest, rfl, hfirst, fun o ho => ?_⟩
      rcases List.mem_cons.mp ho with rfl | ho
      · exact not_le.mp hnext
      · exact lt_trans (not_le.mp hnext) ((List.pairwise_cons.mp hrest).1 o ho)

end Observed

/-! ## The result -/

/-- **A host that was inactive since the cutoff**, by its collections: the
ones before the one in force at the cutoff, that one, and the later ones.
From the one in force on, each is of the host's address and found nobody,
and there is no gap between them, nor until now. -/
structure InactiveSince (predicate : ActivityPredicate) (host : Host) (cutoff now : ℤ)
    (before : List UsageObservation) (inForce : UsageObservation) (later : List UsageObservation) :
    Prop where
  earlier : ∀ o ∈ before, o.collectedAt < cutoff
  starts : inForce.collectedAt ≤ cutoff
  since : ∀ o ∈ later, cutoff < o.collectedAt
  address : ∀ o ∈ inForce :: later, o.host.address = host.address
  nobody : ∀ o ∈ inForce :: later, predicate.Nobody o.snapshot
  gaps : (inForce :: later).IsChain Follows
  fresh : isFresh ((inForce :: later).getLast?.map (·.collectedAt)) host.modules.usage.interval
    host.modules.usage.timeout now = true

/-- **Inactivity is never claimed falsely.** In every state a run reaches,
whatever it did and whatever went wrong in it, as long as the collections of
a host came in order: a filter that asks for inactivity and accepts a host
of the catalog is right about every collection since the cutoff. -/
theorem inactive_of_matchesUsageFilter (ops : List ServiceOp) (storage : SqliteStorage)
    (host : Host) (snapshot : UsageSnapshot) (filter : UsageFilter) (predicate : ActivityPredicate)
    (duration : ℕ) (hrun : Service.run ops = .up storage) (hincreasing : Increasing (observations ops))
    (hhost : storage.hosts.get host.id = some host)
    (hlatest : storage.inner.conn.latestUsage.find? host.id = some snapshot)
    (hduration : predicate.durationOf filter = some duration)
    (haccepts : matchesUsageFilter storage.inner.conn host snapshot filter = .ok true) :
    ∃ before inForce later,
      ofHost host.id (observations ops) = before ++ inForce :: later ∧
        InactiveSince predicate host (filter.now - duration) filter.now before inForce later := by
  have hobserving := observing_run ops hincreasing
  rw [hrun] at hobserving
  obtain ⟨old, stretch, hsplit, hw⟩ := hobserving.watched host.id
  have hw : Watched storage.inner.conn host.id old stretch := hw
  have hinactive := (matchesUsageFilter_eq_ok_true.mp haccepts).2 predicate duration hduration
  have hcovered := hinactive.covered
  rw [isCovered, Bool.and_eq_true] at hcovered
  obtain ⟨coverage, hcoverage, hstarted⟩ := (Option.any_eq_true _ _).mp hcovered.1
  have hfloor : ∀ floor, storage.inner.conn.retentionFloor = some floor →
      floor ≤ filter.now - duration := by
    intro floor hf
    have hnone := hcovered.2
    rw [hf] at hnone
    simpa using hnone
  obtain ⟨uncovered, first, rest, rfl, hfirst, -, hchain⟩ := hw.coverage coverage hcoverage
  have hpairwise := (List.pairwise_append.mp hw.increasing).2.1
  have hstarted : first.collectedAt ≤ filter.now - duration :=
    hfirst ▸ of_decide_eq_true hstarted
  obtain ⟨covered, inForce, later, heq, hle, hlater⟩ := exists_split hpairwise hstarted
  rw [heq] at hw hsplit hchain hpairwise
  have hagrees := (hobserving.agrees storage rfl).identity host.id
  rw [hhost] at hagrees
  have hmem : ∀ o ∈ inForce :: later, o ∈ uncovered ++ (covered ++ inForce :: later) := fun o ho =>
    List.mem_append_right _ (List.mem_append_right _ ho)
  have hsplit' : ofHost host.id (observations ops) =
      (old ++ uncovered ++ covered) ++ inForce :: later := by
    rw [hsplit]
    simp only [List.append_assoc]
  -- what comes before the one in force is earlier than it
  have hbefore : ∀ o ∈ old ++ uncovered ++ covered, o.collectedAt < inForce.collectedAt := by
    have hall := increasing_ofHost hincreasing host.id
    rw [hsplit'] at hall
    exact fun o ho => (List.pairwise_append.mp hall).2.2 o ho inForce List.mem_cons_self
  have hstarts : InForce (uncovered ++ (covered ++ inForce :: later)) inForce
      (filter.now - duration) := by
    refine ⟨hmem inForce List.mem_cons_self, hle, fun o ho hle' => ?_⟩
    rw [← List.append_assoc] at ho
    rcases List.mem_append.mp ho with ho | ho
    · have := hbefore o (by rw [List.append_assoc]; exact List.mem_append_right old ho)
      exact le_of_lt this
    · rcases List.mem_cons.mp ho with rfl | ho
      · exact le_rfl
      · exact absurd hle' (not_le.mpr (hlater o ho))
  refine ⟨old ++ uncovered ++ covered, inForce, later, hsplit', fun o ho => ?_, hle, hlater,
    fun o ho => ?_, fun o ho => ?_, hchain.right_of_append, ?_⟩
  · have := hbefore o ho
    omega
  · have haddress := hw.address o (hmem o ho)
    rw [hagrees] at haddress
    exact (Option.some.inj haddress).symm
  · rcases List.mem_cons.mp ho with rfl | hlate
    · exact nobody_of_inForce hw hstarts le_rfl hfloor hinactive.quiet
    · exact nobody_of_inForce hw ⟨hmem o ho, le_rfl, fun o' _ hle' => hle'⟩
        (le_of_lt (hlater o hlate)) hfloor hinactive.quiet
  · have hlast := hw.latest
    rw [hlatest, List.getLast?_append, List.getLast?_append] at hlast
    obtain ⟨last, hl⟩ : ∃ last, (inForce :: later).getLast? = some last :=
      Option.ne_none_iff_exists'.mp (by simp)
    rw [hl] at hlast ⊢
    obtain rfl : snapshot = last.snapshot := Option.some.inj hlast
    exact hinactive.fresh

/-! ## A sample -/

/-- A host whose usage is collected every five minutes. -/
def sampleWatchedHost : Host where
  id := "node-b"
  address := "192.0.2.2"
  name := "Node B"
  groups := []
  modules := { usage := { enabled := true } }

/-- A collection of the sample host, at a number of seconds. -/
def sampleCollection (seconds consoleUsers : ℕ) : ServiceOp :=
  .call (.updateUsage (some 0) {} (fromSecs seconds) (fromSecs seconds) "node-b"
    (.success (fromSecs seconds) consoleUsers 0))

/-- Somebody is there at first, and then nobody. -/
def sampleCollections : List ServiceOp :=
  [.start {} none 0 [sampleWatchedHost], sampleCollection 0 1, sampleCollection 300 0,
    sampleCollection 600 0, sampleCollection 900 0]

theorem sampleCollections_inactive :
    ∃ before inForce later,
      ofHost "node-b" (observations sampleCollections) = before ++ inForce :: later ∧
        InactiveSince .anyUser sampleWatchedHost (920000000000 - fromSecs 500) 920000000000
          before inForce later :=
  inactive_of_matchesUsageFilter sampleCollections (Service.run sampleCollections).storage
    sampleWatchedHost (.success (fromSecs 900) 0 0)
    { noUsersFor := some (fromSecs 500), now := 920000000000 } .anyUser (fromSecs 500)
    (by decide +kernel) (by decide +kernel) (by decide +kernel) (by decide +kernel) rfl
    (by decide +kernel)

end SimpleNetworkMonitor.Storage
