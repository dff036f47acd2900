import SimpleNetworkMonitor.Common.Streak
import SimpleNetworkMonitor.Storage.Helpers.Observing
/-!
# The usage history as a compression of the samples

A collection goes to the history where it tells something else than the
collection written just before it. The history is read by the instants of
its rows, so the two notions of what came before have to agree: they do as
long as the instants do not go back.
-/

namespace SimpleNetworkMonitor.Storage

/-! ## Collections of one host -/

/-- A call that writes a collection, with all that goes wrong during it. -/
structure UsageCall where
  handle : WriteGeneration := none
  faults : Faults := {}
  now : ℤ
  now' : ℤ
  snapshot : UsageSnapshot

def UsageCall.run (call : UsageCall) (hostId : String) (storage : SqliteStorage) :
    Except StorageError Bool × SqliteStorage :=
  Program.run (updateUsage call.handle call.faults call.now call.now' hostId call.snapshot) storage

/-- The storage after a sequence of collections of a host. -/
def collect (hostId : String) (calls : List UsageCall) (storage : SqliteStorage) : SqliteStorage :=
  calls.foldl (fun storage call => (call.run hostId storage).2) storage

/-- **The snapshots that were written**: those whose calls succeeded. -/
def written (hostId : String) : List UsageCall → SqliteStorage → List UsageSnapshot
  | [], _ => []
  | call :: calls, storage =>
    match call.run hostId storage with
    | (.ok _, storage') => call.snapshot :: written hostId calls storage'
    | (.error _, storage') => written hostId calls storage'

/-! ## What the two logs tell -/

/-- The sample at an instant. -/
def sampleAt (db : Database) (id : String) (t : ℤ) : Option (ℕ × UsageRow) :=
  db.usageSamples.latest? (·.snapshot.collectedAt) fun row =>
    row.hostId = id && row.snapshot.collectedAt ≤ t

/-- What a row tells: its status, its counts and its error. -/
def UsageSnapshot.content (snapshot : UsageSnapshot) :
    UsageCollectionStatus × Option ℕ × Option ℕ × Option String :=
  (snapshot.status, snapshot.consoleUsers, snapshot.remoteUsers, snapshot.error)

/-- **The history tells what the samples tell**, at every instant. -/
def FaithfulAt (db : Database) (hostId : String) (t : ℤ) : Prop :=
  (rowAt db hostId t).map (UsageSnapshot.content ·.2.snapshot) =
    (sampleAt db hostId t).map (UsageSnapshot.content ·.2.snapshot)

instance (db : Database) (hostId : String) (t : ℤ) : Decidable (FaithfulAt db hostId t) :=
  inferInstanceAs (Decidable (_ = _))

/-- The snapshots that tell something else than the one just before them. -/
def usageChanges (snapshots : List UsageSnapshot) : List UsageSnapshot :=
  snapshots.changes UsageSnapshot.differsForHistory

variable {storage : SqliteStorage} {hostId : String} {snapshots : List UsageSnapshot}

theorem content_eq_of_not_differs {a b : UsageSnapshot} (h : a.differsForHistory b = false) :
    UsageSnapshot.content a = UsageSnapshot.content b := by
  obtain ⟨h₁, h₂, h₃, h₄⟩ := differsForHistory_eq_false.mp h
  rw [UsageSnapshot.content, UsageSnapshot.content, h₁, h₂, h₃, h₄]

/-! ## What is written -/

/-- **The two logs**, once a list of snapshots is written: all of them are
samples, and their changes are the history. -/
structure Collected (storage : SqliteStorage) (hostId : String) (snapshots : List UsageSnapshot) :
    Prop where
  samples : storage.inner.conn.usageSamples.values = snapshots.map (⟨hostId, ·⟩)
  history : storage.inner.conn.usageHistory.values = (usageChanges snapshots).map (⟨hostId, ·⟩)
  cached : storage.inner.usage.find? hostId = snapshots.getLast?
  kept : storage.inner.usageSampleRetention = none

/-- **A call** writes its snapshot, or changes nothing. -/
theorem collected_run (h : Collected storage hostId snapshots) (call : UsageCall) :
    (∃ e, call.run hostId storage = (.error e, storage)) ∨
      ∃ inserted storage', call.run hostId storage = (.ok inserted, storage') ∧
        Collected storage' hostId (snapshots ++ [call.snapshot]) := by
  rcases updateUsage_cases call.handle call.faults call.now call.now' hostId call.snapshot storage
    with h' | ⟨host, inserted, usageSamples, hget, -, -, hinsert, hsampled, hrun⟩
  · exact Or.inl h'
  · obtain ⟨-, rfl⟩ := Catalog.get_eq_some.mp hget
    refine Or.inr ⟨inserted, _, hrun, ?_, ?_, ?_, h.kept⟩
    · show usageSamples.values = _
      rw [hsampled h.kept, Log.values_append, h.samples, List.map_append]
      rfl
    · rw [h.cached] at hinsert
      have hchanges : usageChanges (snapshots ++ [call.snapshot]) =
          usageChanges snapshots ++ if inserted then [call.snapshot] else [] := by
        rw [hinsert]
        exact List.changes_concat snapshots call.snapshot
      rw [hchanges, List.map_append]
      cases inserted with
      | true =>
        show (storage.inner.conn.usageHistory.append _).values = _
        rw [Log.values_append, h.history]
        rfl
      | false =>
        show storage.inner.conn.usageHistory.values = _
        rw [h.history]
        exact (List.append_nil _).symm
    · rw [List.getLast?_concat]
      exact Table.find?_upsert_self

theorem collected_collect (calls : List UsageCall) (h : Collected storage hostId snapshots) :
    Collected (collect hostId calls storage) hostId (snapshots ++ written hostId calls storage) := by
  induction calls generalizing storage snapshots with
  | nil =>
    rw [written, List.append_nil]
    exact h
  | cons call calls ih =>
    have hcollect : collect hostId (call :: calls) storage =
        collect hostId calls (call.run hostId storage).2 := rfl
    rcases collected_run h call with ⟨e, hrun⟩ | ⟨inserted, storage', hrun, h'⟩
    · rw [hcollect, written, hrun]
      exact ih h
    · rw [hcollect, written, hrun]
      have hnext := ih h'
      rwa [List.append_assoc] at hnext

/-! ## What is read -/

/-- The rows of the host at or before an instant are the snapshots so far. -/
theorem filter_rows (snapshots : List UsageSnapshot) (t : ℤ) :
    (snapshots.map fun snapshot => (⟨hostId, snapshot⟩ : UsageRow)).filter
        (fun row => row.hostId = hostId && row.snapshot.collectedAt ≤ t) =
      (snapshots.filter fun snapshot => snapshot.collectedAt ≤ t).map (⟨hostId, ·⟩) := by
  rw [List.filter_map]
  refine congrArg _ (List.filter_congr fun snapshot _ => ?_)
  simp

/-- A log of snapshots in the order of their instants is read at its end. -/
theorem map_latest? {log : Log UsageRow} (hlog : log.values = snapshots.map (⟨hostId, ·⟩))
    (hsorted : snapshots.Pairwise fun a b => a.collectedAt ≤ b.collectedAt) (t : ℤ) :
    (log.latest? (·.snapshot.collectedAt) fun row =>
        row.hostId = hostId && row.snapshot.collectedAt ≤ t).map
          (UsageSnapshot.content ·.2.snapshot) =
      ((snapshots.filter fun snapshot => snapshot.collectedAt ≤ t).getLast?).map
        UsageSnapshot.content := by
  have hvalues : log.values.Pairwise fun a b => a.snapshot.collectedAt ≤ b.snapshot.collectedAt := by
    rw [hlog]
    exact List.pairwise_map.mpr hsorted
  have hlast := @Log.latest?_eq_getLast? UsageRow _ (·.snapshot.collectedAt)
    (fun row => row.hostId = hostId && row.snapshot.collectedAt ≤ t) hvalues
  have hcontent := congrArg (Option.map fun row : UsageRow => UsageSnapshot.content row.snapshot) hlast
  rw [Option.map_map, hlog, filter_rows, List.getLast?_map, Option.map_map] at hcontent
  exact hcontent

/-- **In the order of the instants** the history tells what the samples tell. -/
theorem Collected.faithfulAt (h : Collected storage hostId snapshots)
    (hsorted : snapshots.Pairwise fun a b => a.collectedAt ≤ b.collectedAt) (t : ℤ) :
    FaithfulAt storage.inner.conn hostId t := by
  obtain ⟨before, after, rfl, hbefore, hafter⟩ := List.exists_append_of_sorted hsorted t
  have hchanges : (usageChanges (before ++ after)).Pairwise
      fun a b => a.collectedAt ≤ b.collectedAt := hsorted.sublist List.changesFrom_sublist
  have hsamples : (before ++ after).filter (fun snapshot => snapshot.collectedAt ≤ t) = before := by
    rw [List.filter_append, List.filter_eq_self.mpr (by simpa using hbefore),
      List.filter_eq_nil_iff.mpr (by simpa using hafter), List.append_nil]
  have hhistory : (usageChanges (before ++ after)).filter (fun snapshot => snapshot.collectedAt ≤ t) =
      usageChanges before :=
    List.filter_changes (by simpa using hbefore) (by simpa using hafter)
  unfold FaithfulAt rowAt sampleAt
  rw [map_latest? h.history hchanges, map_latest? h.samples hsorted, hsamples, hhistory]
  have hcontent : ∀ a b : UsageSnapshot, a.differsForHistory b = false →
      UsageSnapshot.content a = UsageSnapshot.content b := fun _ _ => content_eq_of_not_differs
  exact List.map_getLast?_changes hcontent before

/-! ## The result -/

/-- A storage opened on an empty database has written nothing. -/
theorem collected_opened {faults : Faults} {now : ℤ} {hosts : List Host} {conn : Database}
    (hopen : newInitialized faults none now {} hosts = (.ok storage, conn)) :
    Collected storage hostId [] := by
  obtain ⟨hsync, rfl⟩ := opened_of_newInitialized hopen
  refine ⟨?_, ?_, ?_, rfl⟩
  · exact congrArg Log.values hsync.usageSamples
  · exact congrArg Log.values hsync.usageHistory
  · have hlatest : conn.latestUsage.find? hostId = none := by
      rw [hsync.latestUsage]
      rfl
    show (loadUsage hosts conn.latestUsage).find? hostId = none
    rw [find?_loadUsage, hlatest]
    exact Option.filter_none _

/-- **The history compresses the samples.** From a storage opened on an empty
database, whatever is collected of a host and whatever goes wrong: all that was
written are the samples, and their changes are the history. As long as the
instants did not go back from one collection written to the next, the history
tells at every instant what the samples tell. -/
theorem usageHistory_compresses (faults : Faults) (now : ℤ) (hosts : List Host) (conn : Database)
    (hostId : String) (calls : List UsageCall)
    (hopen : newInitialized faults none now {} hosts = (.ok storage, conn)) :
    let snapshots := written hostId calls storage
    let db := (collect hostId calls storage).inner.conn
    (db.usageSamples.values = snapshots.map (⟨hostId, ·⟩) ∧
      db.usageHistory.values = (usageChanges snapshots).map (⟨hostId, ·⟩)) ∧
    (snapshots.Pairwise (fun a b => a.collectedAt ≤ b.collectedAt) → ∀ t, FaithfulAt db hostId t) := by
  intro snapshots db
  have hopened : Collected storage hostId [] := collected_opened hopen
  have hcollected := collected_collect calls hopened
  rw [List.nil_append] at hcollected
  exact ⟨⟨hcollected.samples, hcollected.history⟩, hcollected.faithfulAt⟩

/-! ## Samples -/

/-- A host whose usage is collected every minute. -/
def sampleCompressedHost : Host where
  id := "node-d"
  address := "192.0.2.4"
  name := "Node D"
  groups := []
  modules := { usage := { enabled := true } }

/-- The storage that an empty database is opened into. -/
def sampleEmpty : SqliteStorage :=
  match newInitialized {} none 0 {} [sampleCompressedHost] with
  | (.ok storage, _) => storage
  | (.error _, _) => {}

/-- A collection of the sample host, at a number of seconds. -/
def sampleCall (seconds consoleUsers : ℕ) : UsageCall where
  now := fromSecs seconds
  now' := fromSecs seconds
  snapshot := .success (fromSecs seconds) consoleUsers 0

/-- Three collections, the first two of which tell the same. -/
def sampleCalls : List UsageCall := [sampleCall 0 1, sampleCall 60 1, sampleCall 120 0]

theorem sampleCalls_faithfulAt :
    let db := (collect "node-d" sampleCalls sampleEmpty).inner.conn
    db.usageSamples.rows.length = 3 ∧ db.usageHistory.rows.length = 2 ∧
      FaithfulAt db "node-d" (fromSecs 90) :=
  ⟨by decide +kernel, by decide +kernel,
    (usageHistory_compresses {} 0 [sampleCompressedHost] sampleEmpty.inner.conn "node-d" sampleCalls
      (by decide +kernel)).2 (by decide +kernel) (fromSecs 90)⟩

/-- **Instants that go back**: the second collection tells what the first does
and goes to the samples only, where it is the first row in time. -/
theorem usageHistory_not_faithful_when_going_back :
    ∃ calls : List UsageCall,
      written "node-d" calls sampleEmpty = calls.map UsageCall.snapshot ∧
      ¬ ∀ t, FaithfulAt (collect "node-d" calls sampleEmpty).inner.conn "node-d" t :=
  ⟨[sampleCall 100 1, sampleCall 50 1], by decide +kernel, fun hall =>
    absurd (hall (fromSecs 50)) (by decide +kernel)⟩

end SimpleNetworkMonitor.Storage
