import SimpleNetworkMonitor.App.Model.Runner
import Mathlib.Algebra.Ring.Nat
/-!
# What the runner does

The calls of a job are executions, one after the other: an observation, the
attempts to store it that failed, and the one that stored it. The counters
of a kind count the calls of its jobs, in whatever order the jobs take their
steps.
-/

namespace SimpleNetworkMonitor.App

variable {ο ι : Type}

/-! ## Executions -/

/-- **An execution**: what was observed, and the attempts to store it that
failed so that it is tried again. -/
structure Execution (ο : Type) where
  observation : ο
  success : Bool
  elapsed : ℕ
  failures : List {error : StorageError // error ≠ .staleGeneration}

namespace Execution

/-- The calls of an execution that is not stored. -/
def calls (e : Execution ο) : List (Call ο) :=
  .observe e.observation e.success e.elapsed ::
    e.failures.map fun error => .persist e.observation (.error error.val)

/-- The calls of one that is. -/
def stored (e : Execution ο) : List (Call ο) := e.calls ++ [.persist e.observation (.ok ())]

/-- The calls of one whose generation was replaced. -/
def stale (e : Execution ο) : List (Call ο) :=
  e.calls ++ [.persist e.observation (.error .staleGeneration)]

/-- One more attempt failed. -/
def failed (e : Execution ο) (error : StorageError) (h : error ≠ .staleGeneration) : Execution ο :=
  { e with failures := e.failures ++ [⟨error, h⟩] }

theorem calls_failed (e : Execution ο) {error : StorageError} (h : error ≠ .staleGeneration) :
    (e.failed error h).calls = e.calls ++ [.persist e.observation (.error error)] := by
  simp [calls, failed]

end Execution

/-- What a job has called since the last execution it stored. -/
def Unfinished : Phase ο → List (Call ο) → Prop
  | .waiting, calls => calls = []
  | .observing, calls => calls = []
  | .storing observation, calls =>
    ∃ last : Execution ο, last.observation = observation ∧ calls = last.calls
  | .returned, calls =>
    calls = [] ∨ ∃ last : Execution ο, calls = last.calls ∨ calls = last.stale

/-- **The calls of a job are executions in order.** All but the last are
stored; the last is as far as the job has come, and a stale generation is the
last answer a job gets. -/
def InOrder (phase : Phase ο) (calls : List (Call ο)) : Prop :=
  ∃ (done : List (Execution ο)) (rest : List (Call ο)),
    calls = done.flatMap Execution.stored ++ rest ∧ Unfinished phase rest

/-- A job that is dropped has called what it had. -/
theorem Unfinished.returned {phase : Phase ο} {calls : List (Call ο)} (h : Unfinished phase calls) :
    Unfinished .returned calls := by
  cases phase with
  | waiting => exact Or.inl h
  | observing => exact Or.inl h
  | storing observation =>
    obtain ⟨last, -, hcalls⟩ := h
    exact Or.inr ⟨last, Or.inl hcalls⟩
  | returned => exact h

/-- **A step keeps the order.** -/
theorem InOrder.step {phase : Phase ο} {calls : List (Call ο)} (h : InOrder phase calls)
    (kind : String) (metrics : RuntimeMetrics) (event : Event ο) :
    InOrder (runJob kind phase metrics event).1 (calls ++ (phase.call event).toList) := by
  obtain ⟨done, rest, rfl, hrest⟩ := h
  cases event with
  | admitted =>
    cases phase with
    | waiting => exact ⟨done, rest, by simp [Phase.call], hrest⟩
    | observing => exact ⟨done, rest, by simp [Phase.call], hrest⟩
    | storing observation => exact ⟨done, rest, by simp [Phase.call], hrest⟩
    | returned => exact ⟨done, rest, by simp [Phase.call], hrest⟩
  | closed =>
    cases phase with
    | waiting => exact ⟨done, rest, by simp [Phase.call], Or.inl hrest⟩
    | observing => exact ⟨done, rest, by simp [Phase.call], hrest⟩
    | storing observation => exact ⟨done, rest, by simp [Phase.call], hrest⟩
    | returned => exact ⟨done, rest, by simp [Phase.call], hrest⟩
  | observed observation success elapsed =>
    cases phase with
    | waiting => exact ⟨done, rest, by simp [Phase.call], hrest⟩
    | observing =>
      -- a new execution begins
      obtain rfl : rest = [] := hrest
      exact ⟨done, _, by rw [List.append_nil]; rfl, ⟨observation, success, elapsed, []⟩, rfl, rfl⟩
    | storing observation => exact ⟨done, rest, by simp [Phase.call], hrest⟩
    | returned => exact ⟨done, rest, by simp [Phase.call], hrest⟩
  | persisted result =>
    cases phase with
    | waiting => exact ⟨done, rest, by simp [Phase.call], hrest⟩
    | observing => exact ⟨done, rest, by simp [Phase.call], hrest⟩
    | returned => exact ⟨done, rest, by simp [Phase.call], hrest⟩
    | storing observation =>
      obtain ⟨last, rfl, rfl⟩ := hrest
      cases result with
      | ok value =>
        -- the last execution is stored
        exact ⟨done ++ [last], [], by simp [Phase.call, Execution.stored], rfl⟩
      | error error =>
        by_cases hstale : error = .staleGeneration
        · subst hstale
          exact ⟨done, last.stale, by simp [Phase.call, Execution.stale],
            Or.inr ⟨last, Or.inr rfl⟩⟩
        · have hphase : (runJob kind (.storing last.observation) metrics
              (.persisted (.error error))).1 = .storing last.observation := by
            cases error <;> first | rfl | exact absurd rfl hstale
          rw [hphase]
          refine ⟨done, (last.failed error hstale).calls, ?_, last.failed error hstale, rfl, rfl⟩
          rw [Execution.calls_failed, List.append_assoc]
          rfl
  | aborted =>
    refine ⟨done, rest, ?_, hrest.returned⟩
    cases phase <;> simp [Phase.call]

/-! ## What the order says -/

def Call.observation : Call ο → Option ο
  | .observe observation _ _ => some observation
  | .persist _ _ => none

/-- The observation that a call has stored. -/
def Call.storedObservation : Call ο → Option ο
  | .persist observation (.ok ()) => some observation
  | _ => none

theorem filterMap_stored_calls (e : Execution ο) :
    e.calls.filterMap Call.storedObservation = [] := by
  refine List.filterMap_eq_nil_iff.mpr fun call hcall => ?_
  rcases List.mem_cons.mp hcall with rfl | hcall
  · rfl
  · obtain ⟨error, -, rfl⟩ := List.mem_map.mp hcall
    rfl

/-- What is unfinished has observed at most once, and stored nothing. -/
theorem Unfinished.filterMap {phase : Phase ο} {rest : List (Call ο)} (h : Unfinished phase rest) :
    rest.filterMap Call.storedObservation = [] := by
  cases phase with
  | waiting => rw [show rest = [] from h]; rfl
  | observing => rw [show rest = [] from h]; rfl
  | storing observation =>
    obtain ⟨last, -, rfl⟩ := h
    exact filterMap_stored_calls last
  | returned =>
    rcases h with rfl | ⟨last, rfl | rfl⟩
    · rfl
    · exact filterMap_stored_calls last
    · rw [Execution.stale, List.filterMap_append, filterMap_stored_calls]
      rfl

namespace Call

def succeeded : Call ο → Bool
  | .observe _ success _ => success
  | .persist _ _ => false

def failed : Call ο → Bool
  | .observe _ success _ => !success
  | .persist _ _ => false

def observes : Call ο → Bool
  | .observe _ _ _ => true
  | .persist _ _ => false

/-- An attempt that failed and is made again. -/
def retried : Call ο → Bool
  | .observe _ _ _ => false
  | .persist _ (.ok ()) => false
  | .persist _ (.error error) => error ≠ .staleGeneration

def within (bound : ℕ) : Call ο → Bool
  | .observe _ _ elapsed => elapsed ≤ bound
  | .persist _ _ => false

def elapsed : Call ο → ℕ
  | .observe _ _ elapsed => elapsed
  | .persist _ _ => 0

end Call

/-- **The counters of some calls.** The sum of the durations is exact, where
the source rounds it as a float. -/
structure Counts (stats : CheckStats) (calls : List (Call ο)) : Prop where
  successes : stats.successes = calls.countP Call.succeeded
  failures : stats.failures = calls.countP Call.failed
  storageRetries : stats.storageRetries = calls.countP Call.retried
  durationSum : stats.durationSum = (calls.map Call.elapsed).sum
  buckets : ∀ index, stats.buckets index = calls.countP (Call.within (DURATION_BUCKETS index))

variable {stats : CheckStats} {calls : List (Call ο)}

theorem Counts.observe (h : Counts stats calls) (observation : ο) (success : Bool) (elapsed : ℕ) :
    Counts (stats.observe success elapsed) (calls ++ [.observe observation success elapsed]) := by
  constructor
  · rw [List.countP_append, ← h.successes]
    cases success <;> rfl
  · rw [List.countP_append, ← h.failures]
    cases success <;> rfl
  · rw [List.countP_append, ← h.storageRetries]
    rfl
  · rw [List.map_append, List.sum_append, ← h.durationSum]
    rfl
  · intro index
    rw [List.countP_append, ← h.buckets index, List.countP_singleton]
    simp only [CheckStats.observe, Call.within, decide_eq_true_eq]
    split_ifs <;> rfl

theorem Counts.retry (h : Counts stats calls) (observation : ο) {error : StorageError}
    (herror : error ≠ .staleGeneration) :
    Counts stats.retry (calls ++ [.persist observation (.error error)]) := by
  have hretried : (Call.persist observation (.error error)).retried = true := decide_eq_true herror
  constructor
  · rw [List.countP_append, ← h.successes]
    rfl
  · rw [List.countP_append, ← h.failures]
    rfl
  · rw [List.countP_append, ← h.storageRetries, List.countP_singleton, if_pos hretried]
    rfl
  · rw [List.map_append, List.sum_append, ← h.durationSum]
    rfl
  · intro index
    rw [List.countP_append, ← h.buckets index]
    rfl

/-- An attempt that is not made again counts nothing. -/
theorem Counts.persist (h : Counts stats calls) (observation : ο) {result : Except StorageError Unit}
    (hresult : (Call.persist observation result).retried = false) :
    Counts stats (calls ++ [.persist observation result]) := by
  constructor
  · rw [List.countP_append, ← h.successes]
    rfl
  · rw [List.countP_append, ← h.failures]
    rfl
  · rw [List.countP_append, ← h.storageRetries, List.countP_singleton, hresult]
    rfl
  · rw [List.map_append, List.sum_append, ← h.durationSum]
    rfl
  · intro index
    rw [List.countP_append, ← h.buckets index]
    rfl

/-- **A step counts its call**, under the kind of its job and no other. -/
theorem Counts.step {metrics : RuntimeMetrics} {kind' : String}
    (h : Counts (metrics.statsOf kind') calls) (kind : String) (phase : Phase ο) (event : Event ο) :
    Counts ((runJob kind phase metrics event).2.statsOf kind')
      (calls ++ if kind' = kind then (phase.call event).toList else []) := by
  have hsame : Counts (metrics.statsOf kind') (calls ++ if kind' = kind then [] else []) := by
    rwa [ite_self, List.append_nil]
  cases event with
  | admitted => cases phase <;> exact hsame
  | closed => cases phase <;> exact hsame
  | aborted => cases phase <;> exact hsame
  | observed observation success elapsed =>
    cases phase with
    | waiting => exact hsame
    | storing observation => exact hsame
    | returned => exact hsame
    | observing =>
      simp only [runJob, Phase.call, RuntimeMetrics.statsOf_observe]
      split_ifs with hkind
      · exact h.observe observation success elapsed
      · rwa [List.append_nil]
  | persisted result =>
    cases phase with
    | waiting => exact hsame
    | observing => exact hsame
    | returned => exact hsame
    | storing observation =>
      simp only [Phase.call, Option.toList_some]
      by_cases hretried : (Call.persist observation result).retried = true
      · obtain ⟨error, rfl, hstale⟩ : ∃ error, result = .error error ∧ error ≠ .staleGeneration := by
          cases result with
          | ok value => cases hretried
          | error error => exact ⟨error, rfl, of_decide_eq_true hretried⟩
        have hmetrics : (runJob kind (.storing observation) metrics (.persisted (.error error))).2 =
            metrics.storageRetry kind := by
          cases error <;> first | rfl | exact absurd rfl hstale
        rw [hmetrics, RuntimeMetrics.statsOf_storageRetry]
        split_ifs with hkind
        · exact h.retry observation hstale
        · rwa [List.append_nil]
      · have hmetrics : (runJob kind (.storing observation) metrics (.persisted result)).2 =
            metrics := by
          cases result with
          | ok value => rfl
          | error error => cases error <;> first | rfl | exact absurd rfl hretried
        rw [hmetrics]
        split_ifs with hkind
        · exact h.persist observation (Bool.eq_false_iff.mpr hretried)
        · rwa [List.append_nil]

/-! ## Runs -/

section Run

variable [DecidableEq ι] {kind : ι → String}

theorem run_concat (events : List (ι × Event ο)) (event : ι × Event ο) :
    Jobs.run kind (events ++ [event]) = (Jobs.run kind events).step kind event := by
  rw [Jobs.run, List.foldl_append, List.foldl_cons, List.foldl_nil, ← Jobs.run]

end Run

/-! ## Histograms -/

/-- **Every completed observation is counted once**, as a success or as a
failure. -/
theorem Counts.total (h : Counts stats calls) :
    stats.successes + stats.failures = calls.countP Call.observes := by
  rw [h.successes, h.failures]
  clear h
  induction calls with
  | nil => rfl
  | cons call calls ih =>
    rw [List.countP_cons, List.countP_cons, List.countP_cons]
    cases call with
    | observe observation success elapsed =>
      cases success <;> simp [Call.succeeded, Call.failed, Call.observes] <;> omega
    | persist observation result => simpa [Call.succeeded, Call.failed, Call.observes] using ih

end SimpleNetworkMonitor.App
