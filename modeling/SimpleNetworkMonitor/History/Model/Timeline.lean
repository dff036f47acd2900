import SimpleNetworkMonitor.Common.HalfOpen
import SimpleNetworkMonitor.History.Model.Query
import SimpleNetworkMonitor.History.Model.Run
import Mathlib.Algebra.BigOperators.Group.Multiset.Basic
/-!
# The timeline

What the history tables are for: every stretch of time over which a check
was configured one way, with every observation accepted in it, and none
of it ever summarized or thrown away. Over it, for how long in a window
an observation of a kind was in force.
-/

namespace SimpleNetworkMonitor.History

open HalfOpen

/-- **A stint**: an epoch and the observations accepted in it, the latest
first. -/
structure Stint extends EpochInfo where
  accepted : List (ℤ × HistoryObservation)
  deriving DecidableEq

/-- All the stints there have been. -/
abbrev Timeline := Multiset Stint

/-! ## How the timeline grows -/

def Stint.close (stint : Stint) (now : ℤ) : Stint :=
  { stint with toEpochInfo := stint.toEpochInfo.close now }

/-- Whether a stint takes an observation: one of its check, while it is
open, later than the last one and not from the future. -/
def Stint.takes (stint : Stint) (key : CheckKey) (at_ now : ℤ) : Bool :=
  stint.key = key ∧ stint.isOpen ∧ at_ ≤ now ∧ stint.startedMs ≤ at_
    ∧ ∀ last ∈ stint.accepted.head?, last.1 < at_

def Stint.take (stint : Stint) (at_ : ℤ) (observation : HistoryObservation) : Stint :=
  { stint with accepted := (at_, observation) :: stint.accepted }

namespace Timeline

def closeKey (now : ℤ) (timeline : Timeline) (key : CheckKey) : Timeline :=
  timeline.map fun stint => if stint.key = key ∧ stint.isOpen then stint.close now else stint

/-- Whether a target has its open stint, configured the same way. -/
def Holds (timeline : Timeline) (target : Host × EpochCheck) : Prop :=
  ∃ stint ∈ timeline, stint.key = targetKey target ∧ stint.isOpen ∧
    stint.signature = signature target.1 target.2

instance (timeline : Timeline) (target : Host × EpochCheck) : Decidable (timeline.Holds target) :=
  Multiset.decidableExistsMultiset

def syncCheck (now : ℤ) (timeline : Timeline) (target : Host × EpochCheck) : Timeline :=
  if timeline.Holds target then timeline
  else timeline.closeKey now (targetKey target) + {⟨newEpoch target.1 target.2 now, []⟩}

/-- The stints of checks that are gone are closed, once every check of the
inventory has its open stint. -/
def sync (timeline : Timeline) (hosts : List Host) (now : ℤ) : Timeline :=
  ((targets hosts).foldl (syncCheck now) timeline).map fun stint =>
    if stint.isOpen ∧ ∀ t ∈ targets hosts, targetKey t ≠ stint.key then stint.close now else stint

def record (timeline : Timeline) (key : CheckKey) (at_ : ℤ) (observation : HistoryObservation)
    (now : ℤ) : Timeline :=
  timeline.map fun stint => if stint.takes key at_ now then stint.take at_ observation else stint

end Timeline

/-- What a call means for the timeline: maintenance means nothing. -/
def HistoryOp.trace (now : ℤ) : HistoryOp → Timeline → Timeline
  | .syncEpochs hosts, timeline => timeline.sync hosts now
  | .record host module check at_ observation, timeline =>
    timeline.record ⟨host, module, check⟩ at_ observation now
  | .rollup _, timeline => timeline
  | .prune _ _ _, timeline => timeline

/-- The timeline of a run. -/
def timeline (steps : List (ℤ × HistoryOp)) : Timeline := Clocked.run HistoryOp.trace steps 0

/-! ## What was in force -/

/-- **The intervals observations are in force**, each up to the next one,
until it goes stale, and no further than `limit`. -/
def inForce (fresh limit : ℤ) :
    Option ℤ → List (ℤ × HistoryObservation) → List (ℤ × ℤ × HistoryObservation)
  | _, [] => []
  | next, (at_, observation) :: older =>
    (at_, min (min (next.getD limit) (at_ + fresh)) limit, observation)
      :: inForce fresh limit (some at_) older

/-- The time a window shares with the intervals of a kind of observation. -/
def timeOf (p : HistoryObservation → Bool) (intervals : List (ℤ × ℤ × HistoryObservation))
    (lo hi : ℤ) : ℕ :=
  (intervals.map fun x => if p x.2.2 then overlap x.1 x.2.1 lo hi else 0).sum

/-- The intervals of a stint at `now`: none goes past its end. -/
def Stint.inForce (stint : Stint) (now : ℤ) : List (ℤ × ℤ × HistoryObservation) :=
  History.inForce stint.freshnessMs (min (stint.endedMs.getD now) now) none stint.accepted

/-- Whether an epoch counts in a series. -/
def carries (request : HistoryRequest) (key : String) (info : EpochInfo) : Bool :=
  if request.breakdown = "host" then info.hostId = key
  else if request.breakdown = "group" then
    key ∈ info.groups ∧ (request.groups = [] ∨ key ∈ request.groups)
  else key = "all"

/-- **What a chart should say**: the time in a window that the stints in
scope that carry a series had an observation of a kind in force. -/
def reference (timeline : Timeline) (request : HistoryRequest) (now : ℤ)
    (p : HistoryObservation → Bool) (key : String) (lo hi : ℤ) : ℕ :=
  ((timeline.filter fun stint => inScope request stint.toEpochInfo ∧
    carries request key stint.toEpochInfo).map fun stint =>
      timeOf p (stint.inForce now) lo hi).sum

end SimpleNetworkMonitor.History
