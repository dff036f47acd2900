import SimpleNetworkMonitor.Domain.Filters
/-!
# The conditions of a filter

What a filter says of a host is a conjunction of conditions, each named by
the parameter that asks for it.
-/

namespace SimpleNetworkMonitor

/-- **A condition** on a host. -/
inductive Condition where
  | group (group : String)
  | icmpStatus (status : HostStatus)
  | metadata (field expected : String)
  | usageStatus (status : UsageCollectionStatus)
  | inactive (predicate : ActivityPredicate) (duration : ℕ)
  deriving DecidableEq, Inhabited

namespace Condition

/-- The parameter that asks for it. -/
def parameter : Condition → String
  | .group _ => "group"
  | .icmpStatus _ => "icmp.status"
  | .metadata field _ => "metadata." ++ field
  | .usageStatus _ => "usage.status"
  | .inactive .consoleOnly _ => "usage.inactive_console_for"
  | .inactive .anyUser _ => "usage.no_users_for"

end Condition

/-- The conditions of a filter, in the order in which they are checked. -/
def HostFilter.conditions (filter : HostFilter) : List Condition :=
  filter.icmpStatus.toList.map .icmpStatus ++ filter.group.toList.map .group
    ++ filter.metadata.map (fun (field, expected) => .metadata field expected)
    ++ filter.usage.status.toList.map .usageStatus
    ++ filter.usage.inactiveConsoleFor.toList.map (.inactive .consoleOnly)
    ++ filter.usage.noUsersFor.toList.map (.inactive .anyUser)

section Mem

variable {filter : HostFilter}

@[simp] theorem icmpStatus_mem_conditions {status : HostStatus} :
    .icmpStatus status ∈ filter.conditions ↔ filter.icmpStatus = some status := by
  simp [HostFilter.conditions]

@[simp] theorem group_mem_conditions {group : String} :
    .group group ∈ filter.conditions ↔ filter.group = some group := by
  simp [HostFilter.conditions]

@[simp] theorem metadata_mem_conditions {field expected : String} :
    .metadata field expected ∈ filter.conditions ↔ (field, expected) ∈ filter.metadata := by
  simp [HostFilter.conditions]

@[simp] theorem usageStatus_mem_conditions {status : UsageCollectionStatus} :
    .usageStatus status ∈ filter.conditions ↔ filter.usage.status = some status := by
  simp [HostFilter.conditions]

@[simp] theorem inactive_mem_conditions {predicate : ActivityPredicate} {duration : ℕ} :
    .inactive predicate duration ∈ filter.conditions ↔
      predicate.durationOf filter.usage = some duration := by
  cases predicate <;> simp [HostFilter.conditions, ActivityPredicate.durationOf]

/-- **What holds of every condition** of a filter, field by field. -/
theorem forall_mem_conditions {P : Condition → Prop} :
    (∀ c ∈ filter.conditions, P c) ↔
      (∀ status, filter.icmpStatus = some status → P (.icmpStatus status)) ∧
      (∀ group, filter.group = some group → P (.group group)) ∧
      (∀ entry ∈ filter.metadata, P (.metadata entry.1 entry.2)) ∧
      (∀ status, filter.usage.status = some status → P (.usageStatus status)) ∧
      ∀ predicate duration, ActivityPredicate.durationOf predicate filter.usage = some duration →
        P (.inactive predicate duration) := by
  constructor
  · intro h
    exact ⟨fun _ hs => h _ (icmpStatus_mem_conditions.mpr hs),
      fun _ hg => h _ (group_mem_conditions.mpr hg),
      fun _ he => h _ (metadata_mem_conditions.mpr he),
      fun _ hs => h _ (usageStatus_mem_conditions.mpr hs),
      fun _ _ hd => h _ (inactive_mem_conditions.mpr hd)⟩
  · rintro ⟨hicmp, hgroup, hmetadata, hstatus, hinactive⟩ c hc
    cases c with
    | icmpStatus status => exact hicmp status (icmpStatus_mem_conditions.mp hc)
    | group group => exact hgroup group (group_mem_conditions.mp hc)
    | metadata field expected => exact hmetadata _ (metadata_mem_conditions.mp hc)
    | usageStatus status => exact hstatus status (usageStatus_mem_conditions.mp hc)
    | inactive predicate duration =>
      exact hinactive predicate duration (inactive_mem_conditions.mp hc)

end Mem

/-- The filter of one condition. -/
def Condition.alone (now : ℤ) : Condition → HostFilter
  | .group name => { group := some name, usage := { now } }
  | .icmpStatus status => { icmpStatus := some status, usage := { now } }
  | .metadata field expected => { metadata := [(field, expected)], usage := { now } }
  | .usageStatus status => { usage := { status := some status, now } }
  | .inactive .consoleOnly duration => { usage := { inactiveConsoleFor := some duration, now } }
  | .inactive .anyUser duration => { usage := { noUsersFor := some duration, now } }

@[simp] theorem conditions_alone (now : ℤ) (c : Condition) : (c.alone now).conditions = [c] := by
  rcases c with _ | _ | _ | _ | ⟨_ | _, _⟩ <;> rfl

@[simp] theorem now_alone (now : ℤ) (c : Condition) : (c.alone now).usage.now = now := by
  rcases c with _ | _ | _ | _ | ⟨_ | _, _⟩ <;> rfl

end SimpleNetworkMonitor
