import SimpleNetworkMonitor.Storage.Inactivity
/-!
# Inactivity filters are monotone

A host that was inactive for a duration was inactive for any shorter one,
and a host without users had none at the console. A later cutoff moves rows
from the range after it to the query at it; a row that broke no claim in the
one breaks none in the other.
-/

namespace SimpleNetworkMonitor.Storage

variable {db : Database} {host : Host} {snapshot : UsageSnapshot} {now : ℤ}
variable {predicate : ActivityPredicate}

/-! ## A shorter duration -/

theorem QuietSince.mono {id : String} {early late : ℤ} (h : QuietSince db id predicate early)
    (hle : early ≤ late) : QuietSince db id predicate late where
  atCutoff := by
    obtain ⟨r, hr, -⟩ := h.atCutoff
    obtain ⟨hmem, hid, hat⟩ := mem_rowAt hr
    -- the row at the early cutoff is before the late one, so there is one at it
    rcases hlate : rowAt db id late with - | r'
    · have hnone := Log.latest?_eq_none.mp hlate r hmem
      have hat' : r.2.snapshot.collectedAt ≤ late := le_trans hat hle
      simp [hid, hat'] at hnone
    · exact ⟨r', rfl, h.quiet_rowAt hle hlate⟩
  later r hr hid hlt := h.later r hr hid (lt_of_le_of_lt hle hlt)

theorem InactiveFor.mono {long short : ℕ} (h : InactiveFor db host snapshot now predicate long)
    (hle : short ≤ long) (hnow : now ≤ maxUtc) (hvalid : validateDuration short = .ok ()) :
    InactiveFor db host snapshot now predicate short where
  enabled := h.enabled
  fresh := h.fresh
  covered := isCovered_mono h.covered (by omega)
  current := h.current
  valid := hvalid
  hasCutoff := h.hasCutoff.mono hle hnow
  quiet := h.quiet.mono (by omega)

/-! ## The console only -/

theorem Quiet.console (h : Quiet .anyUser snapshot) : Quiet .consoleOnly snapshot :=
  ⟨h.1, (Bool.or_eq_false_iff.mp h.2).1⟩

theorem QuietSince.console {id : String} {cutoff : ℤ} (h : QuietSince db id .anyUser cutoff) :
    QuietSince db id .consoleOnly cutoff where
  atCutoff := h.atCutoff.imp fun _ hr => ⟨hr.1, hr.2.console⟩
  later r hr hid hlt := (h.later r hr hid hlt).console

theorem currentStateIsInactive_console
    (h : ActivityPredicate.anyUser.currentStateIsInactive snapshot = true) :
    ActivityPredicate.consoleOnly.currentStateIsInactive snapshot = true := by
  unfold ActivityPredicate.currentStateIsInactive at h ⊢
  split at h
  · exact (Bool.and_eq_true _ _ ▸ h).1
  · cases h

theorem InactiveFor.console {duration : ℕ}
    (h : InactiveFor db host snapshot now .anyUser duration) :
    InactiveFor db host snapshot now .consoleOnly duration :=
  { h with
    current := currentStateIsInactive_console h.current
    quiet := h.quiet.console }

/-! ## The result -/

/-- **Inactivity filters are monotone**, in every state of the database, for
every host and at every instant of the calendar: in the duration, and from
no users at all to none at the console. -/
theorem inactivity_monotone (db : Database) (record : HostRecord) (now : ℤ) (hnow : now ≤ maxUtc)
    (long short duration : ℕ) (hle : short ≤ long) (hvalid : validateDuration short = .ok ()) :
    (matchesHostFilter db record { usage := { noUsersFor := some long, now } } = .ok true →
      matchesHostFilter db record { usage := { noUsersFor := some short, now } } = .ok true) ∧
    (matchesHostFilter db record { usage := { inactiveConsoleFor := some long, now } } = .ok true →
      matchesHostFilter db record { usage := { inactiveConsoleFor := some short, now } } =
        .ok true) ∧
    (matchesHostFilter db record { usage := { noUsersFor := some duration, now } } = .ok true →
      matchesHostFilter db record { usage := { inactiveConsoleFor := some duration, now } } =
        .ok true) := by
  have hshorter : ∀ predicate : ActivityPredicate,
      Met db record now (.inactive predicate long) →
        Met db record now (.inactive predicate short) := fun predicate =>
    Exists.imp fun _ h => ⟨h.1, h.2.mono hle hnow hvalid⟩
  refine ⟨fun h => ?_, fun h => ?_, fun h => ?_⟩
  · have hmet := hshorter .anyUser (matchesHostFilter_alone.mp h)
    exact matchesHostFilter_alone.mpr hmet
  · have hmet := hshorter .consoleOnly (matchesHostFilter_alone.mp h)
    exact matchesHostFilter_alone.mpr hmet
  · obtain ⟨snapshot, husage, hinactive⟩ :=
      matchesHostFilter_alone.mp (show matchesHostFilter db record
        ((Condition.inactive .anyUser duration).alone now) = .ok true from h)
    exact matchesHostFilter_alone.mpr (show Met db record now (.inactive .consoleOnly duration) from
      ⟨snapshot, husage, hinactive.console⟩)

/-- The sample host was without users for 500 seconds. -/
theorem sampleCollections_monotone :
    let db := (Service.run sampleCollections).storage.inner.conn
    let record := hostRecord db sampleWatchedHost
    matchesHostFilter db record
        { usage := { noUsersFor := some (fromSecs 100), now := 920000000000 } } = .ok true ∧
      matchesHostFilter db record
        { usage := { inactiveConsoleFor := some (fromSecs 500), now := 920000000000 } } =
          .ok true := by
  intro db record
  have h := inactivity_monotone db record 920000000000 (by decide) (fromSecs 500) (fromSecs 100)
    (fromSecs 500) (by decide) (by decide)
  exact ⟨h.1 (by decide +kernel), h.2.2 (by decide +kernel)⟩

end SimpleNetworkMonitor.Storage
