import SimpleNetworkMonitor.Storage.Helpers.Steps
import Mathlib.Data.List.Chain
/-!
# What the tables know of the usage of a host

The observations of one host since its ID was last reset are a **stretch**.
The tables hold its end, a suffix without gaps, and, from the retention
floor on, what was in force at every instant. Each call keeps this.
-/

namespace SimpleNetworkMonitor.Storage

/-! ## Stretches -/

/-- **The observation in force** at an instant: the last one that is not
later. -/
structure InForce (stretch : List UsageObservation) (o : UsageObservation) (t : ℤ) : Prop where
  mem : o ∈ stretch
  le : o.collectedAt ≤ t
  last : ∀ o' ∈ stretch, o'.collectedAt ≤ t → o'.collectedAt ≤ o.collectedAt

/-- One observation follows another without a gap: within two intervals and
the timeout, as they were when it was written. -/
def Follows (a b : UsageObservation) : Prop :=
  b.collectedAt - a.collectedAt ≤
    (b.host.modules.usage.interval * 2 + b.host.modules.usage.timeout : ℕ)

/-- The coverage of a stretch: a suffix without gaps. -/
def CoveredBy (stretch : List UsageObservation) (coverage : Coverage) : Prop :=
  ∃ before first rest, stretch = before ++ first :: rest ∧
    first.collectedAt = coverage.startedAt ∧
    ((first :: rest).getLast?.map (·.collectedAt)) = some coverage.observedAt ∧
    (first :: rest).IsChain Follows

/-- The row of the usage history at an instant. -/
def rowAt (db : Database) (id : String) (t : ℤ) : Option (ℕ × UsageRow) :=
  db.usageHistory.latest? (·.snapshot.collectedAt) fun row =>
    row.hostId = id && row.snapshot.collectedAt ≤ t

/-- **What the tables know** of the usage of an ID, whose observations are
those before its last reset and the stretch since. -/
structure Watched (db : Database) (id : String) (old stretch : List UsageObservation) : Prop where
  increasing : stretch.Pairwise fun a b => a.collectedAt < b.collectedAt
  latest : db.latestUsage.find? id = stretch.getLast?.map (·.snapshot)
  address : ∀ o ∈ stretch, (db.hostIdentity.find? id).map (·.address) = some o.host.address
  valid : ∀ o ∈ stretch, o.snapshot.validate = .ok ()
  coverage : ∀ coverage, db.usageCoverage.find? id = some coverage → CoveredBy stretch coverage
  rows : ∀ r ∈ db.usageHistory.rows, r.2.hostId = id →
    ∃ o ∈ old ++ stretch, o.collectedAt = r.2.snapshot.collectedAt
  /-- From the floor on, the history tells what was in force. -/
  reported : ∀ o t, InForce stretch o t → (∀ floor, db.retentionFloor = some floor → floor ≤ t) →
    ∃ r, rowAt db id t = some r ∧ r.2.snapshot.differsForHistory o.snapshot = false

variable {db db' : Database} {id : String} {old stretch : List UsageObservation}

theorem differsForHistory_eq_false {s s' : UsageSnapshot} : s.differsForHistory s' = false ↔
    s.status = s'.status ∧ s.consoleUsers = s'.consoleUsers ∧ s.remoteUsers = s'.remoteUsers ∧
      s.error = s'.error := by
  simp [UsageSnapshot.differsForHistory, and_assoc]

theorem mem_rowAt {r : ℕ × UsageRow} {t : ℤ} (h : rowAt db id t = some r) :
    r ∈ db.usageHistory.rows ∧ r.2.hostId = id ∧ r.2.snapshot.collectedAt ≤ t := by
  obtain ⟨hmem, hp⟩ := Log.mem_of_latest? h
  simp only [Bool.and_eq_true, decide_eq_true_eq] at hp
  exact ⟨hmem, hp⟩

/-- No observation of a stretch is later than its last. -/
theorem Watched.le_getLast (h : Watched db id old stretch) {last : UsageObservation}
    (hlast : stretch.getLast? = some last) : ∀ o ∈ stretch, o.collectedAt ≤ last.collectedAt := by
  obtain ⟨init, rfl⟩ := List.getLast?_eq_some_iff.mp hlast
  intro o ho
  rcases List.mem_append.mp ho with ho | ho
  · exact le_of_lt ((List.pairwise_append.mp h.increasing).2.2 o ho last (by simp))
  · rw [List.mem_singleton.mp ho]

/-- The last observation of a stretch is in force from then on. -/
theorem Watched.inForce_getLast (h : Watched db id old stretch) {last : UsageObservation}
    (hlast : stretch.getLast? = some last) {t : ℤ} (ht : last.collectedAt ≤ t) :
    InForce stretch last t :=
  ⟨List.mem_of_getLast? hlast, ht, fun o ho _ => h.le_getLast hlast o ho⟩

/-- A call that does not touch these tables, as far as the ID goes. -/
theorem Watched.congr (h : Watched db id old stretch)
    (hlatest : db'.latestUsage.find? id = db.latestUsage.find? id)
    (hidentity : db'.hostIdentity.find? id = db.hostIdentity.find? id)
    (hcoverage : db'.usageCoverage.find? id = db.usageCoverage.find? id)
    (hrows : ∀ r ∈ db'.usageHistory.rows, r.2.hostId = id → r ∈ db.usageHistory.rows)
    (hrowAt : ∀ t, rowAt db' id t = rowAt db id t)
    (hfloor : db'.retentionFloor = db.retentionFloor) : Watched db' id old stretch where
  increasing := h.increasing
  latest := by rw [hlatest, h.latest]
  address := by rw [hidentity]; exact h.address
  valid := h.valid
  coverage := by rw [hcoverage]; exact h.coverage
  rows := fun r hr hid => h.rows r (hrows r hr hid) hid
  reported := by simp only [hrowAt, hfloor]; exact h.reported

/-! ## A reset -/

/-- Nothing is known of an ID that was reset, and what was observed of it
before is old. -/
theorem watched_reset (hlatest : db'.latestUsage.find? id = none)
    (hcoverage : db'.usageCoverage.find? id = none)
    (hrows : ∀ r ∈ db'.usageHistory.rows, r.2.hostId = id →
      ∃ o ∈ old, o.collectedAt = r.2.snapshot.collectedAt) : Watched db' id old [] where
  increasing := .nil
  latest := by rw [hlatest]; rfl
  address := by simp
  valid := by simp
  coverage := by simp [hcoverage]
  rows := by simpa using hrows
  reported := fun o t hforce => absurd hforce.mem (by simp)

/-- **A synchronization** keeps a stretch, or ends it. -/
theorem watched_synced {hosts : List Host} {now : ℤ} (hs : Synced hosts now db db')
    (h : Watched db id old stretch) :
    Watched db' id old stretch ∨ Watched db' id (old ++ stretch) [] := by
  have hrowAt : ∀ t, rowAt db' id t = rowAt db id t := fun t => by
    unfold rowAt
    rw [hs.usageHistory]
  by_cases hkept : (listed hosts id).any (!resets db ·) = true
  · obtain ⟨host, hlisted, hresets⟩ := (Option.any_eq_true _ _).mp hkept
    -- the host is still listed, at the same address
    have hlatest : db'.latestUsage.find? id = db.latestUsage.find? id := by
      rw [hs.latestUsage, hkept, filter_true]
    have haddress : (db'.hostIdentity.find? id).map (·.address) =
        (db.hostIdentity.find? id).map (·.address) := by
      have hid := id_of_listed hlisted
      rw [hs.hostIdentity, hlisted]
      rcases hidentity : db.hostIdentity.find? id with - | identity
      · simp [resets, hid, hidentity] at hresets
      · simpa [resets, hid, hidentity, identityOf, eq_comm] using hresets
    refine Or.inl ⟨h.increasing, by rw [hlatest, h.latest], by rw [haddress]; exact h.address, h.valid,
      fun coverage hc => ?_, by rw [hs.usageHistory]; exact h.rows, ?_⟩
    · rw [hs.usageCoverage] at hc
      exact h.coverage coverage (Option.eq_some_of_filter_eq_some hc)
    · simp only [hrowAt, hs.retentionFloor]
      exact h.reported
  · rw [Bool.not_eq_true] at hkept
    -- what resets a host uncovers it too
    have hcov : (listed hosts id).any (!uncovers db ·) = false := by
      rw [Option.any_eq_false] at hkept ⊢
      intro host hlisted
      have := hkept host hlisted
      simp only [Bool.not_eq_false'] at this ⊢
      simp [uncovers, this]
    refine Or.inr (watched_reset ?_ ?_ ?_)
    · rw [hs.latestUsage, hkept]
      simp
    · rw [hs.usageCoverage, hcov]
      simp
    · rw [hs.usageHistory]
      exact h.rows

/-! ## A collection -/

section Collection

variable {host : Host} {snapshot : UsageSnapshot} {now : ℤ} {usageSamples : Log UsageRow}
variable {shouldInsertHistory : Bool}

/-- A new row of another host, or one that is later, is not in force. -/
theorem rowAt_putUsage_of_not {t : ℤ} (h : id ≠ host.id ∨ t < snapshot.collectedAt) :
    rowAt { db.putUsage host snapshot shouldInsertHistory now with usageSamples } id t =
      rowAt db id t := by
  cases shouldInsertHistory with
  | false => rfl
  | true =>
    refine Log.latest?_append_of_not ?_
    rcases h with h | h
    · simp [Ne.symm h]
    · simp [h]

theorem mem_putUsage_rows (now : ℤ) {r : ℕ × UsageRow}
    (hr : r ∈ (db.putUsage host snapshot shouldInsertHistory now).usageHistory.rows) :
    r ∈ db.usageHistory.rows ∨ r.2 = ⟨host.id, snapshot⟩ := by
  cases shouldInsertHistory with
  | false => exact Or.inl hr
  | true =>
    rcases Log.mem_append.mp hr with hr | rfl
    · exact Or.inl hr
    · exact Or.inr rfl

/-- A collection of one host is nothing to another. -/
theorem watched_putUsage_of_ne (h : Watched db id old stretch) (hid : id ≠ host.id) :
    Watched { db.putUsage host snapshot shouldInsertHistory now with usageSamples } id old
      stretch := by
  refine h.congr (Table.find?_upsert_of_ne hid) rfl (Table.find?_upsert_of_ne hid)
    (fun r hr hrid => ?_) (fun t => rowAt_putUsage_of_not (Or.inl hid)) rfl
  rcases mem_putUsage_rows now hr with hr | heq
  · exact hr
  · exact absurd (hrid.symm.trans (congrArg UsageRow.hostId heq)) hid

/-- The coverage goes on, or starts with the collection. -/
theorem coveredBy_coverageAfter {previous : Option Coverage}
    (h : ∀ coverage, previous = some coverage → CoveredBy stretch coverage) :
    CoveredBy (stretch ++ [⟨host, snapshot⟩]) (coverageAfter host previous snapshot.collectedAt) := by
  have hnew : CoveredBy (stretch ++ [⟨host, snapshot⟩])
      ⟨snapshot.collectedAt, snapshot.collectedAt⟩ :=
    ⟨stretch, ⟨host, snapshot⟩, [], rfl, rfl, rfl, .singleton _⟩
  rcases previous with - | coverage
  · exact hnew
  · by_cases hfresh : isFresh (some coverage.observedAt) host.modules.usage.interval
        host.modules.usage.timeout snapshot.collectedAt = true
    · obtain ⟨before, first, rest, rfl, hstart, hlast, hchain⟩ := h coverage rfl
      have hafter : coverageAfter host (some coverage) snapshot.collectedAt =
          ⟨coverage.startedAt, snapshot.collectedAt⟩ := by
        simp only [coverageAfter, Option.filter, hfresh, if_true, Option.map_some, Option.getD_some]
      rw [hafter]
      refine ⟨before, first, rest ++ [⟨host, snapshot⟩], by simp, hstart, ?_, ?_⟩
      · rw [← List.cons_append, List.getLast?_concat]
        rfl
      · -- the gap to the collection is what freshness bounds
        rw [← List.cons_append]
        refine hchain.append (.singleton _) fun last hl b hb => ?_
        obtain rfl : (⟨host, snapshot⟩ : UsageObservation) = b := by simpa using hb
        have hlast' : last.collectedAt = coverage.observedAt := by
          rw [Option.mem_def.mp hl] at hlast
          exact Option.some.inj hlast
        show snapshot.collectedAt - last.collectedAt ≤ _
        rw [hlast']
        exact (isFresh_some.mp hfresh).2
    · -- too late to go on: the coverage starts over
      have hafter : coverageAfter host (some coverage) snapshot.collectedAt =
          ⟨snapshot.collectedAt, snapshot.collectedAt⟩ := by
        simp only [coverageAfter, Option.filter, hfresh, Bool.false_eq_true, if_false,
          Option.map_none, Option.getD_none]
      rw [hafter]
      exact hnew

/-- **A collection extends the stretch.** A row that is not written would
say what the last one of the stretch says. -/
theorem watched_putUsage (h : Watched db host.id old stretch)
    (hlater : ∀ o ∈ old ++ stretch, o.collectedAt < snapshot.collectedAt)
    (hidentity : (db.hostIdentity.find? host.id).map (·.address) = some host.address)
    (hvalid : snapshot.validate = .ok ())
    (hinsert : shouldInsertHistory =
      (db.latestUsage.find? host.id).all (snapshot.differsForHistory ·)) :
    Watched { db.putUsage host snapshot shouldInsertHistory now with usageSamples } host.id old
      (stretch ++ [⟨host, snapshot⟩]) := by
  set new : UsageObservation := ⟨host, snapshot⟩
  have hstretch : ∀ o ∈ stretch, o.collectedAt < new.collectedAt := fun o ho =>
    hlater o (List.mem_append_right old ho)
  refine ⟨?_, ?_, fun o ho => ?_, fun o ho => ?_, fun coverage hc => ?_, fun r hr hid => ?_,
    fun o t hforce hfloor => ?_⟩
  · rw [List.pairwise_append]
    exact ⟨h.increasing, List.pairwise_singleton _ _, fun a ha b hb =>
      List.mem_singleton.mp hb ▸ hstretch a ha⟩
  · rw [List.getLast?_concat]
    exact Table.find?_upsert_self
  · rcases List.mem_append.mp ho with ho | ho
    · exact h.address o ho
    · rw [List.mem_singleton.mp ho]
      exact hidentity
  · rcases List.mem_append.mp ho with ho | ho
    · exact h.valid o ho
    · rw [List.mem_singleton.mp ho]
      exact hvalid
  · have hc' : some (coverageAfter host (db.usageCoverage.find? host.id) snapshot.collectedAt) =
        some coverage := by
      rw [← hc]
      exact Table.find?_upsert_self.symm
    rw [← Option.some.inj hc']
    exact coveredBy_coverageAfter h.coverage
  · rcases mem_putUsage_rows now hr with hr | heq
    · obtain ⟨o, ho, hat⟩ := h.rows r hr hid
      exact ⟨o, by rw [← List.append_assoc]; exact List.mem_append_left _ ho, hat⟩
    · exact ⟨new, by simp, by rw [heq]; rfl⟩
  · by_cases ht : t < snapshot.collectedAt
    · -- before the collection nothing changes
      rw [rowAt_putUsage_of_not (Or.inr ht)]
      rcases List.mem_append.mp hforce.mem with ho | ho
      · exact h.reported o t ⟨ho, hforce.le, fun o' ho' hle =>
          hforce.last o' (List.mem_append_left _ ho') hle⟩ hfloor
      · rw [List.mem_singleton.mp ho] at hforce
        exact absurd hforce.le (not_le.mpr ht)
    · -- from the collection on, it is in force
      have hnew : o = new := by
        rcases List.mem_append.mp hforce.mem with ho | ho
        · have hle := hforce.last new (by simp) (not_lt.mp ht)
          exact absurd (hstretch o ho) (not_lt.mpr hle)
        · exact List.mem_singleton.mp ho
      subst hnew
      -- a row is written, later than all the others of the host
      by_cases hdiffers : shouldInsertHistory = true
      · refine ⟨(db.usageHistory.seq + 1, ⟨host.id, snapshot⟩), ?_, ?_⟩
        · subst hdiffers
          refine Log.latest?_append (by simpa using not_lt.mp ht) fun r hr hp => ?_
          simp only [Bool.and_eq_true, decide_eq_true_eq] at hp
          obtain ⟨o, ho, hat⟩ := h.rows r hr hp.1
          have := hlater o ho
          exact le_of_lt (hat ▸ this)
        · exact differsForHistory_eq_false.mpr ⟨rfl, rfl, rfl, rfl⟩
      · rw [Bool.not_eq_true] at hdiffers
        rw [hdiffers, h.latest] at hinsert
        rcases hlast : stretch.getLast? with - | prev
        · rw [hlast] at hinsert
          cases hinsert
        · rw [hlast] at hinsert
          -- the row of the one before tells the same
          have hprev := h.inForce_getLast hlast (le_of_lt (lt_of_lt_of_le
            (hstretch prev (List.mem_of_getLast? hlast)) (not_lt.mp ht)))
          obtain ⟨r, hr, hsame⟩ := h.reported prev t hprev hfloor
          refine ⟨r, ?_, ?_⟩
          · subst hdiffers
            exact hr
          · have hsnapshot : snapshot.differsForHistory prev.snapshot = false := hinsert.symm
            rw [differsForHistory_eq_false] at hsame hsnapshot ⊢
            obtain ⟨h₁, h₂, h₃, h₄⟩ := hsame
            obtain ⟨g₁, g₂, g₃, g₄⟩ := hsnapshot
            exact ⟨h₁.trans g₁.symm, h₂.trans g₂.symm, h₃.trans g₃.symm, h₄.trans g₄.symm⟩

end Collection

/-! ## Pruning -/

/-- The row at an instant from the cutoff on is kept: it is not outdated, or
it is the anchor. -/
theorem not_isOutdated_rowAt {cutoff t : ℤ} {r : ℕ × UsageRow} (hr : rowAt db id t = some r)
    (ht : cutoff ≤ t) (hlatest : id ∈ db.latestUsage.keys) :
    isOutdated db cutoff r.1 r.2 = false := by
  obtain ⟨hmem, hid, hle⟩ := mem_rowAt hr
  by_cases hold : r.2.snapshot.collectedAt < cutoff
  · have hanchor : anchor db r.2.hostId cutoff = some r.1 := by
      rw [hid]
      have hlast : db.usageHistory.latest? (·.snapshot.collectedAt) (fun row =>
          row.hostId = id && row.snapshot.collectedAt < cutoff) = some r := by
        refine Log.latest?_eq_some hmem (by simp [hid, hold]) fun r' hr' hp => ?_
        simp only [Bool.and_eq_true, decide_eq_true_eq] at hp
        have hle' : r'.2.snapshot.collectedAt ≤ t := by omega
        exact Log.le_of_latest? hr hr' (by simp [hp.1, hle'])
      rw [anchor, hlast]
      rfl
    have hkey : r.2.hostId ∈ db.latestUsage.keys := hid ▸ hlatest
    simp [isOutdated, hanchor, hkey]
  · simp [isOutdated, hold]

/-- **Pruning** raises the floor, and keeps what the history tells from
there on. -/
theorem watched_putPruned (h : Watched db id old stretch) (scan : Table.LimitScan) (cutoff : ℤ)
    (usageSamples : Log UsageRow) :
    Watched { db.putPruned scan cutoff with usageSamples } id old stretch := by
  have hsub : ∀ r ∈ (db.putPruned scan cutoff).usageHistory.rows, r ∈ db.usageHistory.rows :=
    fun r hr => Log.mem_of_mem_deleteLimit hr
  refine ⟨h.increasing, h.latest, h.address, h.valid, h.coverage,
    fun r hr hid => h.rows r (hsub r hr) hid, fun o t hforce hfloor => ?_⟩
  have hcut : cutoff ≤ t ∧ ∀ floor, db.retentionFloor = some floor → floor ≤ t := by
    have hmax := hfloor _ rfl
    rcases hf : db.retentionFloor with - | floor
    · rw [hf] at hmax
      exact ⟨hmax, fun _ he => by cases he⟩
    · rw [hf] at hmax
      obtain ⟨h₁, h₂⟩ := max_le_iff.mp hmax
      exact ⟨h₂, fun floor' he => by cases he; exact h₁⟩
  obtain ⟨r, hr, hsame⟩ := h.reported o t hforce hcut.2
  -- the host has a latest snapshot, so its anchor is not taken
  have hlatest : id ∈ db.latestUsage.keys := by
    obtain ⟨last, hlast⟩ : ∃ last, stretch.getLast? = some last :=
      Option.ne_none_iff_exists'.mp fun hnone =>
        List.ne_nil_of_mem hforce.mem (List.getLast?_eq_none_iff.mp hnone)
    exact Table.mem_keys_of_mem (Table.find?_eq_some.mp (by rw [h.latest, hlast]; rfl))
  exact ⟨r, Log.latest?_of_subset hr (Log.mem_deleteLimit_of_not (mem_rowAt hr).1
    (not_isOutdated_rowAt hr hcut.1 hlatest)) hsub, hsame⟩

end SimpleNetworkMonitor.Storage
