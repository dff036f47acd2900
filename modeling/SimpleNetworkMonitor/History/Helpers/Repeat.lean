import SimpleNetworkMonitor.History.Helpers.Sound
/-!
# Recording again

An observation that has been recorded stays past: whatever maintenance does
to the tables, recording it again changes nothing.
-/

namespace SimpleNetworkMonitor.History

/-- **An instant is past** for a check: its open epoch started later, or has
an observation that is no earlier. -/
def Past (db : HistoryDb) (key : CheckKey) (at_ : ℤ) : Prop :=
  ∀ id row, activeEpoch db key = some (id, row) →
    at_ < row.startedMs ∨ ∃ last, row.lastMs = some last ∧ at_ ≤ last

variable {db db' : HistoryDb} {host check : String} {module : Module} {at_ now : ℤ}
variable {key : CheckKey} {observation : HistoryObservation} {config : HistoryConfig}

/-- **An observation in the past is ignored**, whatever the clock reads. -/
theorem record_of_past (h : Past db ⟨host, module, check⟩ at_) :
    record db host module check at_ observation now = db := by
  refine record_of_not_accepts fun id row hact hacc => ?_
  rcases h id row hact with hlt | ⟨last, hlast, hle⟩
  · exact absurd hacc.started (not_le.mpr hlt)
  · exact absurd (hacc.last last hlast) (not_lt.mpr hle)

/-- **A recorded observation is in the past**, accepted or not. -/
theorem past_record (hs : Sound db) (hle : at_ ≤ now) :
    Past (record db host module check at_ observation now) ⟨host, module, check⟩ at_ := by
  by_cases h : ∃ id row, activeEpoch db ⟨host, module, check⟩ = some (id, row) ∧
      Accepts db id row at_ now
  · obtain ⟨id, row, hact, hacc⟩ := h
    rw [record_of_accepts hact hacc]
    intro id' row' hact'
    obtain ⟨hmem', hkey', hopen'⟩ := activeEpoch_eq_some hact'
    obtain ⟨w, hw, hval⟩ := mem_accept_epochs.mp hmem'
    by_cases hid : id' = id
    · rw [if_pos hid] at hval
      exact Or.inr ⟨at_, by rw [← hval], le_rfl⟩
    · -- the check has one open epoch, so the other one is not there
      rw [if_neg hid] at hval
      obtain ⟨hmem, hkey, hopen⟩ := activeEpoch_eq_some hact
      subst hval
      exact absurd (hs.one id' w id row hw hmem hopen' hopen (hkey'.trans hkey.symm)) hid
  · push Not at h
    rw [record_of_not_accepts h]
    intro id row hact
    obtain ⟨hmem, -, hopen⟩ := activeEpoch_eq_some hact
    by_contra hpast
    obtain ⟨hstarted, hlast⟩ := not_or.mp hpast
    refine h id row hact ⟨hmem, hopen, hle, not_lt.mp hstarted, fun last hl => ?_, fun r hr he ha => ?_⟩
    · exact not_le.mp fun hle' => hlast ⟨last, hl, hle'⟩
    · obtain ⟨last, hl, hle'⟩ := hs.seen id row hmem hopen r hr he
      exact hlast ⟨last, hl, ha ▸ hle'⟩

/-- Losing epochs brings nothing back. -/
theorem past_of_epochs (hone : OneActive db) (h : Past db key at_)
    (hsub : ∀ r ∈ db'.epochs.rows, r ∈ db.epochs.rows) : Past db' key at_ := by
  intro id row hact
  obtain ⟨hmem, rfl, hopen⟩ := activeEpoch_eq_some hact
  exact h id row (activeEpoch_of_mem hone (hsub _ hmem) hopen)

theorem past_rollup (hs : Sound db) (h : Past db key at_) (limit : ℕ) :
    Past (rollup config now db limit).1 key at_ := by
  refine past_of_epochs hs.one h ?_
  rw [(rollup_frame config now db limit).1]
  exact fun r hr => hr

theorem past_prune (hs : Sound db) (h : Past db key at_) (scan : Table.LimitScan) (limit : ℕ)
    (usageRetention : ℕ) : Past (prune scan limit db now config usageRetention).1 key at_ :=
  past_of_epochs hs.one h prune_epochs

end SimpleNetworkMonitor.History
