import SimpleNetworkMonitor.History.Helpers.Inventory
import SimpleNetworkMonitor.History.Helpers.Sound
/-!
# The inventory stays served

Between two synchronizations the open epochs are those of the inventory:
recording writes to an epoch that is open, rollup touches none, and pruning
takes only epochs that have ended.
-/

namespace SimpleNetworkMonitor.History

variable {db db' : HistoryDb} {inventory : List (Host × EpochCheck)} {config : HistoryConfig}
variable {now : ℤ}

/-- What keeps the open epochs, their last observation apart, keeps the
inventory served. -/
theorem Serving.of_infos (h : Serving db inventory)
    (hkept : ∀ id row, (id, row) ∈ db.epochs.rows → row.isOpen = true →
      ∃ row', (id, row') ∈ db'.epochs.rows ∧ row'.toEpochInfo = row.toEpochInfo)
    (hback : ∀ id row', (id, row') ∈ db'.epochs.rows → row'.isOpen = true →
      ∃ row, (id, row) ∈ db.epochs.rows ∧ row.toEpochInfo = row'.toEpochInfo) :
    Serving db' inventory := by
  have hserves : ∀ {row row' : EpochRow} {t}, row'.toEpochInfo = row.toEpochInfo → Serves row t →
      Serves row' t := by
    rintro row row' t heq ⟨hopen, hkey, hsig⟩
    exact ⟨heq ▸ hopen, heq ▸ hkey, heq ▸ hsig⟩
  refine ⟨fun t ht => ?_, fun id row' hmem hopen => ?_, ?_⟩
  · obtain ⟨id, row, hmem, hs⟩ := h.served t ht
    obtain ⟨row', hmem', heq⟩ := hkept id row hmem hs.1
    exact ⟨id, row', hmem', hserves heq hs⟩
  · obtain ⟨row, hrow, heq⟩ := hback id row' hmem hopen
    obtain ⟨t, ht, hs⟩ := h.only id row hrow (heq ▸ hopen)
    exact ⟨t, ht, hserves heq.symm hs⟩
  · intro id₁ row₁ id₂ row₂ h₁ h₂ ho₁ ho₂ hkey
    obtain ⟨w₁, hw₁, he₁⟩ := hback id₁ row₁ h₁ ho₁
    obtain ⟨w₂, hw₂, he₂⟩ := hback id₂ row₂ h₂ ho₂
    exact h.one id₁ w₁ id₂ w₂ hw₁ hw₂ (he₁ ▸ ho₁) (he₂ ▸ ho₂) (by rw [he₁, he₂, hkey])

theorem Serving.of_epochs (h : Serving db inventory) (heq : db'.epochs = db.epochs) :
    Serving db' inventory :=
  h.of_infos (fun _ row hmem _ => ⟨row, heq ▸ hmem, rfl⟩) fun _ row hmem _ => ⟨row, heq ▸ hmem, rfl⟩

theorem Serving.record (h : Serving db inventory) (host : String) (module : Module) (check : String)
    (at_ : ℤ) (observation : HistoryObservation) (now : ℤ) :
    Serving (record db host module check at_ observation now) inventory := by
  rcases record_cases db host module check at_ observation now with heq | ⟨id, row, -, -, heq⟩ <;>
    rw [heq]
  · exact h
  · refine h.of_infos (fun id' row' hmem _ => ⟨_, mem_accept_epochs.mpr ⟨row', hmem, rfl⟩, ?_⟩)
      fun id' row' hmem _ => info_of_mem_accept hmem
    split_ifs <;> rfl

theorem Serving.rollup (h : Serving db inventory) (config : HistoryConfig) (now : ℤ) (limit : ℕ) :
    Serving (rollup config now db limit).1 inventory :=
  h.of_epochs (rollup_frame config now db limit).1

theorem Serving.prune (h : Serving db inventory) (scan : Table.LimitScan) (limit : ℕ) (now : ℤ)
    (config : HistoryConfig) (usageRetention : ℕ) :
    Serving (prune scan limit db now config usageRetention).1 inventory := by
  refine h.of_infos (fun id row hmem hopen => ⟨row, ?_, rfl⟩)
    fun id row hmem _ => ⟨row, prune_epochs (id, row) hmem, rfl⟩
  obtain ⟨raw, gone, events, heq, -⟩ := prune_eq config now scan limit db usageRetention
  rw [heq]
  -- only an epoch that has ended may go
  refine Table.mem_deleteLimit_of_not hmem (Bool.eq_false_iff.mpr fun hspent => ?_)
  obtain ⟨⟨ended, hended, -⟩, -⟩ := isSpent_eq_true.mp hspent
  rw [EpochInfo.isOpen, hended] at hopen
  cases hopen

end SimpleNetworkMonitor.History
