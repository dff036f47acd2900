import SimpleNetworkMonitor.History.Helpers.Intervals
import SimpleNetworkMonitor.History.Helpers.Sound
/-!
# The tables track the timeline

The stints of the timeline are the epochs of the tables, each with the
observations accepted in it, and the epochs that were pruned. After the
boundary of a resolution, the content of an epoch is the time its
observations were in force, the last one of an open epoch apart; and a
pruned epoch had none.
-/

namespace SimpleNetworkMonitor.History

open HalfOpen

/-! ## The invariant -/

/-- What the accepted observations of an epoch are like. -/
structure Ordered (info : EpochInfo) (accepted : List (ℤ × HistoryObservation)) (now : ℤ) :
    Prop where
  sorted : (accepted.map Prod.fst).Pairwise (· > ·)
  started : ∀ x ∈ accepted, info.startedMs ≤ x.1
  le_now : ∀ x ∈ accepted, x.1 ≤ now
  started_le : info.startedMs ≤ now
  ended : ∀ ended, info.endedMs = some ended → ended ≤ now ∧ ∀ x ∈ accepted, x.1 ≤ ended
  groups : info.groups.Nodup

/-- What the tables keep of an epoch. -/
structure Kept (config : HistoryConfig) (now : ℤ) (db : HistoryDb) (id : ℕ) (row : EpochRow)
    (accepted : List (ℤ × HistoryObservation)) : Prop where
  ordered : Ordered row.toEpochInfo accepted now
  lastMs : row.isOpen = true → row.lastMs = accepted.head?.map Prod.fst
  lastJson : row.isOpen = true → row.lastJson = accepted.head?.map Prod.snd
  /-- The content is the time in force, after the boundary. -/
  held : ∀ φ p, Measures φ p → ∀ tier lo hi, tier.width ∣ lo → tier.width ∣ hi →
    boundary config now tier ≤ lo →
      φ (content db id tier lo hi) = timeOf p (flushed row.toEpochInfo accepted) lo hi

/-- A pruned epoch had nothing in force that is still to be kept. -/
def Silent (config : HistoryConfig) (now : ℤ) (stint : Stint) : Prop :=
  ∃ ended, stint.endedMs = some ended ∧ ended ≤ now ∧ ∀ φ p, Measures φ p → ∀ lo hi,
    boundary config now .daily ≤ lo →
      timeOf p (inForce stint.freshnessMs ended none stint.accepted) lo hi = 0

/-- The stints of the epochs that are there. -/
def live (db : HistoryDb) (acc : ℕ → List (ℤ × HistoryObservation)) : Timeline :=
  (db.epochs.rows.map fun r => (⟨r.2.toEpochInfo, acc r.1⟩ : Stint) : List Stint)

/-- **The tables track the timeline.** -/
structure Tracks (config : HistoryConfig) (now : ℤ) (db : HistoryDb) (timeline : Timeline)
    (acc : ℕ → List (ℤ × HistoryObservation)) (pruned : Timeline) : Prop where
  sound : Sound db
  ends : EndsBy db now
  split : timeline = pruned + live db acc
  silent : ∀ stint ∈ pruned, Silent config now stint
  kept : ∀ id row, (id, row) ∈ db.epochs.rows → Kept config now db id row (acc id)

section Tracks

variable {config : HistoryConfig} {now now' : ℤ} {db : HistoryDb} {timeline : Timeline}
variable {acc : ℕ → List (ℤ × HistoryObservation)} {pruned : Timeline} {id : ℕ} {row : EpochRow}

theorem mem_live {stint : Stint} : stint ∈ live db acc ↔
    ∃ id row, (id, row) ∈ db.epochs.rows ∧ stint = ⟨row.toEpochInfo, acc id⟩ := by
  simp only [live, Multiset.mem_coe, List.mem_map, Prod.exists, eq_comm]

theorem Ordered.mono {info : EpochInfo} {l : List (ℤ × HistoryObservation)}
    (h : Ordered info l now) (hle : now ≤ now') : Ordered info l now' :=
  ⟨h.sorted, h.started, fun x hx => le_trans (h.le_now x hx) hle, le_trans h.started_le hle,
    fun e he => ⟨le_trans (h.ended e he).1 hle, (h.ended e he).2⟩, h.groups⟩

theorem Kept.mono {l : List (ℤ × HistoryObservation)} (h : Kept config now db id row l)
    (hle : now ≤ now') : Kept config now' db id row l :=
  ⟨h.ordered.mono hle, h.lastMs, h.lastJson, fun φ p hφ tier lo hi hlo hhi hb =>
    h.held φ p hφ tier lo hi hlo hhi (le_trans (boundary_mono hle) hb)⟩

theorem Silent.mono {stint : Stint} (h : Silent config now stint) (hle : now ≤ now') :
    Silent config now' stint := by
  obtain ⟨ended, he, hend, hz⟩ := h
  exact ⟨ended, he, le_trans hend hle, fun φ p hφ lo hi hb =>
    hz φ p hφ lo hi (le_trans (boundary_mono hle) hb)⟩

theorem Tracks.mono (h : Tracks config now db timeline acc pruned) (hle : now ≤ now') :
    Tracks config now' db timeline acc pruned :=
  ⟨h.sound, fun id span hs => le_trans (h.ends id span hs) hle, h.split,
    fun stint hs => (h.silent stint hs).mono hle, fun id row hr => (h.kept id row hr).mono hle⟩

theorem Silent.isOpen {stint : Stint} (h : Silent config now stint) : stint.isOpen = false := by
  obtain ⟨ended, he, -⟩ := h
  simp [EpochInfo.isOpen, he]

theorem isOpen_iff {info : EpochInfo} : info.isOpen = true ↔ info.endedMs = none := by
  simp [EpochInfo.isOpen]

/-- What the last observation holds, as the timeline has it. -/
theorem Kept.measure_tailTotal {l : List (ℤ × HistoryObservation)} (h : Kept config now db id row l)
    (hopen : row.isOpen = true) {φ : HistoryStats → ℕ} {p : HistoryObservation → Bool}
    (hφ : Measures φ p) (end_ lo hi : ℤ) :
    φ (tailTotal row end_ lo hi) = tailTime p row.freshnessMs l end_ lo hi := by
  rw [tailTotal, h.lastMs hopen, h.lastJson hopen]
  rcases l with - | ⟨⟨a, o⟩, older⟩
  · exact hφ.zero
  · exact hφ.duration _ _

/-! ## Closing and opening -/

/-- A stint that is not open of a check is left alone. -/
theorem closeKey_pruned (hsilent : ∀ stint ∈ pruned, Silent config now stint) (key : CheckKey) :
    pruned.closeKey now key = pruned := by
  conv_rhs => rw [← Multiset.map_id pruned]
  refine Multiset.map_congr rfl fun stint hs => if_neg ?_
  simp [(hsilent stint hs).isOpen]

/-- **Closing** the open epoch of a check closes its stint. -/
theorem tracks_closeEpoch (h : Tracks config now db timeline acc pruned)
    (hmem : (id, row) ∈ db.epochs.rows) (hopen : row.isOpen = true) :
    Tracks config now (closeEpoch db id now) (timeline.closeKey now row.key) acc pruned := by
  have hkept := h.kept id row hmem
  have hfind : db.epochs.find? id = some row := Table.find?_eq_some.mpr hmem
  have hcontent : ∀ epoch tier lo hi, content (closeEpoch db id now) epoch tier lo hi =
      content db epoch tier lo hi + if id = epoch then tailTotal row now lo hi else 0 :=
    fun epoch tier lo hi => (content_congr rfl rfl epoch tier lo hi).trans
      (content_flushTail hfind epoch now)
  refine ⟨sound_closeEpoch h.sound hmem, fun sid span hs => ?_, ?_, h.silent, fun id' row' h' => ?_⟩
  · rcases mem_flushTail_spans hmem hs with hs | ⟨_, _, -, -, rfl, -⟩
    · exact h.ends sid span hs
    · exact min_le_left _ _
  · rw [h.split, Timeline.closeKey, Multiset.map_add]
    refine congrArg₂ _ (closeKey_pruned h.silent row.key) ?_
    rw [live, live, Multiset.map_coe, closeEpoch_epochs, Table.modify, Table.mapVals, List.map_map,
      List.map_map]
    refine congrArg Multiset.ofList (List.map_congr_left fun r hr => ?_)
    obtain ⟨id', row'⟩ := r
    by_cases hid : id' = id
    · subst hid
      obtain rfl := Table.eq_of_mem hr hmem
      simp only [Function.comp_apply, hopen, and_self, if_true]
      rfl
    · -- the check has no other open epoch
      have hcond : ¬ ((⟨row'.toEpochInfo, acc id'⟩ : Stint).key = row.key ∧
          (⟨row'.toEpochInfo, acc id'⟩ : Stint).isOpen = true) := fun hc =>
        hid (h.sound.one id' row' id row hr hmem hc.2 hopen hc.1)
      simp only [Function.comp_apply, if_neg hcond, if_neg hid]
  · obtain ⟨w, hw, rfl⟩ := mem_closeEpoch.mp h'
    split_ifs with hid
    · subst hid
      obtain rfl := Table.eq_of_mem hw hmem
      have hnone := isOpen_iff.mp hopen
      refine ⟨⟨hkept.ordered.sorted, hkept.ordered.started, hkept.ordered.le_now,
        hkept.ordered.started_le, fun e he => ?_, hkept.ordered.groups⟩, fun hc => by simp at hc,
        fun hc => by simp at hc, fun φ p hφ tier lo hi hlo hhi hb => ?_⟩
      · -- it ends now, for no observation is later
        obtain rfl : max w.startedMs now = e := Option.some.inj he
        rw [max_eq_right hkept.ordered.started_le]
        exact ⟨le_rfl, hkept.ordered.le_now⟩
      · rw [hcontent, if_pos rfl, hφ.add, hkept.held φ p hφ tier lo hi hlo hhi hb,
          hkept.measure_tailTotal hopen hφ]
        exact (timeOf_flushed_close hkept.ordered.sorted hkept.ordered.le_now w.toEpochInfo hnone
          hkept.ordered.started_le).symm
    · have hk := h.kept id' w hw
      refine ⟨hk.ordered, hk.lastMs, hk.lastJson, fun φ p hφ tier lo hi hlo hhi hb => ?_⟩
      rw [hcontent, if_neg (Ne.symm hid), add_zero]
      exact hk.held φ p hφ tier lo hi hlo hhi hb

theorem nodup_normalizedGroups (groups : List String) : (normalizedGroups groups).Nodup := by
  have hsorted : (normalizedGroups groups).Pairwise (· ≤ ·) :=
    (List.pairwise_insertionSort (· ≤ ·) groups).sublist (List.destutter_sublist _ _)
  have hchain : (normalizedGroups groups).IsChain (· ≠ ·) := List.isChain_destutter _ _
  have hlt : (normalizedGroups groups).IsChain (· < ·) := by
    rw [List.isChain_iff_getElem] at hchain ⊢
    exact fun i hi => lt_of_le_of_ne (List.isChain_iff_getElem.mp hsorted.isChain i hi) (hchain i hi)
  exact hlt.pairwise.imp fun h => ne_of_lt h

/-- **Opening** an epoch starts a stint. -/
theorem tracks_openEpoch (h : Tracks config now db timeline acc pruned) {t : Host × EpochCheck}
    (hnone : activeEpoch db (targetKey t) = none) :
    Tracks config now (openEpoch db t.1 t.2 now) (timeline + {⟨newEpoch t.1 t.2 now, []⟩})
      (Function.update acc db.epochs.nextId []) pruned := by
  have hold : ∀ id row, (id, row) ∈ db.epochs.rows →
      Function.update acc db.epochs.nextId [] id = acc id := by
    intro id row hmem
    refine Function.update_of_ne ?_ _ _
    rintro rfl
    exact Table.nextId_not_mem db.epochs (Table.mem_keys_of_mem hmem)
  refine ⟨sound_openEpoch h.sound hnone, h.ends, ?_, h.silent, fun id' row' h' => ?_⟩
  · rw [h.split, add_assoc]
    refine congrArg _ ?_
    have hrows : (openEpoch db t.1 t.2 now).epochs.rows =
        db.epochs.rows ++ [(db.epochs.nextId, ⟨newEpoch t.1 t.2 now, none, none⟩)] := rfl
    rw [live, live, hrows, List.map_append, ← Multiset.coe_add]
    refine congrArg₂ _ (congrArg _ (List.map_congr_left fun r hr => ?_)) ?_
    · rw [hold r.1 r.2 hr]
    · simp
  · rcases mem_openEpoch.mp h' with h' | ⟨rfl, rfl⟩
    · rw [hold id' row' h']
      have hk := h.kept id' row' h'
      exact ⟨hk.ordered, hk.lastMs, hk.lastJson, fun φ p hφ tier lo hi => hk.held φ p hφ tier lo hi⟩
    · rw [Function.update_self]
      refine ⟨⟨by simp, by simp, by simp, le_rfl, fun e he => by simp [newEpoch] at he,
        nodup_normalizedGroups _⟩, fun _ => rfl, fun _ => rfl,
        fun φ p hφ tier lo hi _ _ _ => ?_⟩
      have hzero : content (openEpoch db t.1 t.2 now) db.epochs.nextId tier lo hi = 0 :=
        content_of_not_mem h.sound (Table.nextId_not_mem _) tier lo hi
      rw [hzero, hφ.zero]
      rfl

end Tracks

end SimpleNetworkMonitor.History
