import SimpleNetworkMonitor.History.Helpers.Sound
/-!
# Epochs bound what is stored of them

Whatever the clock reads, the tables hold no more time of an epoch in a
window than the epoch shares with it, up to its end or to its last
observation, as long as no synchronization reads a clock earlier than
what it closes or reopens.
-/

namespace SimpleNetworkMonitor.History

open HalfOpen

/-! ## Counters of time -/

/-- **A counter of time**: additive, of known time only, and no stretch counts
for more than its length. -/
structure Counts (φ : HistoryStats → ℕ) : Prop where
  zero : φ 0 = 0
  add : ∀ a b, φ (a + b) = φ a + φ b
  known : ∀ s, φ s ≤ s.upMs + s.downMs + s.usageObservedMs
  duration_le : ∀ (o : HistoryObservation) n, φ (o.durationStats n) ≤ n
  sample : ∀ o : HistoryObservation, φ o.sampleStats = 0

theorem counts_upMs_add_downMs : Counts fun s => s.upMs + s.downMs where
  zero := rfl
  add a b := by simp only [HistoryStats.upMs_add, HistoryStats.downMs_add]; omega
  known _ := Nat.le_add_right _ _
  duration_le o := o.durationStats_upMs_add_downMs_le
  sample o := by rw [o.sampleStats_upMs, o.sampleStats_downMs]

theorem counts_usageObservedMs : Counts (·.usageObservedMs) where
  zero := rfl
  add _ _ := rfl
  known _ := Nat.le_add_left _ _
  duration_le o := o.durationStats_usageObservedMs_le
  sample o := o.sampleStats_usageObservedMs

namespace Counts

variable {φ : HistoryStats → ℕ}

/-- A counter, as an additive map. -/
def hom (h : Counts φ) : HistoryStats →+ ℕ := ⟨⟨φ, h.zero⟩, h.add⟩

theorem nsmul (h : Counts φ) (n : ℕ) (s : HistoryStats) : φ (n • s) = n * φ s :=
  map_nsmul h.hom n s

theorem sum (h : Counts φ) {κ α : Type} (t : Table κ α) (f : κ → α → HistoryStats) :
    φ (t.sum f) = t.sum fun k v => φ (f k v) :=
  (map_list_sum h.hom _).trans (congrArg List.sum (List.map_map ..))

end Counts

/-! ## The invariant -/

/-- Where what is stored of an epoch ends: at its end, and while it is open at
its last observation. -/
def EpochRow.bound (row : EpochRow) : ℤ := row.endedMs.getD (row.lastMs.getD row.startedMs)

/-- Two epochs do not meet: one is empty, or over before the other starts. -/
def Apart (a b : EpochInfo) : Prop :=
  (∃ e, a.endedMs = some e ∧ (e ≤ a.startedMs ∨ e ≤ b.startedMs)) ∨
    ∃ e, b.endedMs = some e ∧ (e ≤ b.startedMs ∨ e ≤ a.startedMs)

/-- **Epochs bound what is stored of them.** -/
structure Bounded (db : HistoryDb) : Prop where
  sound : Sound db
  apart : ∀ id row id' row', (id, row) ∈ db.epochs.rows → (id', row') ∈ db.epochs.rows →
    id ≠ id' → row.key = row'.key → Apart row.toEpochInfo row'.toEpochInfo
  started : ∀ id row, (id, row) ∈ db.epochs.rows → row.startedMs ≤ row.bound
  spans : ∀ sid span, (sid, span) ∈ db.spans.rows → ∀ row, (span.epochId, row) ∈ db.epochs.rows →
    row.startedMs ≤ span.cursorMs ∧ span.cursorMs < span.endMs ∧ span.endMs ≤ row.bound
  held : ∀ id row, (id, row) ∈ db.epochs.rows → ∀ φ, Counts φ → ∀ tier lo hi, tier.width ∣ lo →
    tier.width ∣ hi → φ (content db id tier lo hi) ≤ overlap row.startedMs row.bound lo hi

variable {config : HistoryConfig} {now at_ : ℤ} {db db₀ : HistoryDb} {id : ℕ} {row : EpochRow}
variable {φ : HistoryStats → ℕ}

theorem Apart.symm {a b : EpochInfo} (h : Apart a b) : Apart b a := Or.symm h

theorem bound_of_open (hopen : row.isOpen = true) : row.bound = row.lastMs.getD row.startedMs := by
  have hnone : row.endedMs = none := by simpa [EpochInfo.isOpen] using hopen
  rw [EpochRow.bound, hnone, Option.getD_none]

/-- The last observation of an open epoch holds no time before it. -/
theorem Counts.tail_le (hφ : Counts φ) (hopen : row.isOpen = true) (end_ lo hi : ℤ) :
    φ (tailTotal row end_ lo hi) ≤ overlap row.bound end_ lo hi := by
  rw [bound_of_open hopen, tailTotal]
  rcases row.lastMs with - | last
  · rw [hφ.zero]
    exact Nat.zero_le _
  · rcases row.lastJson with - | o
    · rw [hφ.zero]
      exact Nat.zero_le _
    · exact le_trans (hφ.duration_le o _) (overlap_mono le_rfl (min_le_left _ _))

/-- An epoch that goes on holds what it held, and its tail. -/
theorem Bounded.extend (h : Bounded db) (hφ : Counts φ) (hmem : (id, row) ∈ db.epochs.rows)
    (hopen : row.isOpen = true) {end_ bound : ℤ} (hb : row.bound ≤ bound) (he : end_ ≤ bound)
    {tier : Tier} {lo hi : ℤ} (hlo : tier.width ∣ lo) (hhi : tier.width ∣ hi) :
    φ (content db id tier lo hi) + φ (tailTotal row end_ lo hi) ≤
      overlap row.startedMs bound lo hi := by
  have hheld := h.held id row hmem φ hφ tier lo hi hlo hhi
  have htail := hφ.tail_le hopen end_ lo hi
  have hcut : overlap row.startedMs bound lo hi =
      overlap row.startedMs row.bound lo hi + overlap row.bound bound lo hi :=
    overlap_split (h.started id row hmem) hb
  have hmono : overlap row.bound end_ lo hi ≤ overlap row.bound bound lo hi :=
    overlap_mono le_rfl he
  omega

/-- The spans of an epoch that goes on. -/
theorem Bounded.flushTail_spans (h : Bounded db) (hmem : (id, row) ∈ db.epochs.rows)
    (hopen : row.isOpen = true) {end_ bound : ℤ} (hb : row.bound ≤ bound) (he : end_ ≤ bound)
    {sid : ℕ} {span : SpanRow} (hs : (sid, span) ∈ (flushTail db id end_).spans.rows)
    (hid : span.epochId = id) :
    row.startedMs ≤ span.cursorMs ∧ span.cursorMs < span.endMs ∧ span.endMs ≤ bound := by
  rcases mem_flushTail_spans hmem hs with hs | ⟨last, body, hl, -, rfl, hlt⟩
  · obtain ⟨h₁, h₂, h₃⟩ := h.spans sid span hs row (hid ▸ hmem)
    exact ⟨h₁, h₂, le_trans h₃ hb⟩
  · have hbound : row.bound = last := by rw [bound_of_open hopen, hl, Option.getD_some]
    exact ⟨hbound ▸ h.started id row hmem, hlt, le_trans (min_le_left _ _) he⟩

/-! ## Each operation -/

/-- **Closing an epoch** no earlier than its last observation. -/
theorem bounded_closeEpoch (h : Bounded db) (hmem : (id, row) ∈ db.epochs.rows)
    (hopen : row.isOpen = true)
    (hlast : ∀ last, row.lastMs = some last → last ≤ max row.startedMs now) :
    Bounded (closeEpoch db id now) := by
  have hnone : row.endedMs = none := by simpa [EpochInfo.isOpen] using hopen
  have hb : row.bound ≤ max row.startedMs now := by
    rw [bound_of_open hopen]
    rcases hl : row.lastMs with - | last
    · exact le_max_left _ _
    · exact hlast last hl
  have hfind : db.epochs.find? id = some row := Table.find?_eq_some.mpr hmem
  have hcontent : ∀ epoch tier lo hi, content (closeEpoch db id now) epoch tier lo hi =
      content db epoch tier lo hi + if id = epoch then tailTotal row now lo hi else 0 :=
    fun epoch tier lo hi => (content_congr rfl rfl epoch tier lo hi).trans
      (content_flushTail hfind epoch now)
  have hclosed : (EpochRow.close row now).bound = max row.startedMs now := rfl
  refine ⟨sound_closeEpoch h.sound hmem, ?_, ?_, ?_, ?_⟩
  · -- what an open epoch keeps away from, it still does
    have hapart : ∀ id' row', (id', row') ∈ db.epochs.rows → id ≠ id' → row.key = row'.key →
        Apart (row.close now).toEpochInfo row'.toEpochInfo := by
      intro id' row' h' hne hkey
      rcases h.apart id row id' row' hmem h' hne hkey with ⟨e, he, -⟩ | hother
      · rw [hnone] at he
        cases he
      · exact Or.inr hother
    intro id₁ row₁ id₂ row₂ h₁ h₂ hne hkey
    obtain ⟨w₁, hw₁, rfl⟩ := mem_closeEpoch.mp h₁
    obtain ⟨w₂, hw₂, rfl⟩ := mem_closeEpoch.mp h₂
    split_ifs at hkey ⊢ with hid₁ hid₂ hid₂
    · exact absurd (hid₁.trans hid₂.symm) hne
    · subst hid₁
      obtain rfl := Table.eq_of_mem hw₁ hmem
      exact hapart id₂ w₂ hw₂ hne hkey
    · subst hid₂
      obtain rfl := Table.eq_of_mem hw₂ hmem
      exact (hapart id₁ w₁ hw₁ (Ne.symm hne) hkey.symm).symm
    · exact h.apart id₁ w₁ id₂ w₂ hw₁ hw₂ hne hkey
  · intro id' row' h'
    obtain ⟨w, hw, rfl⟩ := mem_closeEpoch.mp h'
    split_ifs
    · exact le_max_left _ _
    · exact h.started id' w hw
  · -- the span closed with it ends where the epoch does
    intro sid span hs row' h'
    obtain ⟨w, hw, rfl⟩ := mem_closeEpoch.mp h'
    split_ifs with hid
    · obtain rfl := Table.eq_of_mem (hid ▸ hw) hmem
      exact h.flushTail_spans hmem hopen hb (le_max_right _ _) hs hid
    · rcases mem_flushTail_spans hmem hs with hs | ⟨_, _, -, -, rfl, -⟩
      · exact h.spans sid span hs w hw
      · exact absurd rfl hid
  · -- what the epoch holds more is what is left of it up to its end
    intro id' row' h' φ hφ tier lo hi hlo hhi
    obtain ⟨w, hw, rfl⟩ := mem_closeEpoch.mp h'
    rw [hcontent, hφ.add]
    split_ifs with hid hid' hid'
    · subst hid
      obtain rfl := Table.eq_of_mem hw hmem
      exact h.extend hφ hmem hopen hb (le_max_right _ _) hlo hhi
    · exact absurd hid.symm hid'
    · exact absurd hid'.symm hid
    · rw [hφ.zero, add_zero]
      exact h.held id' w hw φ hφ tier lo hi hlo hhi

/-- **Opening an epoch** once the others of its check are over. -/
theorem bounded_openEpoch (h : Bounded db) {t : Host × EpochCheck}
    (hnone : activeEpoch db (targetKey t) = none)
    (hover : ∀ id row, (id, row) ∈ db.epochs.rows → row.key = targetKey t →
      ∃ e, row.endedMs = some e ∧ (e ≤ row.startedMs ∨ e ≤ now)) :
    Bounded (openEpoch db t.1 t.2 now) := by
  have hfresh : ∀ {id row}, (id, row) ∈ db.epochs.rows → id ≠ db.epochs.nextId := by
    rintro id row hmem rfl
    exact Table.nextId_not_mem _ (Table.mem_keys_of_mem hmem)
  have hnew : (⟨newEpoch t.1 t.2 now, none, none⟩ : EpochRow).bound = now := rfl
  refine ⟨sound_openEpoch h.sound hnone, ?_, ?_, ?_, ?_⟩
  · intro id₁ row₁ id₂ row₂ h₁ h₂ hne hkey
    rcases mem_openEpoch.mp h₁ with h₁ | ⟨rfl, rfl⟩ <;>
      rcases mem_openEpoch.mp h₂ with h₂ | ⟨rfl, rfl⟩
    · exact h.apart id₁ row₁ id₂ row₂ h₁ h₂ hne hkey
    · -- an older epoch of the check is over by now, when the new one starts
      obtain ⟨e, he, hle⟩ := hover id₁ row₁ h₁ hkey
      exact Or.inl ⟨e, he, hle⟩
    · obtain ⟨e, he, hle⟩ := hover id₂ row₂ h₂ hkey.symm
      exact Or.inr ⟨e, he, hle⟩
    · exact absurd rfl hne
  · intro id' row' h'
    rcases mem_openEpoch.mp h' with h' | ⟨-, rfl⟩
    · exact h.started id' row' h'
    · exact le_rfl
  · intro sid span hs row' h'
    rcases mem_openEpoch.mp h' with h' | ⟨hid, -⟩
    · exact h.spans sid span hs row' h'
    · exact absurd (hid ▸ h.sound.spans sid span hs) (Table.nextId_not_mem _)
  · intro id' row' h' φ hφ tier lo hi hlo hhi
    have hsame : content (openEpoch db t.1 t.2 now) id' tier lo hi = content db id' tier lo hi :=
      content_congr rfl rfl id' tier lo hi
    rw [hsame]
    rcases mem_openEpoch.mp h' with h' | ⟨rfl, -⟩
    · exact h.held id' row' h' φ hφ tier lo hi hlo hhi
    · -- and the new one holds nothing
      rw [content_of_not_mem h.sound (Table.nextId_not_mem _), hφ.zero]
      exact Nat.zero_le _

/-- **Accepting an observation.** -/
theorem bounded_accept (h : Bounded db) (hacc : Accepts db id row at_ now)
    (observation : HistoryObservation) : Bounded (accept db id row at_ observation) := by
  have hmem := hacc.mem
  have hopen := hacc.isOpen
  -- an open epoch reaches up to its last observation, which the new one is after
  have hb : row.bound ≤ at_ := by
    rw [bound_of_open hopen]
    rcases hl : row.lastMs with - | last
    · exact hacc.started
    · exact (hacc.last last hl).le
  have hfind : db.epochs.find? id = some row := Table.find?_eq_some.mpr hmem
  have hnext : ({ row with lastMs := some at_, lastJson := some observation } : EpochRow).bound =
      at_ := bound_of_open hopen
  refine ⟨sound_accept h.sound hacc, ?_, ?_, ?_, ?_⟩
  · intro id₁ row₁ id₂ row₂ h₁ h₂ hne hkey
    obtain ⟨w₁, hw₁, he₁⟩ := info_of_mem_accept h₁
    obtain ⟨w₂, hw₂, he₂⟩ := info_of_mem_accept h₂
    rw [← he₁, ← he₂]
    exact h.apart id₁ w₁ id₂ w₂ hw₁ hw₂ hne (by rw [he₁, he₂, hkey])
  · intro id' row' h'
    obtain ⟨w, hw, rfl⟩ := mem_accept_epochs.mp h'
    split_ifs with hid
    · obtain rfl := Table.eq_of_mem (hid ▸ hw) hmem
      rw [hnext]
      exact hacc.started
    · exact h.started id' w hw
  · -- the span that ends at the observation ends where the epoch now does
    intro sid span hs row' h'
    obtain ⟨w, hw, rfl⟩ := mem_accept_epochs.mp h'
    rw [accept_spans] at hs
    split_ifs with hid
    · obtain rfl := Table.eq_of_mem (hid ▸ hw) hmem
      rw [hnext]
      exact h.flushTail_spans hmem hopen hb le_rfl hs hid
    · rcases mem_flushTail_spans hmem hs with hs | ⟨_, _, -, -, rfl, -⟩
      · exact h.spans sid span hs w hw
      · exact absurd rfl hid
  · intro id' row' h' φ hφ tier lo hi hlo hhi
    obtain ⟨w, hw, rfl⟩ := mem_accept_epochs.mp h'
    rw [content_accept hfind, hφ.add, hφ.add, apply_ite φ _ observation.sampleStats, hφ.sample,
      hφ.zero, ite_self, add_zero]
    split_ifs with hid hid' hid'
    · subst hid
      obtain rfl := Table.eq_of_mem hw hmem
      rw [hnext]
      exact h.extend hφ hmem hopen hb le_rfl hlo hhi
    · exact absurd hid.symm hid'
    · exact absurd hid'.symm hid
    · rw [hφ.zero, add_zero]
      exact h.held id' w hw φ hφ tier lo hi hlo hhi

theorem bounded_record (h : Bounded db) (host : String) (module : Module) (check : String)
    (observation : HistoryObservation) :
    Bounded (record db host module check at_ observation now) := by
  rcases record_cases db host module check at_ observation now with heq | ⟨id, row, -, hacc, heq⟩
  · rwa [heq]
  · rw [heq]
    exact bounded_accept h hacc observation

/-- What takes from the content, and keeps the epochs it does not delete. -/
theorem bounded_of_le {db' : HistoryDb} (h : Bounded db) (hsound : Sound db')
    (hepochs : ∀ r ∈ db'.epochs.rows, r ∈ db.epochs.rows)
    (hspans : ∀ sid span, (sid, span) ∈ db'.spans.rows →
      ∃ cursor, (sid, { span with cursorMs := cursor }) ∈ db.spans.rows ∧ cursor ≤ span.cursorMs ∧
        (cursor < span.cursorMs → span.cursorMs < span.endMs))
    (hcontent : ∀ epoch tier lo hi, tier.width ∣ lo → tier.width ∣ hi → ∃ lost,
      content db epoch tier lo hi = content db' epoch tier lo hi + lost) : Bounded db' := by
  refine ⟨hsound, fun id row id' row' hr hr' => h.apart id row id' row' (hepochs _ hr) (hepochs _ hr'),
    fun id row hr => h.started id row (hepochs _ hr), fun sid span hs row hr => ?_,
    fun id row hr φ hφ tier lo hi hlo hhi => ?_⟩
  · obtain ⟨cursor, hs', hle, hlt⟩ := hspans sid span hs
    obtain ⟨h₁, h₂, h₃⟩ := h.spans sid _ hs' row (hepochs _ hr)
    simp only at h₁ h₂ h₃
    exact ⟨le_trans h₁ hle, by omega, h₃⟩
  · obtain ⟨lost, hlost⟩ := hcontent id tier lo hi hlo hhi
    have hheld := h.held id row (hepochs _ hr) φ hφ tier lo hi hlo hhi
    rw [hlost, hφ.add] at hheld
    omega

/-- **Rolling up**, under any configuration and at any clock. -/
theorem bounded_rollup (h : Bounded db) (limit : ℕ) : Bounded (rollup config now db limit).1 := by
  obtain ⟨hepochs, -, -⟩ := rollup_frame config now db limit
  exact bounded_of_le h (sound_rollup h.sound limit) (by simp [hepochs]) (spans_rollup limit)
    fun epoch tier lo hi hlo hhi => content_rollup_le limit epoch hlo hhi

/-- **Pruning** too. -/
theorem bounded_prune (h : Bounded db) (scan : Table.LimitScan) (usageRetention limit : ℕ) :
    Bounded (prune scan limit db now config usageRetention).1 := by
  refine bounded_of_le h (sound_prune h.sound scan usageRetention limit) prune_epochs
    (fun sid span hs => ?_) fun epoch tier lo hi _ _ => content_prune_le usageRetention epoch
  rw [prune_spans] at hs
  exact ⟨span.cursorMs, hs, le_rfl, by omega⟩

/-! ## Synchronization -/

/-- **A synchronization goes forward**: its clock is no earlier than the last
observation of an epoch it closes, where that is past the start, nor than the
end of an earlier epoch, that is not empty, of a check it opens one for. -/
structure Forward (db : HistoryDb) (hosts : List Host) (now : ℤ) : Prop where
  closes : ∀ id row, (id, row) ∈ db.epochs.rows → row.isOpen = true →
    Replaced hosts row.toEpochInfo → ∀ last, row.lastMs = some last → last ≤ max row.startedMs now
  opens : ∀ id row, (id, row) ∈ db.epochs.rows → Reopened db hosts row.key →
    ∀ ended, row.endedMs = some ended → row.startedMs < ended → ended ≤ now

theorem bounded_syncEpochs (h : Bounded db₀) {hosts : List Host} (hforward : Forward db₀ hosts now) :
    Bounded (syncEpochs db₀ hosts now) := by
  -- an epoch that is over was so before, or is over by now
  refine (syncEpochs_induction (P := fun db => Bounded db ∧ ∀ id row, (id, row) ∈ db.epochs.rows →
    ∀ e, row.endedMs = some e → (id, row) ∈ db₀.epochs.rows ∨ e ≤ row.startedMs ∨ e ≤ now)
    h.sound.one (fun db id row _ hmem hopen hfresh hrep ⟨hb, hover⟩ => ?_)
    (fun db t _ hnone hre ⟨hb, hover⟩ => ?_)
    ⟨h, fun id row hmem _ _ => Or.inl hmem⟩).1
  · refine ⟨bounded_closeEpoch hb hmem hopen fun last hl => ?_, fun id' row' h' e he => ?_⟩
    · rcases hfresh with hold | ⟨host, check, rfl⟩
      · exact hforward.closes id row hold hopen hrep last hl
      · cases hl
    · obtain ⟨w, hw, rfl⟩ := mem_closeEpoch.mp h'
      split_ifs at he ⊢
      · obtain rfl : max w.startedMs now = e := Option.some.inj he
        refine Or.inr ?_
        rcases max_choice w.startedMs now with hm | hm
        · exact Or.inl hm.le
        · exact Or.inr hm.le
      · exact hover id' w hw e he
  · refine ⟨bounded_openEpoch hb hnone fun id row hmem hkey => ?_, fun id' row' h' e he => ?_⟩
    · have hclosed := activeEpoch_eq_none.mp hnone id row hmem hkey
      obtain ⟨e, he⟩ : ∃ e, row.endedMs = some e :=
        Option.ne_none_iff_exists'.mp fun hn => by simp [EpochInfo.isOpen, hn] at hclosed
      refine ⟨e, he, ?_⟩
      rcases hover id row hmem e he with hold | hdone
      · rcases le_or_gt e row.startedMs with hle | hlt
        · exact Or.inl hle
        · exact Or.inr (hforward.opens id row hold (hkey ▸ hre) e he hlt)
      · exact hdone
    · rcases mem_openEpoch.mp h' with h' | ⟨-, rfl⟩
      · exact hover id' row' h' e he
      · cases he

end SimpleNetworkMonitor.History
