import SimpleNetworkMonitor.App.Helpers.Filters
/-!
# Reading usage filters

The parser of usage filters is the parser of host filters, held to the usage
namespace: it accepts what that one reads to a filter of usage alone, and
reads the same.
-/

namespace SimpleNetworkMonitor.App

variable {parseDuration : String → Except String ℕ} {param : String × String}
  {params : List (String × String)}

/-! ## One parameter -/

/-- A builder in which nothing but usage was written. -/
structure UsageOnly (builder : HostFilterBuilder) : Prop where
  icmpStatus : builder.icmpStatus = none
  group : builder.group = none
  metadata : builder.metadata = ∅

theorem UsageOnly.eq {builder : HostFilterBuilder} (h : UsageOnly builder) :
    builder = { usage := builder.usage } := by
  obtain ⟨icmpStatus, group, metadata, usage⟩ := builder
  obtain ⟨rfl, rfl, rfl⟩ := h
  rfl

/-- A table that was written to has rows. -/
theorem upsert_ne_empty (t : Table String String) (key value : String) :
    t.upsert key value ≠ ∅ := fun h => by
  have hmem : (key, value) ∈ (t.upsert key value).rows := Table.mem_upsert.mpr (Or.inr rfl)
  rw [h] at hmem
  exact absurd hmem List.not_mem_nil

/-- What was written stays written. -/
theorem usageOnly_of_put {builder : HostFilterBuilder} {c : Condition}
    (h : UsageOnly (builder.put c)) : UsageOnly builder := by
  cases c with
  | group name => cases h.group
  | icmpStatus status => cases h.icmpStatus
  | metadata field expected => exact absurd h.metadata (upsert_ne_empty _ _ _)
  | usageStatus status => exact ⟨h.icmpStatus, h.group, h.metadata⟩
  | inactive predicate duration =>
    cases predicate <;> exact ⟨h.icmpStatus, h.group, h.metadata⟩

theorem usageOnly_of_applyParam {builder next : HostFilterBuilder}
    (h : applyParam parseDuration builder param = .ok next) (hnext : UsageOnly next) :
    UsageOnly builder := by
  rcases @asks_or_rejected parseDuration param with ⟨c, hc⟩ | ⟨error, herror⟩
  · rw [hc.applyParam] at h
    obtain rfl := Except.ok.inj h
    exact usageOnly_of_put hnext
  · rw [herror] at h
    cases h

/-- **An entry of the table** is one of usage, or writes something else. -/
theorem usage_or_other {entry : FilterEntry} (hentry : entry ∈ REGISTRY parseDuration)
    (usage usage' : UsageFilterBuilder) (key value : String) :
    (∃ apply, entry.apply = .usage apply) ∨
      entry.apply.run { usage } key value ≠ .ok { usage := usage' } := by
  simp only [REGISTRY, List.mem_cons, List.not_mem_nil, or_false] at hentry
  rcases hentry with rfl | rfl | rfl | rfl | rfl | rfl
  · exact Or.inr (by simp [ApplyKind.run])
  · refine Or.inr fun h => ?_
    obtain ⟨status, -, heq⟩ := Except.map_eq_ok_iff.mp h
    simp at heq
  · refine Or.inr fun h => ?_
    simp only [ApplyKind.run, Except.ok.injEq, HostFilterBuilder.mk.injEq] at h
    exact upsert_ne_empty _ _ _ h.2.2.1
  all_goals exact Or.inl ⟨_, rfl⟩

/-- **One parameter** does to the usage builder what it does to the host
builder, where it does nothing else. -/
theorem applyUsageParam_eq_ok {usage usage' : UsageFilterBuilder} :
    applyUsageParam parseDuration usage param = .ok usage' ↔
      applyParam parseDuration { usage } param = .ok { usage := usage' } := by
  obtain ⟨name, value⟩ := param
  unfold applyUsageParam applyParam
  rcases splitFilterKey name with error | filterKey
  · simp
  cases filterKey with
  | bare key =>
    simp only [Except.ok_bind, FilterKey.parts]
    rcases hlookup : lookup parseDuration none key with - | entry
    · simp [Except.throw_eq]
    · obtain ⟨hentry, hspace, -⟩ := lookup_eq_some hlookup
      rcases usage_or_other hentry usage usage' key value with ⟨apply, happly⟩ | hother
      · -- the entries of usage are in its namespace
        simp only [REGISTRY, List.mem_cons, List.not_mem_nil, or_false] at hentry
        rcases hentry with rfl | rfl | rfl | rfl | rfl | rfl <;> simp at hspace happly
      · simpa [Except.throw_eq] using hother
  | namespaced space key =>
    simp only [Except.ok_bind, FilterKey.parts]
    rcases hlookup : lookup parseDuration (some space) key with - | entry
    · simp [Except.throw_eq]
    · obtain ⟨hentry, -, -⟩ := lookup_eq_some hlookup
      obtain ⟨entrySpace, entryKey, apply⟩ := entry
      cases apply with
      | usage apply =>
        simp only [ApplyKind.run, Except.map_eq_ok_iff]
        constructor
        · exact fun h => ⟨usage', h, rfl⟩
        · rintro ⟨written, h, heq⟩
          rwa [← (HostFilterBuilder.mk.inj heq).2.2.2]
      | host apply =>
        have hother := (usage_or_other hentry usage usage' key value).resolve_left (by simp)
        simpa [Except.throw_eq] using hother
      | metadataWildcard =>
        have hother := (usage_or_other hentry usage usage' key value).resolve_left (by simp)
        simpa [Except.throw_eq] using hother

/-! ## The whole -/

theorem usageOnly_of_foldlM {builder next : HostFilterBuilder}
    (h : params.foldlM (applyParam parseDuration) builder = .ok next) (hnext : UsageOnly next) :
    UsageOnly builder := by
  induction params generalizing builder with
  | nil =>
    obtain rfl := Except.ok.inj h
    exact hnext
  | cons first params ih =>
    obtain ⟨between, hfirst, hrest⟩ := Except.bind_eq_ok_iff.mp h
    exact usageOnly_of_applyParam hfirst (ih hrest)

theorem foldlM_applyUsageParam {usage usage' : UsageFilterBuilder} :
    params.foldlM (applyUsageParam parseDuration) usage = .ok usage' ↔
      params.foldlM (applyParam parseDuration) { usage } = .ok { usage := usage' } := by
  induction params generalizing usage with
  | nil =>
    simp [pure, Except.pure]
  | cons first params ih =>
    simp only [List.foldlM_cons, Except.bind_eq_ok_iff]
    constructor
    · rintro ⟨between, hfirst, hrest⟩
      exact ⟨{ usage := between }, applyUsageParam_eq_ok.mp hfirst, ih.mp hrest⟩
    · rintro ⟨between, hfirst, hrest⟩
      have honly : UsageOnly between := usageOnly_of_foldlM hrest ⟨rfl, rfl, rfl⟩
      rw [honly.eq] at hfirst hrest
      exact ⟨between.usage, applyUsageParam_eq_ok.mpr hfirst, ih.mpr hrest⟩

/-- **A usage filter is a host filter** that filters by nothing else. -/
theorem parseUsageFilter_eq_ok {now : ℤ} {filter : UsageFilter} :
    parseUsageFilter parseDuration now params = .ok filter ↔
      parseHostFilter parseDuration now params = .ok { usage := filter } := by
  unfold parseUsageFilter parseHostFilter
  simp only [Except.bind_eq_ok_iff]
  constructor
  · rintro ⟨usage, hfold, heq⟩
    obtain rfl := Except.ok.inj heq
    exact ⟨{ usage }, foldlM_applyUsageParam.mp hfold, rfl⟩
  · rintro ⟨builder, hfold, heq⟩
    have hfilter := Except.ok.inj heq
    obtain ⟨icmpStatus, group, metadata, usage⟩ := builder
    obtain ⟨rfl, rfl, hmetadata, rfl⟩ := HostFilter.mk.inj hfilter
    obtain rfl : metadata = ∅ := Table.ext hmetadata
    exact ⟨usage, foldlM_applyUsageParam.mpr hfold, rfl⟩

end SimpleNetworkMonitor.App
