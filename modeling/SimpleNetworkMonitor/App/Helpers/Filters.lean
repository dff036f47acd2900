import SimpleNetworkMonitor.App.Model.Filters
import SimpleNetworkMonitor.Domain.Conditions
/-!
# What the parameters ask for

A parameter is rejected whatever was read before it, or asks for one
condition, the one it names. Where the names are distinct the fields that
are written are, and the filter has the conditions that were asked for.
-/

namespace SimpleNetworkMonitor.App

variable {parseDuration : String → Except String ℕ}

/-! ## Keys -/

theorem splitOnce_eq_some {separator : Char} {value before after : String}
    (h : splitOnce separator value = some (before, after)) :
    value = before ++ separator.toString ++ after := by
  unfold splitOnce at h
  rw [List.span_eq_takeWhile_dropWhile] at h
  rcases hrest : value.toList.dropWhile (· ≠ separator) with - | ⟨c, rest⟩
  · simp only [hrest] at h
    cases h
  · simp only [hrest] at h
    obtain ⟨rfl, rfl⟩ := Prod.mk.inj (Option.some.inj h)
    -- what follows the part without separators starts with one
    have hc : c = separator := by
      have hhead := List.head?_dropWhile_not (· ≠ separator) value.toList
      rw [hrest] at hhead
      simpa using hhead
    subst hc
    apply String.toList_inj.mp
    rw [String.toList_append, String.toList_append, String.toList_ofList, String.toList_ofList]
    have hsplit := List.takeWhile_append_dropWhile (p := (· ≠ c)) (l := value.toList)
    rw [hrest] at hsplit
    simpa using hsplit.symm

/-- A key in its namespace, as a parameter names it. -/
def fullKey : Option String → String → String
  | none, key => key
  | some space, key => space ++ "." ++ key

/-- **A key is what it is split to.** -/
theorem splitFilterKey_eq_ok {value : String} {key : FilterKey}
    (h : splitFilterKey value = .ok key) : value = fullKey key.parts.1 key.parts.2 := by
  unfold splitFilterKey at h
  rcases hsplit : splitOnce '.' value with - | ⟨space, childKey⟩
  · simp only [hsplit] at h
    obtain rfl := Except.ok.inj h
    rfl
  · simp only [hsplit] at h
    split_ifs at h
    obtain rfl := Except.ok.inj h
    have hvalue := splitOnce_eq_some hsplit
    have hdot : '.'.toString = "." := rfl
    rw [hdot] at hvalue
    rw [hvalue]
    rfl

/-- The entry of a key is one of the table, for it or for any key. -/
theorem lookup_eq_some {space : Option String} {key : String} {entry : FilterEntry}
    (h : lookup parseDuration space key = some entry) :
    entry ∈ REGISTRY parseDuration ∧ entry.space = space ∧ (entry.key = key ∨ entry.key = "*") := by
  rcases Option.or_eq_some_iff.mp h with h | ⟨-, h⟩
  · have hp := List.find?_some h
    simp only [Bool.and_eq_true, decide_eq_true_eq] at hp
    exact ⟨List.mem_of_find?_eq_some h, hp.1, Or.inl hp.2⟩
  · have hp := List.find?_some h
    simp only [Bool.and_eq_true, decide_eq_true_eq] at hp
    exact ⟨List.mem_of_find?_eq_some h, hp.1, Or.inr hp.2⟩

/-! ## Conditions of a builder -/

namespace HostFilterBuilder

/-- The conditions that were read. -/
def conditions (builder : HostFilterBuilder) : List Condition := (builder.intoHost 0).conditions

theorem conditions_intoHost (builder : HostFilterBuilder) (now : ℤ) :
    (builder.intoHost now).conditions = builder.conditions := rfl

@[simp] theorem conditions_empty : ({} : HostFilterBuilder).conditions = [] := rfl

/-- The builder with the field of a condition written. -/
def put (builder : HostFilterBuilder) : Condition → HostFilterBuilder
  | .group name => { builder with group := some name }
  | .icmpStatus status => { builder with icmpStatus := some status }
  | .metadata field expected =>
    { builder with metadata := builder.metadata.upsert field expected }
  | .usageStatus status => { builder with usage := { builder.usage with status := some status } }
  | .inactive .consoleOnly duration =>
    { builder with usage := { builder.usage with inactiveConsoleFor := some duration } }
  | .inactive .anyUser duration =>
    { builder with usage := { builder.usage with noUsersFor := some duration } }

/-- **A field that was not written** is written beside the others. -/
theorem mem_conditions_put {builder : HostFilterBuilder} {c c' : Condition}
    (h : ∀ c ∈ builder.conditions, c.parameter ≠ c'.parameter) :
    c ∈ (builder.put c').conditions ↔ c = c' ∨ c ∈ builder.conditions := by
  -- the field of the condition was not written
  cases c' with
  | group name =>
    have hnone : builder.group = none := Option.eq_none_iff_forall_ne_some.mpr fun g hg =>
      h (.group g) (group_mem_conditions.mpr hg) rfl
    rcases c with _ | _ | _ | _ | ⟨_ | _, _⟩ <;>
      simp [conditions, put, intoHost, hnone, eq_comm, ActivityPredicate.durationOf]
  | icmpStatus status =>
    have hnone : builder.icmpStatus = none := Option.eq_none_iff_forall_ne_some.mpr fun s hs =>
      h (.icmpStatus s) (icmpStatus_mem_conditions.mpr hs) rfl
    rcases c with _ | _ | _ | _ | ⟨_ | _, _⟩ <;>
      simp [conditions, put, intoHost, hnone, eq_comm, ActivityPredicate.durationOf]
  | metadata field expected =>
    have hne : ∀ v, (field, v) ∉ builder.metadata.rows := fun v hv =>
      h (.metadata field v) (metadata_mem_conditions.mpr hv) rfl
    rcases c with _ | _ | ⟨field', expected'⟩ | _ | ⟨_ | _, _⟩ <;>
      simp only [conditions, put, intoHost, group_mem_conditions, icmpStatus_mem_conditions,
        usageStatus_mem_conditions, inactive_mem_conditions, metadata_mem_conditions,
        Condition.metadata.injEq, reduceCtorEq, false_or]
    by_cases hf : field' = field
    · subst hf
      simp [Table.mem_upsert, hne]
    · simp [Table.mem_upsert, hf]
  | usageStatus status =>
    have hnone : builder.usage.status = none := Option.eq_none_iff_forall_ne_some.mpr fun s hs =>
      h (.usageStatus s) (usageStatus_mem_conditions.mpr hs) rfl
    rcases c with _ | _ | _ | _ | ⟨_ | _, _⟩ <;>
      simp [conditions, put, intoHost, UsageFilterBuilder.intoUsage, hnone, eq_comm,
        ActivityPredicate.durationOf]
  | inactive predicate duration =>
    have hnone : predicate.durationOf (builder.intoHost 0).usage = none :=
      Option.eq_none_iff_forall_ne_some.mpr fun d hd =>
        h (.inactive predicate d) (inactive_mem_conditions.mpr hd) (by cases predicate <;> rfl)
    cases predicate <;> simp only [ActivityPredicate.durationOf, intoHost,
      UsageFilterBuilder.intoUsage] at hnone <;>
    rcases c with _ | _ | _ | _ | ⟨_ | _, _⟩ <;>
      simp [conditions, put, intoHost, UsageFilterBuilder.intoUsage, hnone, eq_comm,
        ActivityPredicate.durationOf]

end HostFilterBuilder

/-- **What a parameter asks for**, whatever was read before it. -/
structure Asks (parseDuration : String → Except String ℕ) (param : String × String) (c : Condition) :
    Prop where
  parameter : c.parameter = param.1
  applyParam : ∀ builder : HostFilterBuilder,
    applyParam parseDuration builder param = .ok (builder.put c)

/-- A value that is read to a condition, or rejected. -/
theorem reads_or_rejects {α : Type} {name : String}
    {run : HostFilterBuilder → Except FilterParseError HostFilterBuilder}
    (read : Except FilterParseError α) (condition : α → Condition)
    (hname : ∀ a, (condition a).parameter = name)
    (hrun : ∀ builder, run builder = read.map fun a => builder.put (condition a)) :
    (∃ c : Condition, c.parameter = name ∧ ∀ builder, run builder = .ok (builder.put c)) ∨
      ∃ error, ∀ builder, run builder = .error error := by
  cases read with
  | error error => exact Or.inr ⟨error, hrun⟩
  | ok a => exact Or.inl ⟨condition a, hname a, hrun⟩

/-- **Each entry** of the table reads the value to a condition, or rejects
it. -/
theorem run_apply {entry : FilterEntry} {key : String} (value : String)
    (hentry : entry ∈ REGISTRY parseDuration) (hkey : entry.key = key ∨ entry.key = "*") :
    (∃ c : Condition, c.parameter = fullKey entry.space key ∧
        ∀ builder, entry.apply.run builder key value = .ok (builder.put c)) ∨
      ∃ error, ∀ builder, entry.apply.run builder key value = .error error := by
  simp only [REGISTRY, List.mem_cons, List.not_mem_nil, or_false] at hentry
  rcases hentry with rfl | rfl | rfl | rfl | rfl | rfl
  · obtain rfl := hkey.resolve_right (by simp)
    exact Or.inl ⟨.group value, rfl, fun _ => rfl⟩
  · obtain rfl := hkey.resolve_right (by simp)
    exact reads_or_rejects (parseIcmpStatus "icmp.status" value) .icmpStatus (fun _ => rfl)
      fun _ => rfl
  · exact Or.inl ⟨.metadata key value, rfl, fun _ => rfl⟩
  · obtain rfl := hkey.resolve_right (by simp)
    exact reads_or_rejects (parseUsageStatus "usage.status" value) .usageStatus (fun _ => rfl)
      fun _ => Except.map_map_eq ..
  · obtain rfl := hkey.resolve_right (by simp)
    exact reads_or_rejects (parseDurationQuery parseDuration "usage.inactive_console_for" value)
      (.inactive .consoleOnly) (fun _ => rfl) fun _ => Except.map_map_eq ..
  · obtain rfl := hkey.resolve_right (by simp)
    exact reads_or_rejects (parseDurationQuery parseDuration "usage.no_users_for" value)
      (.inactive .anyUser) (fun _ => rfl) fun _ => Except.map_map_eq ..

/-- **A parameter asks for one condition, or is rejected.** -/
theorem asks_or_rejected (param : String × String) :
    (∃ c, Asks parseDuration param c) ∨
      ∃ error, ∀ builder, applyParam parseDuration builder param = .error error := by
  obtain ⟨key, value⟩ := param
  rcases hsplit : splitFilterKey key with error | filterKey
  · exact Or.inr ⟨error, fun builder => by simp only [applyParam, hsplit]; rfl⟩
  rcases hlookup : lookup parseDuration filterKey.parts.1 filterKey.parts.2 with - | entry
  · exact Or.inr ⟨_, fun builder => by simp only [applyParam, hsplit, Except.ok_bind, hlookup]; rfl⟩
  obtain ⟨hentry, hspace, hkey⟩ := lookup_eq_some hlookup
  rcases run_apply value hentry hkey with ⟨c, hparameter, hrun⟩ | ⟨error, hrun⟩
  · refine Or.inl ⟨c, ?_, fun builder => ?_⟩
    · rw [hparameter, hspace]
      exact (splitFilterKey_eq_ok hsplit).symm
    · simp only [applyParam, hsplit, Except.ok_bind, hlookup, hrun]
  · refine Or.inr ⟨error, fun builder => ?_⟩
    simp only [applyParam, hsplit, Except.ok_bind, hlookup, hrun]

theorem Asks.unique {param : String × String} {c c' : Condition} (h : Asks parseDuration param c)
    (h' : Asks parseDuration param c') : c = c' := by
  have hput := Except.ok.inj ((h.applyParam {}).symm.trans (h'.applyParam {}))
  have hmem : c ∈ (({} : HostFilterBuilder).put c').conditions := by
    rw [← hput, HostFilterBuilder.mem_conditions_put (by simp)]
    exact Or.inl rfl
  rw [HostFilterBuilder.mem_conditions_put (by simp)] at hmem
  simpa using hmem

/-! ## The whole -/

section Loop

variable {params : List (String × String)} {builder next : HostFilterBuilder}

/-- **A loop over the parameters** that goes through: each asks for
something. -/
theorem asks_of_foldlM (h : params.foldlM (applyParam parseDuration) builder = .ok next) :
    ∀ param ∈ params, ∃ c, Asks parseDuration param c := by
  induction params generalizing builder with
  | nil => exact fun param hparam => absurd hparam List.not_mem_nil
  | cons first params ih =>
    obtain ⟨between, hfirst, hrest⟩ := Except.bind_eq_ok_iff.mp h
    refine List.forall_mem_cons.mpr ⟨?_, ih hrest⟩
    refine (asks_or_rejected first).resolve_right fun ⟨error, herror⟩ => ?_
    exact absurd ((herror builder).symm.trans hfirst) (by simp)

/-- It writes what they ask for. -/
theorem foldlM_of_asks {asked : String × String → Condition}
    (h : ∀ param ∈ params, Asks parseDuration param (asked param)) :
    params.foldlM (applyParam parseDuration) builder =
      .ok ((params.map asked).foldl HostFilterBuilder.put builder) := by
  induction params generalizing builder with
  | nil => rfl
  | cons first params ih =>
    obtain ⟨hfirst, hrest⟩ := List.forall_mem_cons.mp h
    rw [List.foldlM_cons, hfirst.applyParam, Except.ok_bind, ih hrest]
    rfl

end Loop

/-- **The conditions that are written** where their fields are distinct. -/
theorem mem_conditions_foldl_put {cs : List Condition} {builder : HostFilterBuilder} {c : Condition}
    (hcs : (cs.map Condition.parameter).Nodup)
    (hnew : ∀ c ∈ builder.conditions, c.parameter ∉ cs.map Condition.parameter) :
    c ∈ (cs.foldl HostFilterBuilder.put builder).conditions ↔ c ∈ cs ∨ c ∈ builder.conditions := by
  induction cs generalizing builder with
  | nil => simp
  | cons first cs ih =>
    obtain ⟨hfirst, hcs⟩ := List.nodup_cons.mp hcs
    have hput : ∀ c, c ∈ (builder.put first).conditions ↔ c = first ∨ c ∈ builder.conditions :=
      fun c => HostFilterBuilder.mem_conditions_put fun c hc heq =>
        hnew c hc (heq ▸ List.mem_cons_self)
    rw [List.foldl_cons, ih hcs, hput, List.mem_cons]
    · tauto
    · intro c hc
      rcases (hput c).mp hc with rfl | hc
      · exact hfirst
      · exact fun hmem => hnew c hc (List.mem_cons_of_mem _ hmem)

section Request

variable {now : ℤ} {params : List (String × String)} {filter : HostFilter}

/-- **A request is accepted** where each of its parameters asks for
something. -/
theorem exists_parseHostFilter_iff :
    (∃ filter, parseHostFilter parseDuration now params = .ok filter) ↔
      ∀ param ∈ params, ∃ c, Asks parseDuration param c := by
  constructor
  · rintro ⟨filter, h⟩
    obtain ⟨builder, hbuilder, -⟩ := Except.bind_eq_ok_iff.mp h
    exact asks_of_foldlM hbuilder
  · intro h
    choose! asked hasked using h
    exact ⟨_, by rw [parseHostFilter, foldlM_of_asks hasked]; rfl⟩

/-- **The filter of a request**: it has the conditions that are asked for. -/
structure Reads (parseDuration : String → Except String ℕ) (now : ℤ)
    (params : List (String × String)) (filter : HostFilter) : Prop where
  mem : ∀ c, c ∈ filter.conditions ↔ ∃ param ∈ params, Asks parseDuration param c
  nodup : (filter.metadata.map Prod.fst).Nodup
  now : filter.usage.now = now

/-- **Where the keys are distinct** no condition is lost. -/
theorem reads_of_parseHostFilter (hkeys : (params.map Prod.fst).Nodup)
    (h : parseHostFilter parseDuration now params = .ok filter) :
    Reads parseDuration now params filter := by
  have hall := exists_parseHostFilter_iff.mp ⟨filter, h⟩
  choose! asked hasked using hall
  rw [parseHostFilter, foldlM_of_asks hasked] at h
  obtain rfl := Except.ok.inj h
  have hnames : (params.map asked).map Condition.parameter = params.map Prod.fst := by
    rw [List.map_map]
    exact List.map_congr_left fun param hparam => (hasked param hparam).parameter
  refine ⟨fun c => ?_, Table.nodup _, rfl⟩
  rw [HostFilterBuilder.conditions_intoHost, mem_conditions_foldl_put (hnames ▸ hkeys) (by simp),
    List.mem_map]
  constructor
  · rintro (⟨param, hparam, rfl⟩ | hnone)
    · exact ⟨param, hparam, hasked param hparam⟩
    · cases hnone
  · rintro ⟨param, hparam, hc⟩
    exact Or.inl ⟨param, hparam, (hasked param hparam).unique hc⟩

end Request

end SimpleNetworkMonitor.App
