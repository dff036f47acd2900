import SimpleNetworkMonitor.App.Filters
/-!
# Queries by metadata

A parameter names a metadata field after its first dot. The name may be any
but one with a dot, which the splitting of the key does not let through.
-/

namespace SimpleNetworkMonitor

/-- **What a scalar reads as**: a string as it is, a boolean or a number as
JSON. Other values are no scalars. -/
def Value.scalar? : Value → Option String
  | .string value => some value
  | .bool value => some (if value then "true" else "false")
  | .number rendered => some rendered
  | .null | .array | .object => none

/-- What a host says in a metadata field, if it is a scalar. -/
def Host.metadataScalar? (host : Host) (field : String) : Option String :=
  (host.metadata.find? (·.1 = field)).bind (·.2.scalar?)

namespace App

open Storage

variable {parseDuration : String → Except String ℕ} {now : ℤ} {field expected : String}

theorem metadataValueMatches_iff {actual : Value} :
    metadataValueMatches actual expected = true ↔ actual.scalar? = some expected := by
  cases actual <;> simp [metadataValueMatches, Value.scalar?]

/-! ## The key -/

/-- The first separator splits. -/
theorem splitOnce_append {separator : Char} {before after : List Char} (h : separator ∉ before) :
    splitOnce separator (String.ofList (before ++ separator :: after)) =
      some (String.ofList before, String.ofList after) := by
  have hbefore : ∀ c ∈ before, decide (c ≠ separator) = true := fun c hc =>
    decide_eq_true fun heq => h (heq ▸ hc)
  have hspan : (before ++ separator :: after).span (· ≠ separator) =
      (before, separator :: after) := by
    rw [List.span_eq_takeWhile_dropWhile, List.takeWhile_append_of_pos hbefore,
      List.dropWhile_append_of_pos hbefore, List.takeWhile_cons_of_neg (by simp),
      List.dropWhile_cons_of_neg (by simp), List.append_nil]
  simp only [splitOnce, String.toList_ofList, hspan]

theorem splitFilterKey_metadata (hfield : field ≠ "") :
    splitFilterKey ("metadata." ++ field) =
      if '.' ∈ field.toList then .error (.invalidKey ("metadata." ++ field))
      else .ok (.namespaced "metadata" field) := by
  have hkey : "metadata." ++ field = String.ofList ("metadata".toList ++ '.' :: field.toList) := by
    apply String.toList_inj.mp
    simp
  have hsplit : splitOnce '.' ("metadata." ++ field) = some ("metadata", field) := by
    rw [hkey, splitOnce_append (by decide), String.ofList_toList, String.ofList_toList]
  simp only [splitFilterKey, hsplit]
  simp [hfield]

/-- **Every field has the entry of metadata.** -/
theorem lookup_metadata (parseDuration : String → Except String ℕ) (field : String) :
    lookup parseDuration (some "metadata") field =
      some { space := some "metadata", key := "*", apply := .metadataWildcard } := by
  by_cases hfield : "*" = field
  · subst hfield
    rfl
  · simp [lookup, REGISTRY, hfield]

/-- A field without a dot is asked for. -/
theorem asks_metadata (hfield : field ≠ "") (hdot : '.' ∉ field.toList) :
    Asks parseDuration ("metadata." ++ field, expected) (.metadata field expected) where
  parameter := rfl
  applyParam builder := by
    simp only [applyParam, splitFilterKey_metadata hfield, if_neg hdot, Except.ok_bind,
      FilterKey.parts, lookup_metadata]
    rfl

/-! ## The result -/

/-- **A metadata field is queryable**: a request for a value is accepted, and
the hosts it finds are those that have the value in the field. -/
def Queryable (parseDuration : String → Except String ℕ) (now : ℤ) (field expected : String) :
    Prop :=
  ∃ filter, parseHostFilter parseDuration now [("metadata." ++ field, expected)] = .ok filter ∧
    ∀ db hosts, ∃ records, sortedRecords db hosts filter = .ok records ∧
      records.map (·.host) =
        hosts.hosts.filter fun host => host.metadataScalar? field = some expected

/-- **A field is queryable where its name has no dot**, and only there. -/
theorem queryable_iff (parseDuration : String → Except String ℕ) (now : ℤ)
    (field expected : String) (hfield : field ≠ "") :
    Queryable parseDuration now field expected ↔ '.' ∉ field.toList := by
  constructor
  · -- the split of the key rejects the second dot
    rintro ⟨filter, hfilter, -⟩ hdot
    obtain ⟨c, hc⟩ := exists_parseHostFilter_iff.mp ⟨filter, hfilter⟩ _ (List.mem_singleton_self _)
    have happly := hc.applyParam {}
    simp only [applyParam, splitFilterKey_metadata hfield, if_pos hdot] at happly
    cases happly
  · intro hdot
    have hasks : Asks parseDuration ("metadata." ++ field, expected) (.metadata field expected) :=
      asks_metadata hfield hdot
    set filter := (({} : HostFilterBuilder).put (.metadata field expected)).intoHost now
    refine ⟨filter, ?_, fun db hosts => ?_⟩
    · rw [parseHostFilter, List.foldlM_cons, hasks.applyParam]
      rfl
    · have hok : ∀ record, ∃ b, matchesHostFilter db record filter = .ok b := fun record =>
        exists_matchesHostFilter rfl
      refine ⟨_, sortedRecords_of_forall fun host _ => hok _, ?_⟩
      rw [List.filter_map, List.map_map]
      refine (List.map_id'' (fun _ => rfl) _).trans (List.filter_congr fun host _ => ?_)
      obtain ⟨b, hb⟩ := hok (hostRecord db host)
      have hmet : b = true ↔ Met db (hostRecord db host) now (.metadata field expected) := by
        rw [← matchesHostFilter_alone, ← Except.ok.injEq, ← hb]
        rfl
      have hscalar : Met db (hostRecord db host) now (.metadata field expected) ↔
          host.metadataScalar? field = some expected := by
        simp only [Met, metadataValueMatches_iff, Host.metadataScalar?, Option.bind_eq_some_iff,
          hostRecord_host]
      rw [Function.comp_apply, Except.passes_of_eq_ok (f := (matchesHostFilter db · filter)) hb,
        Bool.eq_iff_iff, hmet, hscalar, decide_eq_true_eq]

theorem room_queryable : Queryable sampleDurations 0 "room" "net-a" :=
  (queryable_iff sampleDurations 0 "room" "net-a" (by decide)).mpr (by decide)

/-- A name with a dot, which a configuration may quote. -/
theorem dotted_not_queryable : "rack.unit" ≠ "" ∧ ¬ Queryable sampleDurations 0 "rack.unit" "7" := by
  refine ⟨by decide, fun ⟨filter, hfilter, _⟩ => ?_⟩
  have hrejected : parseHostFilter sampleDurations 0 [("metadata.rack.unit", "7")] =
      .error (.invalidKey "metadata.rack.unit") := rfl
  exact absurd (hrejected.symm.trans hfilter) (by simp)

end App

end SimpleNetworkMonitor
