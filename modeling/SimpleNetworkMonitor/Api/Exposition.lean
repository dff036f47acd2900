import SimpleNetworkMonitor.Api.Helpers.Series
import Mathlib.Data.List.Flatten
/-!
# The metrics text is well formed

A scrape is families in the order of their names, each its HELP and TYPE
lines, then its samples, one a line, and a blank line. A sample line reads
back as the sample that was written, and no two samples have one name and
one set of labels.
-/

namespace SimpleNetworkMonitor.Api

open App Api.Metric Quoting

/-! ## What a scraper reads -/

/-- A sample as a scraper reads it. -/
structure Series where
  name : String
  labels : List (String × String)
  value : String
  deriving DecidableEq

def Sample.series (s : Sample) : Series :=
  ⟨s.metric.name ++ s.suffix, s.labels, s.value.display⟩

/-- What ends the name of a sample. -/
def endsName (c : Char) : Bool := c = '{' || c = ' '

/-- What follows the name of a sample: its labels, if it has any, and its
value. -/
def readAfterName (name : String) (rest : List Char) : Option Series :=
  if rest.head? = some '{' then
    match readLabels rest.length rest.tail with
    | none => none
    | some (labels, rest) =>
      if rest.head? = some ' ' then
        some ⟨name, labels.map (Prod.map String.ofList String.ofList), String.ofList rest.tail⟩
      else none
  else if rest.head? = some ' ' then some ⟨name, [], String.ofList rest.tail⟩
  else none

/-- **Read a sample line.** -/
def readSample (line : String) : Option Series :=
  readAfterName (String.ofList (line.toList.takeWhile fun c => !endsName c))
    (line.toList.dropWhile fun c => !endsName c)

/-- The lines of a text. -/
def textLines (text : String) : List String := (lines text.toList).map String.ofList

/-- **A family in the text**: its metric and its samples. -/
structure Family where
  metric : Metric
  samples : List Sample

def Family.lines (f : Family) : List String :=
  ["# HELP " ++ f.metric.name ++ " " ++ f.metric.help,
    "# TYPE " ++ f.metric.name ++ " " ++ f.metric.kind] ++ f.samples.map Sample.text ++ [""]

/-! ## Sample lines -/

/-- A sample whose name and keys hold no mark of the format. -/
structure Sample.Plain (s : Sample) : Prop where
  name : ∀ c ∈ (s.metric.name ++ s.suffix).toList, endsName c = false ∧ c ≠ '\n'
  keys : ∀ label ∈ s.labels, '=' ∉ label.1.toList ∧ '\n' ∉ label.1.toList

/-- The labels, as characters. -/
def Sample.chars (s : Sample) : List (List Char × List Char) :=
  s.labels.map (Prod.map String.toList String.toList)

theorem toList_escape (value : String) :
    (escape value).toList = value.toList.flatMap escapeChar := by
  rw [escape, String.toList_ofList, replaceChar_replaceChar_replaceChar]

theorem toList_labelText (label : String × String) :
    (labelText label).toList = writeLabel (Prod.map String.toList String.toList label) := by
  simp [labelText, writeLabel, toList_escape]

theorem toList_text (s : Sample) :
    s.text.toList = (s.metric.name ++ s.suffix).toList ++
      ((if s.labels = [] then [] else writeLabels s.chars) ++ ' ' :: s.value.display.toList) := by
  unfold Sample.text
  simp only [String.toList_append, List.append_assoc, List.isEmpty_iff]
  split_ifs with h
  · rfl
  · simp only [String.toList_append, String.toList_intercalate, writeLabels, Sample.chars,
      List.map_map, Function.comp_def, toList_labelText]
    simp

variable {s : Sample}

theorem length_le_intercalate (ls : List (List Char)) (h : ∀ l ∈ ls, l ≠ []) :
    ls.length ≤ ([','].intercalate ls).length := by
  induction ls with
  | nil => exact Nat.zero_le _
  | cons l ls ih =>
    have hl := List.length_pos_iff.mpr (h l List.mem_cons_self)
    have ih := ih fun l hl => h l (List.mem_cons_of_mem _ hl)
    cases ls with
    | nil => rwa [List.intercalate_singleton]
    | cons next ls =>
      rw [List.intercalate_cons_cons, List.length_append, List.length_append, List.length_cons]
      simp only [List.length_cons] at ih ⊢
      omega

/-- What follows the name reads back. -/
theorem readAfterName_labels {labels : List (String × String)} (hne : labels ≠ [])
    (hkeys : ∀ label ∈ labels, '=' ∉ label.1.toList) (name value : String) :
    readAfterName name (writeLabels (labels.map (Prod.map String.toList String.toList)) ++
      ' ' :: value.toList) = some ⟨name, labels, value⟩ := by
  have hmap : (labels.map (Prod.map String.toList String.toList)).map
      (Prod.map String.ofList String.ofList) = labels := by
    rw [List.map_map]
    exact (List.map_congr_left fun label _ => by simp [Prod.map]).trans (List.map_id labels)
  generalize hchars : labels.map (Prod.map String.toList String.toList) = chars at hmap ⊢
  have hnonempty : chars ≠ [] := by
    rw [← hchars]
    simpa using hne
  have hkeys' : ∀ label ∈ chars, '=' ∉ label.1 := by
    rw [← hchars]
    intro label hl
    obtain ⟨text, htext, rfl⟩ := List.mem_map.mp hl
    exact hkeys text htext
  have hfuel : chars.length ≤ ([','].intercalate (chars.map writeLabel)).length := by
    have := length_le_intercalate (chars.map writeLabel) fun l hl => by
      obtain ⟨label, -, rfl⟩ := List.mem_map.mp hl
      simp [writeLabel]
    rwa [List.length_map] at this
  have hread := readLabels_writeLabels hnonempty hkeys'
    (by rw [writeLabels, List.length_append, List.length_cons, List.length_append]; omega :
      chars.length ≤ (writeLabels chars ++ ' ' :: value.toList).length) (' ' :: value.toList)
  have htail : (writeLabels chars ++ ' ' :: value.toList).tail =
      [','].intercalate (chars.map writeLabel) ++ '}' :: ' ' :: value.toList := by
    simp [writeLabels]
  unfold readAfterName
  rw [htail, hread]
  simp [writeLabels, hmap]

/-- **A sample line reads back** as the sample. -/
theorem readSample_text (h : s.Plain) : readSample s.text = some s.series := by
  have hname : ∀ c ∈ (s.metric.name ++ s.suffix).toList, (fun c => !endsName c) c = true :=
    fun c hc => by simp [(h.name c hc).1]
  unfold readSample
  rw [toList_text]
  split_ifs with hlabels
  · obtain ⟨htake, hdrop⟩ := takeWhile_dropWhile_append hname (by decide : (!endsName ' ') = false)
      s.value.display.toList
    rw [List.nil_append, htake, hdrop]
    simp [readAfterName, Sample.series, hlabels]
  · obtain ⟨htake, hdrop⟩ := takeWhile_dropWhile_append hname (by decide : (!endsName '{') = false)
      ([','].intercalate (s.chars.map writeLabel) ++ ['}'] ++ ' ' :: s.value.display.toList)
    have hafter := readAfterName_labels hlabels (fun label hl => (h.keys label hl).1)
      (s.metric.name ++ s.suffix) s.value.display
    rw [writeLabels, List.cons_append, htake, hdrop, String.ofList_toList]
    exact hafter

/-! ## One line each -/

theorem newline_notMem_padded {w n : ℕ} (hn : n < 10 ^ w) : '\n' ∉ Decimal.padded w n := by
  induction w generalizing n with
  | zero => exact List.not_mem_nil
  | succ w ih =>
    rw [Decimal.padded, List.mem_cons, not_or]
    refine ⟨fun heq => ?_, ih Decimal.mod_lt⟩
    have hdigit : 10 = 48 + n / 10 ^ w := by
      rw [← Decimal.toNat_digit (Decimal.head_lt hn), ← heq]
      rfl
    have hle := Nat.le_add_right 48 (n / 10 ^ w)
    rw [← hdigit] at hle
    exact absurd hle (by decide)

theorem newline_notMem_toDigits (n : ℕ) : '\n' ∉ Nat.toDigits 10 n := fun h => by
  have hdigit := Nat.isDigit_of_mem_toDigits (by decide) (by decide) h
  exact absurd hdigit (by decide)

theorem newline_notMem_display (value : Number) : '\n' ∉ value.display.toList := by
  cases value with
  | count n => simpa [Number.display] using newline_notMem_toDigits n
  | seconds nanos =>
    have hwhole := newline_notMem_toDigits (nanos.natAbs / fromSecs 1)
    have hpadded : '\n' ∉ Decimal.padded 9 (nanos.natAbs % fromSecs 1) :=
      newline_notMem_padded (Nat.mod_lt _ (by decide))
    have htrim : '\n' ∉ trimZeros (Decimal.padded 9 (nanos.natAbs % fromSecs 1)) := fun h => by
      rw [trimZeros, List.mem_reverse] at h
      exact hpadded (List.mem_reverse.mp ((List.dropWhile_sublist _).mem h))
    rw [Number.display, String.toList_ofList]
    simp only [displaySeconds, List.mem_append, not_or]
    refine ⟨⟨?_, hwhole⟩, ?_⟩
    · split_ifs <;> decide
    · split_ifs
      · exact List.not_mem_nil
      · simpa using htrim

/-- **A sample is one line.** -/
theorem newline_notMem_text (h : s.Plain) : '\n' ∉ s.text.toList := by
  have hname : '\n' ∉ (s.metric.name ++ s.suffix).toList := fun hc => (h.name _ hc).2 rfl
  have hlabels : '\n' ∉ writeLabels s.chars := newline_notMem_writeLabels fun label hl => by
    obtain ⟨text, htext, rfl⟩ := List.mem_map.mp hl
    exact (h.keys text htext).2
  have hvalue := newline_notMem_display s.value
  rw [toList_text]
  simp only [List.mem_append, List.mem_cons, not_or]
  refine ⟨hname, ?_, by decide, hvalue⟩
  split_ifs
  · exact List.not_mem_nil
  · exact hlabels

/-! ## Families -/

/-- The text of the samples of a family. -/
def familyText (l : List Sample) : String := l.foldl (fun text s => text ++ s.text ++ "\n") ""

theorem familyText_concat (l : List Sample) (s : Sample) :
    familyText (l ++ [s]) = familyText l ++ s.text ++ "\n" := by
  rw [familyText, List.foldl_append, List.foldl_cons, List.foldl_nil, ← familyText]

theorem toList_familyText (l : List Sample) :
    (familyText l).toList = (l.map Sample.text).flatMap fun line => line.toList ++ ['\n'] := by
  induction l using List.reverseRecOn with
  | nil => rfl
  | append_singleton l s ih => rw [familyText_concat]; simp [ih]

/-- The samples of the families with a name. -/
def named (l : List Sample) (name : String) : List Sample := l.filter fun s => s.metric.name = name

/-- **A family holds the samples of its name**, under the metric of the first. -/
theorem get?_exposition (l : List Sample) (name : String) :
    (l.foldl Exposition.sample ∅).get? name =
      (named l name).head?.map fun s => (s.metric, familyText (named l name)) := by
  -- induction on the samples, the last one taken
  induction l using List.reverseRecOn with
  | nil => rfl
  | append_singleton l s ih =>
    rw [List.foldl_append, List.foldl_cons, List.foldl_nil, Exposition.sample, Ordered.get?_entry]
    by_cases hname : name = s.metric.name
    · subst hname
      have hnamed : named (l ++ [s]) s.metric.name = named l s.metric.name ++ [s] := by
        simp [named]
      rw [if_pos rfl, ih, hnamed, familyText_concat]
      cases named l s.metric.name with
      | nil => rfl
      | cons first rest => rfl
    · have hnamed : named (l ++ [s]) name = named l name := by
        simp [named, Ne.symm hname]
      rw [if_neg hname, ih, hnamed]

/-- The families of some samples. -/
def families (l : List Sample) : List Family :=
  (l.foldl Exposition.sample ∅).rows.map fun row => ⟨row.2.1, named l row.1⟩

/-- A row of the exposition is a family: of one name, and not empty. -/
theorem row_of_mem {l : List Sample} {row : String × (Metric × String)}
    (h : row ∈ (l.foldl Exposition.sample ∅).rows) :
    (∃ s ∈ l, s.metric = row.2.1 ∧ s.metric.name = row.1) ∧ named l row.1 ≠ [] ∧
      row.2.2 = familyText (named l row.1) := by
  obtain ⟨name, metric, text⟩ := row
  have hget := Ordered.get?_eq_some.mpr h
  rw [get?_exposition, Option.map_eq_some_iff] at hget
  obtain ⟨s, hhead, heq⟩ := hget
  obtain ⟨rfl, rfl⟩ := Prod.mk.inj heq
  have hmem : s ∈ named l name := List.mem_of_mem_head? hhead
  obtain ⟨hl, hname⟩ := List.mem_filter.mp hmem
  exact ⟨⟨s, hl, rfl, of_decide_eq_true hname⟩, List.ne_nil_of_mem hmem, rfl⟩

theorem exists_row {l : List Sample} {s : Sample} (hs : s ∈ l) :
    ∃ row ∈ (l.foldl Exposition.sample ∅).rows, row.1 = s.metric.name := by
  have hmem : s ∈ named l s.metric.name := List.mem_filter.mpr ⟨hs, decide_eq_true rfl⟩
  obtain ⟨first, hfirst⟩ : ∃ first, (named l s.metric.name).head? = some first :=
    ⟨_, List.head?_eq_some_head (List.ne_nil_of_mem hmem)⟩
  have hget := get?_exposition l s.metric.name
  rw [hfirst, Option.map_some] at hget
  exact ⟨_, Ordered.get?_eq_some.mp hget, rfl⟩

/-- The names of the families ascend. -/
theorem sorted_families (l : List Sample) :
    (families l).Pairwise fun f g => f.metric.name < g.metric.name := by
  rw [families, List.pairwise_map]
  refine (l.foldl Exposition.sample ∅).sorted.imp_of_mem fun hr hr' hlt => ?_
  obtain ⟨⟨s, -, hmetric, hname⟩, -⟩ := row_of_mem hr
  obtain ⟨⟨s', -, hmetric', hname'⟩, -⟩ := row_of_mem hr'
  rw [← hmetric, ← hmetric', hname, hname']
  exact hlt

/-- **The text of an exposition** is the lines of its families, each ended. -/
theorem toList_finish (l : List Sample) :
    (l.foldl Exposition.sample ∅).finish.toList =
      ((families l).flatMap Family.lines).flatMap fun line => line.toList ++ ['\n'] := by
  -- induction on rows of the exposition, from any output so far
  have key : ∀ (rows : List (String × (Metric × String))) (output : String),
      (∀ row ∈ rows, (∃ s ∈ l, s.metric = row.2.1 ∧ s.metric.name = row.1) ∧
        named l row.1 ≠ [] ∧ row.2.2 = familyText (named l row.1)) →
      (rows.foldl (fun output row =>
          output ++ "# HELP " ++ row.2.1.name ++ " " ++ row.2.1.help ++ "\n# TYPE " ++
            row.2.1.name ++ " " ++ row.2.1.kind ++ "\n" ++ row.2.2 ++ "\n") output).toList =
        output.toList ++ ((rows.map fun row => (⟨row.2.1, named l row.1⟩ : Family)).flatMap
          Family.lines).flatMap fun line => line.toList ++ ['\n'] := by
    intro rows
    induction rows with
    | nil => intro output _; simp
    | cons row rows ih =>
      intro output h
      obtain ⟨-, -, htext⟩ := h row List.mem_cons_self
      rw [List.foldl_cons, ih _ fun row hr => h row (List.mem_cons_of_mem _ hr)]
      simp [Family.lines, htext, toList_familyText]
  have hfinish := key (l.foldl Exposition.sample ∅).rows "" fun row hr => row_of_mem hr
  rw [String.toList_empty, List.nil_append] at hfinish
  exact hfinish

/-! ## The samples of a scrape -/

/-- The characters of a literal are those it is written with. -/
theorem all_toList_ofList {p : Char → Bool} {l : List Char} (h : l.all p = true) :
    (String.ofList l).toList.all p = true := by
  rwa [String.toList_ofList]

variable {records : List HostRecord} {stats : RuntimeMetrics} {now : ℤ}

theorem key_mem_allKeys (hs : s ∈ samples records stats now) : s.key ∈ allKeys records stats :=
  (sublist_samples records stats now).mem (List.mem_map_of_mem hs)

theorem metric_mem_all (hs : s ∈ samples records stats now) : s.metric ∈ Metric.ALL := by
  have hclosed : ∀ shape ∈ SHAPES, shape.1 ∈ Metric.ALL := by simp [SHAPES, Metric.ALL]
  exact hclosed s.key.shape (shape_mem_of_allKeys (key_mem_allKeys hs))

/-- The names and the keys of a scrape hold no mark of the format. -/
theorem plain_of_mem (hs : s ∈ samples records stats now) : s.Plain := by
  have hnames : ∀ shape ∈ SHAPES, (shape.1.name.toList.all fun c => !endsName c && c != '\n') ∧
      (shape.2.1.toList.all fun c => !endsName c && c != '\n') := by
    simp only [SHAPES, List.forall_mem_cons, List.not_mem_nil, false_imp_iff, implies_true, and_true]
    and_intros <;> exact all_toList_ofList rfl
  have hkeys : ∀ shape ∈ SHAPES, ∀ key ∈ shape.2.2, key.toList.all fun c => c != '=' && c != '\n' := by
    simp only [SHAPES, List.forall_mem_cons, List.not_mem_nil, false_imp_iff, implies_true, and_true]
    and_intros <;> exact all_toList_ofList rfl
  have hshape := shape_mem_of_allKeys (key_mem_allKeys hs)
  refine ⟨fun c hc => ?_, fun label hl => ?_⟩
  · obtain ⟨hname, hsuffix⟩ := hnames _ hshape
    rw [String.toList_append] at hc
    rcases List.mem_append.mp hc with hc | hc
    · simpa using List.all_eq_true.mp hname c hc
    · simpa using List.all_eq_true.mp hsuffix c hc
  · have hkey := List.all_eq_true.mp (hkeys _ hshape label.1 (List.mem_map_of_mem hl))
    exact ⟨fun hmem => by simpa using hkey _ hmem, fun hmem => by simpa using hkey _ hmem⟩

/-- Two families have different names. -/
theorem eq_of_name {m m' : Metric} (hm : m ∈ Metric.ALL) (hm' : m' ∈ Metric.ALL)
    (h : m.name = m'.name) : m = m' := by
  have hclosed : ∀ a ∈ Metric.ALL, ∀ b ∈ Metric.ALL, a.name = b.name → a = b := by
    simp [Metric.ALL, ENABLED, FRESH, OBSERVED, ICMP_STATUS, RTT, USAGE_SUCCESS, USERS, TCP_SUCCESS,
      TCP_DURATION, RUNS, RETRIES, DURATION]
  exact hclosed m hm m' hm' h

/-- **The families of a scrape** hold every sample of their metric, in order,
and every sample is in one. -/
theorem families_samples (records : List HostRecord) (stats : RuntimeMetrics) (now : ℤ) :
    (∀ f ∈ families (samples records stats now), f.samples ≠ [] ∧
      f.samples = (samples records stats now).filter fun s => s.metric = f.metric) ∧
    ∀ s ∈ samples records stats now,
      ∃ f ∈ families (samples records stats now), f.metric = s.metric := by
  constructor
  · intro f hf
    obtain ⟨row, hrow, rfl⟩ := List.mem_map.mp hf
    obtain ⟨⟨first, hfirst, hmetric, hname⟩, hne, -⟩ := row_of_mem hrow
    refine ⟨hne, List.filter_congr fun s hs => decide_eq_decide.mpr ?_⟩
    rw [← hmetric, ← hname]
    exact ⟨fun h => eq_of_name (metric_mem_all hs) (metric_mem_all hfirst) h,
      fun h => congrArg Metric.name h⟩
  · intro s hs
    obtain ⟨row, hrow, heq⟩ := exists_row hs
    obtain ⟨⟨first, hfirst, hmetric, hname⟩, -⟩ := row_of_mem hrow
    refine ⟨_, List.mem_map_of_mem hrow, ?_⟩
    rw [← hmetric]
    exact eq_of_name (metric_mem_all hfirst) (metric_mem_all hs) (hname.trans heq)

/-- The texts of a family are one line each. -/
theorem newline_notMem_metric : ∀ m ∈ Metric.ALL,
    '\n' ∉ m.name.toList ∧ '\n' ∉ m.help.toList ∧ '\n' ∉ m.kind.toList := by
  have hall : ∀ m ∈ Metric.ALL, (m.name.toList.all fun c => c != '\n') ∧
      (m.help.toList.all fun c => c != '\n') ∧ m.kind.toList.all fun c => c != '\n' := by
    simp only [Metric.ALL, List.forall_mem_cons, List.not_mem_nil, false_imp_iff, implies_true,
      and_true]
    and_intros <;> exact all_toList_ofList rfl
  have hnot : ∀ text : List Char, (text.all fun c => c != '\n') = true → '\n' ∉ text :=
    fun text h hmem => by simpa using List.all_eq_true.mp h _ hmem
  intro m hm
  obtain ⟨hname, hhelp, hkind⟩ := hall m hm
  exact ⟨hnot _ hname, hnot _ hhelp, hnot _ hkind⟩

theorem newline_notMem_head {m : Metric} (hm : m ∈ Metric.ALL) :
    '\n' ∉ ("# HELP " ++ m.name ++ " " ++ m.help).toList ∧
      '\n' ∉ ("# TYPE " ++ m.name ++ " " ++ m.kind).toList := by
  obtain ⟨hname, hhelp, hkind⟩ := newline_notMem_metric m hm
  simp [hname, hhelp, hkind]

/-- **The lines of a scrape** are those of its families, and the text ends
with the last of them. -/
theorem textLines_render (records : List HostRecord) (stats : RuntimeMetrics) (now : ℤ) :
    textLines (render records stats now) =
      (families (samples records stats now)).flatMap Family.lines ++ [""] := by
  have hlines : ∀ line ∈ ((families (samples records stats now)).flatMap Family.lines).map
      String.toList, '\n' ∉ line := by
    intro line hline
    obtain ⟨text, htext, rfl⟩ := List.mem_map.mp hline
    obtain ⟨f, hf, htext⟩ := List.mem_flatMap.mp htext
    obtain ⟨hne, hsamples⟩ := (families_samples records stats now).1 f hf
    obtain ⟨first, hfirst⟩ := List.exists_mem_of_ne_nil _ hne
    rw [hsamples] at hfirst
    obtain ⟨hfirst, hmetric⟩ := List.mem_filter.mp hfirst
    have hall := metric_mem_all hfirst
    rw [of_decide_eq_true hmetric] at hall
    simp only [Family.lines, List.mem_append, List.mem_cons, List.not_mem_nil, or_false] at htext
    rcases htext with ((rfl | rfl) | htext) | rfl
    · exact (newline_notMem_head hall).1
    · exact (newline_notMem_head hall).2
    · obtain ⟨s, hs, rfl⟩ := List.mem_map.mp htext
      rw [hsamples] at hs
      exact newline_notMem_text (plain_of_mem (List.mem_of_mem_filter hs))
    · exact List.not_mem_nil
  have hterminated := lines_terminated hlines
  rw [List.flatMap_map] at hterminated
  rw [textLines, render, toList_finish, hterminated, List.map_append, List.map_map]
  simp [Function.comp_def]

/-- **No two samples of a scrape** have one name and one set of labels. -/
theorem pairwise_samples (hhosts : (records.map (·.host.id)).Nodup)
    (hchecks : ∀ record ∈ records, (record.host.modules.tcp.checks.map (·.id)).Nodup)
    (stats : RuntimeMetrics) (now : ℤ) :
    (samples records stats now).Pairwise fun s t => s.series.name = t.series.name →
      ¬ ∀ label, label ∈ s.labels ↔ label ∈ t.labels := by
  have hnd := (sublist_samples records stats now).nodup (nodup_allKeys stats hhosts hchecks)
  rw [List.nodup_iff_pairwise_ne, List.pairwise_map] at hnd
  refine hnd.imp_of_mem fun {s t} hs ht hne hname hlabels => hne ?_
  have hshape := shape_eq_of_name _ (shape_mem_of_allKeys (key_mem_allKeys hs)) _
    (shape_mem_of_allKeys (key_mem_allKeys ht)) hname
  have hnodup : ∀ shape ∈ SHAPES, shape.2.2.Nodup := by simp [SHAPES]
  have heq : s.labels = t.labels := labels_eq_of_mem_iff (congrArg (fun shape => shape.2.2) hshape)
    (hnodup _ (shape_mem_of_allKeys (key_mem_allKeys hs))) hlabels
  have hmetric : s.metric = t.metric := congrArg (fun shape => shape.1) hshape
  have hsuffix : s.suffix = t.suffix := congrArg (fun shape => shape.2.1) hshape
  rw [Sample.key, Sample.key, hmetric, hsuffix, heq]

/-- **A label value reads back**, whatever it holds. -/
theorem readQuoted_escape_value (value : String) (rest : List Char) :
    readQuoted ((escape value).toList ++ '\"' :: rest) = some (value.toList, rest) := by
  rw [toList_escape, readQuoted_escape]

theorem escape_injective : Function.Injective escape := by
  intro a b h
  have ha := readQuoted_escape_value a []
  rw [h, readQuoted_escape_value b []] at ha
  exact (String.toList_inj.mp (Prod.mk.inj (Option.some.inj ha)).1).symm

/-! ## The exposition -/

/-- **The metrics text is always well formed.** For records of different
hosts, each with checks of different IDs, and any counters: the lines are
those of families in the order of their names, each family its HELP and TYPE
lines, every sample of its metric on a line of its own, and a blank line; every
sample line reads back as its sample; no two samples have one name and one set
of labels; and a label value reads back whatever it holds, so different labels
stay different. -/
theorem exposition_wellFormed {records : List HostRecord} (stats : RuntimeMetrics) (now : ℤ)
    (hhosts : (records.map (·.host.id)).Nodup)
    (hchecks : ∀ record ∈ records, (record.host.modules.tcp.checks.map (·.id)).Nodup) :
    (∃ fs : List Family,
      textLines (render records stats now) = fs.flatMap Family.lines ++ [""] ∧
      (fs.Pairwise fun f g => f.metric.name < g.metric.name) ∧
      (∀ f ∈ fs, f.samples ≠ [] ∧
        f.samples = (samples records stats now).filter fun s => s.metric = f.metric) ∧
      ∀ s ∈ samples records stats now, ∃ f ∈ fs, f.metric = s.metric) ∧
    (∀ s ∈ samples records stats now, readSample s.text = some s.series) ∧
    ((samples records stats now).Pairwise fun s t => s.series.name = t.series.name →
      ¬ ∀ label, label ∈ s.labels ↔ label ∈ t.labels) ∧
    (∀ value rest, readQuoted ((escape value).toList ++ '\"' :: rest) = some (value.toList, rest)) ∧
    Function.Injective escape := by
  obtain ⟨hfamilies, hcover⟩ := families_samples records stats now
  exact ⟨⟨families (samples records stats now), textLines_render records stats now,
    sorted_families _, hfamilies, hcover⟩, fun s hs => readSample_text (plain_of_mem hs),
    pairwise_samples hhosts hchecks stats now, readQuoted_escape_value, escape_injective⟩

/-- A record with the TCP checks `icmp` and `web`. -/
def sampleScraped (hostId : String) : HostRecord where
  host := ⟨hostId, "192.0.2.1", "name", [], [],
    { tcp := { enabled := true
               checks := [⟨⟨"icmp", by decide +kernel⟩, ⟨443, by decide, by decide⟩⟩,
                 ⟨⟨"web", by decide +kernel⟩, ⟨443, by decide, by decide⟩⟩] } }⟩
  state := {}
  usage := none
  tcp := ∅

/-- Two such records: a check called `icmp` is not the built-in one. -/
theorem sampleScraped_wellFormed :
    (samples [sampleScraped "a", sampleScraped "b\n\""] ∅ 0).Pairwise fun s t =>
      s.series.name = t.series.name → ¬ ∀ label, label ∈ s.labels ↔ label ∈ t.labels :=
  (exposition_wellFormed ∅ 0 (by decide +kernel) (by
    intro record hrecord
    rcases List.mem_cons.mp hrecord with rfl | hrecord
    · decide +kernel
    · rw [List.mem_singleton.mp hrecord]
      decide +kernel)).2.2.1

end SimpleNetworkMonitor.Api
