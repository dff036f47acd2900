import Mathlib.Data.List.Basic
import Mathlib.Tactic.Common
/-!
# Quoted text

A quoted value escapes its backslashes, its newlines and its quotes. Reading
up to the first bare quote gives the value back, and what follows it. A list
of labels is keys with quoted values, and a text is lines that each end in a
newline.
-/

namespace Quoting

/-- `str::replace` of a character by a text. -/
def replaceChar (c : Char) (text s : List Char) : List Char :=
  s.flatMap fun d => if d = c then text else [d]

theorem replaceChar_flatMap (c : Char) (text s : List Char) (f : Char → List Char) :
    replaceChar c text (s.flatMap f) = s.flatMap fun d => replaceChar c text (f d) :=
  List.flatMap_assoc

/-- How a character stands between quotes. -/
def escapeChar (c : Char) : List Char :=
  if c = '\\' then ['\\', '\\']
  else if c = '\n' then ['\\', 'n']
  else if c = '\"' then ['\\', '\"']
  else [c]

/-- **Three replacements, the backslash first**, escape every character for
itself: no later one meets what an earlier one wrote. -/
theorem replaceChar_replaceChar_replaceChar (s : List Char) :
    replaceChar '\"' ['\\', '\"'] (replaceChar '\n' ['\\', 'n'] (replaceChar '\\' ['\\', '\\'] s)) =
      s.flatMap escapeChar := by
  conv_lhs => rw [replaceChar.eq_1 '\\', replaceChar_flatMap, replaceChar_flatMap]
  congr 1
  funext c
  unfold escapeChar
  split_ifs with hbackslash hnewline hquote
  · rfl
  · subst hnewline; rfl
  · subst hquote; rfl
  · simp [replaceChar, hnewline, hquote]

theorem newline_notMem_escape (s : List Char) : '\n' ∉ s.flatMap escapeChar := by
  rw [List.mem_flatMap]
  rintro ⟨c, -, hc⟩
  unfold escapeChar at hc
  split_ifs at hc with hbackslash hnewline hquote
  · exact absurd hc (by decide)
  · exact absurd hc (by decide)
  · exact absurd hc (by decide)
  · exact hnewline (List.mem_singleton.mp hc).symm

/-- The character an escape stands for. -/
def unescapeChar (c : Char) : Option Char :=
  if c = 'n' then some '\n' else if c = '\\' ∨ c = '\"' then some c else none

/-- **Read a quoted value**, from behind its opening quote: the value, and
what follows the closing quote. -/
def readQuoted : List Char → Option (List Char × List Char)
  | [] => none
  | [c] => if c = '\"' then some ([], []) else none
  | c :: d :: rest =>
    if c = '\"' then some ([], d :: rest)
    else if c = '\\' then
      match unescapeChar d with
      | none => none
      | some e => (readQuoted rest).map fun read => (e :: read.1, read.2)
    else (readQuoted (d :: rest)).map fun read => (c :: read.1, read.2)

theorem readQuoted_quote (rest : List Char) : readQuoted ('\"' :: rest) = some ([], rest) := by
  cases rest <;> simp [readQuoted]

theorem readQuoted_escaped {d e : Char} (h : unescapeChar d = some e) (rest : List Char) :
    readQuoted ('\\' :: d :: rest) =
      (readQuoted rest).map fun read => (e :: read.1, read.2) := by
  simp [readQuoted, h]

theorem readQuoted_plain {c : Char} (hquote : c ≠ '\"') (hbackslash : c ≠ '\\') (rest : List Char) :
    readQuoted (c :: rest) = (readQuoted rest).map fun read => (c :: read.1, read.2) := by
  cases rest <;> simp [readQuoted, hquote, hbackslash]

theorem readQuoted_escapeChar (c : Char) (rest : List Char) :
    readQuoted (escapeChar c ++ rest) =
      (readQuoted rest).map fun read => (c :: read.1, read.2) := by
  unfold escapeChar
  split_ifs with hbackslash hnewline hquote
  · subst hbackslash
    exact readQuoted_escaped rfl rest
  · subst hnewline
    exact readQuoted_escaped rfl rest
  · subst hquote
    exact readQuoted_escaped rfl rest
  · exact readQuoted_plain hquote hbackslash rest

/-- **Reading undoes escaping.** -/
theorem readQuoted_escape (s rest : List Char) :
    readQuoted (s.flatMap escapeChar ++ '\"' :: rest) = some (s, rest) := by
  induction s with
  | nil => exact readQuoted_quote rest
  | cons c s ih => rw [List.flatMap_cons, List.append_assoc, readQuoted_escapeChar, ih, Option.map_some]

/-! ## Labels -/

/-- A key and its quoted value. -/
def writeLabel (label : List Char × List Char) : List Char :=
  label.1 ++ '=' :: '\"' :: (label.2.flatMap escapeChar ++ ['\"'])

/-- **Labels** between braces, a comma after each but the last. -/
def writeLabels (labels : List (List Char × List Char)) : List Char :=
  '{' :: ([','].intercalate (labels.map writeLabel) ++ ['}'])

/-- Read one label: its key is what stands before the first equals sign. -/
def readLabel (text : List Char) : Option ((List Char × List Char) × List Char) :=
  match text.dropWhile fun c => c ≠ '=' with
  | '=' :: '\"' :: quoted =>
    (readQuoted quoted).map fun read => ((text.takeWhile fun c => c ≠ '=', read.1), read.2)
  | _ => none

/-- Read labels from behind the opening brace, at most `fuel` of them: the
labels, and what follows the closing brace. -/
def readLabels : ℕ → List Char → Option (List (List Char × List Char) × List Char)
  | 0, _ => none
  | fuel + 1, text =>
    match readLabel text with
    | none => none
    | some (label, rest) =>
      if rest.head? = some ',' then
        (readLabels fuel rest.tail).map fun read => (label :: read.1, read.2)
      else if rest.head? = some '}' then some ([label], rest.tail)
      else none

/-- What stands before the first separator. -/
theorem takeWhile_dropWhile_append {p : Char → Bool} {s : List Char} {c : Char}
    (hs : ∀ d ∈ s, p d = true) (hc : p c = false) (rest : List Char) :
    (s ++ c :: rest).takeWhile p = s ∧ (s ++ c :: rest).dropWhile p = c :: rest := by
  rw [List.takeWhile_append_of_pos hs, List.dropWhile_append_of_pos hs,
    List.takeWhile_cons_of_neg (by simp [hc]), List.dropWhile_cons_of_neg (by simp [hc]),
    List.append_nil]
  exact ⟨rfl, rfl⟩

theorem readLabel_writeLabel {label : List Char × List Char} (hkey : '=' ∉ label.1)
    (rest : List Char) : readLabel (writeLabel label ++ rest) = some (label, rest) := by
  have hplain : ∀ d ∈ label.1, (fun c => decide (c ≠ '=')) d = true := fun d hd => by
    simpa using ne_of_mem_of_not_mem hd hkey
  obtain ⟨htake, hdrop⟩ := takeWhile_dropWhile_append hplain
    (by decide : decide ('=' ≠ '=') = false) ('\"' :: (label.2.flatMap escapeChar ++ '\"' :: rest))
  rw [readLabel, writeLabel]
  simp only [List.append_assoc, List.cons_append, List.nil_append, htake, hdrop, readQuoted_escape,
    Option.map_some]

/-- **Reading undoes writing**, for keys that hold no equals sign. -/
theorem readLabels_writeLabels {labels : List (List Char × List Char)} (hne : labels ≠ [])
    (hkeys : ∀ label ∈ labels, '=' ∉ label.1) {fuel : ℕ} (hfuel : labels.length ≤ fuel)
    (rest : List Char) :
    readLabels fuel ([','].intercalate (labels.map writeLabel) ++ '}' :: rest) =
      some (labels, rest) := by
  induction labels generalizing fuel with
  | nil => exact absurd rfl hne
  | cons label labels ih =>
    obtain ⟨fuel, rfl⟩ : ∃ n, fuel = n + 1 := ⟨fuel - 1, by simp at hfuel; omega⟩
    have hlabel := readLabel_writeLabel (hkeys label List.mem_cons_self)
    cases labels with
    | nil =>
      rw [List.map_cons, List.map_nil, List.intercalate_singleton, readLabels, hlabel]
      rfl
    | cons next labels =>
      have ih := ih (List.cons_ne_nil next labels)
        (fun label hl => hkeys label (List.mem_cons_of_mem _ hl)) (Nat.le_of_succ_le_succ hfuel)
      rw [List.map_cons] at ih
      rw [List.map_cons, List.map_cons, List.intercalate_cons_cons, List.append_assoc,
        List.append_assoc, readLabels, hlabel]
      simp only [List.cons_append, List.nil_append, List.head?_cons, List.tail_cons, if_pos, ih,
        Option.map_some]

theorem newline_notMem_intercalate {ls : List (List Char)} (h : ∀ l ∈ ls, '\n' ∉ l) :
    '\n' ∉ [','].intercalate ls := by
  induction ls with
  | nil => exact List.not_mem_nil
  | cons l ls ih =>
    have ih := ih fun l hl => h l (List.mem_cons_of_mem _ hl)
    have hl := h l List.mem_cons_self
    cases ls with
    | nil => rwa [List.intercalate_singleton]
    | cons next ls =>
      rw [List.intercalate_cons_cons]
      simp [hl, ih]

theorem newline_notMem_writeLabels {labels : List (List Char × List Char)}
    (hkeys : ∀ label ∈ labels, '\n' ∉ label.1) : '\n' ∉ writeLabels labels := by
  have hlabel : ∀ label ∈ labels, '\n' ∉ writeLabel label := by
    intro label hl
    have hescape := newline_notMem_escape label.2
    simp [writeLabel, hkeys label hl, hescape]
  have hjoined := newline_notMem_intercalate fun l hl => by
    obtain ⟨label, hmem, rfl⟩ := List.mem_map.mp hl
    exact hlabel label hmem
  simp [writeLabels, hjoined]

/-! ## Lines -/

/-- The lines of a text: what stands between its newlines. -/
def lines (text : List Char) : List (List Char) := text.splitOn '\n'

/-- **A text of terminated lines** has these lines, and nothing after the last. -/
theorem lines_terminated {ls : List (List Char)} (h : ∀ l ∈ ls, '\n' ∉ l) :
    lines (ls.flatMap fun l => l ++ ['\n']) = ls ++ [[]] := by
  induction ls with
  | nil => rfl
  | cons l ls ih =>
    rw [List.flatMap_cons, List.append_assoc, List.singleton_append, lines,
      List.splitOn_append_cons_self_of_not_mem (h l List.mem_cons_self), List.cons_append]
    rw [← ih fun l hl => h l (List.mem_cons_of_mem _ hl), lines]

end Quoting
