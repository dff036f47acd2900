import Mathlib.Data.Char
/-!
# Lists of tokens

A header lists tokens with a separator between them, and blanks around each.
Reading cuts the text at the separators and trims what is between them.
-/

namespace Listed

/-- Drop the blanks at both ends. -/
def trim (text : List Char) : List Char :=
  ((text.dropWhile Char.isWhitespace).reverse.dropWhile Char.isWhitespace).reverse

/-- **The tokens of a text.** -/
def read (separator : Char) (text : List Char) : List (List Char) :=
  (text.splitOn separator).map trim

/-- A text that lists tokens. -/
def write (separator : Char) : List (List Char) → List Char
  | [] => []
  | token :: tokens => [separator].intercalate (token :: tokens.map (' ' :: ·))

/-- What can be listed: there is neither a separator nor a blank in it. -/
def Token (separator : Char) (token : List Char) : Prop :=
  ∀ c ∈ token, c ≠ separator ∧ c.isWhitespace = false

variable {separator : Char} {token : List Char} {tokens : List (List Char)}

theorem dropWhile_of_token (h : Token separator token) :
    token.dropWhile Char.isWhitespace = token := by
  cases token with
  | nil => rfl
  | cons c rest => rw [List.dropWhile_cons_of_neg (by simp [(h c List.mem_cons_self).2])]

theorem trim_token (h : Token separator token) : trim token = token := by
  have hreverse : Token separator token.reverse := fun c hc => h c (List.mem_reverse.mp hc)
  rw [trim, dropWhile_of_token h, dropWhile_of_token hreverse, List.reverse_reverse]

/-- A blank before a token is dropped. -/
theorem trim_blank (h : Token separator token) : trim (' ' :: token) = token := by
  have hblank : (' ' :: token).dropWhile Char.isWhitespace =
      token.dropWhile Char.isWhitespace := List.dropWhile_cons_of_pos (by decide)
  rw [trim, hblank]
  exact trim_token h

/-- **What is written is read back.** -/
theorem read_write (hseparator : separator ≠ ' ') (h : ∀ token ∈ tokens, Token separator token)
    (hne : tokens ≠ []) : read separator (write separator tokens) = tokens := by
  cases tokens with
  | nil => exact absurd rfl hne
  | cons token tokens =>
    have hfree : ∀ t, Token separator t → separator ∉ t := fun t ht hmem =>
      (ht _ hmem).1 rfl
    rw [read, write, List.splitOn_intercalate separator ?_ (List.cons_ne_nil _ _), List.map_cons,
      trim_token (h token List.mem_cons_self), List.map_map]
    · congr 1
      exact List.map_congr_left (fun t ht => trim_blank (h t (List.mem_cons_of_mem _ ht))) |>.trans
        (List.map_id _)
    · intro piece hpiece
      rcases List.mem_cons.mp hpiece with rfl | hpiece
      · exact hfree _ (h _ List.mem_cons_self)
      · obtain ⟨t, ht, rfl⟩ := List.mem_map.mp hpiece
        exact List.not_mem_cons_of_ne_of_not_mem hseparator
          (hfree t (h t (List.mem_cons_of_mem _ ht)))

end Listed
