import ColumnarSql.Lexeme.Scanner
import Mathlib.Data.List.TakeWhile

/-!
# Where a lexeme ends

A scanner that reads as far as it can looks at one character behind what it has read.
`Ends` says that this character does not go on with the lexeme, or that there is none.  It is
all that a lexeme asks of the text behind it, so it is what decides whether a lexeme stays the
same when the text behind it changes.

Reading as far as a class of characters goes and then on is the inverse of putting one text
behind the other exactly if the second `Ends` the first (`takeWhile_append_of_ends`,
`dropWhile_append_of_ends`).
-/

namespace ColumnarSql

/-- A text does not go on with a character of a class. -/
def Ends (further : Char → Bool) (rest : List Char) : Prop :=
  ∀ c ∈ rest.head?, further c = false

theorem ends_nil (further : Char → Bool) : Ends further [] := by
  simp [Ends]

theorem ends_cons_iff {further : Char → Bool} {c : Char} {rest : List Char} :
    Ends further (c :: rest) ↔ further c = false := by
  simp [Ends]

/-- What is behind the first character does not matter. -/
theorem Ends.append_left {further : Char → Bool} {rest : List Char} (hne : rest ≠ [])
    (h : Ends further rest) (more : List Char) : Ends further (rest ++ more) := by
  obtain ⟨c, rest, rfl⟩ := List.exists_cons_of_ne_nil hne
  exact ends_cons_iff.2 (ends_cons_iff.1 h)

theorem Ends.of_append {further : Char → Bool} {rest more : List Char}
    (h : Ends further (rest ++ more)) : Ends further rest := by
  cases rest with
  | nil => exact ends_nil further
  | cons c rest => exact ends_cons_iff.2 (ends_cons_iff.1 h)

theorem Ends.mono {further further' : Char → Bool} {rest : List Char} (h : Ends further rest)
    (hclass : ∀ c, further c = false → further' c = false) : Ends further' rest :=
  fun c hc => hclass c (h c hc)

theorem any_head?_eq_false_iff {further : Char → Bool} {rest : List Char} :
    rest.head?.any further = false ↔ Ends further rest := by
  cases rest with
  | nil => simp [ends_nil]
  | cons c rest => simp [ends_cons_iff]

instance (further : Char → Bool) (rest : List Char) : Decidable (Ends further rest) :=
  decidable_of_iff _ any_head?_eq_false_iff

theorem ends_dropWhile (further : Char → Bool) (source : List Char) :
    Ends further (source.dropWhile further) := by
  intro c hc
  have hdrop := List.head?_dropWhile_not further source
  rw [Option.mem_def.1 hc] at hdrop
  exact hdrop

theorem takeWhile_append_of_ends {further : Char → Bool} {text rest : List Char}
    (htext : ∀ c ∈ text, further c = true) (hrest : Ends further rest) :
    (text ++ rest).takeWhile further = text := by
  rw [List.takeWhile_append_of_pos htext]
  cases rest with
  | nil => exact List.append_nil text
  | cons c rest =>
    rw [List.takeWhile_cons_of_neg (by simp [ends_cons_iff.1 hrest]), List.append_nil]

theorem dropWhile_append_of_ends {further : Char → Bool} {text rest : List Char}
    (htext : ∀ c ∈ text, further c = true) (hrest : Ends further rest) :
    (text ++ rest).dropWhile further = rest := by
  rw [List.dropWhile_append_of_pos htext]
  cases rest with
  | nil => rfl
  | cons c rest => exact List.dropWhile_cons_of_neg (by simp [ends_cons_iff.1 hrest])

/-- A text is cut at the end of a class of characters in one way. -/
theorem eq_of_ends {further : Char → Bool} {text rest text' rest' : List Char}
    (h : text' ++ rest' = text ++ rest) (htext : ∀ c ∈ text, further c = true)
    (hrest : Ends further rest) (htext' : ∀ c ∈ text', further c = true)
    (hrest' : Ends further rest') : text' = text := by
  rw [← takeWhile_append_of_ends htext' hrest', h, takeWhile_append_of_ends htext hrest]

/-- A text of a class at the front of another text is no longer than the text of the class
that ends there. -/
theorem length_le_of_ends {further : Char → Bool} {text rest text' rest' : List Char}
    (h : text' ++ rest' = text ++ rest) (htext : ∀ c ∈ text, further c = true)
    (hrest : Ends further rest) (htext' : ∀ c ∈ text', further c = true) :
    text'.length ≤ text.length := by
  have htake := congrArg (List.takeWhile further) h
  rw [takeWhile_append_of_ends htext hrest, List.takeWhile_append_of_pos htext'] at htake
  rw [← htake, List.length_append]
  omega

end ColumnarSql
