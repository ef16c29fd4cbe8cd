import ColumnarSql.Proofs.Lexeme.Cut

/-!
# Reading a text lexeme by lexeme

`Lexes` says which tokens a text is cut into, places aside.  It is proved from the back:
what stands in front of a text that is known is one more lexeme (`lexes_of_denotes`) or white
space (`lexes_blanks`), and `lexes_textOf` puts a whole text in front of another one.

A lexeme may be put in front of a text that does not go on with it.  No lexeme goes on with a
separator, that is with white space or a punctuation mark, so one condition does for all of them
where a text is written with separators.  The lexemes that are written so have their statements:

* `lexes_mark`: a punctuation mark, whatever follows;
* `lexes_capitals`: a reserved word in capitals, if a separator follows;
* `lexes_numeral`: digits, if a separator follows;
* `lexes_text` and `lexes_name`: a text between apostrophes and a name between quotation
  marks, whatever they contain, if a separator follows.
-/

namespace ColumnarSql

open Lexeme (Denotes furtherOf)
open Text.Delimited (enclose)

/-! ## Separators -/

/-- A text begins with a separator, or there is nothing more. -/
def Separated (source : List Char) : Prop :=
  ∀ c ∈ source.head?, c ∈ separators

theorem separated_cons {c : Char} (h : c ∈ separators) (rest : List Char) :
    Separated (c :: rest) := by
  intro c' hc'
  obtain rfl : c = c' := by simpa using hc'
  exact h

/-- No lexeme goes on with a separator. -/
theorem furtherOf_separator {c : Char} (h : c ∈ separators) (text : List Char)
    (kind : TokenKind) : furtherOf text kind c = false := by
  have hall : separators.Forall fun c => Word.isWordChar c = false ∧
      Number.isNumberChar c = false ∧ c ≠ '\'' ∧ c ≠ '"' := by
    decide +kernel
  obtain ⟨hword, hnumber, hapostrophe, hquote⟩ := List.forall_iff_forall_mem.1 hall c h
  cases kind with
  | keyword => exact hword
  | symbol => rfl
  | number => exact hnumber
  | string => simpa [furtherOf] using hapostrophe
  | identifier =>
    rw [furtherOf]
    split
    · simpa using hquote
    · exact hword

theorem Separated.ends {rest : List Char} (h : Separated rest) (text : List Char)
    (kind : TokenKind) : Ends (furtherOf text kind) rest :=
  fun c hc => furtherOf_separator (h c hc) text kind

/-! ## A text and its tokens -/

/-- **A text is cut into tokens**, wherever it stands; their places are left aside. -/
def Lexes (source : List Char) (tokens : List Token) : Prop :=
  ∀ (after : Option String) (location : Location), ∃ placed,
    tokenizeWith scanners after location source = .ok placed ∧
      placed.map Token.unplaced = tokens

variable {source rest : List Char} {tokens : List Token}

/-- Pieces in front of a text add their tokens. -/
theorem lexes_textOf {pieces : List Piece} (hcut : IsCut pieces rest) (h : Lexes rest tokens) :
    Lexes (textOf pieces rest) (pieces.map Piece.token ++ tokens) := by
  intro after location
  obtain ⟨placed, hplaced, rfl⟩ := h (lastValue after pieces)
    (location.after (pieces.flatMap Piece.written))
  refine ⟨tokensOf location pieces ++ placed, ?_, ?_⟩
  · rw [tokenizeWith_textOf hcut, hplaced]
    rfl
  · rw [List.map_append, tokensOf_unplaced]

theorem lexes_nil : Lexes [] [] :=
  fun _ _ => ⟨[], tokenizeWith_nil, rfl⟩

/-- White space changes nothing. -/
theorem lexes_blanks {text : List Char} (htext : Blank text) (h : Lexes rest tokens) :
    Lexes (text ++ rest) tokens := by
  intro after location
  rw [tokenizeWith_gap htext]
  exact h after (location.after text)

theorem lexes_blank {c : Char} (hc : Punctuation.isBlank c = true) (h : Lexes rest tokens) :
    Lexes (c :: rest) tokens := by
  have hblank : Blank [c] := by
    simpa [Blank] using hc
  exact lexes_blanks hblank h

/-- The tokens of a text, wherever it stands. -/
theorem lexes_of_tokenize {source : String} (h : tokenize source = .ok tokens) :
    Lexes source.toList (tokens.map Token.unplaced) := by
  obtain ⟨pieces, tail, hcut, htail, htext, rfl⟩ := tokenize_eq_ok_iff.1 h
  rw [← htext, tokensOf_unplaced, ← List.append_nil (pieces.map Piece.token)]
  have htail : Lexes tail [] := by
    rw [← List.append_nil tail]
    exact lexes_blanks htail lexes_nil
  exact lexes_textOf hcut htail

/-- One lexeme more. -/
theorem lexes_of_denotes {text : List Char} {kind : TokenKind} {value : String}
    (hdenotes : Denotes text kind value) (hends : Ends (furtherOf text kind) rest)
    (h : Lexes rest tokens) : Lexes (text ++ rest) (⟨kind, value, .start⟩ :: tokens) := by
  have hcut : IsCut [⟨[], text, kind, value⟩] rest :=
    .cons (by simp [Blank]) hdenotes hends .nil
  have hlexes := lexes_textOf hcut h
  rw [textOf_cons] at hlexes
  exact hlexes

/-! ## Lexemes in their written form -/

/-- A punctuation mark. -/
theorem lexes_mark (symbol : Symbol) (h : Lexes rest tokens) :
    Lexes (symbol.spelling.toList ++ rest) (.mark symbol :: tokens) :=
  lexes_of_denotes (.symbol symbol) (fun _ _ => rfl) h

/-- A reserved word in capitals. -/
def Word.capitals (word : Keyword) : List Char :=
  word.spelling.toList.map Char.toUpper

theorem Word.spells_capitals (word : Keyword) : Word.Spells word (Word.capitals word) := by
  rw [Word.spells_iff]
  cases word <;> decide

/-- A reserved word in capitals is read before a separator. -/
theorem lexes_capitals (word : Keyword) (hrest : Separated rest) (h : Lexes rest tokens) :
    Lexes (Word.capitals word ++ rest) (.word word :: tokens) :=
  lexes_of_denotes (.keyword (Word.spells_capitals word)) (hrest.ends _ _) h

/-- Digits. -/
theorem lexes_numeral {digits : List Char} (hne : digits ≠ [])
    (hdigits : ∀ c ∈ digits, c.isDigit = true) (hrest : Separated rest)
    (h : Lexes rest tokens) :
    Lexes (digits ++ rest) (⟨.number, String.ofList digits, .start⟩ :: tokens) := by
  have hnumber : Number.IsNumber digits :=
    ⟨digits, [], .whole hne hdigits, .none, List.append_nil digits⟩
  exact lexes_of_denotes (.number hnumber) (hrest.ends _ _) h

/-- A text between apostrophes. -/
theorem lexes_text (value : List Char) (hrest : Separated rest) (h : Lexes rest tokens) :
    Lexes (enclose '\'' value ++ rest) (⟨.string, String.ofList value, .start⟩ :: tokens) :=
  lexes_of_denotes (.string value) (hrest.ends _ _) h

/-- A name between quotation marks. -/
theorem lexes_name (value : List Char) (hrest : Separated rest) (h : Lexes rest tokens) :
    Lexes (enclose '"' value ++ rest) (.name (String.ofList value) :: tokens) :=
  lexes_of_denotes (.quoted value) (hrest.ends _ _) h

end ColumnarSql
