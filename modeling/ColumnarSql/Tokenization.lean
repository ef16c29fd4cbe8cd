import ColumnarSql.Lexeme.Number
import ColumnarSql.Lexeme.Punctuation
import ColumnarSql.Lexeme.Quotation
import ColumnarSql.Lexeme.Word

/-!
# From a text to its tokens

A text is cut from the front, lexeme by lexeme, and every lexeme that stands for a token
gives it the place where the lexeme begins.  Where no scanner finds a lexeme the text is
refused, and the error tells that place and the value of the last token before it.

The scanners are tried in a fixed order at every place, and only one point of it matters:
keywords come before identifiers, because every keyword is also a word.  The loop takes
the scanners as an argument, so that this can be said of it.
-/

namespace ColumnarSql

/-- No lexeme begins at some place of a text. -/
structure LexError where
  location : Location
  /-- The value of the last token before that place, if there is one. -/
  after : Option String
  deriving DecidableEq, Repr

namespace LexError

/-- What is said of the last token before the place. -/
def afterHint : Option String → String
  | some value => " after `" ++ value ++ "`"
  | none => ""

/-- The wording of the error. -/
def message (error : LexError) : String :=
  "unable to lex token" ++ afterHint error.after ++ " at " ++ error.location.display

end LexError

/-- The tokens of a text that begins at the given place, behind a token with the value
`after`.  The scanners are tried in the order of the list. -/
def tokenizeWith (scanners : List Scanner) (after : Option String) (location : Location)
    (source : List Char) : Except LexError (List Token) :=
  if source = [] then
    .ok []
  else
    match _found : Scanner.firstMatch scanners source with
    | none => .error ⟨location, after⟩
    | some lexeme =>
      match lexeme.token with
      | none => tokenizeWith scanners after (location.after lexeme.text) lexeme.rest
      | some (kind, value) =>
        (tokenizeWith scanners (some value) (location.after lexeme.text) lexeme.rest).map
          (⟨kind, value, location⟩ :: ·)
termination_by source.length
decreasing_by all_goals exact Scanner.length_rest_lt _found

/-- The scanners of the language in the order in which they are tried. -/
def scanners : List Scanner :=
  [Word.keywordScanner, Punctuation.scanner, Quotation.stringScanner, Number.scanner,
    Word.identifierScanner]

/-- The tokens of a script, in the order of the text. -/
def tokenize (source : String) : Except LexError (List Token) :=
  tokenizeWith scanners none .start source.toList

/-! ## The steps of the loop -/

section Steps

variable {scanners : List Scanner} {after : Option String} {location : Location}
  {source : List Char} {lexeme : Lexeme}

/-- An empty text has no tokens. -/
theorem tokenizeWith_nil : tokenizeWith scanners after location [] = .ok [] := by
  rw [tokenizeWith]
  simp

/-- Where no scanner finds a lexeme the text is refused. -/
theorem tokenizeWith_of_none (hsource : source ≠ [])
    (h : Scanner.firstMatch scanners source = none) :
    tokenizeWith scanners after location source = .error ⟨location, after⟩ := by
  rw [tokenizeWith, if_neg hsource]
  split
  · rfl
  · simp_all

/-- A lexeme without a token is passed over. -/
theorem tokenizeWith_of_blank (h : Scanner.firstMatch scanners source = some lexeme)
    (htoken : lexeme.token = none) :
    tokenizeWith scanners after location source =
      tokenizeWith scanners after (location.after lexeme.text) lexeme.rest := by
  have hsource : source ≠ [] := by
    rintro rfl
    exact absurd (Scanner.length_rest_lt h) (by simp)
  rw [tokenizeWith, if_neg hsource]
  split
  · simp_all
  · next lexeme' h' =>
    obtain rfl : lexeme' = lexeme := Option.some.inj (h'.symm.trans h)
    simp [htoken]

/-- A lexeme with a token gives it its own place, and the token stands before those of
the remaining text. -/
theorem tokenizeWith_of_token {kind : TokenKind} {value : String}
    (h : Scanner.firstMatch scanners source = some lexeme)
    (htoken : lexeme.token = some (kind, value)) :
    tokenizeWith scanners after location source =
      (tokenizeWith scanners (some value) (location.after lexeme.text) lexeme.rest).map
        (⟨kind, value, location⟩ :: ·) := by
  have hsource : source ≠ [] := by
    rintro rfl
    exact absurd (Scanner.length_rest_lt h) (by simp)
  rw [tokenizeWith, if_neg hsource]
  split
  · simp_all
  · next lexeme' h' =>
    obtain rfl : lexeme' = lexeme := Option.some.inj (h'.symm.trans h)
    simp [htoken]

end Steps

end ColumnarSql
