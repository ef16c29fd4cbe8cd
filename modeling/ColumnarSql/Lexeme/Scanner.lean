import ColumnarSql.Token.Basic

/-!
# Lexemes and scanners

A lexeme is a piece at the front of a text together with what it stands for.  A
scanner looks at the front of a text and finds a lexeme of one kind there, or nothing.
Both halves of a promise come with every scanner: the lexeme and what is left make up
the text again, and the lexeme is not empty.  The first half is why scanning loses and
invents nothing, the second is why it comes to an end.

Several scanners may be tried in turn at the same place; `Scanner.firstMatch` takes the
first that finds something, and keeps the promise (`firstMatch_splits`,
`firstMatch_text_ne_nil`).
-/

namespace ColumnarSql

/-- A piece at the front of a text. -/
structure Lexeme where
  text : List Char
  /-- The class and the value of the token it stands for; white space stands for none. -/
  token : Option (TokenKind × String)
  rest : List Char

/-- A recogniser of lexemes of one kind at the front of a text. -/
structure Scanner where
  scan : List Char → Option Lexeme
  splits : ∀ {source : List Char} {lexeme : Lexeme},
    scan source = some lexeme → lexeme.text ++ lexeme.rest = source
  text_ne_nil : ∀ {source : List Char} {lexeme : Lexeme},
    scan source = some lexeme → lexeme.text ≠ []

namespace Scanner

/-- The lexeme of the first scanner that finds one. -/
def firstMatch (scanners : List Scanner) (source : List Char) : Option Lexeme :=
  scanners.findSome? fun scanner => scanner.scan source

theorem firstMatch_splits {scanners : List Scanner} {source : List Char} {lexeme : Lexeme}
    (h : firstMatch scanners source = some lexeme) :
    lexeme.text ++ lexeme.rest = source := by
  obtain ⟨scanner, -, hscan⟩ := List.exists_of_findSome?_eq_some h
  exact scanner.splits hscan

theorem firstMatch_text_ne_nil {scanners : List Scanner} {source : List Char}
    {lexeme : Lexeme} (h : firstMatch scanners source = some lexeme) :
    lexeme.text ≠ [] := by
  obtain ⟨scanner, -, hscan⟩ := List.exists_of_findSome?_eq_some h
  exact scanner.text_ne_nil hscan

/-- What follows a lexeme is shorter than the text it was found in. -/
theorem length_rest_lt {scanners : List Scanner} {source : List Char} {lexeme : Lexeme}
    (h : firstMatch scanners source = some lexeme) :
    lexeme.rest.length < source.length := by
  rw [← firstMatch_splits h, List.length_append]
  have := List.length_pos_iff.2 (firstMatch_text_ne_nil h)
  omega

end Scanner

end ColumnarSql
