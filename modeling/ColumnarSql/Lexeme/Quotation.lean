import ColumnarSql.Lexeme.Scanner
import ColumnarSql.Text.Delimited

/-!
# Literals between delimiters

The text of a cell stands between apostrophes, and the name of a table or a column may
stand between quotation marks.  The value of the token is the text inside, with doubled
delimiters folded; a literal that is never closed is no lexeme.
-/

namespace ColumnarSql
namespace Quotation

/-- The literal with the given delimiter at the front of a text. -/
def scan (delimiter : Char) (kind : TokenKind) (source : List Char) : Option Lexeme :=
  (Text.Delimited.read delimiter source).map fun (value, rest) =>
    ⟨Text.Delimited.enclose delimiter value, some (kind, String.ofList value), rest⟩

theorem scan_splits {delimiter : Char} {kind : TokenKind} {source : List Char}
    {lexeme : Lexeme} (h : scan delimiter kind source = some lexeme) :
    lexeme.text ++ lexeme.rest = source := by
  obtain ⟨⟨value, rest⟩, hread, rfl⟩ := Option.map_eq_some_iff.1 h
  exact (Text.Delimited.read_eq_some_iff.1 hread).1.symm

theorem scan_text_ne_nil {delimiter : Char} {kind : TokenKind} {source : List Char}
    {lexeme : Lexeme} (h : scan delimiter kind source = some lexeme) :
    lexeme.text ≠ [] := by
  obtain ⟨⟨value, rest⟩, -, rfl⟩ := Option.map_eq_some_iff.1 h
  simp [Text.Delimited.enclose]

/-- Finds texts between apostrophes. -/
def stringScanner : Scanner where
  scan := scan '\'' .string
  splits := scan_splits
  text_ne_nil := scan_text_ne_nil

end Quotation
end ColumnarSql
