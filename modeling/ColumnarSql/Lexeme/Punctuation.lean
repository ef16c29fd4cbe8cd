import ColumnarSql.Lexeme.Scanner
import ColumnarSql.Lexeme.Spelling

/-!
# Punctuation and white space

Four characters separate lexemes and mean nothing: space, tab, line feed and carriage
return.  Each is a lexeme of its own without a token.  All other white space of Unicode
belongs to no lexeme outside a literal.  The remaining lexemes here are the punctuation
marks.
-/

namespace ColumnarSql
namespace Punctuation

/-- Whether a character separates lexemes. -/
def isBlank (c : Char) : Bool :=
  c == ' ' || c == '\t' || c == '\n' || c == '\r'

/-- The punctuation marks and their spellings. -/
def symbolSpellings : List (Symbol × String) :=
  Symbol.all.map fun symbol => (symbol, symbol.spelling)

/-- One separating character at the front of a text. -/
def scanBlank (source : List Char) : Option Lexeme :=
  match source with
  | [] => none
  | c :: rest => if isBlank c then some ⟨[c], none, rest⟩ else none

/-- The punctuation mark at the front of a text. -/
def scanSymbol (source : List Char) : Option Lexeme :=
  (Spelling.longestMatch symbolSpellings source).map fun (symbol, length) =>
    ⟨source.take length, some (.symbol, symbol.spelling), source.drop length⟩

/-- The separating character or the punctuation mark at the front of a text. -/
def scan (source : List Char) : Option Lexeme :=
  (scanBlank source).or (scanSymbol source)

theorem scanBlank_splits {source : List Char} {lexeme : Lexeme}
    (h : scanBlank source = some lexeme) : lexeme.text ++ lexeme.rest = source := by
  unfold scanBlank at h
  split at h
  · simp at h
  · split at h
    · obtain rfl := Option.some.inj h
      rfl
    · simp at h

theorem scanBlank_text_ne_nil {source : List Char} {lexeme : Lexeme}
    (h : scanBlank source = some lexeme) : lexeme.text ≠ [] := by
  unfold scanBlank at h
  split at h
  · simp at h
  · split at h
    · obtain rfl := Option.some.inj h
      simp
    · simp at h

theorem scanSymbol_splits {source : List Char} {lexeme : Lexeme}
    (h : scanSymbol source = some lexeme) : lexeme.text ++ lexeme.rest = source := by
  obtain ⟨⟨symbol, length⟩, -, rfl⟩ := Option.map_eq_some_iff.1 h
  exact List.take_append_drop _ _

theorem scanSymbol_text_ne_nil {source : List Char} {lexeme : Lexeme}
    (h : scanSymbol source = some lexeme) : lexeme.text ≠ [] := by
  obtain ⟨⟨symbol, length⟩, hmatch, rfl⟩ := Option.map_eq_some_iff.1 h
  obtain ⟨spelling, hmem, rfl⟩ := Spelling.longestMatch_mem hmatch
  obtain ⟨symbol', -, heq⟩ := List.mem_map.1 hmem
  obtain ⟨rfl, rfl⟩ : symbol' = symbol ∧ symbol'.spelling = spelling := by simpa using heq
  cases source with
  | nil => simp [Spelling.longestMatch_nil] at hmatch
  | cons c rest =>
    have := symbol'.spelling_ne_nil
    simpa using this

/-- Finds punctuation marks and separating characters. -/
def scanner : Scanner where
  scan := scan
  splits h := by
    rcases Option.or_eq_some_iff.1 h with h | ⟨-, h⟩
    · exact scanBlank_splits h
    · exact scanSymbol_splits h
  text_ne_nil h := by
    rcases Option.or_eq_some_iff.1 h with h | ⟨-, h⟩
    · exact scanBlank_text_ne_nil h
    · exact scanSymbol_text_ne_nil h

end Punctuation
end ColumnarSql
