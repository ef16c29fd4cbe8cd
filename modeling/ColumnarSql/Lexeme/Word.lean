import ColumnarSql.Lexeme.Quotation
import ColumnarSql.Lexeme.Scanner
import ColumnarSql.Lexeme.Spelling
import ColumnarSql.Unicode.Alphabetic
import ColumnarSql.Unicode.Numeric

/-!
# Words

A bare word begins with a letter of any script and goes on with letters, numbers of any
script, `_` and `$`.  A word that spells a reserved word, in any letter case, is a
keyword; every other word is an identifier.  An identifier may also stand between
quotation marks, and then it may be any text at all.

A keyword is looked for by its spelling and not by the word it stands in, so the scanner
for keywords also looks at the character behind: if the word goes on there, it is a
different word, and `ask` or `integer` is left to the scanner for identifiers.
-/

namespace ColumnarSql
namespace Word

/-- Whether a bare word may go on with this character. -/
def isWordChar (c : Char) : Bool :=
  Unicode.isAlphabetic c || Unicode.isNumeric c || c == '_' || c == '$'

/-- The reserved words and their spellings. -/
def keywordSpellings : List (Keyword × String) :=
  Keyword.all.map fun keyword => (keyword, keyword.spelling)

/-- The reserved word at the front of a text, unless a longer word begins there. -/
def scanKeyword (source : List Char) : Option Lexeme :=
  match Spelling.longestMatch keywordSpellings source with
  | none => none
  | some (keyword, length) =>
    if (source.drop length).head?.any isWordChar then
      none
    else
      some ⟨source.take length, some (.keyword, keyword.spelling), source.drop length⟩

/-- The bare word at the front of a text, as an identifier. -/
def scanBare (source : List Char) : Option Lexeme :=
  match source with
  | [] => none
  | c :: rest =>
    if Unicode.isAlphabetic c then
      let text := c :: rest.takeWhile isWordChar
      some ⟨text, some (.identifier, String.ofList text), rest.dropWhile isWordChar⟩
    else
      none

/-- The identifier at the front of a text, between quotation marks or bare. -/
def scanIdentifier (source : List Char) : Option Lexeme :=
  (Quotation.scan '"' .identifier source).or (scanBare source)

/-! ## The scanners -/

theorem scanKeyword_splits {source : List Char} {lexeme : Lexeme}
    (h : scanKeyword source = some lexeme) : lexeme.text ++ lexeme.rest = source := by
  unfold scanKeyword at h
  split at h
  · simp at h
  · split at h
    · simp at h
    · obtain rfl := Option.some.inj h
      exact List.take_append_drop _ _

theorem scanKeyword_text_ne_nil {source : List Char} {lexeme : Lexeme}
    (h : scanKeyword source = some lexeme) : lexeme.text ≠ [] := by
  unfold scanKeyword at h
  split at h
  · simp at h
  · next keyword length hmatch =>
    split at h
    · simp at h
    · obtain rfl := Option.some.inj h
      obtain ⟨spelling, hmem, rfl⟩ := Spelling.longestMatch_mem hmatch
      obtain ⟨keyword', -, heq⟩ := List.mem_map.1 hmem
      obtain ⟨rfl, rfl⟩ : keyword' = keyword ∧ keyword'.spelling = spelling := by simpa using heq
      cases source with
      | nil => simp [Spelling.longestMatch_nil] at hmatch
      | cons c rest =>
        have := keyword'.spelling_ne_nil
        simpa using this

theorem scanBare_splits {source : List Char} {lexeme : Lexeme}
    (h : scanBare source = some lexeme) : lexeme.text ++ lexeme.rest = source := by
  unfold scanBare at h
  split at h
  · simp at h
  · split at h
    · obtain rfl := Option.some.inj h
      simp [List.takeWhile_append_dropWhile]
    · simp at h

theorem scanBare_text_ne_nil {source : List Char} {lexeme : Lexeme}
    (h : scanBare source = some lexeme) : lexeme.text ≠ [] := by
  unfold scanBare at h
  split at h
  · simp at h
  · split at h
    · obtain rfl := Option.some.inj h
      simp
    · simp at h

/-- Finds the reserved words. -/
def keywordScanner : Scanner where
  scan := scanKeyword
  splits := scanKeyword_splits
  text_ne_nil := scanKeyword_text_ne_nil

/-- Finds identifiers, quoted or bare. -/
def identifierScanner : Scanner where
  scan := scanIdentifier
  splits h := by
    rcases Option.or_eq_some_iff.1 h with h | ⟨-, h⟩
    · exact Quotation.scan_splits h
    · exact scanBare_splits h
  text_ne_nil h := by
    rcases Option.or_eq_some_iff.1 h with h | ⟨-, h⟩
    · exact Quotation.scan_text_ne_nil h
    · exact scanBare_text_ne_nil h

end Word
end ColumnarSql
