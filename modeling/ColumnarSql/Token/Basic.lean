import ColumnarSql.Token.Keyword
import ColumnarSql.Token.Location
import ColumnarSql.Token.Symbol

/-!
# Tokens

A token is the smallest piece of a script that means something: its class, its value,
and the place of its first character.  The value is what the piece stands for, not how
it was written: a keyword in lower case, a literal without its delimiters and with
doubled delimiters folded, everything else character for character.

Nothing in the type ties a value to its class.  The tokens that come from a source
text have values that fit, but a statement may also be put together by hand, and every
later stage gives an answer for such tokens too.
-/

namespace ColumnarSql

/-- The class of a token. -/
inductive TokenKind where
  | keyword
  | symbol
  | identifier
  | string
  | number
  deriving DecidableEq, Repr

/-- A piece of a script: its class, its value, and where it begins. -/
structure Token where
  kind : TokenKind
  value : String
  /-- The place of its first character. -/
  location : Location
  deriving DecidableEq, Repr

namespace Token

/-- Whether the token is the given reserved word. -/
def isKeyword (token : Token) (keyword : Keyword) : Bool :=
  token.kind = .keyword && token.value = keyword.spelling

/-- Whether the token is the given punctuation mark. -/
def isSymbol (token : Token) (symbol : Symbol) : Bool :=
  token.kind = .symbol && token.value = symbol.spelling

theorem isKeyword_iff {token : Token} {keyword : Keyword} :
    token.isKeyword keyword = true ↔
      token.kind = .keyword ∧ token.value = keyword.spelling := by
  simp [isKeyword]

theorem isSymbol_iff {token : Token} {symbol : Symbol} :
    token.isSymbol symbol = true ↔
      token.kind = .symbol ∧ token.value = symbol.spelling := by
  simp [isSymbol]

end Token

end ColumnarSql
