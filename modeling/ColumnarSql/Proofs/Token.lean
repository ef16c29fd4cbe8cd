import ColumnarSql.Token.Basic

/-!
# Classes and places of tokens

A token is at most one reserved word and at most one punctuation mark, and never both
(`Token.isKeyword_unique`, `Token.isSymbol_of_ne`, `Token.isSymbol_of_isKeyword`).  Which of
them it is does not depend on its place, so tokens are often taken without it:
`Token.unplaced` forgets the place, and `Token.word`, `Token.mark` and `Token.name` are the
tokens of the language in that form.
-/

namespace ColumnarSql

/-- Whether a list with commas goes on with a token. -/
def isComma (token : Token) : Bool :=
  token.isSymbol .comma

/-- Whether the end of a statement goes on with a token. -/
def isSemicolon (token : Token) : Bool :=
  token.isSymbol .semicolon

namespace Token

/-! ## Classes -/

/-- A token is at most one reserved word. -/
theorem isKeyword_unique {token : Token} {first second : Keyword}
    (hfirst : token.isKeyword first = true) (hsecond : token.isKeyword second = true) :
    first = second :=
  Keyword.spelling_injective
    ((isKeyword_iff.1 hfirst).2.symm.trans (isKeyword_iff.1 hsecond).2)

/-- A token is at most one punctuation mark. -/
theorem isSymbol_of_ne {token : Token} {first second : Symbol}
    (h : token.isSymbol first = true) (hne : first ≠ second) : token.isSymbol second = false := by
  rw [Bool.eq_false_iff]
  intro hsecond
  have hvalue := (isSymbol_iff.1 h).2.symm.trans (isSymbol_iff.1 hsecond).2
  exact hne (Symbol.spelling_injective hvalue)

/-- No token is a reserved word and a punctuation mark. -/
theorem isSymbol_of_isKeyword {token : Token} {word : Keyword}
    (h : token.isKeyword word = true) (mark : Symbol) : token.isSymbol mark = false := by
  have hkind := (isKeyword_iff.1 h).1
  simp [isSymbol, hkind]

/-! ## Places -/

/-- A token without its place. -/
def unplaced (token : Token) : Token :=
  ⟨token.kind, token.value, .start⟩

/-- A reserved word. -/
def word (keyword : Keyword) : Token :=
  ⟨.keyword, keyword.spelling, .start⟩

/-- A punctuation mark. -/
def mark (symbol : Symbol) : Token :=
  ⟨.symbol, symbol.spelling, .start⟩

/-- A name. -/
def name (value : String) : Token :=
  ⟨.identifier, value, .start⟩

theorem isKeyword_word (keyword : Keyword) : (word keyword).isKeyword keyword = true :=
  isKeyword_iff.2 ⟨rfl, rfl⟩

theorem isSymbol_mark (symbol : Symbol) : (mark symbol).isSymbol symbol = true :=
  isSymbol_iff.2 ⟨rfl, rfl⟩

end Token
end ColumnarSql
