/-!
# Symbols

The punctuation of the language, each a single character.  The asterisk is a symbol
of its own although no statement has a place for it.
-/

namespace ColumnarSql

/-- A punctuation mark. -/
inductive Symbol where
  | semicolon
  | asterisk
  | comma
  | leftParen
  | rightParen
  deriving DecidableEq, Repr

namespace Symbol

/-- All punctuation marks. -/
def all : List Symbol :=
  [semicolon, asterisk, comma, leftParen, rightParen]

/-- The character of a punctuation mark. -/
def spelling : Symbol → String
  | semicolon => ";"
  | asterisk => "*"
  | comma => ","
  | leftParen => "("
  | rightParen => ")"

/-- The list of punctuation marks is complete. -/
theorem mem_all (symbol : Symbol) : symbol ∈ all := by
  cases symbol <;> decide

/-- Two punctuation marks with one spelling are the same. -/
theorem spelling_injective {first second : Symbol}
    (h : first.spelling = second.spelling) : first = second := by
  cases first <;> cases second <;> simp_all [spelling]

/-- Every punctuation mark has a spelling. -/
theorem spelling_ne_nil (symbol : Symbol) : symbol.spelling.toList ≠ [] := by
  cases symbol <;> decide

end Symbol

end ColumnarSql
