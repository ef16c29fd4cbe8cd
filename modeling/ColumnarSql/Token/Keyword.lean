/-!
# Keywords

The reserved words of the language.  Letter case does not matter where they are
written: statements usually have them in capitals, as the constructors do, and the
spelling given here, in lower case, is the one a token carries.
`WHERE` begins no clause of any statement; it is reserved so that it cannot be the
name of a table or a column without quotation marks.
-/

namespace ColumnarSql

/-- A reserved word. -/
inductive Keyword where
  | SELECT
  | FROM
  | AS
  | TABLE
  | CREATE
  | INSERT
  | INTO
  | VALUES
  | INT
  | TEXT
  | WHERE
  deriving DecidableEq, Repr

namespace Keyword

/-- All reserved words. -/
def all : List Keyword :=
  [SELECT, FROM, AS, TABLE, CREATE, INSERT, INTO, VALUES, INT, TEXT, WHERE]

/-- The spelling of a reserved word in lower case. -/
def spelling : Keyword → String
  | SELECT => "select"
  | FROM => "from"
  | AS => "as"
  | TABLE => "table"
  | CREATE => "create"
  | INSERT => "insert"
  | INTO => "into"
  | VALUES => "values"
  | INT => "int"
  | TEXT => "text"
  | WHERE => "where"

/-- The list of reserved words is complete. -/
theorem mem_all (keyword : Keyword) : keyword ∈ all := by
  cases keyword <;> decide

/-- Two reserved words with one spelling are the same word. -/
theorem spelling_injective {first second : Keyword}
    (h : first.spelling = second.spelling) : first = second := by
  cases first <;> cases second <;> simp_all [spelling]

/-- Reserved words are written in ASCII small letters. -/
theorem isLower_of_mem_spelling (keyword : Keyword) :
    ∀ c ∈ keyword.spelling.toList, c.isLower = true := by
  rw [← List.all_eq_true]
  cases keyword <;> rfl

/-- No reserved word is empty. -/
theorem spelling_ne_nil (keyword : Keyword) : keyword.spelling.toList ≠ [] := by
  cases keyword <;> decide

end Keyword

end ColumnarSql
