import ColumnarSql.Token.Basic

/-!
# Types of columns

A column holds integers of sixty-four bits or texts.  A statement names the type with a
reserved word, `INT` or `TEXT`; any other token in its place names no type, a quoted
`"int"` included.
-/

namespace ColumnarSql

/-- The type of the values in a column. -/
inductive DataType where
  /-- Integers of sixty-four bits, with a sign. -/
  | int
  | text
  deriving DecidableEq, Repr

namespace DataType

/-- The name of a type. -/
def display : DataType → String
  | int => "INT"
  | text => "TEXT"

/-- The type that a token names.  Letter case does not matter. -/
def ofToken? (token : Token) : Option DataType :=
  if token.kind = .keyword then
    if token.value.map Char.toLower = Keyword.INT.spelling then
      some int
    else if token.value.map Char.toLower = Keyword.TEXT.spelling then
      some text
    else
      none
  else
    none

end DataType

end ColumnarSql
