import ColumnarSql.Token.Basic

/-!
# What the grammar expected

When a sequence of tokens is no script, the error says what would have been right at the
first token that is wrong, and what stands there.  If the tokens merely end too early
there is no such token, and the error carries the place of the last one.
-/

namespace ColumnarSql

/-- What may stand at some place of a script. -/
inductive Expectation where
  | keyword (word : Keyword)
  | symbol (mark : Symbol)
  | statement
  | semicolon
  | tableName
  | columnName
  | dataType
  | expression
  deriving DecidableEq, Repr

namespace Expectation

/-- The wording of an expectation: a reserved word in capitals, a punctuation mark
between apostrophes, and the other classes by name. -/
def display : Expectation → String
  | keyword word => word.spelling.map Char.toUpper
  | symbol mark => "'" ++ mark.spelling ++ "'"
  | statement => "statement"
  | semicolon => "semicolon"
  | tableName => "table name"
  | columnName => "column name"
  | dataType => "data type"
  | expression => "expression"

end Expectation

/-- Why tokens do not follow the grammar: what was expected, and the tokens that begin
where it was expected. -/
structure Failure where
  expected : Expectation
  rest : List Token
  deriving DecidableEq, Repr

namespace Failure

/-- The failure that got further into the tokens; of two that got equally far, the
first. -/
def furthest (first second : Failure) : Failure :=
  if second.rest.length < first.rest.length then second else first

end Failure

/-- Tokens that are no script, with the first place where they go wrong. -/
structure ParseError where
  /-- The place of the wrong token, or of the last one if the tokens end too early. -/
  location : Location
  expected : Expectation
  found : Option String
  deriving DecidableEq, Repr

namespace ParseError

/-- The error of a failure somewhere inside the given tokens. -/
def ofFailure (tokens : List Token) (failure : Failure) : ParseError where
  location :=
    match failure.rest.head?.or tokens.getLast? with
    | some token => token.location
    | none => .start
  expected := failure.expected
  found := failure.rest.head?.map (·.value)

/-- The wording of the error. -/
def message (error : ParseError) : String :=
  error.location.display ++ ": expected " ++ error.expected.display ++ ", found "
    ++ error.found.getD "end of input"

end ParseError

end ColumnarSql
