import ColumnarSql.ExecutionError
import ColumnarSql.Text.Numeral

/-!
# Values

A cell holds an integer of sixty-four bits or a text.  The literals of a statement become
values: a number must be an integer in range, written without a point or an exponent, and
anything that is neither a number nor a text is refused.
-/

namespace ColumnarSql

/-- The content of a cell. -/
inductive Value where
  | int (n : Int64)
  | text (s : String)
  deriving DecidableEq, Repr

namespace Value

/-- The type of a value. -/
def type : Value → DataType
  | int _ => .int
  | text _ => .text

/-- The integer, if the value is one. -/
def asInt? : Value → Option Int64
  | int n => some n
  | text _ => none

/-- The text, if the value is one. -/
def asText? : Value → Option String
  | int _ => none
  | text s => some s

/-- A value as a table shows it: an integer as its numeral, a text as it is. -/
def display : Value → String
  | int n => Text.Numeral.ofInt64 n
  | text s => s

/-- The value of a literal. -/
def ofLiteral (token : Token) : Except ExecutionError Value :=
  match token.kind with
  | .number =>
    match Text.Numeral.toInt64? token.value.toList with
    | some n => .ok (int n)
    | none => .error (.invalidNumber token.value)
  | .string => .ok (text token.value)
  | _ => .error (.unsupportedValue token.value)

end Value

end ColumnarSql
