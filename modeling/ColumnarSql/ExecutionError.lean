import ColumnarSql.Storage.DataType
import ColumnarSql.Text.Quoted

/-!
# Why a statement cannot be executed

Each cause is a constructor with what the message needs, and `ExecutionError.message`
words them all.  Names and values appear in quotation marks, so that a message is one
line whatever they contain.
-/

namespace ColumnarSql

/-- Why a statement cannot be executed. -/
inductive ExecutionError where
  | invalidDataType (word : String)
  | tableAlreadyExists (table : String)
  | tableDoesNotExist (table : String)
  | missingValues (expected found : Nat)
  | columnDoesNotExist (column : String)
  | duplicateColumn (column : String)
  | invalidNumber (numeral : String)
  | unsupportedValue (value : String)
  | typeMismatch (column : String) (expected found : DataType)
  deriving DecidableEq, Repr

namespace ExecutionError

open Text.Quoted in
/-- The wording of the error. -/
def message : ExecutionError → String
  | invalidDataType word => "invalid data type: " ++ word
  | tableAlreadyExists table => "table " ++ quote table ++ " already exists"
  | tableDoesNotExist table => "table " ++ quote table ++ " does not exist"
  | missingValues expected found =>
    "missing values: table has " ++ expected.repr ++ " columns, got " ++ found.repr ++ " values"
  | columnDoesNotExist column => "column " ++ quote column ++ " does not exist"
  | duplicateColumn column => "column " ++ quote column ++ " is declared more than once"
  | invalidNumber numeral => "number " ++ quote numeral ++ " is not a valid 64-bit integer"
  | unsupportedValue value => "value " ++ quote value ++ " is not a literal that can be stored"
  | typeMismatch column expected found =>
    "type mismatch on column " ++ quote column ++ ": expected " ++ expected.display
      ++ ", found " ++ found.display

end ExecutionError

end ColumnarSql
