import ColumnarSql.Storage.Column

/-!
# Tables

A table is stored column by column: one column for each entry of its schema, and the
number of its rows beside them.  A row exists only as the values at one position of every
column, so adding a row means adding a value to each column in turn.  All values are
checked before the first column is touched; `fill` alone would leave the earlier columns
longer if a later one refused its value.

Rows come back by position (`row?`) or all together, reduced to some columns
(`project?`).  A row that is not whole, because some column is too short, does not appear
in a projection.
-/

namespace ColumnarSql

/-- The name and the type of a column. -/
structure ColumnHeader where
  name : String
  type : DataType
  deriving DecidableEq, Repr

/-- The headers of the columns of a table, in order. -/
abbrev Schema := List ColumnHeader

namespace Schema

/-- The position of the first column with a name. -/
def position? (schema : Schema) (name : String) : Option Nat :=
  schema.findIdx? (·.name = name)

/-- The position and the header of the first column with a name. -/
def resolve? (schema : Schema) (name : String) : Option (Nat × ColumnHeader) :=
  match schema.position? name with
  | some position => schema[position]?.map fun header => (position, header)
  | none => none

end Schema

/-- A row: one value for each column. -/
abbrev Row := List Value

/-- A table, stored column by column. -/
structure Table where
  name : String
  schema : Schema
  columns : List Column
  rowCount : Nat
  deriving DecidableEq, Repr

namespace Table

/-- A table without rows. -/
def new (name : String) (schema : Schema) : Table :=
  ⟨name, schema, schema.map fun header => .new header.name header.type, 0⟩

/-! ## Adding a row -/

/-- Checks each value against its column, and reports the first that has another type. -/
def checkEach : List Column → Row → Except ExecutionError Unit
  | column :: columns, value :: values =>
    match column.check value with
    | .error error => .error error
    | .ok () => checkEach columns values
  | _, _ => .ok ()

/-- Adds each value to its column, from the first to the last, and stops at the first
column that refuses.  The columns before it keep what they were given. -/
def fill : Row → EStateM ExecutionError (List Column) Unit
  | value :: values, column :: columns =>
    match Column.push value column with
    | .error error column => .error error (column :: columns)
    | .ok () column =>
      match fill values columns with
      | .error error columns => .error error (column :: columns)
      | .ok () columns => .ok () (column :: columns)
  | _, columns => .ok () columns

/-- Adds a row at the end.  The row must have one value for each column, each of its
column's type. -/
def insert (row : Row) : EStateM ExecutionError Table Unit := fun table =>
  if row.length = table.columns.length then
    match checkEach table.columns row with
    | .error error => .error error table
    | .ok () =>
      match fill row table.columns with
      | .error error columns => .error error ⟨table.name, table.schema, columns, table.rowCount⟩
      | .ok () columns => .ok () ⟨table.name, table.schema, columns, table.rowCount + 1⟩
  else
    .error (.missingValues table.columns.length row.length) table

/-! ## Reading rows and columns -/

/-- The values of the given columns at one position, if all of them have one. -/
def cellsAt (columns : List Column) (row : Nat) : Option Row :=
  columns.mapM (·.get? row)

/-- The row at a position, counted from zero. -/
def row? (table : Table) (row : Nat) : Option Row :=
  if row < table.rowCount then cellsAt table.columns row else none

/-- The first column with a name. -/
def column? (table : Table) (name : String) : Option Column :=
  table.columns.find? (·.name = name)

/-- The columns at the given positions, if all of these exist. -/
def pick? (table : Table) (positions : List Nat) : Option (List Column) :=
  positions.mapM fun position => table.columns[position]?

/-- Every whole row, in order, reduced to the columns at the given positions.  There is
no answer if one of the positions is not that of a column. -/
def project? (table : Table) (positions : List Nat) : Option (List Row) :=
  (table.pick? positions).map fun columns =>
    (List.range table.rowCount).filterMap (cellsAt columns)

end Table

end ColumnarSql
