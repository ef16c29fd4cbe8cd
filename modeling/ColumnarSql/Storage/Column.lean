import ColumnarSql.Storage.Value

/-!
# Columns

A column keeps its values one behind another, all of one type.  The type it was declared
with and the kind of its cells are kept apart: a column made by `Column.new` has cells of
its declared type, and only a column put together by hand can disagree with itself.  A
value is taken if it fits both, and otherwise the column stays as it is.

The view of a column is the list of its values, `Cells.toList`; the other operations are
stated in terms of it (`get?_eq_getElem?_toList`, `size_eq_length_toList`,
`toList_of_push?`).
-/

namespace ColumnarSql

/-- The values of a column, all of one type. -/
inductive Cells where
  | ints (entries : Array Int64)
  | texts (entries : Array String)
  deriving DecidableEq, Repr

namespace Cells

/-- No values yet, of the given type. -/
def empty : DataType → Cells
  | .int => ints #[]
  | .text => texts #[]

/-- The type of the values. -/
def type : Cells → DataType
  | ints _ => .int
  | texts _ => .text

/-- How many values there are. -/
def size : Cells → Nat
  | ints entries => entries.size
  | texts entries => entries.size

/-- The value at a position, counted from zero. -/
def get? (cells : Cells) (row : Nat) : Option Value :=
  match cells with
  | ints entries => entries[row]?.map Value.int
  | texts entries => entries[row]?.map Value.text

/-- The values with one more at the end, if it has their type. -/
def push? (cells : Cells) (value : Value) : Option Cells :=
  match cells, value with
  | ints entries, .int n => some (ints (entries.push n))
  | texts entries, .text s => some (texts (entries.push s))
  | _, _ => none

/-- The values in order. -/
def toList : Cells → List Value
  | ints entries => entries.toList.map Value.int
  | texts entries => entries.toList.map Value.text

@[simp] theorem toList_empty (type : DataType) : (empty type).toList = [] := by
  cases type <;> rfl

@[simp] theorem type_empty (type : DataType) : (empty type).type = type := by
  cases type <;> rfl

theorem size_eq_length_toList (cells : Cells) : cells.size = cells.toList.length := by
  cases cells <;> simp [size, toList]

theorem get?_eq_getElem?_toList (cells : Cells) (row : Nat) :
    cells.get? row = cells.toList[row]? := by
  cases cells <;> simp [get?, toList]

/-- Values of the right type are taken, and only these. -/
theorem push?_isSome_iff {cells : Cells} {value : Value} :
    (cells.push? value).isSome = true ↔ value.type = cells.type := by
  cases cells <;> cases value <;> simp [push?, Value.type, type]

/-- A value that is taken stands behind the others, and the type stays the same. -/
theorem toList_of_push? {cells pushed : Cells} {value : Value}
    (h : cells.push? value = some pushed) :
    pushed.toList = cells.toList ++ [value] ∧ pushed.type = cells.type := by
  cases cells <;> cases value <;> simp [push?] at h <;> subst h <;> simp [toList, type]

end Cells

/-- A named and typed column with its values. -/
structure Column where
  name : String
  /-- The type the column was declared with. -/
  type : DataType
  cells : Cells
  deriving DecidableEq, Repr

namespace Column

/-- A column without values. -/
def new (name : String) (type : DataType) : Column :=
  ⟨name, type, .empty type⟩

/-- The error for a value of another type. -/
def mismatch (column : Column) (value : Value) : ExecutionError :=
  .typeMismatch column.name column.type value.type

/-- Whether a value has the declared type. -/
def check (column : Column) (value : Value) : Except ExecutionError Unit :=
  if value.type = column.type then .ok () else .error (column.mismatch value)

/-- Adds a value at the end.  A value of another type than the declared one, or than
the cells, is refused. -/
def push (value : Value) : EStateM ExecutionError Column Unit := fun column =>
  match column.check value with
  | .error error => .error error column
  | .ok () =>
    match column.cells.push? value with
    | some cells => .ok () ⟨column.name, column.type, cells⟩
    | none => .error (column.mismatch value) column

/-- How many values the column holds. -/
def size (column : Column) : Nat :=
  column.cells.size

/-- Whether the column holds no value. -/
def isEmpty (column : Column) : Bool :=
  column.size == 0

/-- The value at a position, counted from zero. -/
def get? (column : Column) (row : Nat) : Option Value :=
  column.cells.get? row

/-- The values in order. -/
def toList (column : Column) : List Value :=
  column.cells.toList

end Column

end ColumnarSql
