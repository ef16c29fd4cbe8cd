import ColumnarSql.Statement
import ColumnarSql.Storage.Table
import Std.Data.ExtTreeMap

/-!
# The database

A database is a collection of tables filed under their names.  Two databases with the
same tables are equal, whatever was done to arrive at them.

Executing a statement answers with an outcome or an error and in either case leaves a
database behind, so the effect of a failing statement is something that can be asked
about.  `executeAll` stops at the first failure and keeps what was done before it;
`executeEach` goes on.

A statement is about the table it names and no other.  Where several things are wrong
with it, the order in which they are looked for decides: first the table, then for `CREATE
TABLE` the columns from left to right, each its name before its type; for `INSERT` the
number of values, then their meaning from left to right, then their types from left to
right; for `SELECT` the items from left to right.
-/

namespace ColumnarSql

/-- The answer to a question: headers, and rows with one value for each of them. -/
structure ResultSet where
  columns : Schema
  rows : List Row
  deriving DecidableEq, Repr

/-- What a statement has done. -/
inductive Outcome where
  | created
  | inserted
  | selected (result : ResultSet)
  deriving DecidableEq, Repr

/-- Tables filed under their names. -/
structure Database where
  tables : Std.ExtTreeMap String Table

namespace Database

/-- The database without tables. -/
def empty : Database := ⟨∅⟩

/-- The table with a name. -/
def table? (database : Database) (name : String) : Option Table :=
  database.tables[name]?

/-- The database with a table filed under a name, in the place of any other. -/
def file (database : Database) (name : String) (table : Table) : Database :=
  ⟨database.tables.insert name table⟩

/-- The tables with their names, sorted by name. -/
def toList (database : Database) : List (String × Table) :=
  database.tables.toList

@[simp] theorem table?_empty (name : String) : empty.table? name = none := by
  simp [empty, table?]

theorem table?_file (database : Database) (name : String) (table : Table) (other : String) :
    (database.file name table).table? other =
      if name = other then some table else database.table? other := by
  simp [file, table?, Std.ExtTreeMap.getElem?_insert]

/-- Databases with the same tables are equal. -/
theorem ext_table? {first second : Database}
    (h : ∀ name, first.table? name = second.table? name) : first = second := by
  obtain ⟨first⟩ := first
  obtain ⟨second⟩ := second
  exact congrArg mk (Std.ExtTreeMap.ext_getElem? h)

/-! ## Creating a table -/

/-- The schema that columns are declared with, where `seen` are the names of the columns
to the left.  A name may be declared once, and its type must be one. -/
def schemaOf (seen : List String) : List ColumnDeclaration → Except ExecutionError Schema
  | [] => .ok []
  | column :: columns =>
    if column.name.value ∈ seen then
      .error (.duplicateColumn column.name.value)
    else
      match DataType.ofToken? column.type with
      | none => .error (.invalidDataType column.type.value)
      | some type =>
        (schemaOf (column.name.value :: seen) columns).map (⟨column.name.value, type⟩ :: ·)

/-- Adds a table without rows. -/
def createTable (name : String) (columns : List ColumnDeclaration) :
    EStateM ExecutionError Database Unit := fun database =>
  match database.table? name with
  | some _ => .error (.tableAlreadyExists name) database
  | none =>
    match schemaOf [] columns with
    | .error error => .error error database
    | .ok schema => .ok () (database.file name (.new name schema))

/-! ## Adding a row -/

/-- Adds the row of some literals to a table. -/
def insert (name : String) (values : List Token) :
    EStateM ExecutionError Database Unit := fun database =>
  match database.table? name with
  | none => .error (.tableDoesNotExist name) database
  | some table =>
    if values.length = table.schema.length then
      match values.mapM Value.ofLiteral with
      | .error error => .error error database
      | .ok row =>
        match Table.insert row table with
        | .error error table => .error error (database.file name table)
        | .ok () table => .ok () (database.file name table)
    else
      .error (.missingValues table.schema.length values.length) database

/-! ## Asking for columns -/

/-- The positions and headers of the columns that some items name. -/
def resolve (schema : Schema) (items : List Token) :
    Except ExecutionError (List (Nat × ColumnHeader)) :=
  items.mapM fun item =>
    match schema.resolve? item.value with
    | some found => .ok found
    | none => .error (.columnDoesNotExist item.value)

/-- The columns that some items name, of every row of a table.  The positions come from
the schema, and a table has a column for each entry of it, so the rows are there. -/
def select (database : Database) (name : String) (items : List Token) :
    Except ExecutionError ResultSet :=
  match database.table? name with
  | none => .error (.tableDoesNotExist name)
  | some table =>
    match resolve table.schema items with
    | .error error => .error error
    | .ok found =>
      .ok ⟨found.map (·.2), (table.project? (found.map (·.1))).getD []⟩

/-! ## Statements -/

/-- Executes a statement. -/
def execute : Statement → EStateM ExecutionError Database Outcome
  | .createTable name columns => fun database =>
    match createTable name.value columns database with
    | .error error database => .error error database
    | .ok () database => .ok .created database
  | .insert table values => fun database =>
    match insert table.value values database with
    | .error error database => .error error database
    | .ok () database => .ok .inserted database
  | .select items table => fun database =>
    match database.select table.value items with
    | .error error => .error error database
    | .ok result => .ok (.selected result) database

/-- Executes statements in order, up to the first that fails. -/
def executeAll : List Statement → EStateM ExecutionError Database (List Outcome)
  | [] => fun database => .ok [] database
  | statement :: statements => fun database =>
    match execute statement database with
    | .error error database => .error error database
    | .ok outcome database =>
      match executeAll statements database with
      | .error error database => .error error database
      | .ok outcomes database => .ok (outcome :: outcomes) database

/-- Executes statements in order, whether they fail or not, and gives the answer to each
with the database that is left. -/
def executeEach (database : Database) :
    List Statement → List (Except ExecutionError Outcome) × Database
  | [] => ([], database)
  | statement :: statements =>
    match execute statement database with
    | .error error database =>
      let (answers, database) := database.executeEach statements
      (.error error :: answers, database)
    | .ok outcome database =>
      let (answers, database) := database.executeEach statements
      (.ok outcome :: answers, database)

end Database

end ColumnarSql
