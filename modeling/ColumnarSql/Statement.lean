import ColumnarSql.Token.Basic

/-!
# Statements

The language has three statements, and each names one table.

* `SELECT item, … FROM table` asks for columns of a table.
* `INSERT INTO table VALUES (value, …)` adds a row, its values in the order of the
  columns.
* `CREATE TABLE name (column type, …)` declares a table.

A statement keeps the tokens it was written with.  What they mean is settled when the
statement is executed: a name is the value of its token, whatever the token's class.
-/

namespace ColumnarSql

/-- A column as a statement declares it. -/
structure ColumnDeclaration where
  name : Token
  /-- The word that names its type. -/
  type : Token
  deriving DecidableEq, Repr

/-- A statement, made of the tokens it was written with. -/
inductive Statement where
  | select (items : List Token) (table : Token)
  | insert (table : Token) (values : List Token)
  | createTable (name : Token) (columns : List ColumnDeclaration)
  deriving DecidableEq, Repr

namespace Statement

/-- The name of the table that a statement is about. -/
def tableName : Statement → String
  | select _ table => table.value
  | insert table _ => table.value
  | createTable name _ => name.value

end Statement

end ColumnarSql
