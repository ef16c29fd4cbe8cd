import ColumnarSql.Database.Basic

/-!
# How the shell shows outcomes

A result is a table of text: a line with the names of the columns, a line for each row,
and the number of rows.  A column is as wide as its widest entry, its name included, and
at least ten characters; entries stand at the right, and a bar follows each.  Width is
counted in characters.

`renderOutcome` gives this text whatever the widths are.  The printer that lines are made
with takes no width of more than sixteen bits, so `isPrintable` says besides which outcomes
can be shown at all.
-/

namespace ColumnarSql
namespace Shell

/-- The least width of a column. -/
def minimalWidth : Nat := 10

/-- A text moved to the right end of the given width.  A longer text is not cut. -/
def alignRight (width : Nat) (text : String) : String :=
  String.ofList (List.replicate (width - text.length) ' ') ++ text

/-- One line of a table: a bar, and each entry followed by a bar. -/
def renderLine (widths : List Nat) (entries : List String) : String :=
  "|" ++ String.join (List.zipWith (fun width entry => alignRight width entry ++ "|") widths entries)
    ++ "\n"

/-- The width of the column with the given name at the given position. -/
def columnWidth (rows : List (List String)) (position : Nat) (name : String) : Nat :=
  (rows.filterMap fun row => row[position]?.map String.length).foldl max
    (max minimalWidth name.length)

/-- The widths of all columns. -/
def columnWidths (names : List String) (rows : List (List String)) : List Nat :=
  names.mapIdx (columnWidth rows)

/-- A number of rows in words. -/
def renderCount (count : Nat) : String :=
  "(" ++ count.repr ++ (if count = 1 then " row" else " rows") ++ ")\n"

/-- The table of a result. -/
def renderResult (result : ResultSet) : String :=
  let names := result.columns.map (·.name)
  let rows := result.rows.map fun row => row.map Value.display
  let widths := columnWidths names rows
  renderLine widths names ++ String.join (rows.map (renderLine widths))
    ++ renderCount rows.length

/-- What the shell prints for a statement. -/
def renderOutcome : Outcome → String
  | .created => "ok\n"
  | .inserted => "ok\n"
  | .selected result => renderResult result

/-- The greatest width that an entry can be aligned in. -/
def maximalWidth : Nat := 65535

/-- The widths of the columns of a result. -/
def resultWidths (result : ResultSet) : List Nat :=
  columnWidths (result.columns.map (·.name)) (result.rows.map fun row => row.map Value.display)

/-- Whether the entries of an outcome can be aligned. -/
def isPrintable : Outcome → Bool
  | .created => true
  | .inserted => true
  | .selected result => (resultWidths result).all (· ≤ maximalWidth)

end Shell
end ColumnarSql
