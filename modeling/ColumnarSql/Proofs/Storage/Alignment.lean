import ColumnarSql.Proofs.Storage.Accumulation
import ColumnarSql.Proofs.Traversal
import ColumnarSql.Storage.Table
import Mathlib.Data.List.Basic
import Mathlib.Data.Option.Basic

/-!
# Aligned tables

A row of a table is nowhere stored as such: it is what stands at one position of every
column.  Reading it back is safe only as long as three things agree, and `Table.Aligned`
names them: the columns are those of the schema, every column has cells of its declared
type, and every column holds as many values as the table has rows.

The view of a table is the list of its rows, `Table.rows`, read through `Table.row?`.  On
an aligned table the operations are those of a plain list of rows:

* `Table.rows_new`: a new table is aligned and has no rows;
* `Table.insert_of_types`: a row of the declared types is added at the end, and the table
  stays aligned;
* `Table.insert_of_not_types`: any other row leaves the table as it was;
* `Table.project?_eq`: a projection takes the same cells from every row, and no row is
  passed over.

## Why the second loop of an insertion cannot fail

`Table.fill` hands the values to the columns one by one, and would leave the columns before
a refusal longer than the others.  A column refuses a value of another type than its
declared one, which the check before has excluded, or than its cells, which alignment
excludes.  So `Table.fill_of_types` has no case for a refusal at all.  What the columns are then is
`Table.FilledBy`: each has grown by its value of the row.
-/

namespace ColumnarSql

namespace Column

/-- The entry of the schema that a column stands for. -/
def header (column : Column) : ColumnHeader :=
  ⟨column.name, column.type⟩

theorem GrownBy.header_eq {column later : Column} {added : List Value}
    (h : column.GrownBy added later) : later.header = column.header := by
  rw [header, header, h.name, h.type]

end Column

namespace Table

/-- **Alignment.**  The columns are those of the schema, each has cells of its declared
type, and each holds one value for every row. -/
structure Aligned (table : Table) : Prop where
  header : table.columns.map Column.header = table.schema
  type : ∀ column ∈ table.columns, column.cells.type = column.type
  size : ∀ column ∈ table.columns, column.size = table.rowCount

/-- The rows of a table, in order. -/
def rows (table : Table) : List Row :=
  (List.range table.rowCount).filterMap table.row?

/-! ## Cells at one position -/

/-- Columns of at least the same length have a value each at an earlier position. -/
theorem exists_cellsAt {columns : List Column} {count row : Nat} (hrow : row < count)
    (hsize : ∀ column ∈ columns, column.size = count) :
    ∃ cells, cellsAt columns row = some cells := by
  induction columns with
  | nil => exact ⟨[], rfl⟩
  | cons column columns ih =>
    obtain ⟨cells, hcells⟩ := ih fun other hother => hsize other (List.mem_cons_of_mem _ hother)
    have hlength : row < column.toList.length := by
      rw [← column.size_eq_length_toList, hsize column List.mem_cons_self]
      exact hrow
    refine ⟨column.toList[row] :: cells, ?_⟩
    rw [cellsAt, Traversal.mapM_eq_some_iff] at hcells ⊢
    rw [List.map_cons, hcells, column.readsAs_toList.get?_of_lt row hlength, List.map_cons]

theorem cellsAt_cons (column : Column) (columns : List Column) (row : Nat) :
    cellsAt (column :: columns) row =
      (column.get? row).bind fun value => (cellsAt columns row).map (value :: ·) := by
  rw [cellsAt, List.mapM_cons]
  cases column.get? row with
  | none => rfl
  | some value =>
    rw [← cellsAt]
    cases cellsAt columns row <;> rfl

/-- Below the number of rows a row is what stands at its position. -/
theorem row?_of_lt {table : Table} {row : Nat} (hrow : row < table.rowCount) :
    table.row? row = cellsAt table.columns row :=
  if_pos hrow

/-- **No row is passed over.**  The rows of an aligned table are what stands at each
position in turn. -/
theorem map_some_rows {table : Table} (h : table.Aligned) :
    table.rows.map some = (List.range table.rowCount).map (cellsAt table.columns) := by
  have hrow : ∀ row ∈ List.range table.rowCount,
      table.row? row = cellsAt table.columns row :=
    fun row hmem => row?_of_lt (List.mem_range.1 hmem)
  rw [rows, Traversal.map_some_filterMap, List.map_congr_left hrow]
  intro row hmem
  rw [hrow row hmem]
  exact exists_cellsAt (List.mem_range.1 hmem) h.size

/-- There are as many rows as the table counts. -/
theorem length_rows {table : Table} (h : table.Aligned) :
    table.rows.length = table.rowCount := by
  have := congrArg List.length (map_some_rows h)
  simpa using this

/-- Read by its position or from the list of all rows, a row is the same. -/
theorem row?_eq_getElem?_rows {table : Table} (h : table.Aligned) (position : Nat) :
    table.row? position = table.rows[position]? := by
  by_cases hposition : position < table.rowCount
  · have hrows := congrArg (·[position]?) (map_some_rows h)
    have hrange : (List.range table.rowCount)[position]? = some position :=
      List.getElem?_range hposition
    obtain ⟨cells, hcells⟩ := exists_cellsAt hposition h.size
    rw [row?_of_lt hposition, hcells]
    simp only [List.getElem?_map, hrange, Option.map_some, hcells] at hrows
    obtain ⟨row, hrow, hsome⟩ := Option.map_eq_some_iff.1 hrows
    rw [hrow, hsome]
  · have hlength : table.rows.length ≤ position := by
      rw [length_rows h]
      omega
    rw [row?, if_neg hposition, List.getElem?_eq_none hlength]

/-- A row has a value for every entry of the schema. -/
theorem length_of_mem_rows {table : Table} (h : table.Aligned) {row : Row}
    (hrow : row ∈ table.rows) : row.length = table.schema.length := by
  have hmem : some row ∈ table.rows.map some := List.mem_map_of_mem hrow
  rw [map_some_rows h, List.mem_map] at hmem
  obtain ⟨position, -, hcells⟩ := hmem
  rw [cellsAt, Traversal.mapM_eq_some_iff] at hcells
  have := congrArg List.length hcells
  rw [← h.header]
  simpa using this.symm

/-! ## A new table -/

/-- A new table is aligned and has no rows. -/
theorem aligned_new (name : String) (schema : Schema) : (new name schema).Aligned where
  header := by
    rw [new, List.map_map]
    exact List.map_id _
  type := by
    intro column hcolumn
    obtain ⟨header, -, rfl⟩ := List.mem_map.1 hcolumn
    exact Cells.type_empty header.type
  size := by
    intro column hcolumn
    obtain ⟨header, -, rfl⟩ := List.mem_map.1 hcolumn
    rw [Column.size_eq_length_toList, Column.toList, Column.new, Cells.toList_empty]
    rfl

theorem rows_new (name : String) (schema : Schema) : (new name schema).rows = [] := rfl

/-! ## Adding a row -/

/-- The check passes exactly the rows of the declared types. -/
theorem checkEach_eq_ok_iff {columns : List Column} {row : Row}
    (hlength : row.length = columns.length) :
    checkEach columns row = .ok () ↔ row.map Value.type = columns.map Column.type := by
  induction columns generalizing row with
  | nil =>
    obtain rfl := List.length_eq_zero_iff.1 hlength
    simp [checkEach]
  | cons column columns ih =>
    cases row with
    | nil => simp at hlength
    | cons value row =>
      have hrest : row.length = columns.length := by simpa using hlength
      rw [checkEach, List.map_cons, List.map_cons, List.cons.injEq, ← ih hrest,
        ← Column.check_eq_ok_iff]
      cases column.check value <;> simp

/-- **Columns that have been filled with a row**: each has grown by its value of the row. -/
inductive FilledBy : List Column → Row → List Column → Prop
  | nil : FilledBy [] [] []
  | cons {column pushed : Column} {columns filled : List Column} {value : Value} {row : Row}
      (hgrown : column.GrownBy [value] pushed) (hrest : FilledBy columns row filled) :
      FilledBy (column :: columns) (value :: row) (pushed :: filled)

/-- **No column refuses** a value of its type, if its cells have the declared type. -/
theorem fill_of_types {columns : List Column} {row : Row}
    (htype : ∀ column ∈ columns, column.cells.type = column.type)
    (hrow : row.map Value.type = columns.map Column.type) :
    ∃ filled, fill row columns = .ok () filled ∧ FilledBy columns row filled := by
  induction columns generalizing row with
  | nil =>
    obtain rfl : row = [] := by simpa using hrow
    exact ⟨[], rfl, .nil⟩
  | cons column columns ih =>
    cases row with
    | nil => simp at hrow
    | cons value row =>
      rw [List.map_cons, List.map_cons, List.cons.injEq] at hrow
      obtain ⟨hvalue, hothers⟩ := hrow
      have hkind : value.type = column.cells.type :=
        hvalue.trans (htype column List.mem_cons_self).symm
      obtain ⟨pushed, hpush, hgrown⟩ := Column.push_of_takes ⟨hvalue, hkind⟩
      obtain ⟨filled, hfill, hrest⟩ :=
        ih (fun other hother => htype other (List.mem_cons_of_mem _ hother)) hothers
      refine ⟨pushed :: filled, ?_, .cons hgrown hrest⟩
      rw [fill, hpush, hfill]

section FilledBy

variable {columns filled : List Column} {row : Row} {count : Nat}

theorem FilledBy.map_header (h : FilledBy columns row filled) :
    filled.map Column.header = columns.map Column.header := by
  induction h with
  | nil => rfl
  | cons hgrown _ ih => rw [List.map_cons, List.map_cons, hgrown.header_eq, ih]

/-- Every column has grown from one of the columns before, by a single value. -/
theorem FilledBy.exists_grownBy (h : FilledBy columns row filled) {pushed : Column}
    (hpushed : pushed ∈ filled) : ∃ column ∈ columns, ∃ value, column.GrownBy [value] pushed := by
  induction h with
  | nil => simp at hpushed
  | cons hgrown _ ih =>
    rcases List.mem_cons.1 hpushed with rfl | hpushed
    · exact ⟨_, List.mem_cons_self, _, hgrown⟩
    · obtain ⟨column, hcolumn, hvalue⟩ := ih hpushed
      exact ⟨column, List.mem_cons_of_mem _ hcolumn, hvalue⟩

/-- **The row stands at the new position** of columns that had one length. -/
theorem FilledBy.cellsAt_count (h : FilledBy columns row filled)
    (hsize : ∀ column ∈ columns, column.size = count) : cellsAt filled count = some row := by
  induction h with
  | nil => rfl
  | @cons column _ _ _ _ _ hgrown _ ih =>
    have hvalue := hgrown.get?_size
    rw [hsize column List.mem_cons_self] at hvalue
    rw [cellsAt_cons, hvalue, ih fun other hother => hsize other (List.mem_cons_of_mem _ hother)]
    rfl

/-- The other positions are as they were. -/
theorem FilledBy.cellsAt_of_lt (h : FilledBy columns row filled)
    (hsize : ∀ column ∈ columns, column.size = count) {position : Nat}
    (hposition : position < count) : cellsAt filled position = cellsAt columns position := by
  induction h with
  | nil => rfl
  | @cons column _ _ _ _ _ hgrown _ ih =>
    have hvalue := hgrown.get?_of_lt (hsize column List.mem_cons_self ▸ hposition)
    rw [cellsAt_cons, cellsAt_cons, hvalue,
      ih fun other hother => hsize other (List.mem_cons_of_mem _ hother)]

end FilledBy

/-- Filled with a row, an aligned table stays aligned. -/
theorem Aligned.filled {table : Table} {row : Row} {filled : List Column} (h : table.Aligned)
    (hfilled : FilledBy table.columns row filled) :
    Aligned ⟨table.name, table.schema, filled, table.rowCount + 1⟩ where
  header := hfilled.map_header.trans h.header
  type pushed hpushed := by
    obtain ⟨column, hcolumn, value, hgrown⟩ := hfilled.exists_grownBy hpushed
    rw [hgrown.kind, hgrown.type, h.type column hcolumn]
  size pushed hpushed := by
    obtain ⟨column, hcolumn, value, hgrown⟩ := hfilled.exists_grownBy hpushed
    rw [hgrown.size_eq, h.size column hcolumn, List.length_singleton]

/-- The declared types of the columns are those of the schema. -/
theorem Aligned.map_type {table : Table} (h : table.Aligned) :
    table.columns.map Column.type = table.schema.map ColumnHeader.type := by
  rw [← h.header, List.map_map]
  rfl

/-- **A row of the declared types is added at the end**, and the table stays aligned. -/
theorem insert_of_types {table : Table} {row : Row} (h : table.Aligned)
    (hrow : row.map Value.type = table.schema.map ColumnHeader.type) :
    ∃ inserted, insert row table = .ok () inserted ∧ inserted.Aligned ∧
      inserted.name = table.name ∧ inserted.schema = table.schema ∧
      inserted.rows = table.rows ++ [row] := by
  rw [← h.map_type] at hrow
  have hlength : row.length = table.columns.length := by
    simpa using congrArg List.length hrow
  obtain ⟨filled, hfill, hfilled⟩ := fill_of_types h.type hrow
  have haligned := h.filled hfilled
  refine ⟨⟨table.name, table.schema, filled, table.rowCount + 1⟩, ?_, haligned, rfl, rfl, ?_⟩
  · rw [insert, if_pos hlength, (checkEach_eq_ok_iff hlength).2 hrow, hfill]
  · apply List.map_injective_iff.2 (Option.some_injective Row)
    rw [map_some_rows haligned, List.map_append, map_some_rows h, List.range_succ,
      List.map_append]
    congr 1
    · exact List.map_congr_left fun position hmem =>
        hfilled.cellsAt_of_lt h.size (List.mem_range.1 hmem)
    · rw [List.map_singleton, List.map_singleton, hfilled.cellsAt_count h.size]

/-- **Any other row leaves the table as it was.** -/
theorem insert_of_not_types {table : Table} {row : Row} (h : table.Aligned)
    (hrow : row.map Value.type ≠ table.schema.map ColumnHeader.type) :
    ∃ error, insert row table = .error error table := by
  rw [← h.map_type] at hrow
  by_cases hlength : row.length = table.columns.length
  · rw [insert, if_pos hlength]
    cases hcheck : checkEach table.columns row with
    | error error => exact ⟨error, rfl⟩
    | ok _ => exact absurd ((checkEach_eq_ok_iff hlength).1 hcheck) hrow
  · exact ⟨.missingValues table.columns.length row.length, by rw [insert, if_neg hlength]⟩

/-! ## Projections -/

/-- The value at a position of a row is what stands there in the column at that
position. -/
theorem getElem?_of_cellsAt {columns : List Column} {row position : Nat} {cells : Row}
    (h : cellsAt columns row = some cells) :
    cells[position]? = columns[position]?.bind (·.get? row) := by
  rw [cellsAt, Traversal.mapM_eq_some_iff] at h
  have hget : columns[position]?.map (·.get? row) = cells[position]?.map some := by
    rw [← List.getElem?_map, ← List.getElem?_map, h]
  cases hcolumn : columns[position]? <;> cases hcell : cells[position]? <;>
    simp_all

/-- The cells of picked columns are picked from the cells of all columns. -/
theorem cellsAt_of_pick? {table : Table} {positions : List Nat} {picked : List Column}
    {row : Nat} {cells : Row} (hpick : table.pick? positions = some picked)
    (hcells : cellsAt table.columns row = some cells) :
    cellsAt picked row = positions.mapM (cells[·]?) := by
  rw [pick?, Traversal.mapM_eq_some_iff] at hpick
  have hsame : picked.map (·.get? row) = positions.map (cells[·]?) :=
    calc picked.map (·.get? row)
        = (picked.map some).map fun column? => column?.bind (·.get? row) := by
          rw [List.map_map]
          rfl
      _ = positions.map fun position => table.columns[position]?.bind (·.get? row) := by
          rw [← hpick, List.map_map]
          rfl
      _ = positions.map (cells[·]?) :=
          List.map_congr_left fun position _ => (getElem?_of_cellsAt hcells).symm
  refine Option.ext fun reduced => ?_
  rw [cellsAt, Traversal.mapM_eq_some_iff, Traversal.mapM_eq_some_iff, hsame]

/-- Picked columns are columns of the table. -/
theorem mem_of_pick? {table : Table} {positions : List Nat} {picked : List Column}
    (hpick : table.pick? positions = some picked) {column : Column} (hcolumn : column ∈ picked) :
    column ∈ table.columns := by
  rw [pick?, Traversal.mapM_eq_some_iff] at hpick
  have hsome : some column ∈ picked.map some := List.mem_map_of_mem hcolumn
  rw [← hpick, List.mem_map] at hsome
  obtain ⟨position, -, hget⟩ := hsome
  exact List.mem_of_getElem? hget

/-- **A projection takes the same cells from every row**, and no row is passed over. -/
theorem project?_eq {table : Table} (h : table.Aligned) {positions : List Nat}
    (hpositions : ∀ position ∈ positions, position < table.schema.length) :
    ∃ projected, table.project? positions = some projected ∧
      projected.map some = table.rows.map fun row => positions.mapM (row[·]?) := by
  have hlength : table.columns.length = table.schema.length := by
    simpa using congrArg List.length h.header
  obtain ⟨picked, hpick⟩ : ∃ picked, table.pick? positions = some picked :=
    Traversal.exists_mapM_eq_some fun position hmem =>
      ⟨_, List.getElem?_eq_getElem (hlength ▸ hpositions position hmem)⟩
  refine ⟨(List.range table.rowCount).filterMap (cellsAt picked), ?_, ?_⟩
  · rw [project?, hpick, Option.map_some]
  · have hrows : (table.rows.map fun row => positions.mapM (row[·]?)) =
        (table.rows.map some).map fun row? => row?.bind fun row => positions.mapM (row[·]?) := by
      rw [List.map_map]
      rfl
    rw [hrows, map_some_rows h, List.map_map, Traversal.map_some_filterMap]
    · refine List.map_congr_left fun row hmem => ?_
      obtain ⟨cells, hcells⟩ := exists_cellsAt (List.mem_range.1 hmem) h.size
      rw [Function.comp_apply, hcells, Option.bind_some, cellsAt_of_pick? hpick hcells]
    · intro row hmem
      exact exists_cellsAt (List.mem_range.1 hmem) fun column hcolumn =>
        h.size column (mem_of_pick? hpick hcolumn)

end Table
end ColumnarSql
