import ColumnarSql.Proofs.Fault
import ColumnarSql.Proofs.Storage.Alignment

/-!
# A table is the list of the rows it has accepted

`Table.insert` takes a row or refuses it, and which of the two depends on the schema and the row
alone: the row must fit (`Schema.Fits`), and otherwise it is refused for its length or for the
first value of another type than its column (`Schema.RefusesRow`).

There are four ways to read a table: a row by its position, all rows reduced to some columns, a
column by its name, and the number of rows.  Each goes its own way through the columns, and
`Table.ReadsAs` says what each of them gives for a list of rows.

* `Table.insert_eq_error_iff`: for which rows an insertion fails, with which error, and that it
  leaves the table as it was;
* `Table.Aligned.readsAs`: an aligned table reads as the list of its rows;
* `Table.Aligned.afterInserts`: insertions in any order, accepted or not, leave an aligned table
  whose rows are the old ones and behind them those that fit.

A schema may be empty, and a name may occur in it more than once.  A name stands for its first
column then, and `Table.column?_eq` says that the table and its schema agree on which one that is.
-/

namespace ColumnarSql

namespace Schema

/-- **A row fits a schema**: it has one value for each column, of the type of this column. -/
def Fits (schema : Schema) (row : Row) : Prop :=
  row.map Value.type = schema.map ColumnHeader.type

instance (schema : Schema) (row : Row) : Decidable (schema.Fits row) :=
  inferInstanceAs (Decidable (_ = _))

/-- What is wrong with the value of a row at a position, if anything. -/
def typeFault (schema : Schema) (row : Row) (i : Nat) : Option ExecutionError :=
  match schema[i]?, row[i]? with
  | some header, some value =>
    if value.type = header.type then
      none
    else
      some (.typeMismatch header.name header.type value.type)
  | _, _ => none

/-- **Why a row is refused.** -/
inductive RefusesRow (schema : Schema) (row : Row) : ExecutionError → Prop
  | arity (hlength : row.length ≠ schema.length) :
      RefusesRow schema row (.missingValues schema.length row.length)
  /-- A value has another type than its column, and no value before it has. -/
  | type {i : Nat} {header : ColumnHeader} {value : Value} (hlength : row.length = schema.length)
      (hheader : schema[i]? = some header) (hvalue : row[i]? = some value)
      (htype : value.type ≠ header.type) (hbefore : ∀ j < i, typeFault schema row j = none) :
      RefusesRow schema row (.typeMismatch header.name header.type value.type)

theorem typeFault_eq_some_iff {schema : Schema} {row : Row} {i : Nat} {error : ExecutionError} :
    typeFault schema row i = some error ↔
      ∃ header value, schema[i]? = some header ∧ row[i]? = some value ∧
        value.type ≠ header.type ∧
          error = .typeMismatch header.name header.type value.type := by
  unfold typeFault
  cases schema[i]? <;> cases row[i]? <;> simp [eq_comm]

/-- For a row of the right length it is the first wrong value that counts. -/
theorem refusesRow_iff {schema : Schema} {row : Row} {error : ExecutionError}
    (hlength : row.length = schema.length) :
    schema.RefusesRow row error ↔ FirstFault (typeFault schema row) error := by
  constructor
  · rintro (hne | ⟨-, hheader, hvalue, htype, hbefore⟩)
    · exact absurd hlength hne
    · exact ⟨_, typeFault_eq_some_iff.2 ⟨_, _, hheader, hvalue, htype, rfl⟩, hbefore⟩
  · rintro ⟨i, hfault, hbefore⟩
    obtain ⟨header, value, hheader, hvalue, htype, rfl⟩ := typeFault_eq_some_iff.1 hfault
    exact .type hlength hheader hvalue htype hbefore

end Schema

namespace Table

/-! ## Refusals -/

theorem checkEach_eq_error_iff {columns : List Column} {row : Row} {error : ExecutionError} :
    checkEach columns row = .error error ↔
      FirstFault (Schema.typeFault (columns.map Column.header) row) error := by
  induction columns generalizing row with
  | nil => exact iff_of_false (by simp [checkEach]) (not_firstFault fun _ => rfl)
  | cons column columns ih =>
    cases row with
    | nil =>
      refine iff_of_false (by simp [checkEach]) (not_firstFault fun i => ?_)
      unfold Schema.typeFault
      split <;> simp_all
    | cons value row =>
      rw [checkEach]
      by_cases htype : value.type = column.type
      · rw [Column.check_eq_ok_iff.2 htype, firstFault_of_none (if_pos htype)]
        exact ih
      · have hfront : Schema.typeFault ((column :: columns).map Column.header) (value :: row) 0 =
            some (column.mismatch value) := if_neg htype
        rw [Column.check_of_ne htype, firstFault_of_some hfront]
        exact ⟨Except.error.inj, congrArg Except.error⟩

/-- **Which rows are refused, with which error.**  A refusal leaves the table as it was. -/
theorem insert_eq_error_iff {table left : Table} {row : Row} {error : ExecutionError}
    (h : table.Aligned) :
    insert row table = .error error left ↔
      left = table ∧ table.schema.RefusesRow row error := by
  have hcount : table.columns.length = table.schema.length := by
    simpa using congrArg List.length h.header
  by_cases hlength : row.length = table.columns.length
  · rw [Schema.refusesRow_iff (hlength.trans hcount), ← h.header, ← checkEach_eq_error_iff]
    cases hcheck : checkEach table.columns row with
    | error error' => simp [insert, hlength, hcheck, and_comm, eq_comm]
    | ok _ =>
      obtain ⟨inserted, hinsert, -⟩ := insert_of_types h
        (((checkEach_eq_ok_iff hlength).1 hcheck).trans h.map_type)
      simp [hinsert]
  · rw [insert, if_neg hlength, hcount]
    constructor
    · rintro ⟨⟩
      exact ⟨rfl, .arity (hcount ▸ hlength)⟩
    · rintro ⟨rfl, hrefuses⟩
      cases hrefuses with
      | arity => rfl
      | type hsame => exact absurd (hsame.trans hcount.symm) hlength

/-- **Which rows are taken.** -/
theorem exists_insert_eq_ok_iff {table : Table} (h : table.Aligned) (row : Row) :
    (∃ inserted, insert row table = .ok () inserted) ↔ table.schema.Fits row := by
  constructor
  · rintro ⟨inserted, hinsert⟩
    by_contra hfits
    obtain ⟨error, herror⟩ := insert_of_not_types h hfits
    simp [hinsert] at herror
  · intro hfits
    obtain ⟨inserted, hinsert, -⟩ := insert_of_types h hfits
    exact ⟨inserted, hinsert⟩

end Table

/-! ## Four ways to read a table -/

/-- **A column holds what stands at one position** of some rows. -/
structure Column.Holds (column : Column) (rows : List Row) (position : Nat) : Prop where
  size : column.size = rows.length
  get? : ∀ k row, rows[k]? = some row →
    ∃ value, row[position]? = some value ∧ column.get? k = some value
  get?_of_le : ∀ k, rows.length ≤ k → column.get? k = none

namespace Table

/-- **A table reads as a list of rows**, whichever way it is read. -/
structure ReadsAs (table : Table) (rows : List Row) : Prop where
  rowCount : table.rowCount = rows.length
  row? : ∀ i, table.row? i = rows[i]?
  project? : ∀ positions, (∀ position ∈ positions, position < table.schema.length) →
    ∃ projected, table.project? positions = some projected ∧
      projected.map some = rows.map fun row => positions.mapM (row[·]?)
  column?_of_none : ∀ name, table.schema.position? name = none → table.column? name = none
  /-- A column with a name is the one at the position of the name in the schema, and it holds what
  stands there in every row. -/
  column?_of_some : ∀ name position, table.schema.position? name = some position →
    ∃ column, table.column? name = some column ∧ table.columns[position]? = some column ∧
      column.Holds rows position

/-- A name finds the column at its position in the schema. -/
theorem column?_eq {table : Table} (h : table.Aligned) (name : String) :
    table.column? name = (table.schema.position? name).bind (table.columns[·]?) := by
  rw [column?, List.find?_eq_bind_findIdx?_getElem?, Schema.position?, ← h.header,
    List.findIdx?_map]
  rfl

/-- A column of an aligned table holds what stands at its position in the rows. -/
theorem holds_rows {table : Table} (h : table.Aligned) {position : Nat} {column : Column}
    (hcolumn : table.columns[position]? = some column) : column.Holds table.rows position := by
  have hsize : column.size = table.rows.length := by
    rw [length_rows h, h.size column (List.mem_of_getElem? hcolumn)]
  refine ⟨hsize, fun k row hrow => ?_, fun k hk => ?_⟩
  · have hlt : k < column.toList.length := by
      rw [← column.size_eq_length_toList, hsize]
      exact (List.getElem?_eq_some_iff.1 hrow).1
    have hcells : cellsAt table.columns k = some row := by
      rw [← row?_of_lt (length_rows h ▸ (List.getElem?_eq_some_iff.1 hrow).1),
        row?_eq_getElem?_rows h, hrow]
    refine ⟨column.toList[k], ?_, ?_⟩
    · rw [getElem?_of_cellsAt hcells, hcolumn, Option.bind_some, column.get?_eq_getElem?_toList,
        List.getElem?_eq_getElem hlt]
    · exact column.readsAs_toList.get?_of_lt k hlt
  · apply column.readsAs_toList.get?_of_le
    rwa [← column.size_eq_length_toList, hsize]

/-- **An aligned table reads as the list of its rows.** -/
theorem Aligned.readsAs {table : Table} (h : table.Aligned) : table.ReadsAs table.rows where
  rowCount := (length_rows h).symm
  row? := row?_eq_getElem?_rows h
  project? _ := project?_eq h
  column?_of_none name hnone := by
    rw [column?_eq h, hnone, Option.bind_none]
  column?_of_some name position hsome := by
    have hlt : position < table.columns.length := by
      have hposition := (List.findIdx?_eq_some_iff_findIdx_eq.1 hsome).1
      rwa [← h.header, List.length_map] at hposition
    have hcolumn := List.getElem?_eq_getElem hlt
    refine ⟨table.columns[position], ?_, hcolumn, holds_rows h hcolumn⟩
    rw [column?_eq h, hsome, Option.bind_some, hcolumn]

/-! ## Insertions one after another -/

/-- The table that an insertion leaves behind, whether the row is taken or not. -/
def afterInsert (table : Table) (row : Row) : Table :=
  match insert row table with
  | .ok () inserted => inserted
  | .error _ left => left

/-- The table that insertions leave behind, one after another. -/
def afterInserts (table : Table) (attempts : List Row) : Table :=
  attempts.foldl afterInsert table

/-- An insertion keeps a table aligned, and adds the row if it fits. -/
theorem Aligned.afterInsert {table : Table} (h : table.Aligned) (row : Row) :
    (table.afterInsert row).Aligned ∧ (table.afterInsert row).schema = table.schema ∧
      (table.afterInsert row).rows = table.rows ++ [row].filter table.schema.Fits := by
  unfold Table.afterInsert
  by_cases hfits : table.schema.Fits row
  · obtain ⟨inserted, hinsert, haligned, -, hschema, hrows⟩ := insert_of_types h hfits
    rw [hinsert]
    exact ⟨haligned, hschema, by simp [hrows, hfits]⟩
  · obtain ⟨error, hinsert⟩ := insert_of_not_types h hfits
    rw [hinsert]
    exact ⟨h, rfl, by simp [hfits]⟩

/-- **Insertions keep a table aligned**, and behind its rows stand those that fit, in the order in
which they came. -/
theorem Aligned.afterInserts {table : Table} (h : table.Aligned) (attempts : List Row) :
    (table.afterInserts attempts).Aligned ∧
      (table.afterInserts attempts).schema = table.schema ∧
      (table.afterInserts attempts).rows =
        table.rows ++ attempts.filter table.schema.Fits := by
  induction attempts generalizing table with
  | nil => exact ⟨h, rfl, (List.append_nil _).symm⟩
  | cons row attempts ih =>
    obtain ⟨haligned, hschema, hrows⟩ := h.afterInsert row
    obtain ⟨haligned', hschema', hrows'⟩ := ih haligned
    refine ⟨haligned', hschema'.trans hschema, ?_⟩
    show ((table.afterInsert row).afterInserts attempts).rows = _
    rw [hrows', hschema, hrows, List.append_assoc, ← List.filter_append, List.singleton_append]

/-- **A table is the list of the rows it has accepted.**  After insertions into a new table of any
schema, accepted or not, every way to read it gives the rows that fit, in the order in which they
came.  A further row is accepted exactly if it fits; otherwise it is refused for its length or for
its first wrong value, and nothing changes. -/
theorem reads_as_accepted_rows (name : String) (schema : Schema) (attempts : List Row) :
    let table := (new name schema).afterInserts attempts
    table.schema = schema ∧ table.ReadsAs (attempts.filter schema.Fits) ∧
      (∀ row, (∃ inserted, insert row table = .ok () inserted) ↔ schema.Fits row) ∧
      ∀ row error left, insert row table = .error error left ↔
        left = table ∧ schema.RefusesRow row error := by
  intro table
  obtain ⟨haligned, hschema, hrows⟩ := (aligned_new name schema).afterInserts attempts
  have hreads := haligned.readsAs
  rw [hrows, rows_new, List.nil_append] at hreads
  refine ⟨hschema, hreads, fun row => ?_, fun row error left => ?_⟩
  · rw [exists_insert_eq_ok_iff haligned, hschema]
    rfl
  · rw [insert_eq_error_iff haligned, hschema]
    rfl

/-- A schema in which a name stands for two columns, the first of them of integers. -/
def repeatedName : Schema :=
  [⟨"a", .int⟩, ⟨"b", .text⟩, ⟨"a", .text⟩]

/-- A row that fits, one that is too short, one with two wrong values, and one more that fits. -/
def sampleAttempts : List Row :=
  [[.int 1, .text "x", .text "p"], [.int 2], [.int 3, .int 4, .int 5],
    [.int 6, .text "y", .text "q"]]

/-- The rows that fit are read back, in a projection that takes a column twice as well; the name
finds the column of integers; and the first of two wrong values is reported. -/
theorem reads_as_accepted_rows_sampleAttempts :
    ∃ table : Table, table = (new "t" repeatedName).afterInserts sampleAttempts ∧
      table.ReadsAs [[.int 1, .text "x", .text "p"], [.int 6, .text "y", .text "q"]] ∧
      table.row? 1 = some [.int 6, .text "y", .text "q"] ∧ table.row? 2 = none ∧
      table.project? [2, 0, 2] =
        some [[.text "p", .int 1, .text "p"], [.text "q", .int 6, .text "q"]] ∧
      (∃ column, table.column? "a" = some column ∧ column.get? 1 = some (.int 6)) ∧
      insert [.int 3, .int 4, .int 5] table = .error (.typeMismatch "b" .text .int) table := by
  obtain ⟨-, hreads, -, herror⟩ := reads_as_accepted_rows "t" repeatedName sampleAttempts
  refine ⟨_, rfl, hreads, hreads.row? 1, hreads.row? 2, ?_, ?_, ?_⟩
  · obtain ⟨projected, hproject, hrows⟩ := hreads.project? [2, 0, 2] (by decide)
    rw [hproject]
    exact congrArg some (List.map_injective_iff.2 (Option.some_injective Row) hrows)
  · obtain ⟨column, hcolumn, -, hholds⟩ := hreads.column?_of_some "a" 0 rfl
    obtain ⟨value, hvalue, hget⟩ := hholds.get? 1 [.int 6, .text "y", .text "q"] rfl
    exact ⟨column, hcolumn, hget.trans hvalue.symm⟩
  · exact (herror _ _ _).2 ⟨rfl, @Schema.RefusesRow.type _ _ 1 ⟨"b", .text⟩ (.int 4) rfl rfl rfl
      (by decide) (by decide)⟩

end Table
end ColumnarSql
