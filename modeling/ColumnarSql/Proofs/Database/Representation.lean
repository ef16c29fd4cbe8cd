import ColumnarSql.Proofs.Database.Reachable

/-!
# What is stored in a reachable database

Nothing in the types ties the columns of a table to its schema, or a table to the name it is filed
under.  `Table.WellFormed` and `Database.WellFormed` say how they belong together: the columns are
those of the schema, with cells of their declared types and one value each for every row; no two
columns have the same name; and every table is filed under its own name.  The empty database is
well formed and every statement keeps it so (`Database.WellFormed.after`), hence every reachable
database is (`Database.Reachable.wellFormed`).

Three things that are done without a check rest on this:

* a column is looked up at the position that its name has in the schema
  (`Table.lt_of_position?`, `Database.exists_project?`);
* a projection leaves out a row that is not whole, and there is none
  (`ResultSet.IsComplete.length`);
* a cell is read back as it is stored, whatever type its column was declared with
  (`ResultSet.IsComplete.types`).
-/

namespace ColumnarSql

/-! ## Types of cells -/

/-- A value has the type of the cells it is read from. -/
theorem Cells.type_of_get? {cells : Cells} {row : Nat} {value : Value}
    (h : cells.get? row = some value) : value.type = cells.type := by
  cases cells <;> obtain ⟨entry, -, rfl⟩ := Option.map_eq_some_iff.1 h <;> rfl

/-- In a row of the declared types, the value under a name has the type of the column that the
name finds. -/
theorem Schema.map_type_cell? {schema : Schema} {row : Row}
    (hrow : row.map Value.type = schema.map ColumnHeader.type) (name : String) :
    (schema.cell? row name).map Value.type = (schema.header? name).map ColumnHeader.type := by
  induction schema generalizing row with
  | nil => rfl
  | cons header schema ih =>
    cases row with
    | nil => simp at hrow
    | cons value row =>
      rw [List.map_cons, List.map_cons, List.cons.injEq] at hrow
      rw [cell?, header?, List.map_cons, List.zip_cons_cons, List.lookup_cons, List.find?_cons]
      by_cases h : header.name = name
      · simp [h, hrow.1]
      · have hne : (name == header.name) = false := by simpa using fun heq => h heq.symm
        rw [hne, decide_eq_false h]
        exact ih hrow.2

namespace Table

variable {table : Table}

/-- **A well-formed table** is aligned, and its columns have different names. -/
structure WellFormed (table : Table) : Prop extends table.Aligned where
  nodup : (table.schema.map ColumnHeader.name).Nodup

/-- The cells at one position have the declared types of their columns. -/
theorem map_type_of_cellsAt {columns : List Column} {position : Nat} {row : Row}
    (htype : ∀ column ∈ columns, column.cells.type = column.type)
    (h : cellsAt columns position = some row) :
    row.map Value.type = columns.map Column.type := by
  induction columns generalizing row with
  | nil =>
    obtain rfl : [] = row := Option.some.inj h
    rfl
  | cons column columns ih =>
    rw [cellsAt_cons, Option.bind_eq_some_iff] at h
    obtain ⟨value, hvalue, h⟩ := h
    obtain ⟨others, hothers, rfl⟩ := Option.map_eq_some_iff.1 h
    rw [List.map_cons, List.map_cons, Cells.type_of_get? hvalue,
      htype column List.mem_cons_self,
      ih (fun other hother => htype other (List.mem_cons_of_mem _ hother)) hothers]

/-- **A row has values of the declared types.** -/
theorem map_type_of_mem_rows (h : table.Aligned) {row : Row} (hrow : row ∈ table.rows) :
    row.map Value.type = table.schema.map ColumnHeader.type := by
  have hmem : some row ∈ table.rows.map some := List.mem_map_of_mem hrow
  rw [map_some_rows h, List.mem_map] at hmem
  obtain ⟨position, -, hcells⟩ := hmem
  rw [map_type_of_cellsAt h.type hcells, h.map_type]

/-- The position of a name is that of a column. -/
theorem lt_of_position? (h : table.Aligned) {name : String} {position : Nat}
    (hposition : table.schema.position? name = some position) :
    position < table.schema.length ∧ position < table.columns.length := by
  have hlength : table.columns.length = table.schema.length := by
    simpa using congrArg List.length h.header
  have hlt := (List.findIdx?_eq_some_iff_findIdx_eq.1 hposition).1
  omega

end Table

/-- **A complete answer** about a table has a row for every row of the table, and in each of them
one value for every column that was asked for, of the type of this column. -/
structure ResultSet.IsComplete (result : ResultSet) (table : Table) : Prop where
  length : result.rows.length = table.rowCount
  types : ∀ row ∈ result.rows, row.map Value.type = result.columns.map ColumnHeader.type

namespace Database

variable {database : Database} {name : String} {table : Table}

/-- **A well-formed database** has well-formed tables, each filed under its own name. -/
def WellFormed (database : Database) : Prop :=
  ∀ name table, database.table? name = some table → table.name = name ∧ table.WellFormed

theorem WellFormed.aligned (h : database.WellFormed) : database.Aligned :=
  fun name table htable => (h name table htable).2.toAligned

/-! ## Every statement keeps it -/

theorem wellFormed_empty : WellFormed empty := by
  intro name table h
  simp at h

/-- Filing a well-formed table under its own name keeps a database well formed. -/
theorem WellFormed.file (h : database.WellFormed) (hname : table.name = name)
    (htable : table.WellFormed) : (database.file name table).WellFormed :=
  forall_table?_file h ⟨hname, htable⟩

/-- A declaration that is accepted has different names, and none of those seen before. -/
theorem nodup_of_schemaOf {columns : List ColumnDeclaration} {seen : List String}
    {schema : Schema} (h : schemaOf seen columns = .ok schema) :
    (schema.map ColumnHeader.name).Nodup ∧
      ∀ name ∈ schema.map ColumnHeader.name, name ∉ seen := by
  induction columns generalizing seen schema with
  | nil =>
    obtain rfl : [] = schema := Except.ok.inj h
    simp
  | cons column columns ih =>
    unfold schemaOf at h
    split at h
    · simp at h
    · next hfree =>
      cases htype : DataType.ofToken? column.type with
      | none => simp [htype] at h
      | some type =>
        cases hrest : schemaOf (column.name.value :: seen) columns with
        | error error => simp [htype, hrest, Except.map] at h
        | ok rest =>
          obtain rfl : ⟨column.name.value, type⟩ :: rest = schema := by
            simpa [htype, hrest, Except.map] using h
          obtain ⟨hnodup, hseen⟩ := ih hrest
          rw [List.map_cons, List.nodup_cons, List.forall_mem_cons]
          refine ⟨⟨fun hmem => hseen _ hmem List.mem_cons_self, hnodup⟩, hfree, ?_⟩
          exact fun name hname hmem => hseen name hname (List.mem_cons_of_mem _ hmem)

/-- **Every statement keeps a database well formed**, whether it succeeds or not. -/
theorem WellFormed.after (h : database.WellFormed) (statement : Statement) :
    (database.after statement).WellFormed := by
  have heffect := effect h.aligned statement
  generalize database.reply statement = answer, database.after statement = left at heffect
  cases heffect with
  | refused => exact h
  | created free declared =>
    exact h.file rfl ⟨Table.aligned_new _ _, (nodup_of_schemaOf declared).1⟩
  | inserted there literals aligned name schema rows =>
    obtain ⟨hname, hstored⟩ := h _ _ there
    refine h.file (name.trans hname) ⟨aligned, ?_⟩
    rw [schema]
    exact hstored.nodup
  | selected => exact h

/-- **Every reachable database is well formed.** -/
theorem Reachable.wellFormed (h : Reachable database) : database.WellFormed :=
  h.induction wellFormed_empty fun _ statement hdatabase => hdatabase.after statement

/-! ## Questions -/

/-- Items that resolve are found in the table, so a projection to them has an answer. -/
theorem exists_project? (h : table.Aligned) {items : List Token}
    {found : List (Nat × ColumnHeader)} (hfound : resolve table.schema items = .ok found) :
    ∃ rows, table.project? (found.map Prod.fst) = some rows := by
  obtain ⟨rows, hrows, -⟩ := Table.project?_eq h (lt_of_resolve hfound)
  exact ⟨rows, hrows⟩

/-- **A question about an aligned table gets a complete answer.** -/
theorem isComplete_of_select (h : database.Aligned) (htable : database.table? name = some table)
    {items : List Token} {result : ResultSet} (hselect : database.select name items = .ok result) :
    result.IsComplete table := by
  obtain ⟨hcolumns, hrows⟩ := (select_eq_ok_iff h htable).1 hselect
  have haligned := h name table htable
  refine ⟨?_, fun row hrow => ?_⟩
  · have hlength := congrArg List.length hrows
    rw [List.length_map, List.length_map] at hlength
    rw [hlength, Table.length_rows haligned]
  · have hmem : some row ∈ result.rows.map some := List.mem_map_of_mem hrow
    rw [hrows, List.mem_map] at hmem
    obtain ⟨stored, hstored, hcells⟩ := hmem
    rw [Traversal.mapM_eq_some_iff] at hcells
    have htypes := Table.map_type_of_mem_rows haligned hstored
    apply List.map_injective_iff.2 (Option.some_injective DataType)
    calc (row.map Value.type).map some
        = (row.map some).map (Option.map Value.type) := by
          rw [List.map_map, List.map_map]
          rfl
      _ = items.map fun item => (table.schema.cell? stored item.value).map Value.type := by
          rw [← hcells, List.map_map]
          rfl
      _ = items.map fun item => (table.schema.header? item.value).map ColumnHeader.type :=
          List.map_congr_left fun item _ => Schema.map_type_cell? htypes item.value
      _ = (result.columns.map some).map (Option.map ColumnHeader.type) := by
          rw [hcolumns, List.map_map]
          rfl
      _ = (result.columns.map ColumnHeader.type).map some := by
          rw [List.map_map, List.map_map]
          rfl

/-- A question that is answered is about a table that is there, and the answer is complete. -/
theorem isComplete_of_execute (h : database.Aligned) {statement : Statement} {left : Database}
    {result : ResultSet} (hexecute : execute statement database = .ok (.selected result) left) :
    ∃ table, database.table? statement.tableName = some table ∧ result.IsComplete table := by
  have hreply : database.reply statement = .ok (.selected result) := by
    simp only [reply, hexecute]
  have heffect := effect h statement
  rw [hreply] at heffect
  generalize database.after statement = between at heffect
  cases heffect with
  | @selected items table _ answer =>
    cases htable : database.table? table.value with
    | none => simp [select, htable] at answer
    | some stored => exact ⟨stored, htable, isComplete_of_select h htable answer⟩

/-- Every outcome of a run is that of the statement at its place, executed on what the statements
before it have left. -/
theorem execute_of_outcome {statements : List Statement} {outcomes : List Outcome}
    {left : Database} (hall : executeAll statements database = .ok outcomes left)
    {position : Nat} {outcome : Outcome} (houtcome : outcomes[position]? = some outcome) :
    ∃ statement between left', statements[position]? = some statement ∧
      executeAll (statements.take position) database = .ok (outcomes.take position) between ∧
      execute statement between = .ok outcome left' := by
  induction statements generalizing database outcomes position with
  | nil =>
    obtain ⟨rfl, -⟩ := EStateM.Result.ok.inj hall
    simp at houtcome
  | cons first statements ih =>
    obtain ⟨answer, others, between, rfl, hfirst, hothers⟩ := executeAll_cons_eq_ok_iff.1 hall
    cases position with
    | zero =>
      obtain rfl : answer = outcome := Option.some.inj houtcome
      exact ⟨first, database, between, rfl, rfl, hfirst⟩
    | succ position =>
      obtain ⟨statement, between', left', hstatement, hbefore, hexecute⟩ := ih hothers houtcome
      exact ⟨statement, between', left', hstatement, executeAll_cons_of_ok hfirst hbefore,
        hexecute⟩

/-- **What is stored in a reachable database.**  Every table is filed under its own name and is
well formed.  A name is found at a position where there is a column, and items that are found have
a projection.  So every question that is answered gets a complete answer: a row for every row of
the table, and in each row one value for each column, of the type of this column.  This holds of
the questions of a script as well, each about the table as the statements before it have left
it. -/
theorem reachable_representation (h : Reachable database) :
    (∀ name table, database.table? name = some table → table.name = name ∧ table.WellFormed) ∧
    (∀ name table, database.table? name = some table →
      (∀ column position, table.schema.position? column = some position →
        position < table.schema.length ∧ position < table.columns.length) ∧
      ∀ items found, resolve table.schema items = .ok found →
        ∃ rows, table.project? (found.map Prod.fst) = some rows) ∧
    (∀ statement result left, execute statement database = .ok (.selected result) left →
      ∃ table, database.table? statement.tableName = some table ∧ result.IsComplete table) ∧
    ∀ source outcomes left, run source database = .ok outcomes left →
      ∀ position result, outcomes[position]? = some (.selected result) →
        ∃ statements statement between table, statementsOf source = .ok statements ∧
          statements[position]? = some statement ∧
          executeAll (statements.take position) database =
            .ok (outcomes.take position) between ∧
          between.table? statement.tableName = some table ∧ result.IsComplete table := by
  refine ⟨h.wellFormed, fun name table htable => ⟨fun column position hposition => ?_,
    fun items found hfound => ?_⟩, fun statement result left hexecute => ?_,
    fun source outcomes left hrun position result hresult => ?_⟩
  · exact Table.lt_of_position? (h.aligned name table htable) hposition
  · exact exists_project? (h.aligned name table htable) hfound
  · exact isComplete_of_execute h.aligned hexecute
  · obtain ⟨statements, hstatements, hall⟩ := run_eq_ok_iff.1 hrun
    obtain ⟨statement, between, left', hstatement, hbefore, hexecute⟩ :=
      execute_of_outcome hall hresult
    obtain ⟨table, htable, hcomplete⟩ :=
      isComplete_of_execute (h.aligned.executeAll hbefore) hexecute
    exact ⟨statements, statement, between, table, hstatements, hstatement, hbefore, htable,
      hcomplete⟩

/-- A script that fails at its third statement, a row without a text, a text that is no script, and
a table whose name is taken. -/
def mixedCalls : List Call :=
  [.run "CREATE TABLE t (a INT,b TEXT); INSERT INTO t VALUES (1,'x'); INSERT INTO t VALUES (2,3);",
    .execute (.insert (.name "t") [⟨.number, "2", .start⟩, ⟨.string, "y", .start⟩]),
    .run "SELECT a FROM", .run "CREATE TABLE t (c INT);"]

/-- Both rows come back under columns that are asked for twice, with one value for each. -/
theorem reachable_representation_mixedCalls :
    Reachable (empty.afterCalls mixedCalls) ∧
      (∀ name table, (empty.afterCalls mixedCalls).table? name = some table →
        table.name = name ∧ table.WellFormed) ∧
      ∃ table : Table, (empty.afterCalls mixedCalls).table? "t" = some table ∧
        ResultSet.IsComplete ⟨[⟨"b", .text⟩, ⟨"a", .int⟩, ⟨"b", .text⟩],
          [[.text "x", .int 1, .text "x"], [.text "y", .int 2, .text "y"]]⟩ table := by
  have hreachable : Reachable (empty.afterCalls mixedCalls) := ⟨mixedCalls, rfl⟩
  obtain ⟨hstored, -, hquestions, -⟩ := reachable_representation hreachable
  refine ⟨hreachable, hstored, ?_⟩
  have hreply : (empty.afterCalls mixedCalls).reply
      (.select [.name "b", .name "a", .name "b"] (.name "t")) =
        .ok (.selected ⟨[⟨"b", .text⟩, ⟨"a", .int⟩, ⟨"b", .text⟩],
          [[.text "x", .int 1, .text "x"], [.text "y", .int 2, .text "y"]]⟩) := by
    decide +kernel
  rw [reply] at hreply
  split at hreply
  · simp at hreply
  · next outcome left hexecute =>
    obtain rfl := Except.ok.inj hreply
    exact hquestions _ _ left hexecute

end Database
end ColumnarSql
