import ColumnarSql.Database.Basic
import ColumnarSql.Proofs.Storage.Alignment
import Mathlib.Data.List.Basic
import Mathlib.Data.Option.Basic

/-!
# What one statement does

A statement has an answer, `Database.reply`, and leaves a database behind,
`Database.after`.  This file says once what each of the three statements can do to a
database all of whose tables are aligned, and everything about runs is derived from it:

* `Database.createTable_cases`: a new table is filed under a free name, or nothing changes;
* `Database.insert_cases`: one table has one more row, or nothing changes;
* `Database.select_eq_ok_iff`: the answer to a question, in terms of rows alone;
* `Database.effect`: the three together, as the relation `Database.Effect`;
* `Database.Aligned.after`: alignment is kept.

## Reading a row by name

`SELECT` resolves names to positions first and reads cells by position afterwards.  A
reader who knows only rows would look each name up in the row itself, and
`Schema.header?` and `Schema.cell?` are that reading.  `Schema.map_snd_resolve?` and
`Schema.bind_resolve?` say that the two agree, whatever the schema and the row.
-/

namespace ColumnarSql

namespace Schema

/-- The header of the first column with a name. -/
def header? (schema : Schema) (name : String) : Option ColumnHeader :=
  schema.find? (·.name = name)

/-- The value that a row has under a name, the first if the name occurs twice. -/
def cell? (schema : Schema) (row : Row) (name : String) : Option Value :=
  ((schema.map ColumnHeader.name).zip row).lookup name

theorem resolve?_cons (header : ColumnHeader) (schema : Schema) (name : String) :
    resolve? (header :: schema) name =
      if header.name = name then some (0, header)
      else (resolve? schema name).map fun found => (found.1 + 1, found.2) := by
  unfold resolve? position?
  rw [List.findIdx?_cons]
  by_cases h : header.name = name
  · simp [h]
  · cases List.findIdx? (fun x => decide (x.name = name)) schema <;> simp [h]
    rfl

/-- Resolving a name finds the header of the first column with that name. -/
theorem map_snd_resolve? (schema : Schema) (name : String) :
    (schema.resolve? name).map Prod.snd = schema.header? name := by
  induction schema with
  | nil => rfl
  | cons header schema ih =>
    rw [resolve?_cons, header?, List.find?_cons]
    by_cases h : header.name = name
    · simp [h]
    · rw [if_neg h, Option.map_map, decide_eq_false h]
      exact ih

/-- Reading a row at the position of a name is looking the name up in the row. -/
theorem bind_resolve? (schema : Schema) (row : Row) (name : String) :
    (schema.resolve? name).bind (fun found => row[found.1]?) = schema.cell? row name := by
  induction schema generalizing row with
  | nil => rfl
  | cons header schema ih =>
    rw [resolve?_cons, cell?]
    cases row with
    | nil =>
      rw [List.zip_nil_right, List.lookup_nil]
      exact Option.bind_eq_none_iff.2 fun _ _ => rfl
    | cons value row =>
      rw [List.map_cons, List.zip_cons_cons, List.lookup_cons]
      by_cases h : header.name = name
      · simp [h]
      · have hne : (name == header.name) = false := by simpa using fun heq => h heq.symm
        rw [if_neg h, hne, Option.bind_map]
        exact ih row

/-- Every resolved position is that of a column. -/
theorem lt_of_resolve? {schema : Schema} {name : String} {found : Nat × ColumnHeader}
    (h : schema.resolve? name = some found) : found.1 < schema.length := by
  unfold resolve? at h
  split at h
  · next position _ =>
    obtain ⟨header, hget, rfl⟩ := Option.map_eq_some_iff.1 h
    exact (List.getElem?_eq_some_iff.1 hget).1
  · simp at h

/-- Among different names, each one finds its own header. -/
theorem header?_of_mem {schema : Schema} (hnodup : (schema.map ColumnHeader.name).Nodup)
    {header : ColumnHeader} (hmem : header ∈ schema) :
    schema.header? header.name = some header := by
  induction schema with
  | nil => simp at hmem
  | cons first schema ih =>
    rw [List.map_cons, List.nodup_cons] at hnodup
    rw [header?, List.find?_cons]
    rcases List.mem_cons.1 hmem with rfl | hmem
    · rw [decide_eq_true rfl]
    · have hne : first.name ≠ header.name := fun heq =>
        hnodup.1 (heq ▸ List.mem_map_of_mem hmem)
      rw [decide_eq_false hne]
      exact ih hnodup.2 hmem

/-- Among different names, all of them together find the whole row. -/
theorem map_cell?_names {schema : Schema} (hnodup : (schema.map ColumnHeader.name).Nodup)
    {row : Row} (hlength : row.length = schema.length) :
    (schema.map fun header => schema.cell? row header.name) = row.map some := by
  induction schema generalizing row with
  | nil =>
    obtain rfl := List.length_eq_zero_iff.1 hlength
    rfl
  | cons first schema ih =>
    cases row with
    | nil => simp at hlength
    | cons value row =>
      rw [List.map_cons, List.nodup_cons] at hnodup
      have hcell : ∀ name, cell? (first :: schema) (value :: row) name =
          if name = first.name then some value else cell? schema row name := by
        intro name
        rw [cell?, List.map_cons, List.zip_cons_cons, List.lookup_cons]
        by_cases h : name = first.name
        · simp [h]
        · rw [if_neg h, beq_eq_false_iff_ne.2 h]
          rfl
      have hothers : ∀ header ∈ schema,
          cell? (first :: schema) (value :: row) header.name = cell? schema row header.name := by
        intro header hheader
        have hne : header.name ≠ first.name := fun heq =>
          hnodup.1 (heq ▸ List.mem_map_of_mem hheader)
        rw [hcell, if_neg hne]
      rw [List.map_cons, List.map_cons, hcell, if_pos rfl, List.map_congr_left hothers,
        ih hnodup.2 (by simpa using hlength)]

end Schema

namespace Database

variable {database : Database} {name : String}

/-- Every table is aligned. -/
def Aligned (database : Database) : Prop :=
  ∀ name table, database.table? name = some table → table.Aligned

theorem aligned_empty : Aligned empty := by
  intro name table h
  simp at h

/-- What holds of all tables still does when one more is filed of which it holds. -/
theorem forall_table?_file {p : String → Table → Prop} {table : Table}
    (h : ∀ other stored, database.table? other = some stored → p other stored)
    (htable : p name table) :
    ∀ other stored, (database.file name table).table? other = some stored → p other stored := by
  intro other stored hstored
  rw [table?_file] at hstored
  split at hstored
  · next heq =>
    obtain rfl := Option.some.inj hstored
    exact heq ▸ htable
  · exact h other stored hstored

/-- Filing an aligned table keeps all tables aligned. -/
theorem Aligned.file (h : database.Aligned) {table : Table} (htable : table.Aligned) :
    (database.file name table).Aligned :=
  forall_table?_file h htable

/-- Filing a table where it already is changes nothing. -/
theorem file_self {table : Table} (h : database.table? name = some table) :
    database.file name table = database := by
  refine ext_table? fun other => ?_
  rw [table?_file]
  split
  · next heq => rw [← heq, h]
  · rfl

/-! ## Creating a table -/

/-- A table is created under a free name, with the declared columns and without rows, or
nothing changes. -/
theorem createTable_cases (database : Database) (name : String)
    (columns : List ColumnDeclaration) :
    (∃ error, createTable name columns database = .error error database) ∨
      ∃ schema, database.table? name = none ∧ schemaOf [] columns = .ok schema ∧
        createTable name columns database = .ok () (database.file name (.new name schema)) := by
  unfold createTable
  cases htable : database.table? name with
  | some table => exact .inl ⟨_, rfl⟩
  | none =>
    cases hschema : schemaOf [] columns with
    | error error => exact .inl ⟨error, rfl⟩
    | ok schema => exact .inr ⟨schema, rfl, rfl, rfl⟩

/-! ## Adding a row -/

/-- A row of the declared types is added to its table. -/
theorem insert_of_row (h : database.Aligned) {table : Table}
    (htable : database.table? name = some table) {values : List Token} {row : Row}
    (hrow : values.mapM Value.ofLiteral = .ok row)
    (htypes : row.map Value.type = table.schema.map ColumnHeader.type) :
    ∃ inserted, inserted.Aligned ∧ inserted.name = table.name ∧
      inserted.schema = table.schema ∧ inserted.rows = table.rows ++ [row] ∧
      insert name values database = .ok () (database.file name inserted) := by
  have hlength : values.length = table.schema.length := by
    have hvalues := congrArg List.length (Traversal.mapM_eq_ok_iff.1 hrow)
    have hschema := congrArg List.length htypes
    rw [List.length_map, List.length_map] at hvalues hschema
    omega
  obtain ⟨inserted, hinsert, haligned, hname, hschema, hrows⟩ :=
    Table.insert_of_types (h name table htable) htypes
  refine ⟨inserted, haligned, hname, hschema, hrows, ?_⟩
  unfold insert
  simp only [htable, if_pos hlength, hrow, hinsert]

/-- A row of the declared types is added to one table, or nothing changes. -/
theorem insert_cases (h : database.Aligned) (name : String) (values : List Token) :
    (∃ error, insert name values database = .error error database) ∨
      ∃ table row inserted, database.table? name = some table ∧
        values.mapM Value.ofLiteral = .ok row ∧
        inserted.Aligned ∧ inserted.name = table.name ∧ inserted.schema = table.schema ∧
        inserted.rows = table.rows ++ [row] ∧
        insert name values database = .ok () (database.file name inserted) := by
  cases htable : database.table? name with
  | none => exact .inl ⟨.tableDoesNotExist name, by simp only [insert, htable]⟩
  | some table =>
    by_cases hlength : values.length = table.schema.length
    · cases hrow : values.mapM Value.ofLiteral with
      | error error => exact .inl ⟨error, by simp only [insert, htable, if_pos hlength, hrow]⟩
      | ok row =>
        by_cases htypes : row.map Value.type = table.schema.map ColumnHeader.type
        · obtain ⟨inserted, haligned, hname, hschema, hrows, hinsert⟩ :=
            insert_of_row h htable hrow htypes
          exact .inr ⟨table, row, inserted, rfl, rfl, haligned, hname, hschema, hrows, hinsert⟩
        · obtain ⟨error, hinsert⟩ := Table.insert_of_not_types (h name table htable) htypes
          refine .inl ⟨error, ?_⟩
          simp only [insert, htable, if_pos hlength, hrow, hinsert, file_self htable]
    · exact .inl ⟨.missingValues table.schema.length values.length, by
        simp only [insert, htable, if_neg hlength]⟩

/-! ## Asking for columns -/

/-- Items resolve exactly if each of them does, in order. -/
theorem resolve_eq_ok_iff {schema : Schema} {items : List Token}
    {found : List (Nat × ColumnHeader)} :
    resolve schema items = .ok found ↔
      (items.map fun item => schema.resolve? item.value) = found.map some := by
  rw [resolve, Traversal.mapM_eq_ok_iff]
  induction items generalizing found with
  | nil => cases found <;> simp
  | cons item items ih =>
    cases found with
    | nil => simp
    | cons entry found =>
      rw [List.map_cons, List.map_cons, List.map_cons, List.map_cons, List.cons.injEq,
        List.cons.injEq, ih]
      cases schema.resolve? item.value <;> simp

/-- Items resolve to positions of columns. -/
theorem lt_of_resolve {schema : Schema} {items : List Token} {found : List (Nat × ColumnHeader)}
    (h : resolve schema items = .ok found) :
    ∀ position ∈ found.map Prod.fst, position < schema.length := by
  intro position hposition
  obtain ⟨entry, hentry, rfl⟩ := List.mem_map.1 hposition
  have hsome : some entry ∈ found.map some := List.mem_map_of_mem hentry
  rw [← resolve_eq_ok_iff.1 h, List.mem_map] at hsome
  obtain ⟨item, -, hitem⟩ := hsome
  exact Schema.lt_of_resolve? hitem

/-- The cells that resolved items read from a row are those under their names. -/
theorem mapM_getElem?_of_resolve {schema : Schema} {items : List Token}
    {found : List (Nat × ColumnHeader)} (h : resolve schema items = .ok found) (row : Row) :
    (found.map Prod.fst).mapM (row[·]?) = items.mapM fun item => schema.cell? row item.value := by
  have hsame : (found.map Prod.fst).map (row[·]?) =
      items.map fun item => schema.cell? row item.value :=
    calc (found.map Prod.fst).map (row[·]?)
        = (found.map some).map fun entry? => entry?.bind fun entry => row[entry.1]? := by
          rw [List.map_map, List.map_map]
          rfl
      _ = items.map fun item => (schema.resolve? item.value).bind fun entry => row[entry.1]? := by
          rw [← resolve_eq_ok_iff.1 h, List.map_map]
          rfl
      _ = items.map fun item => schema.cell? row item.value :=
          List.map_congr_left fun item _ => schema.bind_resolve? row item.value
  refine Option.ext fun cells => ?_
  rw [Traversal.mapM_eq_some_iff, Traversal.mapM_eq_some_iff, hsame]

/-- What resolved items read from a table: the headers under their names, and from every
row the cells under their names. -/
theorem select_of_resolve (h : database.Aligned) {table : Table}
    (htable : database.table? name = some table) {items : List Token}
    {found : List (Nat × ColumnHeader)} (hfound : resolve table.schema items = .ok found) :
    ∃ result, database.select name items = .ok result ∧
      result.columns.map some = items.map (fun item => table.schema.header? item.value) ∧
      result.rows.map some =
        table.rows.map fun row => items.mapM fun item => table.schema.cell? row item.value := by
  have hmap := resolve_eq_ok_iff.1 hfound
  obtain ⟨projected, hproject, hrows⟩ :=
    Table.project?_eq (h name table htable) (lt_of_resolve hfound)
  refine ⟨⟨found.map Prod.snd, projected⟩, ?_, ?_, ?_⟩
  · simp only [select, htable, hfound, hproject, Option.getD_some]
  · have hheaders := congrArg (List.map (Option.map Prod.snd)) hmap
    rw [List.map_map, List.map_map] at hheaders
    show (found.map Prod.snd).map some = _
    rw [List.map_map]
    refine Eq.trans hheaders.symm (List.map_congr_left fun item _ => ?_)
    exact table.schema.map_snd_resolve? item.value
  · show projected.map some = _
    rw [hrows]
    exact List.map_congr_left fun row _ => mapM_getElem?_of_resolve hfound row

/-- **The answer to a question about an aligned table.**  It has the declared columns under
the requested names, and the cells under these names of every row of the table, in
order. -/
theorem select_eq_ok_iff (h : database.Aligned) {table : Table}
    (htable : database.table? name = some table) {items : List Token} {result : ResultSet} :
    database.select name items = .ok result ↔
      result.columns.map some = items.map (fun item => table.schema.header? item.value) ∧
      result.rows.map some =
        table.rows.map fun row => items.mapM fun item => table.schema.cell? row item.value := by
  have hinj : ∀ {α : Type}, Function.Injective (List.map (some : α → Option α)) :=
    fun {α} => List.map_injective_iff.2 (Option.some_injective α)
  constructor
  · intro hselect
    cases hfound : resolve table.schema items with
    | error error => simp [select, htable, hfound] at hselect
    | ok found =>
      obtain ⟨result', hselect', hcolumns, hrows⟩ := select_of_resolve h htable hfound
      obtain rfl : result = result' := Except.ok.inj (hselect.symm.trans hselect')
      exact ⟨hcolumns, hrows⟩
  · rintro ⟨hcolumns, hrows⟩
    have hresolves : ∀ item ∈ items, ∃ entry, table.schema.resolve? item.value = some entry := by
      intro item hitem
      have hmem : table.schema.header? item.value ∈ result.columns.map some := by
        rw [hcolumns]
        exact List.mem_map_of_mem hitem
      obtain ⟨header, -, hheader⟩ := List.mem_map.1 hmem
      rw [← Schema.map_snd_resolve?, eq_comm, Option.map_eq_some_iff] at hheader
      obtain ⟨entry, hentry, -⟩ := hheader
      exact ⟨entry, hentry⟩
    obtain ⟨found, hfound⟩ := Traversal.exists_mapM_eq_some hresolves
    rw [Traversal.mapM_eq_some_iff, ← resolve_eq_ok_iff] at hfound
    obtain ⟨result', hselect, hcolumns', hrows'⟩ := select_of_resolve h htable hfound
    have hsame : result = result' := by
      cases result
      cases result'
      exact congrArg₂ ResultSet.mk (hinj (hcolumns.trans hcolumns'.symm))
        (hinj (hrows.trans hrows'.symm))
    rw [hsame, hselect]

/-! ## Statements -/

/-- The answer to a statement. -/
def reply (database : Database) (statement : Statement) : Except ExecutionError Outcome :=
  match execute statement database with
  | .error error _ => .error error
  | .ok outcome _ => .ok outcome

/-- The database that a statement leaves behind. -/
def after (database : Database) (statement : Statement) : Database :=
  match execute statement database with
  | .error _ database => database
  | .ok _ database => database

/-- What a statement can do to a database: which answer comes with which database.  A
refusal leaves everything as it was. -/
inductive Effect (database : Database) :
    Statement → Except ExecutionError Outcome → Database → Prop
  | refused {statement : Statement} {error : ExecutionError} :
      Effect database statement (.error error) database
  | created {table : Token} {columns : List ColumnDeclaration} {schema : Schema}
      (free : database.table? table.value = none)
      (declared : schemaOf [] columns = .ok schema) :
      Effect database (.createTable table columns) (.ok .created)
        (database.file table.value (.new table.value schema))
  | inserted {table : Token} {values : List Token} {stored grown : Table} {row : Row}
      (there : database.table? table.value = some stored)
      (literals : values.mapM Value.ofLiteral = .ok row) (aligned : grown.Aligned)
      (name : grown.name = stored.name) (schema : grown.schema = stored.schema)
      (rows : grown.rows = stored.rows ++ [row]) :
      Effect database (.insert table values) (.ok .inserted)
        (database.file table.value grown)
  | selected {items : List Token} {table : Token} {result : ResultSet}
      (answer : database.select table.value items = .ok result) :
      Effect database (.select items table) (.ok (.selected result)) database

/-- **What a statement does** to a database with aligned tables. -/
theorem effect (h : database.Aligned) (statement : Statement) :
    Effect database statement (database.reply statement) (database.after statement) := by
  cases statement with
  | select items table =>
    cases hselect : database.select table.value items with
    | error error =>
      simp only [reply, after, execute, hselect]
      exact .refused
    | ok result =>
      simp only [reply, after, execute, hselect]
      exact .selected hselect
  | insert table values =>
    rcases insert_cases h table.value values with ⟨error, hinsert⟩ |
      ⟨stored, row, grown, hthere, hliterals, haligned, hname, hschema, hrows, hinsert⟩
    · simp only [reply, after, execute, hinsert]
      exact .refused
    · simp only [reply, after, execute, hinsert]
      exact .inserted hthere hliterals haligned hname hschema hrows
  | createTable name columns =>
    rcases createTable_cases database name.value columns with ⟨error, hcreate⟩ |
      ⟨schema, hfree, hdeclared, hcreate⟩
    · simp only [reply, after, execute, hcreate]
      exact .refused
    · simp only [reply, after, execute, hcreate]
      exact .created hfree hdeclared

/-- Every statement keeps all tables aligned. -/
theorem Aligned.after (h : database.Aligned) (statement : Statement) :
    (database.after statement).Aligned := by
  have heffect := effect h statement
  generalize database.reply statement = answer, database.after statement = left at heffect
  cases heffect with
  | refused => exact h
  | created => exact h.file (Table.aligned_new _ _)
  | inserted _ _ aligned => exact h.file aligned
  | selected => exact h

/-! ## Runs -/

/-- A run that goes on after failures asks for one reply after another. -/
theorem executeEach_cons (database : Database) (statement : Statement)
    (statements : List Statement) :
    database.executeEach (statement :: statements) =
      (database.reply statement :: ((database.after statement).executeEach statements).1,
        ((database.after statement).executeEach statements).2) := by
  rw [executeEach, reply, after]
  cases execute statement database <;> rfl

/-- Every statement is answered. -/
theorem length_executeEach (database : Database) (statements : List Statement) :
    (database.executeEach statements).1.length = statements.length := by
  induction statements generalizing database with
  | nil => rfl
  | cons statement statements ih =>
    rw [executeEach_cons, List.length_cons, List.length_cons, ih]

end Database
end ColumnarSql
