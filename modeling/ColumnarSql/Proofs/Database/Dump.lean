import ColumnarSql.Proofs.Database.Effect
import ColumnarSql.Proofs.Database.Script
import ColumnarSql.Proofs.Grammar.Writing

/-!
# Dump and restore

A `Dump` is a list of tables with their rows, and its script creates each table and adds
its rows one by one.  The script restores the dump: run on the empty database, it leaves
exactly the tables of the dump behind, and asking for all columns of one of them gives its
rows back (`Dump.run_script_restores`).

Names and texts may be any texts at all.  Integers are not negative, because a literal has
no sign; rows have the types of their columns, and names are distinct, because the database
would refuse anything else.  A `Content` and a `Dump` carry these conditions with them, so
each statement of the script can be written, and is accepted where it stands:

* `Content.writable_of_mem`: the statements can be written, so the script is read as them;
* `Content.restore_rows`: the rows of a table are added one behind another;
* `Content.restore_table` and `Dump.restore_tables`: the tables come one behind another,
  and none of them touches another.
-/

namespace ColumnarSql

/-! ## Literals -/

namespace Text.Numeral

/-- The numeral of an integer that is not negative is digits. -/
theorem ofInt64_of_nonneg {n : Int64} (h : 0 ≤ n) :
    ofInt64 n = String.ofList (Nat.toDigits 10 n.toInt.toNat) := by
  have hn : 0 ≤ n.toInt := Int64.le_iff_toInt_le.1 h
  obtain ⟨m, hm⟩ := Int.eq_ofNat_of_zero_le hn
  rw [ofInt64, hm]
  show Nat.repr m = _
  rw [Nat.repr_eq_ofList_toDigits]
  rfl

/-- Digits without a sign are read as the number that they denote. -/
theorem toInt?_of_allDigits {digits : List Char} (hne : digits ≠ [])
    (hdigits : Number.AllDigits digits) :
    toInt? digits = some (Int.ofNat (Nat.ofDigitChars 10 digits 0)) := by
  have hread : toNat? digits = some (Nat.ofDigitChars 10 digits 0) :=
    if_pos ⟨hne, List.all_eq_true.2 hdigits⟩
  unfold toInt?
  split
  · exact absurd (hdigits '+' List.mem_cons_self) (by decide)
  · exact absurd (hdigits '-' List.mem_cons_self) (by decide)
  · rw [hread, Option.map_some]

/-- The digits of a number are read as the number. -/
theorem toInt?_toDigits (m : Nat) : toInt? (Nat.toDigits 10 m) = some (Int.ofNat m) := by
  rw [toInt?_of_allDigits Nat.toDigits_ne_nil fun c hc =>
    Nat.isDigit_of_mem_toDigits (by decide) (by decide) hc,
    Nat.ofDigitChars_toDigits (by decide) (by decide)]

/-- The numeral of an integer that is not negative reads back. -/
theorem toInt64?_ofInt64 {n : Int64} (h : 0 ≤ n) : toInt64? (ofInt64 n).toList = some n := by
  have hn : 0 ≤ n.toInt := Int64.le_iff_toInt_le.1 h
  rw [toInt64?_eq_some_iff, ofInt64_of_nonneg h, String.toList_ofList, toInt?_toDigits]
  exact congrArg some (Int.toNat_of_nonneg hn)

end Text.Numeral

/-- The word for a type. -/
def DataType.word : DataType → Keyword
  | int => .INT
  | text => .TEXT

theorem DataType.ofToken?_word (type : DataType) : ofToken? (.word type.word) = some type := by
  cases type <;> decide +kernel

/-- The declaration of a column. -/
def ColumnHeader.declaration (header : ColumnHeader) : ColumnDeclaration :=
  ⟨.name header.name, .word header.type.word⟩

namespace Value

/-- The literal of a value. -/
def literal : Value → Token
  | int n => ⟨.number, Text.Numeral.ofInt64 n, .start⟩
  | text s => ⟨.string, s, .start⟩

/-- A value that has a literal: any text, and any integer that is not negative. -/
def IsLiteral : Value → Prop
  | int n => 0 ≤ n
  | text _ => True

instance : DecidablePred IsLiteral
  | int n => inferInstanceAs (Decidable (0 ≤ n))
  | text _ => inferInstanceAs (Decidable True)

/-- The literal of a value stands for it. -/
theorem ofLiteral_literal {value : Value} (h : value.IsLiteral) :
    ofLiteral value.literal = .ok value := by
  cases value with
  | int n => simp only [ofLiteral, literal, Text.Numeral.toInt64?_ofInt64 h]
  | text s => rfl

theorem writable_literal {value : Value} (h : value.IsLiteral) : value.literal.Writable := by
  cases value with
  | int n =>
    rw [literal, Text.Numeral.ofInt64_of_nonneg h]
    exact .numeral Nat.toDigits_ne_nil fun c hc =>
      Nat.isDigit_of_mem_toDigits (by decide) (by decide) hc
  | text s => exact .text s

end Value

/-! ## What is dumped -/

/-- What a table contains. -/
structure Content where
  name : String
  columns : Schema
  rows : List Row
  columns_ne_nil : columns ≠ []
  nodup_columns : (columns.map ColumnHeader.name).Nodup
  types : ∀ row ∈ rows, row.map Value.type = columns.map ColumnHeader.type
  literals : ∀ row ∈ rows, ∀ value ∈ row, value.IsLiteral

/-- Tables with different names. -/
structure Dump where
  contents : List Content
  contents_ne_nil : contents ≠ []
  nodup_names : (contents.map Content.name).Nodup

namespace Content

/-- The statement that creates the table. -/
def creation (content : Content) : Statement :=
  .createTable (.name content.name) (content.columns.map ColumnHeader.declaration)

/-- The statement that adds a row. -/
def addition (content : Content) (row : Row) : Statement :=
  .insert (.name content.name) (row.map Value.literal)

/-- The statement that asks for all columns. -/
def question (content : Content) : Statement :=
  .select (content.columns.map fun header => .name header.name) (.name content.name)

/-- The statements that restore the table. -/
def statements (content : Content) : List Statement :=
  content.creation :: content.rows.map content.addition

/-- What these statements do. -/
def outcomes (content : Content) : List Outcome :=
  .created :: content.rows.map fun _ => .inserted

/-- All that is written can be written. -/
theorem writable_of_mem {content : Content} {statement : Statement}
    (h : statement ∈ content.question :: content.statements) : statement.Writable := by
  rcases List.mem_cons.1 h with rfl | h
  · refine .select (by simpa using content.columns_ne_nil) fun item hitem => ?_
    obtain ⟨header, -, rfl⟩ := List.mem_map.1 hitem
    exact .name header.name
  · rcases List.mem_cons.1 h with rfl | h
    · refine .createTable (by simpa using content.columns_ne_nil) fun column hcolumn => ?_
      obtain ⟨header, -, rfl⟩ := List.mem_map.1 hcolumn
      exact .column header.name header.type.word
    · obtain ⟨row, hrow, rfl⟩ := List.mem_map.1 h
      have hne : row ≠ [] := by
        rintro rfl
        have := content.types [] hrow
        exact content.columns_ne_nil (by simpa using this.symm)
      refine .insert (by simpa using hne) fun value hvalue => ?_
      obtain ⟨value, hmem, rfl⟩ := List.mem_map.1 hvalue
      exact Value.writable_literal (content.literals row hrow value hmem)

end Content

/-! ## Executing the statements -/

namespace Database

variable {database : Database}

/-- A database has a table with some columns and rows. -/
def Has (database : Database) (name : String) (columns : Schema) (rows : List Row) : Prop :=
  ∃ table, database.table? name = some table ∧ table.name = name ∧ table.schema = columns ∧
    table.rows = rows

/-- **What restoring a table keeps.**  The table has some columns and rows, and the other
tables are as they were. -/
structure Restored (database : Database) (name : String) (columns : Schema) (rows : List Row)
    (left : Database) : Prop where
  aligned : left.Aligned
  has : left.Has name columns rows
  others : ∀ other, name ≠ other → left.table? other = database.table? other

theorem Restored.trans {database between left : Database} {name : String} {columns : Schema}
    {rows rows' : List Row} (hfirst : database.Restored name columns rows between)
    (hthen : between.Restored name columns rows' left) :
    database.Restored name columns rows' left where
  aligned := hthen.aligned
  has := hthen.has
  others other hother := by rw [hthen.others other hother, hfirst.others other hother]

/-- Columns with different names are a schema. -/
theorem schemaOf_columns {columns : Schema} {seen : List String}
    (hnodup : (columns.map ColumnHeader.name).Nodup)
    (hseen : ∀ header ∈ columns, header.name ∉ seen) :
    schemaOf seen (columns.map ColumnHeader.declaration) = .ok columns := by
  induction columns generalizing seen with
  | nil => rfl
  | cons header columns ih =>
    rw [List.map_cons, List.nodup_cons] at hnodup
    have hheader : header.declaration.name.value ∉ seen := hseen header List.mem_cons_self
    have htype : DataType.ofToken? header.declaration.type = some header.type :=
      DataType.ofToken?_word header.type
    have hrest := @ih (header.name :: seen) hnodup.2 (by
      intro other hother hmem
      rcases List.mem_cons.1 hmem with heq | hmem
      · exact hnodup.1 (heq ▸ List.mem_map_of_mem hother)
      · exact hseen other (List.mem_cons_of_mem _ hother) hmem)
    rw [List.map_cons, schemaOf, if_neg hheader]
    simp only [htype]
    show (schemaOf (header.name :: seen) _).map _ = _
    rw [hrest]
    rfl

theorem mapM_ofLiteral {row : Row} (h : ∀ value ∈ row, value.IsLiteral) :
    (row.map Value.literal).mapM Value.ofLiteral = .ok row := by
  rw [Traversal.mapM_eq_ok_iff, List.map_map]
  exact List.map_congr_left fun value hvalue => Value.ofLiteral_literal (h value hvalue)

/-- Asking for all columns of a table, each of which has its own name, gives its rows. -/
theorem select_all (haligned : database.Aligned) {name : String} {table : Table}
    (htable : database.table? name = some table)
    (hnodup : (table.schema.map ColumnHeader.name).Nodup) :
    database.select name (table.schema.map fun header => .name header.name) =
      .ok ⟨table.schema, table.rows⟩ := by
  refine (select_eq_ok_iff haligned htable).2 ⟨?_, ?_⟩
  · rw [List.map_map]
    exact List.map_congr_left fun header hheader => (Schema.header?_of_mem hnodup hheader).symm
  · refine List.map_congr_left fun row hrow => ?_
    refine (Traversal.mapM_eq_some_iff.2 ?_).symm
    rw [List.map_map]
    exact Schema.map_cell?_names hnodup (Table.length_of_mem_rows (haligned name table htable) hrow)

end Database

namespace Content

open Database

variable {content : Content} {database : Database}

/-- Under a free name the table is created without rows. -/
theorem restore_creation (haligned : database.Aligned)
    (hfree : database.table? content.name = none) :
    ∃ left, execute content.creation database = .ok .created left ∧
      database.Restored content.name content.columns [] left := by
  have hschema : schemaOf [] (content.columns.map ColumnHeader.declaration) =
      .ok content.columns :=
    schemaOf_columns content.nodup_columns fun _ _ => List.not_mem_nil
  have hcreate : createTable content.name (content.columns.map ColumnHeader.declaration) database =
      .ok () (database.file content.name (.new content.name content.columns)) := by
    simp only [createTable, hfree, hschema]
  refine ⟨database.file content.name (.new content.name content.columns),
    execute_createTable_of_ok hcreate, haligned.file (Table.aligned_new _ _), ?_, ?_⟩
  · refine ⟨.new content.name content.columns, ?_, rfl, rfl, rfl⟩
    rw [table?_file, if_pos rfl]
  · intro other hother
    rw [table?_file, if_neg hother]

/-- A row of the declared types is added behind the others. -/
theorem restore_addition (haligned : database.Aligned) {before : List Row}
    (hhas : database.Has content.name content.columns before) {row : Row}
    (hrow : row ∈ content.rows) :
    ∃ left, execute (content.addition row) database = .ok .inserted left ∧
      database.Restored content.name content.columns (before ++ [row]) left := by
  obtain ⟨table, htable, hname, hschema, hrows⟩ := hhas
  have htypes : row.map Value.type = table.schema.map ColumnHeader.type := by
    rw [hschema]
    exact content.types row hrow
  obtain ⟨grown, hgrown, hname', hschema', hrows', hinsert⟩ :=
    insert_of_row haligned htable (mapM_ofLiteral (content.literals row hrow)) htypes
  refine ⟨database.file content.name grown, execute_insert_of_ok hinsert,
    haligned.file hgrown, ?_, ?_⟩
  · refine ⟨grown, ?_, hname'.trans hname, hschema'.trans hschema, ?_⟩
    · rw [table?_file, if_pos rfl]
    · rw [hrows', hrows]
  · intro other hother
    rw [table?_file, if_neg hother]

/-- **The rows are added one behind another.** -/
theorem restore_rows (haligned : database.Aligned) {before rows : List Row}
    (hhas : database.Has content.name content.columns before)
    (hrows : ∀ row ∈ rows, row ∈ content.rows) :
    ∃ left, executeAll (rows.map content.addition) database =
        .ok (rows.map fun _ => .inserted) left ∧
      database.Restored content.name content.columns (before ++ rows) left := by
  induction rows generalizing database before with
  | nil =>
    refine ⟨database, rfl, haligned, ?_, fun _ _ => rfl⟩
    rw [List.append_nil]
    exact hhas
  | cons row rows ih =>
    obtain ⟨between, hexecute, hrow⟩ :=
      restore_addition haligned hhas (hrows row List.mem_cons_self)
    obtain ⟨left, hall, hothers⟩ :=
      ih hrow.aligned hrow.has fun other hother => hrows other (List.mem_cons_of_mem _ hother)
    rw [List.append_assoc, List.singleton_append] at hothers
    exact ⟨left, executeAll_cons_of_ok hexecute hall, hrow.trans hothers⟩

/-- **One table is restored**, and the others are as they were. -/
theorem restore_table (haligned : database.Aligned)
    (hfree : database.table? content.name = none) :
    ∃ left, executeAll content.statements database = .ok content.outcomes left ∧
      database.Restored content.name content.columns content.rows left := by
  obtain ⟨between, hexecute, hcreation⟩ := restore_creation haligned hfree
  obtain ⟨left, hall, hrows⟩ :=
    restore_rows hcreation.aligned hcreation.has fun _ hrow => hrow
  exact ⟨left, executeAll_cons_of_ok hexecute hall, hcreation.trans hrows⟩

/-- **The rows come back** when all columns are asked for. -/
theorem execute_question (haligned : database.Aligned)
    (hhas : database.Has content.name content.columns content.rows) :
    execute content.question database =
      .ok (.selected ⟨content.columns, content.rows⟩) database := by
  obtain ⟨table, htable, -, hschema, hrows⟩ := hhas
  have hnodup : (table.schema.map ColumnHeader.name).Nodup := hschema ▸ content.nodup_columns
  have hselect := select_all haligned htable hnodup
  rw [hschema, hrows] at hselect
  exact execute_select_of_ok hselect

end Content

/-! ## The whole dump -/

namespace Dump

open Database

/-- The statements that restore the tables. -/
def statements (dump : Dump) : List Statement :=
  dump.contents.flatMap Content.statements

/-- What these statements do. -/
def outcomes (dump : Dump) : List Outcome :=
  dump.contents.flatMap Content.outcomes

/-- The script that restores the tables. -/
def script (dump : Dump) (layout : Layout) : String :=
  layout.script dump.statements

/-- **The tables are restored one behind another.** -/
theorem restore_tables {contents : List Content} {database : Database}
    (haligned : database.Aligned) (hnodup : (contents.map Content.name).Nodup)
    (hfree : ∀ content ∈ contents, database.table? content.name = none) :
    ∃ left, executeAll (contents.flatMap Content.statements) database =
        .ok (contents.flatMap Content.outcomes) left ∧ left.Aligned ∧
      (∀ content ∈ contents, left.Has content.name content.columns content.rows) ∧
      ∀ other, other ∉ contents.map Content.name → left.table? other = database.table? other := by
  induction contents generalizing database with
  | nil => exact ⟨database, rfl, haligned, by simp, fun _ _ => rfl⟩
  | cons content contents ih =>
    rw [List.map_cons, List.nodup_cons] at hnodup
    obtain ⟨between, htable, hrestored⟩ :=
      Content.restore_table haligned (hfree content List.mem_cons_self)
    have hne : ∀ other ∈ contents, content.name ≠ other.name := fun other hother heq =>
      hnodup.1 (heq ▸ List.mem_map_of_mem hother)
    obtain ⟨left, htables, haligned', hhas, hothers⟩ := ih hrestored.aligned hnodup.2 (by
      intro other hother
      rw [hrestored.others other.name (hne other hother)]
      exact hfree other (List.mem_cons_of_mem _ hother))
    refine ⟨left, ?_, haligned', ?_, ?_⟩
    · rw [List.flatMap_cons, executeAll_append htable, htables]
      rfl
    · intro other hother
      rcases List.mem_cons.1 hother with rfl | hother
      · obtain ⟨table, hthere, hstored⟩ := hrestored.has
        refine ⟨table, ?_, hstored⟩
        rw [hothers other.name hnodup.1]
        exact hthere
      · exact hhas other hother
    · intro other hother
      rw [List.map_cons, List.mem_cons, not_or] at hother
      rw [hothers other hother.2, hrestored.others other (Ne.symm hother.1)]

theorem statements_ne_nil (dump : Dump) : dump.statements ≠ [] := by
  intro hnil
  have hcontents := dump.contents_ne_nil
  rw [statements, List.flatMap_eq_nil_iff] at hnil
  obtain ⟨content, hcontent⟩ := List.exists_mem_of_ne_nil _ hcontents
  exact absurd (hnil content hcontent) (List.cons_ne_nil _ _)

/-- **Dump and restore.**  The script of a dump, run on the empty database, creates each
table and adds each row.  It leaves exactly the tables of the dump behind, with their
columns and rows; and the script that asks for all columns of one of them answers with its
columns and rows. -/
theorem run_script_restores (dump : Dump) (layout : Layout) :
    ∃ database, run (dump.script layout) .empty = .ok dump.outcomes database ∧
      (∀ content ∈ dump.contents, database.Has content.name content.columns content.rows) ∧
      (∀ name, name ∉ dump.contents.map Content.name → database.table? name = none) ∧
      ∀ content ∈ dump.contents, ∀ layout : Layout,
        run (layout.script [content.question]) database =
          .ok [.selected ⟨content.columns, content.rows⟩] database := by
  have hwritable : ∀ statement ∈ dump.statements, statement.Writable := by
    intro statement hstatement
    obtain ⟨content, -, hmem⟩ := List.mem_flatMap.1 hstatement
    exact Content.writable_of_mem (List.mem_cons_of_mem _ hmem)
  obtain ⟨database, hall, haligned, hhas, hothers⟩ :=
    restore_tables aligned_empty dump.nodup_names fun content _ => table?_empty content.name
  refine ⟨database, ?_, hhas, ?_, ?_⟩
  · rw [script, run_of_lexes (layout.lexes_script hwritable)
      (Grammar.parse_blocks dump.statements_ne_nil hwritable), statements, hall, outcomes]
  · intro name hname
    rw [hothers name hname, table?_empty]
  · intro content hcontent layout
    have hquestion : ∀ statement ∈ [content.question], statement.Writable := by
      intro statement hstatement
      obtain rfl := List.mem_singleton.1 hstatement
      exact Content.writable_of_mem List.mem_cons_self
    have hanswer : executeAll [content.question] database =
        .ok [.selected ⟨content.columns, content.rows⟩] database :=
      executeAll_cons_of_ok (Content.execute_question haligned (hhas content hcontent)) rfl
    rw [run_of_lexes (layout.lexes_script hquestion)
      (Grammar.parse_blocks (List.cons_ne_nil _ _) hquestion), hanswer]

/-- A table whose name, columns and texts look like the end of a statement, with a row for
the least and the greatest integer, and a table without rows. -/
def sampleDump : Dump where
  contents :=
    [⟨"a\"); ", [⟨"select", .text⟩, ⟨"", .int⟩],
        [[.text "'", .int 0], [.text "');\n", .int 9223372036854775807]],
        by decide, by decide, by decide, by decide⟩,
      ⟨"b", [⟨"n", .int⟩], [], by decide, by decide, by decide, by decide⟩]
  contents_ne_nil := by decide
  nodup_names := by decide

/-- The script of the sample dump, and what it restores. -/
theorem run_script_restores_sampleDump :
    sampleDump.script .plain =
        "CREATE TABLE \"a\"\"); \" (\"select\" TEXT, \"\" INT);\n" ++
        "INSERT INTO \"a\"\"); \" VALUES ('''', 0);\n" ++
        "INSERT INTO \"a\"\"); \" VALUES (''');\n', 9223372036854775807);\n" ++
        "CREATE TABLE \"b\" (\"n\" INT);\n" ∧
      ∃ database, run (sampleDump.script .plain) .empty =
          .ok [.created, .inserted, .inserted, .created] database ∧
        (∀ name, name ∉ ["a\"); ", "b"] → database.table? name = none) ∧
        ∀ content ∈ sampleDump.contents,
          run (Layout.plain.script [content.question]) database =
            .ok [.selected ⟨content.columns, content.rows⟩] database := by
  obtain ⟨database, hrun, -, hnone, hquestions⟩ := run_script_restores sampleDump .plain
  exact ⟨by decide +kernel, database, hrun, hnone,
    fun content hcontent => hquestions content hcontent .plain⟩

end Dump
end ColumnarSql
