import ColumnarSql.Proofs.Database.Representation

/-!
# What is stored stays, and only grows

No statement removes a table, changes its columns or touches a row that is there.  So between two
points of a run, however far apart, a table changes in one way only: rows stand behind those it had.
This is `Table.GrownBy`, and everything that is read from the table follows from it: a row by its
position (`Table.GrownBy.row?`), the number of rows (`Table.GrownBy.rowCount`), and the answer to a
question, which has more rows behind the old ones (`Database.select_of_grown`).

Which rows they are is told by the trace of the calls in between (`Database.trace`), not by their
answers: a script that fails has added the rows before the failure, and its answer does not mention
them.  `History.Agrees.grown` compares two databases that agree with two traces, one the beginning
of the other; the induction over the calls has been done for the agreement and is not repeated
here.

The statement for calls of any kind is `Database.stored_data_only_grows`.
-/

namespace ColumnarSql

open History

/-! ## Tables with more rows -/

namespace Table

variable {table later : Table} {added : List Row}

/-- **A table that has grown** by some rows: they stand behind the rows it had, and nothing else
has changed. -/
structure GrownBy (table : Table) (added : List Row) (later : Table) : Prop where
  name : later.name = table.name
  schema : later.schema = table.schema
  rows : later.rows = table.rows ++ added

/-- A row that was there is still at its position. -/
theorem GrownBy.row? (h : table.GrownBy added later) (htable : table.Aligned)
    (hlater : later.Aligned) {position : Nat} (hposition : position < table.rowCount) :
    ∃ row, table.row? position = some row ∧ later.row? position = some row := by
  have hlength : position < table.rows.length := by rwa [length_rows htable]
  refine ⟨table.rows[position], ?_, ?_⟩
  · rw [row?_eq_getElem?_rows htable, List.getElem?_eq_getElem hlength]
  · rw [row?_eq_getElem?_rows hlater, h.rows, List.getElem?_append_left hlength,
      List.getElem?_eq_getElem hlength]

/-- The number of rows has grown by those that were added. -/
theorem GrownBy.rowCount (h : table.GrownBy added later) (htable : table.Aligned)
    (hlater : later.Aligned) : later.rowCount = table.rowCount + added.length := by
  rw [← length_rows htable, ← length_rows hlater, h.rows, List.length_append]

end Table

namespace Database

variable {database later : Database} {name : String} {table grown : Table} {added : List Row}

/-- **A question about a table that has grown** is answered as before, with more rows behind the old
ones. -/
theorem select_of_grown (h : database.Aligned) (hlater : later.Aligned)
    (htable : database.table? name = some table) (hgrown : later.table? name = some grown)
    (hgrows : table.GrownBy added grown) {items : List Token} {result : ResultSet}
    (hselect : database.select name items = .ok result) :
    ∃ rows, later.select name items = .ok ⟨result.columns, result.rows ++ rows⟩ := by
  cases hfound : resolve table.schema items with
  | error error => simp [select, htable, hfound] at hselect
  | ok found =>
    obtain ⟨hcolumns, hrows⟩ := (select_eq_ok_iff h htable).1 hselect
    obtain ⟨result', hselect', hcolumns', hrows'⟩ :=
      select_of_resolve hlater hgrown (hgrows.schema ▸ hfound)
    rw [hgrows.schema] at hcolumns' hrows'
    rw [hgrows.rows, List.map_append, ← hrows] at hrows'
    obtain ⟨rows, hrows', -⟩ := Traversal.exists_append_of_map_some hrows'
    have hsame : result'.columns = result.columns :=
      List.map_injective_iff.2 (Option.some_injective _) (hcolumns'.trans hcolumns.symm)
    exact ⟨rows, by rw [hselect', ← hsame, ← hrows']⟩

/-- A question is a statement that changes nothing. -/
theorem reply_select_eq_ok_iff {items : List Token} {name : Token} {result : ResultSet} :
    database.reply (.select items name) = .ok (.selected result) ↔
      database.select name.value items = .ok result := by
  rw [reply]
  cases hselect : database.select name.value items <;> simp [execute, hselect]

/-- A table is not created a second time. -/
theorem reply_createTable_of_table? {name : Token} (columns : List ColumnDeclaration)
    (htable : database.table? name.value = some table) :
    database.reply (.createTable name columns) = .error (.tableAlreadyExists name.value) := by
  simp only [reply, execute, createTable, htable]

end Database

/-! ## Between two points of a trace -/

namespace History

variable {database later : Database} {past more : List Event} {name : String} {table : Table}

/-- A table that a past tells of is there, with its columns, after more events. -/
theorem Agrees.exists_table? (h : Agrees database past) (hlater : Agrees later (past ++ more))
    (htable : database.table? name = some table) :
    ∃ grown, later.table? name = some grown ∧ grown.schema = table.schema := by
  have hschema := h.schema name
  have hschema' := hlater.schema name
  rw [schema?_append, ← hschema, htable, Option.map_some, Option.some_or] at hschema'
  exact Option.map_eq_some_iff.1 hschema'

/-- **A table grows by the rows that the events in between have added.** -/
theorem Agrees.grown (h : Agrees database past) (hlater : Agrees later (past ++ more))
    (hfiled : database.WellFormed) (hfiled' : later.WellFormed)
    (htable : database.table? name = some table) :
    ∃ grown added, later.table? name = some grown ∧ table.GrownBy added grown ∧
      added.map some = (additions name more).map values? := by
  obtain ⟨grown, hgrown, hschema⟩ := h.exists_table? hlater htable
  have hrows := h.rows name
  have hrows' := hlater.rows name
  rw [htable, Option.elim_some] at hrows
  rw [hgrown, Option.elim_some, additions_append, List.map_append, ← hrows] at hrows'
  obtain ⟨added, hadded, hvalues⟩ := Traversal.exists_append_of_map_some hrows'
  have hname : grown.name = table.name :=
    (hfiled' name grown hgrown).1.trans (hfiled name table htable).1.symm
  exact ⟨grown, added, hgrown, ⟨hname, hschema, hadded⟩, hvalues⟩

end History

/-! ## Calls -/

namespace Database

variable {database : Database} {name : String} {table : Table}

/-- Calls lead from a reachable database to a reachable one. -/
theorem Reachable.afterCalls (h : Reachable database) (calls : List Call) :
    Reachable (database.afterCalls calls) := by
  obtain ⟨before, rfl⟩ := h
  exact ⟨before ++ calls, List.foldl_append⟩

/-- A reachable database agrees with some past. -/
theorem Reachable.exists_agrees (h : Reachable database) : ∃ past, Agrees database past := by
  obtain ⟨calls, rfl⟩ := h
  exact ⟨empty.trace calls, agrees_afterCalls agrees_empty calls⟩

/-- While a table is there, a text that creates it again is refused at this place. -/
theorem answerOf_run_of_creation (h : Reachable database)
    (htable : database.table? name = some table) {source : String} {created : Token}
    {columns : List ColumnDeclaration} {answer : Except ExecutionError Outcome}
    (hname : created.value = name)
    (hevent : (.createTable created columns, answer) ∈ database.eventsOf (.run source)) :
    answerOf (run source database) = .error (.execution (.tableAlreadyExists name)) := by
  obtain ⟨past, hpast⟩ := h.exists_agrees
  have htrace : (.createTable created columns, answer) ∈ database.trace [.run source] :=
    List.mem_append_left _ hevent
  obtain ⟨reached, before, hreached, hreply⟩ := exists_agrees_of_mem_trace hpast htrace
  obtain ⟨grown, hgrown, -⟩ := hpast.exists_table? hreached htable
  subst hname
  obtain rfl : answer = .error (.tableAlreadyExists created.value) :=
    hreply.trans (reply_createTable_of_table? columns hgrown)
  exact answerOf_run_of_mem hevent

/-- **What is stored stays, and only grows.**  Let there be a table in a reachable database, and let
any calls follow, whatever they answer.  Then the table is still there with its name and its
columns; every row is still at its position; and there are as many rows more as the calls have
executed statements that added one, in scripts that failed later too.  Whatever creates the table
again is refused, as a statement of its own or in a text.  And a question that was answered is
answered under the same columns, with the rows it had first. -/
theorem stored_data_only_grows (h : Reachable database) (calls : List Call)
    (htable : database.table? name = some table) :
    ∃ later, (database.afterCalls calls).table? name = some later ∧
      later.name = table.name ∧ later.schema = table.schema ∧
      (∀ position < table.rowCount,
        ∃ row, table.row? position = some row ∧ later.row? position = some row) ∧
      later.rowCount = table.rowCount + (additions name (database.trace calls)).length ∧
      (∀ created columns, created.value = name →
        answerOf (execute (.createTable created columns) (database.afterCalls calls)) =
          .error (.tableAlreadyExists name) ∧
        ∀ source answer, (.createTable created columns, answer) ∈
            (database.afterCalls calls).eventsOf (.run source) →
          answerOf (run source (database.afterCalls calls)) =
            .error (.execution (.tableAlreadyExists name))) ∧
      ∀ items asked result, asked.value = name →
        answerOf (execute (.select items asked) database) = .ok (.selected result) →
          ∃ rows, answerOf (execute (.select items asked) (database.afterCalls calls)) =
            .ok (.selected ⟨result.columns, result.rows ++ rows⟩) := by
  obtain ⟨past, hpast⟩ := h.exists_agrees
  have hafter := h.afterCalls calls
  obtain ⟨later, added, hlater, hgrows, hadded⟩ :=
    hpast.grown (agrees_afterCalls hpast calls) h.wellFormed hafter.wellFormed htable
  have haligned := h.aligned name table htable
  have haligned' := hafter.aligned name later hlater
  have hlength : added.length = (additions name (database.trace calls)).length := by
    simpa using congrArg List.length hadded
  simp only [answerOf_execute]
  refine ⟨later, hlater, hgrows.name, hgrows.schema,
    fun _ hposition => hgrows.row? haligned haligned' hposition, ?_, ?_, ?_⟩
  · rw [hgrows.rowCount haligned haligned', hlength]
  · rintro created columns rfl
    exact ⟨reply_createTable_of_table? columns hlater,
      fun source answer hevent => answerOf_run_of_creation hafter hlater rfl hevent⟩
  · rintro items asked result rfl hreply
    obtain ⟨rows, hselect⟩ := select_of_grown h.aligned hafter.aligned htable hlater hgrows
      (reply_select_eq_ok_iff.1 hreply)
    exact ⟨rows, reply_select_eq_ok_iff.2 hselect⟩

/-- A script that fails at its second statement, a table that is there, and a text that is no
script. -/
def failingCalls : List Call :=
  [.run "INSERT INTO t VALUES (2, 'y'); INSERT INTO t VALUES (3, 4);",
    .execute (.createTable (.name "t") []), .run "INSERT INTO t VALUES (5"]

/-- None of these calls succeeds, and yet the table has one row more, behind the one it had.  A
question shows both, and a text that creates the table again is refused there, behind a row that it
adds. -/
theorem stored_data_only_grows_failingCalls :
    Reachable (empty.afterCalls sampleCalls) ∧
      ((empty.afterCalls sampleCalls).trace failingCalls).map Prod.snd =
        [.ok .inserted, .error (.typeMismatch "b" .text .int), .error (.tableAlreadyExists "t")] ∧
      (∃ table later : Table, (empty.afterCalls sampleCalls).table? "t" = some table ∧
        ((empty.afterCalls sampleCalls).afterCalls failingCalls).table? "t" = some later ∧
        (∀ position < table.rowCount,
          ∃ row, table.row? position = some row ∧ later.row? position = some row) ∧
        table.rowCount = 1 ∧ later.rowCount = 2) ∧
      answerOf (run "INSERT INTO t VALUES (6, 'z'); CREATE TABLE t (c INT);"
          ((empty.afterCalls sampleCalls).afterCalls failingCalls)) =
        .error (.execution (.tableAlreadyExists "t")) ∧
      answerOf (execute (.select [.name "b"] (.name "t")) (empty.afterCalls sampleCalls)) =
        .ok (.selected ⟨[⟨"b", .text⟩], [[.text "x"]]⟩) ∧
      answerOf (execute (.select [.name "b"] (.name "t"))
          ((empty.afterCalls sampleCalls).afterCalls failingCalls)) =
        .ok (.selected ⟨[⟨"b", .text⟩], [[.text "x"]] ++ [[.text "y"]]⟩) := by
  have hreachable : Reachable (empty.afterCalls sampleCalls) := ⟨sampleCalls, rfl⟩
  have hanswers : ((empty.afterCalls sampleCalls).trace failingCalls).map Prod.snd =
      [.ok .inserted, .error (.typeMismatch "b" .text .int), .error (.tableAlreadyExists "t")] := by
    decide +kernel
  have hadditions :
      (additions "t" ((empty.afterCalls sampleCalls).trace failingCalls)).length = 1 := by
    decide +kernel
  have htable : (empty.afterCalls sampleCalls).table? "t" =
      some ⟨"t", [⟨"a", .int⟩, ⟨"b", .text⟩],
        [⟨"a", .int, .ints #[1]⟩, ⟨"b", .text, .texts #["x"]⟩], 1⟩ := by
    decide +kernel
  have hcreation : (.createTable ⟨.identifier, "t", ⟨0, 44⟩⟩
        [⟨⟨.identifier, "c", ⟨0, 47⟩⟩, ⟨.keyword, "int", ⟨0, 49⟩⟩⟩],
      .error (.tableAlreadyExists "t")) ∈
        ((empty.afterCalls sampleCalls).afterCalls failingCalls).eventsOf
          (.run "INSERT INTO t VALUES (6, 'z'); CREATE TABLE t (c INT);") := by
    decide +kernel
  have hbefore : answerOf (execute (.select [.name "b"] (.name "t"))
      (empty.afterCalls sampleCalls)) =
        .ok (.selected ⟨[⟨"b", .text⟩], [[.text "x"]]⟩) := by
    decide +kernel
  obtain ⟨later, hlater, -, -, hrows, hcount, hcreate, hselect⟩ :=
    stored_data_only_grows hreachable failingCalls htable
  rw [hadditions] at hcount
  obtain ⟨rows, hafter⟩ := hselect _ _ _ rfl hbefore
  have hboth : answerOf (execute (.select [.name "b"] (.name "t"))
      ((empty.afterCalls sampleCalls).afterCalls failingCalls)) =
        .ok (.selected ⟨[⟨"b", .text⟩], [[.text "x"], [.text "y"]]⟩) := by
    decide +kernel
  obtain rfl : rows = [[.text "y"]] := by
    simpa using hafter.symm.trans hboth
  exact ⟨hreachable, hanswers, ⟨_, later, htable, hlater, hrows, rfl, hcount⟩,
    (hcreate _ _ rfl).2 _ _ hcreation, hbefore, hafter⟩

end Database
end ColumnarSql
