import ColumnarSql.Proofs.Database.History
import ColumnarSql.Proofs.Token

/-!
# Tables do not interfere

A statement names one table.  What stands under this name decides the answer to the statement, and
it is all that the statement can change.  `Database.ActsOn` says both at once of an operation:
whatever is filed under the other names, the answer is the same, and the same table, if any, is
filed under the one name.  Every statement acts so on the name of its table
(`Database.actsOn_execute`), and this is the only place where the three kinds of statements are
looked at.

It follows that two databases with the same table under a name answer a statement about it alike
(`Database.reply_congr`) and have the same table under the name afterwards
(`Database.table?_after_congr`), and that a statement leaves the tables under other names as they
were (`Database.table?_after_of_ne`).  For runs that go on after failures this means:

* `History.filter_events`: the trace of a run, reduced to the statements about one table, is the
  trace of these statements run on their own, and the table is the same in the end;
* `Database.executeEach_swap`: two statements about different tables can change places.

Both are put together in `History.tables_do_not_interfere`.  The induction along a run carries the
agreement of two databases on one table and nothing else; the databases may differ in all other
tables, and no table need be aligned.
-/

namespace ColumnarSql

/-- A statement is about the table with a name. -/
def Statement.isAbout (name : String) (statement : Statement) : Bool :=
  statement.tableName = name

theorem Statement.isAbout_iff {name : String} {statement : Statement} :
    statement.isAbout name = true ↔ statement.tableName = name :=
  decide_eq_true_iff

namespace Database

variable {database other : Database} {statement : Statement} {name : String}

/-! ## Acting on one table -/

/-- An answer with the database that is left. -/
def resultOf {α : Type} (answer : Except ExecutionError α) (left : Database) :
    EStateM.Result ExecutionError Database α :=
  match answer with
  | .ok a => .ok a left
  | .error error => .error error left

/-- **An operation acts on what stands under a name.**  This alone decides the answer, and the
table that is filed there in its place, if one is. -/
def ActsOn {α : Type} (name : String) (operation : EStateM ExecutionError Database α) : Prop :=
  ∀ there : Option Table, ∃ (answer : Except ExecutionError α) (filed : Option Table),
    ∀ database : Database, database.table? name = there →
      operation database = resultOf answer (filed.elim database (database.file name))

/-- Creating a table looks whether its name is free, and files it there. -/
theorem actsOn_createTable (name : String) (columns : List ColumnDeclaration) :
    ActsOn name (createTable name columns) := by
  intro there
  cases there with
  | some stored =>
    refine ⟨.error (.tableAlreadyExists name), none, fun database hthere => ?_⟩
    simp only [createTable, hthere]
    rfl
  | none =>
    cases hschema : schemaOf [] columns with
    | error error =>
      refine ⟨.error error, none, fun database hthere => ?_⟩
      simp only [createTable, hthere, hschema]
      rfl
    | ok schema =>
      refine ⟨.ok (), some (.new name schema), fun database hthere => ?_⟩
      simp only [createTable, hthere, hschema]
      rfl

/-- Adding a row looks at one table and files it again, with the row or without it. -/
theorem actsOn_insert (name : String) (values : List Token) : ActsOn name (insert name values) := by
  intro there
  cases there with
  | none =>
    refine ⟨.error (.tableDoesNotExist name), none, fun database hthere => ?_⟩
    simp only [insert, hthere]
    rfl
  | some stored =>
    by_cases hlength : values.length = stored.schema.length
    · cases hrow : values.mapM Value.ofLiteral with
      | error error =>
        refine ⟨.error error, none, fun database hthere => ?_⟩
        simp only [insert, hthere, if_pos hlength, hrow]
        rfl
      | ok row =>
        cases hinsert : Table.insert row stored with
        | error error left =>
          refine ⟨.error error, some left, fun database hthere => ?_⟩
          simp only [insert, hthere, if_pos hlength, hrow, hinsert]
          rfl
        | ok _ left =>
          refine ⟨.ok (), some left, fun database hthere => ?_⟩
          simp only [insert, hthere, if_pos hlength, hrow, hinsert]
          rfl
    · refine ⟨.error (.missingValues stored.schema.length values.length), none,
        fun database hthere => ?_⟩
      simp only [insert, hthere, if_neg hlength]
      rfl

/-- **A statement acts on the table it names.** -/
theorem actsOn_execute (statement : Statement) :
    ActsOn statement.tableName (execute statement) := by
  intro there
  cases statement with
  | select items table =>
    cases there with
    | none =>
      refine ⟨.error (.tableDoesNotExist table.value), none, fun database hthere => ?_⟩
      have hthere : database.table? table.value = none := hthere
      simp only [execute, select, hthere]
      rfl
    | some stored =>
      cases hfound : resolve stored.schema items with
      | error error =>
        refine ⟨.error error, none, fun database hthere => ?_⟩
        have hthere : database.table? table.value = some stored := hthere
        simp only [execute, select, hthere, hfound]
        rfl
      | ok found =>
        refine ⟨.ok (.selected ⟨found.map (·.2), (stored.project? (found.map (·.1))).getD []⟩),
          none, fun database hthere => ?_⟩
        have hthere : database.table? table.value = some stored := hthere
        simp only [execute, select, hthere, hfound]
        rfl
  | insert table values =>
    obtain ⟨answer, filed, hinsert⟩ := actsOn_insert table.value values there
    refine ⟨answer.map fun _ => .inserted, filed, fun database hthere => ?_⟩
    simp only [execute, hinsert database hthere]
    cases answer <;> rfl
  | createTable table columns =>
    obtain ⟨answer, filed, hcreate⟩ := actsOn_createTable table.value columns there
    refine ⟨answer.map fun _ => .created, filed, fun database hthere => ?_⟩
    simp only [execute, hcreate database hthere]
    cases answer <;> rfl

/-! ## One statement -/

/-- What a statement with a table under its name answers and leaves. -/
theorem exists_act (statement : Statement) (there : Option Table) :
    ∃ (answer : Except ExecutionError Outcome) (filed : Option Table), ∀ database : Database,
      database.table? statement.tableName = there →
        database.reply statement = answer ∧
        database.after statement = filed.elim database (database.file statement.tableName) := by
  obtain ⟨answer, filed, hexecute⟩ := actsOn_execute statement there
  refine ⟨answer, filed, fun database hthere => ?_⟩
  rw [reply, after, hexecute database hthere]
  cases answer <;> exact ⟨rfl, rfl⟩

theorem table?_elim_file (database : Database) (name : String) (filed : Option Table)
    (other : String) :
    (filed.elim database (database.file name)).table? other =
      if name = other then filed.or (database.table? other) else database.table? other := by
  cases filed with
  | none => simp
  | some table => rw [Option.elim_some, table?_file, Option.some_or]

/-- **A statement is answered from the table it names.** -/
theorem reply_congr
    (h : database.table? statement.tableName = other.table? statement.tableName) :
    database.reply statement = other.reply statement := by
  obtain ⟨answer, filed, hact⟩ := exists_act statement (other.table? statement.tableName)
  rw [(hact database h).1, (hact other rfl).1]

/-- **What a statement leaves under its name** depends on what was there. -/
theorem table?_after_congr
    (h : database.table? statement.tableName = other.table? statement.tableName) :
    (database.after statement).table? statement.tableName =
      (other.after statement).table? statement.tableName := by
  obtain ⟨answer, filed, hact⟩ := exists_act statement (other.table? statement.tableName)
  rw [(hact database h).2, (hact other rfl).2, table?_elim_file, table?_elim_file, if_pos rfl,
    if_pos rfl, h]

/-- **Every other table is as it was.** -/
theorem table?_after_of_ne (h : statement.tableName ≠ name) :
    (database.after statement).table? name = database.table? name := by
  obtain ⟨answer, filed, hact⟩ := exists_act statement (database.table? statement.tableName)
  rw [(hact database rfl).2, table?_elim_file, if_neg h]

/-! ## Two statements -/

variable {first second : Statement}

/-- A statement is answered as if another one, about another table, had not been executed. -/
theorem reply_after_of_ne (h : first.tableName ≠ second.tableName) :
    (database.after first).reply second = database.reply second :=
  reply_congr (table?_after_of_ne h)

/-- **Statements about different tables** lead to the same database in either order. -/
theorem after_comm (h : first.tableName ≠ second.tableName) :
    (database.after first).after second = (database.after second).after first := by
  refine ext_table? fun name => ?_
  by_cases hfirst : first.tableName = name
  · subst hfirst
    rw [table?_after_of_ne h.symm]
    exact table?_after_congr (table?_after_of_ne h.symm).symm
  · rw [table?_after_of_ne hfirst]
    by_cases hsecond : second.tableName = name
    · subst hsecond
      exact table?_after_congr (table?_after_of_ne h)
    · rw [table?_after_of_ne hsecond, table?_after_of_ne hsecond, table?_after_of_ne hfirst]

/-! ## Runs -/

/-- A run in two parts. -/
theorem executeEach_append (database : Database) (before behind : List Statement) :
    database.executeEach (before ++ behind) =
      ((database.executeEach before).1 ++ ((database.executeEach before).2.executeEach behind).1,
        ((database.executeEach before).2.executeEach behind).2) := by
  induction before generalizing database with
  | nil => rfl
  | cons statement before ih =>
    rw [List.cons_append, executeEach_cons, executeEach_cons, ih]
    rfl

/-- **Statements about different tables can change places** in a run: each gets the answer it
gets in the other order, and nothing else changes. -/
theorem executeEach_swap (database : Database) (before behind : List Statement)
    (h : first.tableName ≠ second.tableName) :
    ∃ answers answer answer' others left, answers.length = before.length ∧
      database.executeEach (before ++ first :: second :: behind) =
        (answers ++ answer :: answer' :: others, left) ∧
      database.executeEach (before ++ second :: first :: behind) =
        (answers ++ answer' :: answer :: others, left) := by
  simp only [executeEach_append, executeEach_cons, reply_after_of_ne h, reply_after_of_ne h.symm,
    after_comm h]
  exact ⟨_, _, _, _, _, length_executeEach database before, rfl, rfl⟩

end Database

namespace History

open Database

/-- **The trace of a run, reduced to one table,** is the trace of the statements about this table,
run on their own from a database that has the same table; and the table is the same in the end. -/
theorem filter_events {database other : Database} {name : String}
    (h : database.table? name = other.table? name) (statements : List Statement) :
    (events database statements).filter (fun event => event.1.isAbout name) =
        events other (statements.filter (·.isAbout name)) ∧
      (database.executeEach statements).2.table? name =
        (other.executeEach (statements.filter (·.isAbout name))).2.table? name := by
  induction statements generalizing database other with
  | nil => exact ⟨rfl, h⟩
  | cons statement statements ih =>
    rw [events_cons, executeEach_cons]
    by_cases habout : statement.isAbout name = true
    · have hname := Statement.isAbout_iff.1 habout
      subst hname
      obtain ⟨hevents, htable⟩ := ih (table?_after_congr h)
      simp only [List.filter_cons, habout, if_true, events_cons, executeEach_cons, hevents,
        reply_congr h, true_and]
      exact htable
    · have hname : statement.tableName ≠ name := fun heq => habout (Statement.isAbout_iff.2 heq)
      simp only [List.filter_cons, if_neg habout]
      exact ih ((table?_after_of_ne hname).trans h)

/-- **Tables do not interfere.**  Let statements be executed one after another on the empty
database, whether they fail or not.  If all statements about other tables are left out, each
statement about one table gets the same answer, and the table is the same in the end, or is there
in neither case.  And two statements about different tables can change places anywhere: they
take their answers with them, all other answers are the same, and so is the database that is
left. -/
theorem tables_do_not_interfere (statements : List Statement) (name : String) :
    ((events .empty statements).filter (fun event => event.1.isAbout name) =
        events .empty (statements.filter (·.isAbout name)) ∧
      (Database.empty.executeEach statements).2.table? name =
        (Database.empty.executeEach (statements.filter (·.isAbout name))).2.table? name) ∧
    ∀ before first second behind, statements = before ++ first :: second :: behind →
      first.tableName ≠ second.tableName →
        ∃ answers answer answer' others left, answers.length = before.length ∧
          Database.empty.executeEach statements =
            (answers ++ answer :: answer' :: others, left) ∧
          Database.empty.executeEach (before ++ second :: first :: behind) =
            (answers ++ answer' :: answer :: others, left) := by
  refine ⟨filter_events rfl statements, ?_⟩
  rintro before first second behind rfl hne
  exact executeEach_swap .empty before behind hne

/-- Statements about two tables in turn; a row of the second one is refused between two rows of the
first. -/
def interleavedRun : List Statement :=
  [.createTable (.name "a") [⟨.name "x", .word .INT⟩],
    .createTable (.name "b") [⟨.name "y", .word .TEXT⟩],
    .insert (.name "a") [⟨.number, "1", .start⟩],
    .insert (.name "b") [⟨.number, "1", .start⟩],
    .insert (.name "a") [⟨.number, "2", .start⟩],
    .select [.name "x"] (.name "a")]

theorem tables_do_not_interfere_interleavedRun :
    (Database.empty.executeEach interleavedRun).1 =
        [.ok .created, .ok .created, .ok .inserted, .error (.typeMismatch "y" .text .int),
          .ok .inserted, .ok (.selected ⟨[⟨"x", .int⟩], [[.int 1], [.int 2]]⟩)] ∧
      ((events .empty interleavedRun).filter (fun event => event.1.isAbout "a") =
          events .empty (interleavedRun.filter (·.isAbout "a")) ∧
        (Database.empty.executeEach interleavedRun).2.table? "a" =
          (Database.empty.executeEach (interleavedRun.filter (·.isAbout "a"))).2.table? "a") ∧
      ∃ answers answer answer' others left, answers.length = 3 ∧
        Database.empty.executeEach interleavedRun =
          (answers ++ answer :: answer' :: others, left) ∧
        Database.empty.executeEach
            (interleavedRun.take 3 ++ .insert (.name "a") [⟨.number, "2", .start⟩] ::
              .insert (.name "b") [⟨.number, "1", .start⟩] :: interleavedRun.drop 5) =
          (answers ++ answer' :: answer :: others, left) := by
  obtain ⟨halone, hswap⟩ := tables_do_not_interfere interleavedRun "a"
  exact ⟨by decide +kernel, halone,
    hswap (interleavedRun.take 3) _ _ (interleavedRun.drop 5) rfl (by decide)⟩

end History
end ColumnarSql
