import ColumnarSql.Proofs.Database.Trace

/-!
# Reachable databases, and what a failure leaves

The databases that calls lead to from the empty one, in any order and whatever their answers, are
`Database.Reachable`.  Calls leave what the statements of their trace leave one after another
(`Database.afterCalls_eq_foldl`).  So whatever holds of the empty database and is kept by every
statement holds of all of them (`Database.Reachable.induction`).  Alignment is the first example,
and it is what the rest is about:

* `Database.fill_of_check`: in an aligned table no column refuses a value that the check has let
  pass, so a row is never added to some columns only;
* `Database.eq_of_execute_error`: a statement that fails leaves the database as it was;
* `Database.run_eq_error_iff`: a script that fails leaves what the statements before the failure
  have made, and the database as it was if the text is no script.
-/

namespace ColumnarSql
namespace Database

/-- **Reachable databases**: what calls lead to from the empty database. -/
def Reachable (database : Database) : Prop :=
  ∃ calls, empty.afterCalls calls = database

/-! ## Invariants -/

variable {database left : Database}

/-- What some statements keep is kept by all of them one after another. -/
theorem foldl_after_induction {motive : Database → Prop} (statements : List Statement)
    (hstatement : ∀ database, ∀ statement ∈ statements, motive database →
      motive (database.after statement))
    (h : motive database) : motive (statements.foldl after database) :=
  List.foldlRecOn statements after h fun database hdatabase statement hmem =>
    hstatement database statement hmem hdatabase

/-- **Invariants.**  What holds of the empty database and is kept by every statement holds of
every reachable database. -/
theorem Reachable.induction {motive : Database → Prop} (hempty : motive empty)
    (hstatement : ∀ database statement, motive database → motive (database.after statement))
    (h : Reachable database) : motive database := by
  obtain ⟨calls, rfl⟩ := h
  rw [afterCalls_eq_foldl]
  exact foldl_after_induction _ (fun database statement _ => hstatement database statement) hempty

/-- Every reachable database is aligned. -/
theorem Reachable.aligned (h : Reachable database) : database.Aligned :=
  h.induction aligned_empty fun _ statement haligned => haligned.after statement

/-! ## Failures -/

/-- **Statements fail** exactly if the first so many of them succeed and the next one fails. -/
theorem executeAll_eq_error_iff {statements : List Statement} {database left : Database}
    {error : ExecutionError} :
    executeAll statements database = .error error left ↔
      ∃ before statement behind outcomes between, statements = before ++ statement :: behind ∧
        executeAll before database = .ok outcomes between ∧
        execute statement between = .error error left := by
  constructor
  · intro h
    induction statements generalizing database with
    | nil => simp [executeAll] at h
    | cons statement statements ih =>
      rcases executeAll_cons_eq_error_iff.1 h with hstatement | ⟨outcome, between, hok, hothers⟩
      · exact ⟨[], statement, statements, [], database, rfl, rfl, hstatement⟩
      · obtain ⟨before, failing, behind, outcomes, between', rfl, hbefore, hfailing⟩ := ih hothers
        exact ⟨statement :: before, failing, behind, outcome :: outcomes, between', rfl,
          executeAll_cons_of_ok hok hbefore, hfailing⟩
  · rintro ⟨before, statement, behind, outcomes, between, rfl, hbefore, hstatement⟩
    have hbehind : executeAll (statement :: behind) between = .error error left :=
      executeAll_cons_eq_error_iff.2 (.inl hstatement)
    rw [executeAll_append hbefore, hbehind]

/-- What the check has let pass is taken by every column. -/
theorem fill_of_check (h : database.Aligned) {name : String} {table : Table}
    (htable : database.table? name = some table) {row : Row}
    (hlength : row.length = table.columns.length)
    (hcheck : Table.checkEach table.columns row = .ok ()) :
    ∃ filled, Table.fill row table.columns = .ok () filled := by
  have htable := h name table htable
  obtain ⟨filled, hfill, -⟩ := Table.fill_of_types htable.type
    ((Table.checkEach_eq_ok_iff hlength).1 hcheck)
  exact ⟨filled, hfill⟩

/-- **A statement that fails changes nothing.** -/
theorem eq_of_execute_error (h : database.Aligned) {statement : Statement}
    {error : ExecutionError} (hstatement : execute statement database = .error error left) :
    left = database := by
  have heffect := effect h statement
  rw [reply, after, hstatement] at heffect
  cases heffect
  rfl

/-- How the run of a text can fail, and what it leaves then. -/
inductive RunFails (source : String) (database : Database) : ScriptError → Database → Prop
  | lex {error : LexError} (htokens : tokenize source = .error error) :
      RunFails source database (.lex error) database
  | parse {tokens : List Token} {error : ParseError} (htokens : tokenize source = .ok tokens)
      (hparse : parse tokens = .error error) : RunFails source database (.parse error) database
  /-- The first so many statements succeed in order, and the next one fails in the database that
  they leave. -/
  | execution {before behind : List Statement} {statement : Statement}
      {outcomes : List Outcome} {error : ExecutionError} {left : Database}
      (hstatements : statementsOf source = .ok (before ++ statement :: behind))
      (hbefore : executeAll before database = .ok outcomes left)
      (hstatement : execute statement left = .error error left) :
      RunFails source database (.execution error) left

/-- Statements that succeed keep the tables aligned. -/
theorem Aligned.executeAll (h : database.Aligned) {statements : List Statement}
    {outcomes : List Outcome} (hall : executeAll statements database = .ok outcomes left) :
    left.Aligned := by
  have hleft : leftBy (Database.executeAll statements database) = left := by
    rw [hall]
    rfl
  rw [← hleft, leftBy_executeAll]
  exact foldl_after_induction _ (fun _ statement _ haligned => haligned.after statement) h

/-- **A script fails** in one of these ways and leaves the database that goes with it. -/
theorem run_eq_error_iff (h : database.Aligned) {source : String} {error : ScriptError} :
    run source database = .error error left ↔ RunFails source database error left := by
  constructor
  · intro hrun
    cases htokens : tokenize source with
    | error lexError =>
      simp only [run, statementsOf, htokens] at hrun
      obtain ⟨rfl, rfl⟩ := EStateM.Result.error.inj hrun
      exact .lex htokens
    | ok tokens =>
      cases hparse : parse tokens with
      | error parseError =>
        simp only [run, statementsOf, htokens, hparse] at hrun
        obtain ⟨rfl, rfl⟩ := EStateM.Result.error.inj hrun
        exact .parse htokens hparse
      | ok statements =>
        have hstatements := statementsOf_eq_ok_iff.2 ⟨tokens, htokens, hparse⟩
        rw [run_of_statementsOf hstatements] at hrun
        cases hall : executeAll statements database with
        | ok outcomes left' => simp [hall] at hrun
        | error executionError left' =>
          simp only [hall] at hrun
          obtain ⟨rfl, rfl⟩ := EStateM.Result.error.inj hrun
          obtain ⟨before, statement, behind, outcomes, between, rfl, hbefore, hstatement⟩ :=
            executeAll_eq_error_iff.1 hall
          obtain rfl := eq_of_execute_error (h.executeAll hbefore) hstatement
          exact .execution hstatements hbefore hstatement
  · intro hfails
    cases hfails with
    | lex htokens => simp only [run, statementsOf, htokens]
    | parse htokens hparse => simp only [run, statementsOf, htokens, hparse]
    | @execution before behind statement outcomes error _ hstatements hbefore hstatement =>
      have hall : executeAll (before ++ statement :: behind) database = .error error left :=
        executeAll_eq_error_iff.2
          ⟨before, statement, behind, outcomes, left, rfl, hbefore, hstatement⟩
      rw [run_of_statementsOf hstatements, hall]

/-- **Failures in reachable databases.**  A statement that fails changes nothing, whatever
statement it is; in particular no column refuses a value of a row that has been checked.  A text
that fails changes nothing if it is no script, and otherwise it does what its statements before
the failing one do. -/
theorem failure_is_atomic (h : Reachable database) :
    (∀ statement error left, execute statement database = .error error left → left = database) ∧
    (∀ name table row, database.table? name = some table →
      row.length = table.columns.length → Table.checkEach table.columns row = .ok () →
      ∃ filled, Table.fill row table.columns = .ok () filled) ∧
    ∀ source error left, run source database = .error error left ↔
      RunFails source database error left :=
  ⟨fun _ _ _ hstatement => eq_of_execute_error h.aligned hstatement,
    fun _ _ _ htable hlength hcheck => fill_of_check h.aligned htable hlength hcheck,
    fun _ _ _ => run_eq_error_iff h.aligned⟩

/-- A table from a script, and a row from a statement without a text. -/
def sampleCalls : List Call :=
  [.run "CREATE TABLE t (a INT, b TEXT);",
    .execute (.insert (.name "t") [⟨.number, "1", .start⟩, ⟨.string, "x", .start⟩])]

/-- A row whose second value has the wrong type is refused as a whole, and a script stops there
after its first statement. -/
theorem failure_is_atomic_sampleCalls :
    Reachable (empty.afterCalls sampleCalls) ∧
      execute (.insert (.name "t") [⟨.number, "2", .start⟩, ⟨.number, "3", .start⟩])
          (empty.afterCalls sampleCalls) =
        .error (.typeMismatch "b" .text .int) (empty.afterCalls sampleCalls) ∧
      ∃ left, RunFails "INSERT INTO t VALUES (2, 'y'); INSERT INTO t VALUES (3, 4);"
        (empty.afterCalls sampleCalls) (.execution (.typeMismatch "b" .text .int)) left := by
  have hreachable : Reachable (empty.afterCalls sampleCalls) := ⟨sampleCalls, rfl⟩
  obtain ⟨hstatement, -, hscript⟩ := failure_is_atomic hreachable
  refine ⟨hreachable, ?_, ?_⟩
  · have hreply : (empty.afterCalls sampleCalls).reply (.insert (.name "t")
        [⟨.number, "2", .start⟩, ⟨.number, "3", .start⟩]) =
          .error (.typeMismatch "b" .text .int) := by
      decide +kernel
    rw [reply] at hreply
    split at hreply
    · next error left hfails =>
      rw [hfails, hstatement _ _ _ hfails, Except.error.inj hreply]
    · simp at hreply
  · have hanswer : answerOf (run "INSERT INTO t VALUES (2, 'y'); INSERT INTO t VALUES (3, 4);"
        (empty.afterCalls sampleCalls)) = .error (.execution (.typeMismatch "b" .text .int)) := by
      decide +kernel
    cases hrun : run "INSERT INTO t VALUES (2, 'y'); INSERT INTO t VALUES (3, 4);"
        (empty.afterCalls sampleCalls) with
    | ok outcomes left =>
      rw [hrun] at hanswer
      exact absurd hanswer (by simp [answerOf])
    | error error left =>
      rw [hrun] at hanswer
      obtain rfl := Except.error.inj hanswer
      exact ⟨left, (hscript _ _ _).1 hrun⟩

end Database
end ColumnarSql
