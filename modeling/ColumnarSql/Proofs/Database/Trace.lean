import ColumnarSql.Proofs.Database.History
import ColumnarSql.Proofs.Database.Script

/-!
# Calls and what they execute

A database is changed by two calls only, one for the text of a script and one for a statement.
What a call answers does not tell what it has done: a script that fails at its third statement
answers with the error of this statement alone, and the outcomes of the first two are lost.  Yet
both have been executed.  So a call has a *trace* besides its answer, the statements that it
executes, each with the answer to it:

* `Database.executed`: the statements of a script up to the first one that fails, this one
  included;
* `Database.eventsOf`: the trace of a call, and nothing for a text that is no script;
* `Database.trace`: the trace of calls one after another, whatever they answer.

The definitions of the operations know nothing of traces.  That they say the same is
`Database.leftBy_executeAll` and `Database.answerOf_executeAll` for the statements of a script, and
`Database.afterCall_eq_foldl` for calls: a call leaves what its trace leaves, and the answer to a
script is read off its trace.

A trace is that of a run that goes on after failures, `History.events`, of the statements that
occur in it (`Database.trace_eq_events`).  Hence what is known about such runs holds of calls, and
a database that agrees with some past agrees with this past and the trace after any calls
(`Database.agrees_afterCalls`).
-/

namespace ColumnarSql

/-- A call that may change a database. -/
inductive Call where
  | run (source : String)
  /-- A statement, which need not come from any text. -/
  | execute (statement : Statement)

namespace Database

open History

/-- The database that is left, with an answer or without one. -/
def leftBy {ε α : Type} : EStateM.Result ε Database α → Database
  | .ok _ left => left
  | .error _ left => left

/-- The answer, without the database that is left. -/
def answerOf {ε α : Type} : EStateM.Result ε Database α → Except ε α
  | .ok a _ => .ok a
  | .error error _ => .error error

/-- The database that a call leaves behind. -/
def afterCall (database : Database) : Call → Database
  | .run source => leftBy (run source database)
  | .execute statement => leftBy (execute statement database)

/-- The database that calls leave behind, one after another. -/
def afterCalls (database : Database) (calls : List Call) : Database :=
  calls.foldl afterCall database

/-- The statements of a script that are executed, each with the answer to it: all up to the first
one that fails. -/
def executed (database : Database) : List Statement → List Event
  | [] => []
  | statement :: statements =>
    (statement, database.reply statement) ::
      match database.reply statement with
      | .error _ => []
      | .ok _ => (database.after statement).executed statements

/-- The statements that a call executes, each with the answer to it. -/
def eventsOf (database : Database) : Call → List Event
  | .run source =>
    match statementsOf source with
    | .error _ => []
    | .ok statements => database.executed statements
  | .execute statement => [(statement, database.reply statement)]

/-- The statements that calls execute one after another, each with the answer to it. -/
def trace (database : Database) : List Call → List Event
  | [] => []
  | call :: calls => database.eventsOf call ++ (database.afterCall call).trace calls

/-! ## One statement -/

theorem leftBy_execute (statement : Statement) (database : Database) :
    leftBy (execute statement database) = database.after statement := by
  rw [after]
  cases execute statement database <;> rfl

theorem answerOf_execute (statement : Statement) (database : Database) :
    answerOf (execute statement database) = database.reply statement := by
  rw [reply]
  cases execute statement database <;> rfl

/-- A result is its answer and the database that is left. -/
theorem execute_eq_ok_iff {statement : Statement} {database left : Database} {outcome : Outcome} :
    execute statement database = .ok outcome left ↔
      database.reply statement = .ok outcome ∧ database.after statement = left := by
  rw [reply, after]
  cases execute statement database <;> simp

theorem execute_eq_error_iff {statement : Statement} {database left : Database}
    {error : ExecutionError} :
    execute statement database = .error error left ↔
      database.reply statement = .error error ∧ database.after statement = left := by
  rw [reply, after]
  cases execute statement database <;> simp

/-! ## The statements of a script -/

theorem executed_cons_of_ok {database : Database} {statement : Statement} {outcome : Outcome}
    (h : database.reply statement = .ok outcome) (statements : List Statement) :
    database.executed (statement :: statements) =
      (statement, .ok outcome) :: (database.after statement).executed statements := by
  simp only [executed, h]

theorem executed_cons_of_error {database : Database} {statement : Statement}
    {error : ExecutionError} (h : database.reply statement = .error error)
    (statements : List Statement) :
    database.executed (statement :: statements) = [(statement, .error error)] := by
  simp only [executed, h]

/-- **A script leaves what its trace leaves.** -/
theorem leftBy_executeAll (statements : List Statement) (database : Database) :
    leftBy (executeAll statements database) =
      ((database.executed statements).map Prod.fst).foldl after database := by
  induction statements generalizing database with
  | nil => rfl
  | cons statement statements ih =>
    cases hexecute : execute statement database with
    | error error left =>
      obtain ⟨hreply, hafter⟩ := execute_eq_error_iff.1 hexecute
      rw [executed_cons_of_error hreply, executeAll_cons_eq_error_iff.2 (.inl hexecute),
        List.map_singleton, List.foldl_cons, List.foldl_nil, hafter, leftBy]
    | ok outcome left =>
      obtain ⟨hreply, hafter⟩ := execute_eq_ok_iff.1 hexecute
      rw [executed_cons_of_ok hreply, List.map_cons, List.foldl_cons, hafter, ← ih left]
      simp only [executeAll, hexecute]
      cases executeAll statements left <;> rfl

/-- **The answer to a script is read off its trace**: the outcomes, or the only error. -/
theorem answerOf_executeAll (statements : List Statement) (database : Database) :
    answerOf (executeAll statements database) = (database.executed statements).mapM Prod.snd := by
  induction statements generalizing database with
  | nil => rfl
  | cons statement statements ih =>
    cases hexecute : execute statement database with
    | error error left =>
      obtain ⟨hreply, -⟩ := execute_eq_error_iff.1 hexecute
      rw [executed_cons_of_error hreply, executeAll_cons_eq_error_iff.2 (.inl hexecute)]
      rfl
    | ok outcome left =>
      obtain ⟨hreply, hafter⟩ := execute_eq_ok_iff.1 hexecute
      rw [executed_cons_of_ok hreply, List.mapM_cons, hafter, ← ih left]
      simp only [executeAll, hexecute]
      cases executeAll statements left <;> rfl

/-- Only the last statement that is executed can fail, and then the script fails with its error. -/
theorem answerOf_executeAll_of_mem {statements : List Statement} {database : Database}
    {statement : Statement} {error : ExecutionError}
    (h : (statement, .error error) ∈ database.executed statements) :
    answerOf (executeAll statements database) = .error error := by
  rw [answerOf_executeAll]
  induction statements generalizing database with
  | nil => simp [executed] at h
  | cons first statements ih =>
    cases hreply : database.reply first with
    | error error' =>
      rw [executed_cons_of_error hreply, List.mem_singleton, Prod.mk.injEq, Except.error.injEq] at h
      rw [executed_cons_of_error hreply, h.2]
      rfl
    | ok outcome =>
      rw [executed_cons_of_ok hreply, List.mem_cons] at h
      rw [executed_cons_of_ok hreply, List.mapM_cons, ih (h.resolve_left (by simp))]
      rfl

/-- What is executed of a script is its beginning. -/
theorem executed_isPrefix (database : Database) (statements : List Statement) :
    (database.executed statements).map Prod.fst <+: statements := by
  induction statements generalizing database with
  | nil => exact List.prefix_refl []
  | cons statement statements ih =>
    cases hreply : database.reply statement with
    | error error =>
      rw [executed_cons_of_error hreply]
      exact ⟨statements, rfl⟩
    | ok outcome =>
      rw [executed_cons_of_ok hreply]
      exact List.cons_prefix_cons.2 ⟨rfl, ih _⟩

/-! ## Calls -/

/-- **A call leaves what its trace leaves.** -/
theorem afterCall_eq_foldl (database : Database) (call : Call) :
    database.afterCall call = ((database.eventsOf call).map Prod.fst).foldl after database := by
  cases call with
  | execute statement => exact leftBy_execute statement database
  | run source =>
    rw [afterCall, eventsOf]
    cases hstatements : statementsOf source with
    | error error =>
      simp only [run, hstatements]
      rfl
    | ok statements =>
      rw [run_of_statementsOf hstatements]
      show _ = ((database.executed statements).map Prod.fst).foldl after database
      rw [← leftBy_executeAll]
      cases executeAll statements database <;> rfl

/-- A text that has executed a statement that fails, fails with its error. -/
theorem answerOf_run_of_mem {source : String} {database : Database} {statement : Statement}
    {error : ExecutionError} (h : (statement, .error error) ∈ database.eventsOf (.run source)) :
    answerOf (run source database) = .error (.execution error) := by
  cases hstatements : statementsOf source with
  | error scriptError => simp [eventsOf, hstatements] at h
  | ok statements =>
    simp only [eventsOf, hstatements] at h
    have hanswer := answerOf_executeAll_of_mem h
    rw [run_of_statementsOf hstatements]
    cases hall : executeAll statements database with
    | ok outcomes left =>
      rw [hall] at hanswer
      simp [answerOf] at hanswer
    | error error' left =>
      rw [hall] at hanswer
      obtain rfl := Except.error.inj hanswer
      rfl

/-- Calls leave what their trace leaves. -/
theorem afterCalls_eq_foldl (database : Database) (calls : List Call) :
    database.afterCalls calls = ((database.trace calls).map Prod.fst).foldl after database := by
  induction calls generalizing database with
  | nil => rfl
  | cons call calls ih =>
    rw [trace, List.map_append, List.foldl_append, ← afterCall_eq_foldl]
    exact ih (database.afterCall call)

/-! ## Traces as runs that go on after failures -/

theorem executeEach_snd (database : Database) (statements : List Statement) :
    (database.executeEach statements).2 = statements.foldl after database := by
  induction statements generalizing database with
  | nil => rfl
  | cons statement statements ih =>
    rw [executeEach_cons, List.foldl_cons]
    exact ih _

/-- The trace of a run in two parts. -/
theorem events_append (database : Database) (before behind : List Statement) :
    events database (before ++ behind) =
      events database before ++ events (before.foldl after database) behind := by
  induction before generalizing database with
  | nil => rfl
  | cons statement before ih =>
    rw [List.cons_append, events_cons, events_cons, ih]
    rfl

theorem executed_eq_events (database : Database) (statements : List Statement) :
    database.executed statements =
      events database ((database.executed statements).map Prod.fst) := by
  induction statements generalizing database with
  | nil => rfl
  | cons statement statements ih =>
    cases hreply : database.reply statement with
    | error error =>
      rw [executed_cons_of_error hreply, List.map_singleton, events_cons, hreply]
      rfl
    | ok outcome =>
      rw [executed_cons_of_ok hreply, List.map_cons, events_cons, hreply, ← ih]

theorem eventsOf_eq_events (database : Database) (call : Call) :
    database.eventsOf call = events database ((database.eventsOf call).map Prod.fst) := by
  cases call with
  | execute statement =>
    rw [eventsOf, List.map_singleton, events_cons]
    rfl
  | run source =>
    rw [eventsOf]
    cases statementsOf source with
    | error error => rfl
    | ok statements => exact database.executed_eq_events statements

/-- **A trace is that of a run that goes on after failures**, of the statements in it. -/
theorem trace_eq_events (database : Database) (calls : List Call) :
    database.trace calls = events database ((database.trace calls).map Prod.fst) := by
  induction calls generalizing database with
  | nil => rfl
  | cons call calls ih =>
    rw [trace, List.map_append, events_append, ← eventsOf_eq_events, ← afterCall_eq_foldl, ← ih]

/-- **Calls keep the agreement** of a database with a past, which grows by their trace. -/
theorem agrees_afterCalls {database : Database} {past : List Event} (h : Agrees database past)
    (calls : List Call) : Agrees (database.afterCalls calls) (past ++ database.trace calls) := by
  have hrun := agrees_executeEach h ((database.trace calls).map Prod.fst)
  rwa [executeEach_snd, ← afterCalls_eq_foldl, ← trace_eq_events] at hrun

/-- Each event in the trace of calls is the answer of a database that agrees with the events
before it. -/
theorem exists_agrees_of_mem_trace {database : Database} {past : List Event}
    (h : Agrees database past) {calls : List Call} {event : Event}
    (hevent : event ∈ database.trace calls) :
    ∃ reached before, Agrees reached (past ++ before) ∧ event.2 = reached.reply event.1 := by
  obtain ⟨position, hposition⟩ := List.mem_iff_getElem?.1 hevent
  rw [trace_eq_events] at hposition
  obtain ⟨reached, hreached, hreply⟩ := exists_agrees_take h hposition
  exact ⟨reached, _, hreached, hreply⟩

end Database
end ColumnarSql
