import ColumnarSql.Database.Script
import ColumnarSql.Proofs.Grammar.Relocation
import ColumnarSql.Proofs.Lexeme.Reading

/-!
# Running a script stage by stage

A script is run in three stages, and places matter to none of them but in errors:
statements are executed in the same way without them (`Database.execute_unplaced`).  So it
is enough to know the tokens of a text without places and the statements of these tokens;
`Database.run_of_lexes` puts the stages together.

`Database.executeAll_append` cuts a run in two.
-/

namespace ColumnarSql
namespace Database

/-! ## Executing without places -/

theorem schemaOf_unplaced (seen : List String) (columns : List ColumnDeclaration) :
    schemaOf seen (columns.map ColumnDeclaration.unplaced) = schemaOf seen columns := by
  induction columns generalizing seen with
  | nil => rfl
  | cons column columns ih =>
    have htype : DataType.ofToken? column.unplaced.type = DataType.ofToken? column.type := rfl
    have hname : column.unplaced.name.value = column.name.value := rfl
    have hword : column.unplaced.type.value = column.type.value := rfl
    simp only [List.map_cons, schemaOf, htype, hname, hword, ih]

theorem resolve_unplaced (schema : Schema) (items : List Token) :
    resolve schema (items.map Token.unplaced) = resolve schema items := by
  rw [resolve, List.mapM_map]
  rfl

/-- **A statement is executed without regard to places.** -/
theorem execute_unplaced (statement : Statement) :
    execute statement.unplaced = execute statement := by
  funext database
  cases statement with
  | select items table =>
    simp only [Statement.unplaced, execute, select, resolve_unplaced]
    rfl
  | insert table values =>
    have hvalues : (values.map Token.unplaced).mapM Value.ofLiteral =
        values.mapM Value.ofLiteral := by
      rw [List.mapM_map]
      rfl
    simp only [Statement.unplaced, execute, insert, hvalues, List.length_map]
    rfl
  | createTable name columns =>
    simp only [Statement.unplaced, execute, createTable, schemaOf_unplaced]
    rfl

theorem executeAll_unplaced (statements : List Statement) :
    executeAll (statements.map Statement.unplaced) = executeAll statements := by
  induction statements with
  | nil => rfl
  | cons statement statements ih =>
    funext database
    rw [List.map_cons, executeAll, executeAll, execute_unplaced, ih]

/-! ## Running in parts -/

theorem execute_createTable_of_ok {name : Token} {columns : List ColumnDeclaration}
    {database left : Database} (h : createTable name.value columns database = .ok () left) :
    execute (.createTable name columns) database = .ok .created left := by
  simp only [execute, h]

theorem execute_insert_of_ok {table : Token} {values : List Token} {database left : Database}
    (h : insert table.value values database = .ok () left) :
    execute (.insert table values) database = .ok .inserted left := by
  simp only [execute, h]

theorem execute_select_of_ok {items : List Token} {table : Token} {database : Database}
    {result : ResultSet} (h : database.select table.value items = .ok result) :
    execute (.select items table) database = .ok (.selected result) database := by
  simp only [execute, h]

theorem executeAll_cons_of_ok {statement : Statement} {statements : List Statement}
    {database between left : Database} {outcome : Outcome} {outcomes : List Outcome}
    (hfirst : execute statement database = .ok outcome between)
    (hothers : executeAll statements between = .ok outcomes left) :
    executeAll (statement :: statements) database = .ok (outcome :: outcomes) left := by
  simp only [executeAll, hfirst, hothers]

/-- A run that succeeds goes on behind its statements. -/
theorem executeAll_append {first second : List Statement} {database between : Database}
    {outcomes : List Outcome} (h : executeAll first database = .ok outcomes between) :
    executeAll (first ++ second) database =
      match executeAll second between with
      | .error error left => .error error left
      | .ok more left => .ok (outcomes ++ more) left := by
  induction first generalizing database outcomes with
  | nil =>
    obtain ⟨rfl, rfl⟩ : [] = outcomes ∧ database = between := by
      simpa [executeAll] using h
    rw [List.nil_append]
    cases executeAll second database <;> rfl
  | cons statement statements ih =>
    rw [executeAll] at h
    rw [List.cons_append, executeAll]
    cases hstatement : execute statement database with
    | error error left => simp [hstatement] at h
    | ok outcome left =>
      simp only [hstatement] at h ⊢
      cases hrest : executeAll statements left with
      | error error left' => simp [hrest] at h
      | ok outcomes' left' =>
        obtain ⟨rfl, rfl⟩ : outcome :: outcomes' = outcomes ∧ left' = between := by
          simpa [hrest] using h
        rw [ih hrest]
        cases executeAll second left' <;> rfl

/-- **One statement and then others** fail if it fails, or if the others fail behind it. -/
theorem executeAll_cons_eq_error_iff {statement : Statement} {statements : List Statement}
    {database left : Database} {error : ExecutionError} :
    executeAll (statement :: statements) database = .error error left ↔
      execute statement database = .error error left ∨
        ∃ outcome between, execute statement database = .ok outcome between ∧
          executeAll statements between = .error error left := by
  cases hstatement : execute statement database with
  | error error' left' => simp [executeAll, hstatement]
  | ok outcome between =>
    cases hothers : executeAll statements between <;> simp [executeAll, hstatement, hothers]

/-- One statement and then others succeed if each succeeds behind those before. -/
theorem executeAll_cons_eq_ok_iff {statement : Statement} {statements : List Statement}
    {database left : Database} {outcomes : List Outcome} :
    executeAll (statement :: statements) database = .ok outcomes left ↔
      ∃ outcome others between, outcome :: others = outcomes ∧
        execute statement database = .ok outcome between ∧
        executeAll statements between = .ok others left := by
  cases hstatement : execute statement database with
  | error error' left' => simp [executeAll, hstatement]
  | ok outcome between =>
    cases hothers : executeAll statements between <;> simp [executeAll, hstatement, hothers]

/-- A run that fails does not get behind its statements. -/
theorem executeAll_append_of_error {first second : List Statement} {database left : Database}
    {error : ExecutionError} (h : executeAll first database = .error error left) :
    executeAll (first ++ second) database = .error error left := by
  induction first generalizing database with
  | nil => simp [executeAll] at h
  | cons statement statements ih =>
    rw [List.cons_append, executeAll_cons_eq_error_iff]
    rcases executeAll_cons_eq_error_iff.1 h with hfirst | ⟨outcome, between, hfirst, hothers⟩
    · exact .inl hfirst
    · exact .inr ⟨outcome, between, hfirst, ih hothers⟩

/-! ## The stages -/

theorem statementsOf_eq_ok_iff {source : String} {statements : List Statement} :
    statementsOf source = .ok statements ↔
      ∃ tokens, tokenize source = .ok tokens ∧ parse tokens = .ok statements := by
  rw [statementsOf]
  cases htokens : tokenize source with
  | error error => simp
  | ok tokens => cases hparse : parse tokens <;> simp [hparse]

/-- The statements of a text, places aside, are those of its tokens. -/
theorem statementsOf_of_lexes {source : String} {tokens : List Token}
    {statements : List Statement} (htokens : Lexes source.toList tokens)
    (hparse : parse tokens = .ok statements) :
    ∃ placed, statementsOf source = .ok placed ∧ placed.map Statement.unplaced = statements := by
  obtain ⟨placed, htokenize, rfl⟩ := htokens none .start
  rw [Grammar.parse_unplaced] at hparse
  cases hplaced : parse placed with
  | error error => simp [hplaced] at hparse
  | ok statements' =>
    simp only [hplaced, Except.ok.injEq] at hparse
    exact ⟨statements', statementsOf_eq_ok_iff.2 ⟨placed, htokenize, hplaced⟩, hparse⟩

theorem run_of_statementsOf {source : String} {statements : List Statement}
    (h : statementsOf source = .ok statements) (database : Database) :
    run source database =
      match executeAll statements database with
      | .error error left => .error (.execution error) left
      | .ok outcomes left => .ok outcomes left := by
  cases hall : executeAll statements database <;> simp only [run, h, hall]

/-- A text is run to its end exactly if it is a script and all its statements succeed. -/
theorem run_eq_ok_iff {source : String} {database left : Database} {outcomes : List Outcome} :
    run source database = .ok outcomes left ↔
      ∃ statements, statementsOf source = .ok statements ∧
        executeAll statements database = .ok outcomes left := by
  cases hstatements : statementsOf source with
  | error error => simp [run, hstatements]
  | ok statements =>
    rw [run_of_statementsOf hstatements]
    cases hall : executeAll statements database <;> simp [hall]

/-- **The three stages.**  A text whose tokens are those of some statements is run by
executing the statements. -/
theorem run_of_lexes {source : String} {tokens : List Token} {statements : List Statement}
    (htokens : Lexes source.toList tokens) (hparse : parse tokens = .ok statements)
    (database : Database) :
    run source database =
      match executeAll statements database with
      | .error error left => .error (.execution error) left
      | .ok outcomes left => .ok outcomes left := by
  obtain ⟨placed, hplaced, rfl⟩ := statementsOf_of_lexes htokens hparse
  rw [run_of_statementsOf hplaced, executeAll_unplaced]

end Database
end ColumnarSql
