import ColumnarSql.Proofs.Grammar.Walk

/-!
# Productions make progress

Scripts can be read with a place among the tokens instead of the tokens that are left.  Here each
production of the grammar is written as such a walk, with its loops as loops: the commas of a list,
the columns of a table, the semicolons behind a statement, and the statements of a script.

`Walk.MakesProgress` says what all of them have in common.  From every place among the tokens a walk
ends after no more rounds of each loop than there are tokens.  It has moved on if it has read
something; it has not moved back if it stops; and it never leaves the tokens.  What it has read, or
what it expected, is what the production has read or expected with the tokens from there on.  And it
is the same with other tokens in front.

That the walks end is not clear from their form.  Their loops are open: what is left of the tokens
is not looked at before a round, and behind a comma it is not known whether a column follows.  The
rounds are enough because `Walk.FollowsFrom` holds of every part (`Walk.follows_select` and the
others), and a production that succeeds leaves fewer tokens.

`Walk.productions_make_progress` is the statement for the seven productions and for scripts.
-/

namespace ColumnarSql
namespace Walk

open Arrival Production

variable {α : Type} {least : Nat}

/-! ## The productions -/

/-- A certain reserved word. -/
def keyword (word : Keyword) : Walk Token :=
  one (.keyword word) (·.isKeyword word)

/-- A certain punctuation mark. -/
def symbol (mark : Symbol) : Walk Token :=
  one (.symbol mark) (·.isSymbol mark)

/-- An identifier, named in a stop by its role. -/
def identifier (role : Expectation) : Walk Token :=
  one role (·.kind = .identifier)

/-- A number, a text or an identifier. -/
def expression : Walk Token :=
  one .expression fun token =>
    token.kind = .number || token.kind = .string || token.kind = .identifier

/-- A column with the word for its type. -/
def columnDeclaration : Walk ColumnDeclaration :=
  (identifier .columnName).bind fun name =>
  (one .dataType (·.kind = .keyword)).map fun type =>
  ⟨name, type⟩

/-- `SELECT item, … FROM table` -/
def select : Walk Statement :=
  (keyword .SELECT).bind fun _ =>
  expression.list.bind fun items =>
  (keyword .FROM).bind fun _ =>
  (identifier .tableName).map fun table =>
  .select items table

/-- `INSERT INTO table VALUES (value, …)` -/
def insert : Walk Statement :=
  (keyword .INSERT).bind fun _ =>
  (keyword .INTO).bind fun _ =>
  (identifier .tableName).bind fun table =>
  (keyword .VALUES).bind fun _ =>
  (symbol .leftParen).bind fun _ =>
  expression.list.bind fun values =>
  (symbol .rightParen).map fun _ =>
  .insert table values

/-- `CREATE TABLE name (column type, …)` -/
def createTable : Walk Statement :=
  (keyword .CREATE).bind fun _ =>
  (keyword .TABLE).bind fun _ =>
  (identifier .tableName).bind fun name =>
  (symbol .leftParen).bind fun _ =>
  (columnDeclaration.enclosed (symbol .rightParen)).map fun columns =>
  .createTable name columns

/-- One of the three statements. -/
def statement : Walk Statement :=
  firstOf .statement [select, insert, createTable]

/-- A statement with the semicolons that end it. -/
def terminated : Walk Statement :=
  statement.bind fun result => semicolons.map fun _ => result

/-- The error where something was expected and, perhaps, another token was found. -/
def errorWith (tokens : List Token) (expected : Expectation) (found : Option Token) :
    ParseError where
  location :=
    match found.or tokens.getLast? with
    | some token => token.location
    | none => .start
  expected := expected
  found := found.map (·.value)

/-- The error of a stop. -/
def errorAt (tokens : List Token) (stop : Stop) : ParseError :=
  errorWith tokens stop.expected tokens[stop.place]?

/-- The statements of a script.  Without tokens there is none. -/
def script (limit : Nat) (tokens : List Token) : Option (Except ParseError (List Statement)) :=
  if tokens.isEmpty then
    some (.error (errorAt tokens ⟨.statement, 0⟩))
  else
    match toEndLoop terminated limit tokens limit [] 0 with
    | none => none
    | some (.error stop) => some (.error (errorAt tokens stop))
    | some (.ok (statements, _)) => some (.ok statements)

/-! ## Walks follow their productions -/

theorem follows_columnDeclaration :
    FollowsFrom least columnDeclaration Grammar.columnDeclaration := by
  refine followsFrom_bind (followsFrom_one _ _) fun name => ?_
  exact followsFrom_map (followsFrom_one _ _)

theorem follows_expressions : FollowsFrom least expression.list Grammar.expression.separated :=
  followsFrom_list (followsFrom_one _ _)

theorem follows_select : FollowsFrom least select Grammar.select := by
  refine followsFrom_bind (followsFrom_one _ _) fun _ => ?_
  refine followsFrom_bind follows_expressions fun items => ?_
  refine followsFrom_bind (followsFrom_one _ _) fun _ => ?_
  exact followsFrom_map (followsFrom_one _ _)

theorem follows_insert : FollowsFrom least insert Grammar.insert := by
  refine followsFrom_bind (followsFrom_one _ _) fun _ => ?_
  refine followsFrom_bind (followsFrom_one _ _) fun _ => ?_
  refine followsFrom_bind (followsFrom_one _ _) fun table => ?_
  refine followsFrom_bind (followsFrom_one _ _) fun _ => ?_
  refine followsFrom_bind (followsFrom_one _ _) fun _ => ?_
  refine followsFrom_bind follows_expressions fun values => ?_
  exact followsFrom_map (followsFrom_one _ _)

theorem follows_createTable : FollowsFrom least createTable Grammar.createTable := by
  refine followsFrom_bind (followsFrom_one _ _) fun _ => ?_
  refine followsFrom_bind (followsFrom_one _ _) fun _ => ?_
  refine followsFrom_bind (followsFrom_one _ _) fun name => ?_
  refine followsFrom_bind (followsFrom_one _ _) fun _ => ?_
  exact followsFrom_enclosed follows_columnDeclaration (followsFrom_one _ _) _

theorem follows_statement : FollowsFrom least statement Grammar.statement :=
  followsFrom_firstOf
    (.cons follows_select (.cons follows_insert (.cons follows_createTable .nil))) _

theorem follows_terminated :
    FollowsFrom least terminated (Grammar.terminated Grammar.statement) := by
  refine followsFrom_bind follows_statement fun result => ?_
  exact followsFrom_map followsFrom_semicolons

/-! ## Progress -/

/-- **Progress within bounds.** -/
structure MakesProgress (walk : Walk α) (production : Production α) : Prop where
  /-- From every place a walk ends, with a round of each loop for every token.  It has read what the
  production reads and stands further to the right, or it stops, not further to the left, where the
  production fails. -/
  ends : ∀ (tokens : List Token) (place : Nat), place ≤ tokens.length →
    (∃ a next, walk tokens.length tokens place = some (.ok (a, next)) ∧
      place < next ∧ next ≤ tokens.length ∧
        production.run (tokens.drop place) = .ok (a, tokens.drop next)) ∨
    ∃ expected wrong, walk tokens.length tokens place = some (.error ⟨expected, wrong⟩) ∧
      place ≤ wrong ∧ wrong ≤ tokens.length ∧
        production.run (tokens.drop place) = .error ⟨expected, tokens.drop wrong⟩
  /-- With other tokens in front all places move by these, and nothing else changes. -/
  moves : ∀ (front tokens : List Token) (place : Nat), place ≤ tokens.length →
    walk (front ++ tokens).length (front ++ tokens) (front.length + place) =
      (walk tokens.length tokens place).moved front.length

/-- **A walk that follows a production makes progress.** -/
theorem FollowsFrom.makesProgress {walk : Walk α} {production : Production α}
    (h : FollowsFrom 0 walk production) : MakesProgress walk production where
  ends tokens place hend := by
    have hagrees := h (le_refl tokens.length) (Nat.zero_le place) hend
    cases hrun : production.run (tokens.drop place) with
    | ok read =>
      rw [hrun] at hagrees
      obtain ⟨next, hwalk, -, hnext, hrest⟩ := hagrees
      have hread : production.run (tokens.drop place) = .ok (read.1, tokens.drop next) := by
        rw [hrun, hrest]
      exact .inl ⟨read.1, next, hwalk, lt_of_run hread hnext, hnext, by rw [hrest]⟩
    | error failure =>
      rw [hrun] at hagrees
      obtain ⟨wrong, hwalk, hstart, hwrong, hrest⟩ := hagrees
      exact .inr ⟨failure.expected, wrong, hwalk, hstart, hwrong, by rw [hrest]⟩
  moves front tokens place hend := by
    have hagrees := h (le_refl tokens.length) (Nat.zero_le place) hend
    have hmoved := h (le_refl (front ++ tokens).length) (Nat.zero_le (front.length + place))
      (by rw [List.length_append]; omega)
    rw [← List.drop_drop, List.drop_left] at hmoved
    exact hagrees.eq_moved hmoved

/-- The error of a stop is the error of its failure. -/
theorem errorAt_eq (tokens : List Token) (stop : Stop) :
    errorAt tokens stop = ParseError.ofFailure tokens (failureAt tokens stop) :=
  congrArg (errorWith tokens stop.expected) List.head?_drop.symm

/-- **A script ends** after no more rounds of each loop than there are tokens, and it is read as
`parse` reads it. -/
theorem script_eq (tokens : List Token) : script tokens.length tokens = some (parse tokens) := by
  have hparse : parse tokens =
      ((Grammar.terminated Grammar.statement).runToEnd tokens).mapError
        (ParseError.ofFailure tokens) := rfl
  rw [script, hparse]
  by_cases hempty : tokens.isEmpty = true
  · obtain rfl := List.isEmpty_iff.1 hempty
    have hfails : (Grammar.terminated Grammar.statement).runToEnd [] = .error ⟨.statement, []⟩ :=
      runToEnd_of_error rfl
    rw [if_pos hempty, errorAt_eq, hfails]
    rfl
  · have hagrees := agrees_toEndLoop (@follows_terminated 0) (le_refl tokens.length) []
      (le_refl 0) (Nat.zero_le tokens.length) (Nat.sub_le tokens.length 0)
    rw [List.drop_zero, runAll, if_neg (by simpa using hempty)] at hagrees
    rw [if_neg hempty]
    cases hrun : (Grammar.terminated Grammar.statement).runToEnd tokens with
    | ok statements =>
      rw [hrun] at hagrees
      obtain ⟨place, hloop, -⟩ := hagrees
      rw [hloop]
      rfl
    | error failure =>
      rw [hrun] at hagrees
      obtain ⟨place, hloop, -, -, hrest⟩ := hagrees
      have hfailure : failureAt tokens ⟨failure.expected, place⟩ = failure := by
        rw [failureAt, hrest]
      rw [hloop]
      dsimp only
      rw [errorAt_eq, hfailure]
      rfl

/-- **Every production makes progress within bounds**, and so does a script: the productions of the
grammar, written with open loops along a place among the tokens, end from every place, read what the
grammar reads, and depend on nothing that stands to the left. -/
theorem productions_make_progress :
    MakesProgress expression Grammar.expression ∧
    MakesProgress expression.list Grammar.expression.separated ∧
    MakesProgress columnDeclaration Grammar.columnDeclaration ∧
    MakesProgress select Grammar.select ∧
    MakesProgress insert Grammar.insert ∧
    MakesProgress createTable Grammar.createTable ∧
    MakesProgress statement Grammar.statement ∧
    ∀ tokens, script tokens.length tokens = some (parse tokens) := by
  refine ⟨?_, ?_, ?_, ?_, ?_, ?_, ?_, script_eq⟩
  · exact FollowsFrom.makesProgress (followsFrom_one _ _)
  · exact follows_expressions.makesProgress
  · exact follows_columnDeclaration.makesProgress
  · exact follows_select.makesProgress
  · exact follows_insert.makesProgress
  · exact follows_createTable.makesProgress
  · exact follows_statement.makesProgress

/-- The tokens of `CREATE TABLE t ( a INT ,`, where a column is missing behind the comma. -/
def danglingComma : List Token :=
  [.word .CREATE, .word .TABLE, .name "t", .mark .leftParen, .name "a", .word .INT, .mark .comma]

/-- The comma has been taken when the walk stops, and the place is the end of the tokens.  With
another token in front it is one further to the right. -/
theorem productions_make_progress_danglingComma :
    createTable 7 danglingComma 0 = some (.error ⟨.columnName, 7⟩) ∧
      Grammar.createTable.run danglingComma = .error ⟨.columnName, []⟩ ∧
      createTable 8 (.mark .semicolon :: danglingComma) 1 = some (.error ⟨.columnName, 8⟩) := by
  obtain ⟨-, -, -, -, -, hprogress, -⟩ := productions_make_progress
  have hstops : createTable 7 danglingComma 0 = some (.error ⟨.columnName, 7⟩) := by
    decide +kernel
  have hmoves := hprogress.moves [.mark .semicolon] danglingComma 0 (Nat.zero_le 7)
  refine ⟨hstops, ?_, hmoves.trans (congrArg (Arrival.moved 1) hstops)⟩
  rcases hprogress.ends danglingComma 0 (Nat.zero_le 7) with
    ⟨a, next, hwalk, -⟩ | ⟨expected, wrong, hwalk, -, -, hfails⟩
  · exact absurd (hwalk.symm.trans hstops) (by simp)
  · obtain ⟨rfl, rfl⟩ : expected = .columnName ∧ wrong = 7 := by
      simpa using hwalk.symm.trans hstops
    exact hfails

end Walk
end ColumnarSql
