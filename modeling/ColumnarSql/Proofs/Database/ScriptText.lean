import ColumnarSql.Proofs.Database.Script
import ColumnarSql.Proofs.Grammar.Independence
import ColumnarSql.Proofs.Grammar.Spelling
import ColumnarSql.Proofs.Lexeme.Relayout

/-!
# Scripts as texts

Two laws about the text of a script and what running it does.

* **Layout does not matter** (`Database.run_relayout`).  Another layout of a text that has tokens
  has the same tokens; to run one is to run the other, on every database, up to the place that an
  error in parsing reports.
* **Concatenation is sequence** (`Database.run_append`).  Two scripts, one behind the other with
  nothing between them, are a script; to run it is to run the first and then the second on what
  the first has left.

For both it is enough to look at the tokens without their places, since no stage looks at them.
A script can be followed by another one because it ends with a semicolon, which is not gone on
with by anything.
-/

namespace ColumnarSql

/-- An error without the place that an error in parsing reports. -/
def ScriptError.unplaced : ScriptError → ScriptError
  | lex error => lex error
  | parse error => parse error.unplaced
  | execution error => execution error

namespace Database

/-! ## Layout -/

/-- What a run answers and leaves, without the place that an error in parsing reports. -/
def answerUnplaced : EStateM.Result ScriptError Database (List Outcome) →
    EStateM.Result ScriptError Database (List Outcome)
  | .ok outcomes left => .ok outcomes left
  | .error error left => .error error.unplaced left

/-- Texts with the same tokens are run alike, wherever the tokens are. -/
theorem run_of_same_tokens {source source' : String} {tokens tokens' : List Token}
    (h : tokenize source = .ok tokens) (h' : tokenize source' = .ok tokens')
    (hsame : tokens'.map Token.unplaced = tokens.map Token.unplaced) (database : Database) :
    answerUnplaced (run source' database) = answerUnplaced (run source database) := by
  have hparse := Grammar.parse_unplaced tokens'
  rw [hsame, Grammar.parse_unplaced] at hparse
  cases hread : parse tokens with
  | error error =>
    cases hread' : parse tokens' with
    | ok statements' => simp [hread, hread'] at hparse
    | error error' =>
      simp only [hread, hread', Except.error.injEq] at hparse
      simp only [run, statementsOf, h, h', hread, hread', answerUnplaced, ScriptError.unplaced,
        hparse]
  | ok statements =>
    cases hread' : parse tokens' with
    | error error' => simp [hread, hread'] at hparse
    | ok statements' =>
      simp only [hread, hread', Except.ok.injEq] at hparse
      have hall : executeAll statements' = executeAll statements := by
        rw [← executeAll_unplaced, ← hparse, executeAll_unplaced]
      simp only [run, statementsOf, h, h', hread, hread', hall]

/-- **Layout does not matter.**  Every text that has tokens is made of pieces and white space, in
one way.  Another layout of the pieces has the same tokens, and running it gives the same answer
and leaves the same database. -/
theorem run_relayout {source source' : String} {pieces pieces' : List Piece}
    {tail tail' : List Char} (hcut : IsCut pieces tail) (htail : Blank tail)
    (hsource : textOf pieces tail = source.toList) (hlayout : Relayout pieces pieces')
    (htail' : Blank tail') (hsource' : textOf pieces' tail' = source'.toList) :
    ∃ tokens tokens', tokenize source = .ok tokens ∧ tokenize source' = .ok tokens' ∧
      tokens'.map Token.unplaced = tokens.map Token.unplaced ∧
      ∀ database, answerUnplaced (run source' database) = answerUnplaced (run source database) := by
  have htokens := tokenize_eq_ok_iff.2 ⟨pieces, tail, hcut, htail, hsource, rfl⟩
  have htokens' := tokenize_eq_ok_iff.2
    ⟨pieces', tail', hcut.relayout hlayout htail', htail', hsource', rfl⟩
  have hsame : (tokensOf .start pieces').map Token.unplaced =
      (tokensOf .start pieces).map Token.unplaced := by
    rw [tokensOf_unplaced, tokensOf_unplaced, hlayout.map_token]
  exact ⟨_, _, htokens, htokens', hsame, run_of_same_tokens htokens htokens' hsame⟩

/-- A question without white space. -/
def compactQuestion : List Piece :=
  [⟨[], "select".toList, .keyword, "select"⟩, ⟨[], "'a'".toList, .string, "a"⟩,
    ⟨[], "from".toList, .keyword, "from"⟩, ⟨[], "\"t\"".toList, .identifier, "t"⟩,
    ⟨[], [';'], .symbol, ";"⟩]

/-- The same question with white space, and with its reserved words in other letter cases. -/
def spaciousQuestion : List Piece :=
  [⟨['\t'], "SELECT".toList, .keyword, "select"⟩, ⟨[' '], "'a'".toList, .string, "a"⟩,
    ⟨['\n', ' '], "From".toList, .keyword, "from"⟩, ⟨[' '], "\"t\"".toList, .identifier, "t"⟩,
    ⟨['\r', '\n'], [';'], .symbol, ";"⟩]

/-- The table that is asked, with one row. -/
def askedTable : Table :=
  ⟨"t", [⟨"a", .int⟩], [⟨"a", .int, .ints #[1]⟩], 1⟩

/-- The tokens stand in other places, and the answer is the same: the row of the table, and that
there is no table where there is none. -/
theorem run_relayout_question :
    IsCut compactQuestion [] ∧ Relayout compactQuestion spaciousQuestion ∧
      tokenize "select'a'from\"t\";" = .ok [⟨.keyword, "select", ⟨0, 0⟩⟩, ⟨.string, "a", ⟨0, 6⟩⟩,
        ⟨.keyword, "from", ⟨0, 9⟩⟩, ⟨.identifier, "t", ⟨0, 13⟩⟩, ⟨.symbol, ";", ⟨0, 16⟩⟩] ∧
      tokenize "\tSELECT 'a'\n From \"t\"\r\n;\n" = .ok [⟨.keyword, "select", ⟨0, 1⟩⟩,
        ⟨.string, "a", ⟨0, 8⟩⟩, ⟨.keyword, "from", ⟨1, 1⟩⟩, ⟨.identifier, "t", ⟨1, 6⟩⟩,
        ⟨.symbol, ";", ⟨2, 0⟩⟩] ∧
      (∀ database, answerUnplaced (run "\tSELECT 'a'\n From \"t\"\r\n;\n" database) =
        answerUnplaced (run "select'a'from\"t\";" database)) ∧
      answerUnplaced (run "\tSELECT 'a'\n From \"t\"\r\n;\n" (empty.file "t" askedTable)) =
        .ok [.selected ⟨[⟨"a", .int⟩], [[.int 1]]⟩] (empty.file "t" askedTable) ∧
      answerUnplaced (run "\tSELECT 'a'\n From \"t\"\r\n;\n" empty) =
        .error (.execution (.tableDoesNotExist "t")) empty := by
  have hcut : IsCut compactQuestion [] := by
    decide +kernel
  have hlayout : Relayout compactQuestion spaciousQuestion :=
    ⟨by decide +kernel, by decide +kernel⟩
  have hcompact : textOf compactQuestion [] = "select'a'from\"t\";".toList := by
    decide +kernel
  have hspacious : textOf spaciousQuestion ['\n'] =
      "\tSELECT 'a'\n From \"t\"\r\n;\n".toList := by
    decide +kernel
  obtain ⟨tokens, tokens', htokens, htokens', hsame, hrun⟩ :=
    run_relayout hcut (by decide) hcompact hlayout (by decide) hspacious
  have hstatements : statementsOf "select'a'from\"t\";" =
      .ok [.select [⟨.string, "a", ⟨0, 6⟩⟩] ⟨.identifier, "t", ⟨0, 13⟩⟩] := by
    decide +kernel
  refine ⟨hcut, hlayout, by decide +kernel, by decide +kernel, hrun, ?_, ?_⟩
  · rw [hrun, run_of_statementsOf hstatements]
    rfl
  · rw [hrun, run_of_statementsOf hstatements]
    rfl

/-! ## Concatenation -/

/-- The tokens of a script, without their places, stand before those of any text that
follows. -/
theorem lexes_append {first second : String} {before tokens : List Token}
    {statements : List Statement} (hfirst : tokenize first = .ok before)
    (hparse : parse before = .ok statements) (hsecond : Lexes second.toList tokens) :
    Lexes (first ++ second).toList (before.map Token.unplaced ++ tokens) := by
  obtain ⟨pieces, tail, hcut, htail, htext, rfl⟩ := tokenize_eq_ok_iff.1 hfirst
  obtain ⟨blocks, hspells⟩ := Grammar.parse_eq_ok_iff_spells.1 hparse
  obtain ⟨mark, hlast, hmark⟩ := hspells.exists_getLast?
  -- the last piece is the semicolon that ends the script
  have hsymbol : ∀ piece ∈ pieces.getLast?, piece.kind = .symbol := by
    intro piece hpiece
    have hunplaced : (pieces.map Piece.token).getLast? = some mark.unplaced := by
      rw [← tokensOf_unplaced pieces .start, List.getLast?_map, hlast]
      rfl
    rw [List.getLast?_map, Option.mem_def.1 hpiece] at hunplaced
    have hkind := congrArg Token.kind (Option.some.inj hunplaced)
    exact hkind.trans (Token.isSymbol_iff.1 hmark).1
  have hmore : IsCut pieces (tail ++ second.toList) := hcut.append_tail fun piece hpiece => by
    rw [hsymbol piece hpiece]
    exact fun _ _ => rfl
  rw [String.toList_append, ← htext, ← textOf_append_tail, tokensOf_unplaced]
  exact lexes_textOf hmore (lexes_blanks htail hsecond)

/-- The statements of two scripts, one behind the other, are those of the first and then those of
the second; only their places are other ones. -/
theorem statementsOf_append {first second : String} {before after : List Statement}
    (hfirst : statementsOf first = .ok before) (hsecond : statementsOf second = .ok after) :
    ∃ statements, statementsOf (first ++ second) = .ok statements ∧
      statements.map Statement.unplaced = (before ++ after).map Statement.unplaced := by
  obtain ⟨tokens, htokens, hparse⟩ := statementsOf_eq_ok_iff.1 hfirst
  obtain ⟨tokens', htokens', hparse'⟩ := statementsOf_eq_ok_iff.1 hsecond
  have hbefore := Grammar.parse_unplaced tokens
  have hafter := Grammar.parse_unplaced tokens'
  rw [hparse] at hbefore
  rw [hparse'] at hafter
  rw [List.map_append]
  exact statementsOf_of_lexes (lexes_append htokens hparse (lexes_of_tokenize htokens'))
    (Grammar.parse_append hbefore hafter)

/-- **Concatenation is sequence.**  Two scripts, one behind the other with nothing between them,
are a script.  To run it is to run the first and then the second on what the first has left,
unless the first fails. -/
theorem run_append {first second : String} {before after : List Statement}
    (hfirst : statementsOf first = .ok before) (hsecond : statementsOf second = .ok after) :
    (∃ statements, statementsOf (first ++ second) = .ok statements ∧
      statements.map Statement.unplaced = (before ++ after).map Statement.unplaced) ∧
    ∀ database, run (first ++ second) database =
      match run first database with
      | .error error left => .error error left
      | .ok outcomes between =>
        match run second between with
        | .error error left => .error error left
        | .ok more left => .ok (outcomes ++ more) left := by
  obtain ⟨statements, hboth, hsame⟩ := statementsOf_append hfirst hsecond
  refine ⟨⟨statements, hboth, hsame⟩, fun database => ?_⟩
  have hall : executeAll statements = executeAll (before ++ after) := by
    rw [← executeAll_unplaced, hsame, executeAll_unplaced]
  rw [run_of_statementsOf hboth, run_of_statementsOf hfirst, hall]
  cases hrun : executeAll before database with
  | error error left => rw [executeAll_append_of_error hrun]
  | ok outcomes between =>
    rw [executeAll_append hrun]
    simp only [run_of_statementsOf hsecond]
    cases executeAll after between <;> rfl

/-- A database with a table without rows. -/
def createdDatabase : Database :=
  empty.file "t" (.new "t" [⟨"a", .int⟩])

/-- A table is made, and a row of a later text goes into it.  The other way round the first text
fails, and the second is not run.  If the second text fails, what the first has done stays. -/
theorem run_append_creation :
    statementsOf "CREATE TABLE t (a INT);" =
        .ok [.createTable ⟨.identifier, "t", ⟨0, 13⟩⟩
          [⟨⟨.identifier, "a", ⟨0, 16⟩⟩, ⟨.keyword, "int", ⟨0, 18⟩⟩⟩]] ∧
      statementsOf "INSERT INTO t VALUES (1);" =
        .ok [.insert ⟨.identifier, "t", ⟨0, 12⟩⟩ [⟨.number, "1", ⟨0, 22⟩⟩]] ∧
      run ("CREATE TABLE t (a INT);" ++ "INSERT INTO t VALUES (1);") empty =
        .ok [.created, .inserted] (createdDatabase.file "t" askedTable) ∧
      run ("INSERT INTO t VALUES (1);" ++ "CREATE TABLE t (a INT);") empty =
        .error (.execution (.tableDoesNotExist "t")) empty ∧
      run ("CREATE TABLE t (a INT);" ++ "CREATE TABLE t (a INT);") empty =
        .error (.execution (.tableAlreadyExists "t")) createdDatabase := by
  have hcreation : statementsOf "CREATE TABLE t (a INT);" =
      .ok [.createTable ⟨.identifier, "t", ⟨0, 13⟩⟩
        [⟨⟨.identifier, "a", ⟨0, 16⟩⟩, ⟨.keyword, "int", ⟨0, 18⟩⟩⟩]] := by
    decide +kernel
  have haddition : statementsOf "INSERT INTO t VALUES (1);" =
      .ok [.insert ⟨.identifier, "t", ⟨0, 12⟩⟩ [⟨.number, "1", ⟨0, 22⟩⟩]] := by
    decide +kernel
  have hschema : schemaOf [] [⟨⟨.identifier, "a", ⟨0, 16⟩⟩, ⟨.keyword, "int", ⟨0, 18⟩⟩⟩] =
      .ok [⟨"a", .int⟩] := by
    decide +kernel
  have htable : createdDatabase.table? "t" = some (.new "t" [⟨"a", .int⟩]) := by
    rw [createdDatabase, table?_file, if_pos rfl]
  have hcreated : run "CREATE TABLE t (a INT);" empty = .ok [.created] createdDatabase := by
    rw [run_of_statementsOf hcreation]
    simp only [executeAll, execute, createTable, table?_empty, hschema]
    rfl
  have hadded : run "INSERT INTO t VALUES (1);" createdDatabase =
      .ok [.inserted] (createdDatabase.file "t" askedTable) := by
    rw [run_of_statementsOf haddition]
    simp only [executeAll, execute, insert, htable]
    rfl
  have hrefused : run "CREATE TABLE t (a INT);" createdDatabase =
      .error (.execution (.tableAlreadyExists "t")) createdDatabase := by
    rw [run_of_statementsOf hcreation]
    simp only [executeAll, execute, createTable, htable]
  have hmissing : run "INSERT INTO t VALUES (1);" empty =
      .error (.execution (.tableDoesNotExist "t")) empty := by
    rw [run_of_statementsOf haddition]
    simp only [executeAll, execute, insert, table?_empty]
  refine ⟨hcreation, haddition, ?_, ?_, ?_⟩
  · simp only [(run_append hcreation haddition).2, hcreated, hadded]
    rfl
  · simp only [(run_append haddition hcreation).2, hmissing]
  · simp only [(run_append hcreation hcreation).2, hcreated, hrefused]

end Database
end ColumnarSql
