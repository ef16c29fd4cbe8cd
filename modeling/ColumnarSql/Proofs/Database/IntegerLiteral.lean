import ColumnarSql.Proofs.Database.Provenance
import ColumnarSql.Proofs.Shell.Session
import Mathlib.Data.Nat.Digits.Defs

/-!
# What becomes of a number in a script

A column of integers is given a number.  Digits without a point and without an exponent are an
integer, whatever its size; leading zeros do not count.  If it fits into sixty-four bits it is what
is stored, and a question shows it in its canonical numeral.  Every other number is refused, with
the number as it was written, and nothing is stored.  No number is wrapped, cut or rounded.

The grammar of numbers admits more than integers, and what decides is which characters occur:

* `Number.IsNumber.cases_mem`: a number is digits, or there is a point or an `e` in it;
* `Number.IsNumber.toInt64?_eq_some_iff`: it is the numeral of an integer exactly if it is digits,
  and then of the one that the digits denote.  So `100` is one, and `1e2` and `100.` are not.

`Database.run_insertionText` follows the number through the stages of a script, up to the statement
that is executed; `Database.numbers_are_stored_exactly` is what this statement does, and what the
shell prints for the question.  It prints nothing if the name of the column has more than 65535
characters, and this is the only case (`Database.isPrintable_integers_iff`), since the numeral of an
integer of sixty-four bits is short.
-/

namespace ColumnarSql

/-! ## Numbers and integers -/

namespace Number

/-- **A number is digits**, or there is a point or an `e` in it. -/
theorem IsNumber.cases_mem {text : List Char} (h : IsNumber text) :
    AllDigits text ∨ '.' ∈ text ∨ 'e' ∈ text := by
  obtain ⟨mantissa, exponent, hmantissa, hexponent, rfl⟩ := h
  cases hexponent with
  | some => exact .inr (.inr (by simp))
  | none =>
    rw [List.append_nil]
    cases hmantissa with
    | whole hne hbefore => exact .inl hbefore
    | decimal => exact .inr (.inl (by simp))
    | fraction => exact .inr (.inl (by simp))

theorem IsNumber.ne_nil {text : List Char} (h : IsNumber text) : text ≠ [] := by
  obtain ⟨c, rest, rfl, -⟩ := h.head
  exact List.cons_ne_nil _ _

/-- The greatest integer of sixty-four bits. -/
def greatest : Nat := 2 ^ 63 - 1

/-- **A number is the numeral of an integer** exactly if it is digits, and the integer is what the
digits denote. -/
theorem IsNumber.toInt64?_eq_some_iff {text : List Char} (h : IsNumber text) {n : Int64} :
    Text.Numeral.toInt64? text = some n ↔
      AllDigits text ∧ n.toInt = Nat.ofDigitChars 10 text 0 := by
  rw [Text.Numeral.toInt64?_eq_some_iff]
  refine ⟨h.allDigits, fun ⟨hdigits, hn⟩ => ?_⟩
  rw [Text.Numeral.toInt?_of_allDigits h.ne_nil hdigits, hn]
  rfl

/-- Digits that denote no more than the greatest integer are the numeral of what they denote. -/
theorem IsNumber.exists_toInt64? {text : List Char} (h : IsNumber text)
    (hdigits : AllDigits text) (hle : Nat.ofDigitChars 10 text 0 ≤ greatest) :
    ∃ n, Text.Numeral.toInt64? text = some n ∧ n.toInt = Nat.ofDigitChars 10 text 0 := by
  have htoInt : (Int64.ofInt (Nat.ofDigitChars 10 text 0)).toInt = Nat.ofDigitChars 10 text 0 := by
    rw [greatest] at hle
    exact Int64.toInt_ofInt_of_le (by omega) (by omega)
  exact ⟨_, h.toInt64?_eq_some_iff.2 ⟨hdigits, htoInt⟩, htoInt⟩

/-- Digits that denote more, and numbers that are not digits, are numerals of no integer. -/
theorem IsNumber.toInt64?_eq_none {text : List Char} (h : IsNumber text)
    (htext : greatest < Nat.ofDigitChars 10 text 0 ∨ '.' ∈ text ∨ 'e' ∈ text) :
    Text.Numeral.toInt64? text = none := by
  rw [Option.eq_none_iff_forall_ne_some]
  intro n hn
  obtain ⟨hdigits, hvalue⟩ := h.toInt64?_eq_some_iff.1 hn
  rcases htext with hlarge | hpoint | he
  · have hlt := n.toInt_lt
    rw [greatest] at hlarge
    omega
  · exact absurd (hdigits '.' hpoint) (by decide)
  · exact absurd (hdigits 'e' he) (by decide)

/-- A token of the class of numbers that a text is cut into is a number. -/
theorem isNumber_of_tokenize {number : String}
    (h : tokenize number = .ok [⟨.number, number, .start⟩]) : IsNumber number.toList :=
  (expressible_of_tokenize h (.number, number) (List.mem_singleton_self _)).isNumber

end Number

/-- An integer that is not negative is shown in its canonical numeral. -/
theorem Value.display_int {n : Int64} {m : Nat} (h : n.toInt = m) : (int n).display = m.repr := by
  rw [display, Text.Numeral.ofInt64, h]
  rfl

/-- The numeral of an integer of sixty-four bits is short. -/
theorem Value.length_display_int_le (n : Int64) : (int n).display.length ≤ 20 := by
  have hlow := n.le_toInt
  have hhigh := n.toInt_lt
  rw [display, Text.Numeral.ofInt64]
  cases hn : n.toInt with
  | ofNat m =>
    rw [hn, Int.ofNat_eq_natCast] at hhigh
    have hlength : m.repr.length ≤ 19 := Nat.repr_length m 19 (by decide) (by omega)
    exact hlength.trans (by decide)
  | negSucc m =>
    rw [hn, Int.negSucc_eq] at hlow
    have hlength : (m + 1).repr.length ≤ 19 := Nat.repr_length (m + 1) 19 (by decide) (by omega)
    calc ("-" ++ (m + 1).repr).length
        = 1 + (m + 1).repr.length := String.length_append _ _
      _ ≤ 20 := by omega

/-! ## The script -/

/-- The statement that adds a row with a single number. -/
def Statement.insertion (name number : String) : Statement :=
  .insert (.name name) [⟨.number, number, .start⟩]

/-- The text of the statement, with the name of the table as it is spelled. -/
def insertionText (spelling : List Char) (number : String) : String :=
  "INSERT INTO " ++ String.ofList spelling ++ " VALUES (" ++ number ++ ");"

section Script

variable {spelling : List Char} {name number : String}

/-- The text is cut into the tokens of the statement. -/
theorem lexes_insertionText (hspelling : Lexeme.Denotes spelling .identifier name)
    (hnumber : Number.IsNumber number.toList) :
    Lexes (insertionText spelling number).toList (Statement.insertion name number).block := by
  have hclosing : Lexes (");".toList) [.mark .rightParen, .mark .semicolon] :=
    lexes_mark .rightParen (lexes_mark .semicolon lexes_nil)
  have hdenotes : Lexeme.Denotes number.toList .number number := by
    have hdenotes := Lexeme.Denotes.number hnumber
    rwa [String.ofList_toList] at hdenotes
  have hvalue := lexes_of_denotes hdenotes
    ((@separated_cons ')' (by decide) [';']).ends _ _) hclosing
  have hvalues := lexes_phrase " VALUES " [' '] [.VALUES] rfl rfl (lexes_mark .leftParen hvalue)
  have htable := lexes_of_denotes hspelling
    ((@separated_phrase " VALUES " ' ' rfl (by decide) _).ends _ _) hvalues
  have hall := lexes_phrase "INSERT INTO " [] [.INSERT, .INTO] rfl rfl htable
  have htext : (insertionText spelling number).toList = "INSERT INTO ".toList ++
      (spelling ++ (" VALUES ".toList ++ ("(".toList ++ (number.toList ++ ");".toList)))) := by
    simp [insertionText]
  rw [htext]
  exact hall

/-- The tokens are read as the statement. -/
theorem parse_insertion (name number : String) :
    parse (Statement.insertion name number).block = .ok [.insertion name number] := by
  have hspells : ∀ statement ∈ [Statement.insertion name number],
      Grammar.Spells statement statement.spelled := by
    intro statement hstatement
    obtain rfl := List.mem_singleton.1 hstatement
    exact .insert (Token.isKeyword_word .INSERT) (Token.isKeyword_word .INTO) rfl
      (Token.isKeyword_word .VALUES) (Token.isSymbol_mark .leftParen)
      (.single ⟨.inl rfl, rfl⟩) (Token.isSymbol_mark .rightParen)
  have hparse := Grammar.parse_blocks_of_spells (List.cons_ne_nil _ _) hspells
  rwa [List.map_singleton, List.flatten_singleton] at hparse

end Script

namespace Database

variable {database : Database} {name number : String} {spelling : List Char}

/-- **The text is run** by executing the statement. -/
theorem run_insertionText (hspelling : Lexeme.Denotes spelling .identifier name)
    (hnumber : Number.IsNumber number.toList) (database : Database) :
    run (insertionText spelling number) database =
      match execute (.insertion name number) database with
      | .error error left => .error (.execution error) left
      | .ok outcome left => .ok [outcome] left := by
  rw [run_of_lexes (lexes_insertionText hspelling hnumber) (parse_insertion name number)]
  cases hexecute : execute (.insertion name number) database with
  | ok outcome left => rw [executeAll_cons_of_ok hexecute rfl]
  | error error left => rw [executeAll_cons_eq_error_iff.2 (.inl hexecute)]

/-- A number that is no numeral of an integer is refused, and nothing is stored. -/
theorem execute_insertion_of_none {table : Table} (htable : database.table? name = some table)
    (hlength : table.schema.length = 1) (hnone : Text.Numeral.toInt64? number.toList = none) :
    execute (.insertion name number) database = .error (.invalidNumber number) database := by
  have hliteral : Value.ofLiteral ⟨.number, number, .start⟩ = .error (.invalidNumber number) := by
    simp only [Value.ofLiteral, hnone]
  have hvalues : [(⟨.number, number, .start⟩ : Token)].mapM Value.ofLiteral =
      .error (.invalidNumber number) := by
    rw [List.mapM_cons, hliteral]
    rfl
  have hinsert : insert name [⟨.number, number, .start⟩] database =
      .error (.invalidNumber number) database := by
    simp only [insert, htable, hlength, List.length_singleton, if_pos, hvalues]
  show execute (.insert (.name name) [⟨.number, number, .start⟩]) database = _
  have hname : (Token.name name).value = name := rfl
  simp only [execute, hname, hinsert]

/-- The numeral of an integer adds a row with this integer to a table of a column of integers. -/
theorem execute_insertion_of_some (haligned : database.Aligned) {table : Table}
    (htable : database.table? name = some table) {column : String}
    (hschema : table.schema = [⟨column, .int⟩]) {n : Int64}
    (hn : Text.Numeral.toInt64? number.toList = some n) :
    ∃ grown, grown.Aligned ∧ grown.name = table.name ∧ grown.schema = table.schema ∧
      grown.rows = table.rows ++ [[.int n]] ∧
      execute (.insertion name number) database = .ok .inserted (database.file name grown) := by
  have hliteral : Value.ofLiteral ⟨.number, number, .start⟩ = .ok (.int n) := by
    simp only [Value.ofLiteral, hn]
  have hvalues : [(⟨.number, number, .start⟩ : Token)].mapM Value.ofLiteral = .ok [.int n] :=
    Traversal.mapM_eq_ok_iff.2 (congrArg (· :: []) hliteral)
  have htypes : [Value.int n].map Value.type = table.schema.map ColumnHeader.type := by
    rw [hschema]
    rfl
  obtain ⟨grown, hgrown, hname, hschema, hrows, hinsert⟩ :=
    insert_of_row haligned htable hvalues htypes
  exact ⟨grown, hgrown, hname, hschema, hrows, execute_insert_of_ok hinsert⟩

/-- A script that asks for all columns of a table is answered with its rows. -/
theorem run_select_all (haligned : database.Aligned) {table : Table}
    (htable : database.table? name = some table) (hne : table.schema ≠ [])
    (hnodup : (table.schema.map ColumnHeader.name).Nodup) (layout : Layout) :
    run (layout.script [.select (table.schema.map fun header => .name header.name) (.name name)])
        database =
      .ok [.selected ⟨table.schema, table.rows⟩] database := by
  have hwritable : ∀ statement ∈ [Statement.select
      (table.schema.map fun header => .name header.name) (.name name)], statement.Writable := by
    intro statement hstatement
    obtain rfl := List.mem_singleton.1 hstatement
    refine .select (by simpa using hne) fun item hitem => ?_
    obtain ⟨header, -, rfl⟩ := List.mem_map.1 hitem
    exact .name header.name
  have hselect : database.select (Token.name name).value
      (table.schema.map fun header => .name header.name) = .ok ⟨table.schema, table.rows⟩ :=
    select_all haligned htable hnodup
  have hanswer := executeAll_cons_of_ok (execute_select_of_ok hselect)
    (@rfl _ (executeAll [] database))
  rw [run_of_lexes (layout.lexes_script hwritable)
    (Grammar.parse_blocks (List.cons_ne_nil _ _) hwritable), hanswer]

/-- **A column of integers can be shown** exactly if its name is not too long. -/
theorem isPrintable_integers_iff {table : Table} (haligned : table.Aligned) {column : String}
    (hschema : table.schema = [⟨column, .int⟩]) :
    Shell.isPrintable (.selected ⟨[⟨column, .int⟩], table.rows⟩) = true ↔
      column.length ≤ 65535 := by
  have hrows : ∀ row ∈ table.rows, ∃ n, row = [.int n] := by
    intro row hrow
    have htypes := Table.map_type_of_mem_rows haligned hrow
    rw [hschema, List.map_singleton, List.map_eq_singleton_iff] at htypes
    obtain ⟨value, rfl, hvalue⟩ := htypes
    cases value with
    | int n => exact ⟨n, rfl⟩
    | text text => cases hvalue
  have hrectangular : ResultSet.Rectangular ⟨[⟨column, .int⟩], table.rows⟩ := by
    intro row hrow
    obtain ⟨n, rfl⟩ := hrows row hrow
    rfl
  rw [Shell.isPrintable_selected_iff hrectangular]
  constructor
  · intro hentries
    exact hentries [column] List.mem_cons_self column (List.mem_singleton_self column)
  · intro hname entries hentries entry hentry
    rcases List.mem_cons.1 hentries with rfl | hcells
    · obtain rfl := List.mem_singleton.1 hentry
      exact hname
    · obtain ⟨row, hrow, rfl⟩ := List.mem_map.1 hcells
      obtain ⟨n, rfl⟩ := hrows row hrow
      obtain rfl := List.mem_singleton.1 hentry
      exact (Value.length_display_int_le n).trans (by decide)

/-- **A number is stored as the integer that it denotes, or it is refused.**  Into a column of
integers go the digits that denote no more than the greatest integer, whatever zeros they begin
with: the row that is added holds this integer and no other, a question finds it, and it is shown in
its canonical numeral.  If the name of the column is not too long, what the shell prints for the
question ends with this numeral, behind blanks and between bars, and with the number of the rows.
Digits that denote more, and numbers with a point or an exponent, are refused, and the database
stays as it is.  There are no other numbers. -/
theorem numbers_are_stored_exactly (h : Reachable database) {table : Table}
    (htable : database.table? name = some table) {column : String}
    (hschema : table.schema = [⟨column, .int⟩])
    (hspelling : Lexeme.Denotes spelling .identifier name)
    (hnumber : tokenize number = .ok [⟨.number, number, .start⟩]) :
    (Number.AllDigits number.toList →
      Nat.ofDigitChars 10 number.toList 0 ≤ Number.greatest →
      ∃ (n : Int64) (grown : Table), n.toInt = Nat.ofDigitChars 10 number.toList 0 ∧
        run (insertionText spelling number) database = .ok [.inserted] (database.file name grown) ∧
        grown.schema = table.schema ∧ grown.rows = table.rows ++ [[.int n]] ∧
        (Value.int n).display = (Nat.ofDigitChars 10 number.toList 0).repr ∧
        (∀ layout : Layout, run (layout.script [.select [.name column] (.name name)])
            (database.file name grown) =
          .ok [.selected ⟨[⟨column, .int⟩], grown.rows⟩] (database.file name grown)) ∧
        (Shell.isPrintable (.selected ⟨[⟨column, .int⟩], grown.rows⟩) = true ↔
          column.length ≤ 65535) ∧
        (Shell.isPrintable (.selected ⟨[⟨column, .int⟩], grown.rows⟩) = true →
          ∃ before blanks, ∀ layout : Layout,
            Shell.answer (layout.script [.select [.name column] (.name name)])
                (database.file name grown) =
              (some (before ++ "\n|" ++ String.ofList (List.replicate blanks ' ') ++
                  (Nat.ofDigitChars 10 number.toList 0).repr ++ "|\n" ++
                  ("(" ++ (table.rows.length + 1).repr ++
                    (if table.rows.length + 1 = 1 then " row" else " rows") ++ ")\n")),
                database.file name grown))) ∧
    (Number.AllDigits number.toList ∧ Number.greatest < Nat.ofDigitChars 10 number.toList 0 ∨
        '.' ∈ number.toList ∨ 'e' ∈ number.toList →
      run (insertionText spelling number) database =
        .error (.execution (.invalidNumber number)) database) ∧
    (Number.AllDigits number.toList ∨ '.' ∈ number.toList ∨ 'e' ∈ number.toList) := by
  have hnumber := Number.isNumber_of_tokenize hnumber
  refine ⟨fun hdigits hle => ?_, fun hrefused => ?_, hnumber.cases_mem⟩
  · obtain ⟨n, hn, hvalue⟩ := hnumber.exists_toInt64? hdigits hle
    obtain ⟨grown, hgrown, hname, hsame, hrows, hexecute⟩ :=
      execute_insertion_of_some h.aligned htable hschema hn
    have hcolumns : grown.schema = [⟨column, .int⟩] := hsame.trans hschema
    have hfiled : (database.file name grown).table? name = some grown := by
      rw [table?_file, if_pos rfl]
    have hquestion (layout : Layout) :
        run (layout.script [.select [.name column] (.name name)]) (database.file name grown) =
          .ok [.selected ⟨[⟨column, .int⟩], grown.rows⟩] (database.file name grown) := by
      have hanswer := run_select_all (h.aligned.file hgrown) hfiled (by simp [hcolumns])
        (by simp [hcolumns]) layout
      rwa [hcolumns] at hanswer
    refine ⟨n, grown, hvalue, ?_, hsame, hrows, Value.display_int hvalue, hquestion,
      isPrintable_integers_iff hgrown hcolumns, fun hprintable => ?_⟩
    · rw [run_insertionText hspelling hnumber, hexecute]
    · obtain ⟨before, blanks, hrender⟩ :=
        Shell.exists_renderResult_concat ⟨column, .int⟩ table.rows (.int n)
      rw [← hrows, Value.display_int hvalue, Shell.renderCount] at hrender
      refine ⟨before, blanks, fun layout => ?_⟩
      rw [Shell.answer_of_selected (hquestion layout) hprintable, hrender]
  · have hnone := hnumber.toInt64?_eq_none (hrefused.imp_left And.right)
    rw [run_insertionText hspelling hnumber,
      execute_insertion_of_none htable (by rw [hschema, List.length_singleton]) hnone]

/-- A database with one table of one column of integers. -/
def integerDatabase : Database :=
  empty.afterCalls [.run "CREATE TABLE t (a INT);"]

/-- Leading zeros do not count, and the number is shown without them.  The first number of more than
sixty-four bits is refused, and so is an integer with an exponent. -/
theorem numbers_are_stored_exactly_integerDatabase :
    Reachable integerDatabase ∧
      (∃ (n : Int64) (grown : Table) (before : String) (blanks : Nat), n.toInt = 7 ∧
        run "INSERT INTO t VALUES (007);" integerDatabase =
          .ok [.inserted] (integerDatabase.file "t" grown) ∧ grown.rows = [[.int n]] ∧
        (Value.int n).display = "7" ∧
        run "SELECT \"a\" FROM \"t\";\n" (integerDatabase.file "t" grown) =
          .ok [.selected ⟨[⟨"a", .int⟩], [[.int n]]⟩] (integerDatabase.file "t" grown) ∧
        Shell.answer "SELECT \"a\" FROM \"t\";\n" (integerDatabase.file "t" grown) =
          (some "|         a|\n|         7|\n(1 row)\n", integerDatabase.file "t" grown) ∧
        before ++ "\n|" ++ String.ofList (List.replicate blanks ' ') ++ "7" ++ "|\n" ++
            ("(" ++ "1" ++ " row" ++ ")\n") =
          "|         a|\n|         7|\n(1 row)\n") ∧
      run "INSERT INTO t VALUES (9223372036854775808);" integerDatabase =
        .error (.execution (.invalidNumber "9223372036854775808")) integerDatabase ∧
      run "INSERT INTO t VALUES (1e2);" integerDatabase =
        .error (.execution (.invalidNumber "1e2")) integerDatabase := by
  have hreachable : Reachable integerDatabase := ⟨_, rfl⟩
  have htable : integerDatabase.table? "t" = some (.new "t" [⟨"a", .int⟩]) := by decide +kernel
  have hspelling : Lexeme.Denotes ['t'] .identifier "t" := by
    refine .bare ⟨'t', [], rfl, by decide +kernel, by simp⟩ fun word hspells => ?_
    have hlength := hspells.length_eq
    revert hlength
    cases word <;> decide
  have hzeros : tokenize "007" = .ok [⟨.number, "007", .start⟩] := by decide +kernel
  have hlarge : tokenize "9223372036854775808" =
      .ok [⟨.number, "9223372036854775808", .start⟩] := by decide +kernel
  have hexponent : tokenize "1e2" = .ok [⟨.number, "1e2", .start⟩] := by decide +kernel
  have hquestionText : Layout.plain.script [.select [.name "a"] (.name "t")] =
      "SELECT \"a\" FROM \"t\";\n" := by decide +kernel
  refine ⟨hreachable, ?_, ?_, ?_⟩
  · obtain ⟨n, grown, hvalue, hrun, -, hrows, hdisplay, hquestion, hprintable, hshown⟩ :=
      (numbers_are_stored_exactly hreachable htable rfl hspelling hzeros).1
        (by simp [Number.AllDigits]) (by decide +kernel)
    obtain rfl : n = 7 := Int64.toInt_inj.1 (hvalue.trans (by decide +kernel))
    obtain ⟨before, blanks, hanswer⟩ := hshown (hprintable.2 (by decide +kernel))
    have hrow : grown.rows = [[.int 7]] := hrows
    have hquestion := hquestion .plain
    have hanswer := hanswer .plain
    rw [hquestionText, hrow] at hquestion
    rw [hquestionText] at hanswer
    -- The answer is known in two ways, and so is its text.
    have htext : Shell.answer "SELECT \"a\" FROM \"t\";\n" (integerDatabase.file "t" grown) =
        (some "|         a|\n|         7|\n(1 row)\n", integerDatabase.file "t" grown) := by
      rw [Shell.answer_of_selected hquestion (by decide +kernel)]
      have hrender : Shell.renderResult ⟨[⟨"a", .int⟩], [[.int 7]]⟩ =
          "|         a|\n|         7|\n(1 row)\n" := by decide +kernel
      rw [hrender]
    have hend := Option.some.inj (congrArg Prod.fst (hanswer.symm.trans htext))
    exact ⟨7, grown, before, blanks, hvalue, hrun, hrow, hdisplay, hquestion, htext, hend⟩
  · exact (numbers_are_stored_exactly hreachable htable rfl hspelling hlarge).2.1
      (.inl ⟨by simp [Number.AllDigits], by decide +kernel⟩)
  · exact (numbers_are_stored_exactly hreachable htable rfl hspelling hexponent).2.1
      (.inr (.inr (by decide +kernel)))

end Database
end ColumnarSql
