import ColumnarSql.Proofs.Grammar.Script

/-!
# How statements are spelled

The grammar as a relation: `Grammar.Spells` says which tokens spell a statement, without
saying how they are read.  The tokens that a statement keeps are those it was spelled with,
places included; the reserved words and the punctuation between them may stand anywhere.

* `Grammar.run_statement_iff_spells`: what the production of statements reads is a spelling.
* `Grammar.run_terminated_iff_spells`: the same for a statement with its semicolons.
* `Grammar.parse_eq_ok_iff_spells`: the scripts are the spellings of statements, one block
  after another.
* `Grammar.parse_accepts_unique_spelling`: and a sequence of tokens is a script in one way
  only.

Of the inductive definitions each constructor is one line of the grammar in
`ColumnarSql.Grammar.Script`.
-/

namespace ColumnarSql
namespace Grammar

open Production

variable {α : Type}

/-! ## The relation -/

/-- Things are spelled one after another, with commas between them. -/
inductive CommaSeparated (spells : α → List Token → Prop) : List α → List Token → Prop
  | single {a : α} {block : List Token} (hspells : spells a block) :
      CommaSeparated spells [a] block
  | cons {a : α} {block : List Token} {comma : Token} {others : List α} {rest : List Token}
      (hspells : spells a block) (hcomma : comma.isSymbol .comma = true)
      (hothers : CommaSeparated spells others rest) :
      CommaSeparated spells (a :: others) (block ++ comma :: rest)

/-- A number, a text or a name spells itself. -/
def SpellsExpression (item : Token) (block : List Token) : Prop :=
  (item.kind = .number ∨ item.kind = .string ∨ item.kind = .identifier) ∧ block = [item]

/-- A column is spelled by its name and a reserved word. -/
def SpellsColumn (column : ColumnDeclaration) (block : List Token) : Prop :=
  column.name.kind = .identifier ∧ column.type.kind = .keyword ∧
    block = [column.name, column.type]

/-- **Spelling.**  Tokens spell a statement. -/
inductive Spells : Statement → List Token → Prop
  /-- `SELECT item, … FROM table` -/
  | select {first separator table : Token} {items list : List Token}
      (hfirst : first.isKeyword .SELECT = true)
      (hitems : CommaSeparated SpellsExpression items list)
      (hseparator : separator.isKeyword .FROM = true) (htable : table.kind = .identifier) :
      Spells (.select items table) (first :: list ++ [separator, table])
  /-- `INSERT INTO table VALUES (value, …)` -/
  | insert {first second table third opening closing : Token} {values list : List Token}
      (hfirst : first.isKeyword .INSERT = true) (hsecond : second.isKeyword .INTO = true)
      (htable : table.kind = .identifier) (hthird : third.isKeyword .VALUES = true)
      (hopening : opening.isSymbol .leftParen = true)
      (hvalues : CommaSeparated SpellsExpression values list)
      (hclosing : closing.isSymbol .rightParen = true) :
      Spells (.insert table values)
        (first :: second :: table :: third :: opening :: list ++ [closing])
  /-- `CREATE TABLE name (column type, …)` -/
  | createTable {first second name opening closing : Token} {columns : List ColumnDeclaration}
      {list : List Token} (hfirst : first.isKeyword .CREATE = true)
      (hsecond : second.isKeyword .TABLE = true) (hname : name.kind = .identifier)
      (hopening : opening.isSymbol .leftParen = true)
      (hcolumns : CommaSeparated SpellsColumn columns list)
      (hclosing : closing.isSymbol .rightParen = true) :
      Spells (.createTable name columns) (first :: second :: name :: opening :: list ++ [closing])

/-- A statement is spelled and ended by one or more semicolons. -/
def SpellsTerminated (statement : Statement) (block : List Token) : Prop :=
  ∃ spelling marks, Spells statement spelling ∧ marks ≠ [] ∧
    (∀ mark ∈ marks, mark.isSymbol .semicolon = true) ∧ block = spelling ++ marks

/-- **Scripts.**  Tokens are one or more statements, spelled one after another. -/
def SpellsScript (statements : List Statement) (blocks : List (List Token))
    (tokens : List Token) : Prop :=
  statements ≠ [] ∧ List.Forall₂ SpellsTerminated statements blocks ∧ blocks.flatten = tokens

/-! ## Lists -/

/-- What a production reads is what a relation spells. -/
def ReadsSpelling (item : Production α) (spells : α → List Token → Prop) : Prop :=
  ∀ (tokens rest : List Token) (a : α), item.run tokens = .ok (a, rest) ↔
    ∃ block, spells a block ∧ block ++ rest = tokens

theorem readsSpelling_expression : ReadsSpelling expression SpellsExpression := by
  intro tokens rest item
  rw [expression, run_token_eq_ok_iff]
  simp only [SpellsExpression, Bool.or_eq_true, decide_eq_true_eq, or_assoc]
  constructor
  · rintro ⟨hkind, rfl⟩
    exact ⟨[item], ⟨hkind, rfl⟩, rfl⟩
  · rintro ⟨-, ⟨hkind, rfl⟩, rfl⟩
    exact ⟨hkind, rfl⟩

/-- A token of the right class is read first. -/
theorem run_token_bind_eq_ok_iff {β : Type} {expected : Expectation} {accepts : Token → Bool}
    {next : Token → Production β} {tokens : List Token} {result : β × List Token} :
    ((token expected accepts).bind next).run tokens = .ok result ↔
      ∃ first rest, tokens = first :: rest ∧ accepts first = true ∧
        (next first).run rest = .ok result := by
  rw [run_bind_eq_ok_iff]
  constructor
  · rintro ⟨first, rest, hfirst, hnext⟩
    obtain ⟨haccepts, rfl⟩ := run_token_eq_ok_iff.1 hfirst
    exact ⟨first, rest, rfl, haccepts, hnext⟩
  · rintro ⟨first, rest, rfl, haccepts, hnext⟩
    exact ⟨first, rest, run_token_eq_ok_iff.2 ⟨haccepts, rfl⟩, hnext⟩

/-- A token of the right class is read last. -/
theorem run_token_map_eq_ok_iff {β : Type} {expected : Expectation} {accepts : Token → Bool}
    {f : Token → β} {tokens rest : List Token} {b : β} :
    ((token expected accepts).map f).run tokens = .ok (b, rest) ↔
      ∃ last, tokens = last :: rest ∧ accepts last = true ∧ f last = b := by
  rw [run_map_eq_ok_iff]
  constructor
  · rintro ⟨last, hlast, rfl⟩
    obtain ⟨haccepts, rfl⟩ := run_token_eq_ok_iff.1 hlast
    exact ⟨last, rfl, haccepts, rfl⟩
  · rintro ⟨last, rfl, haccepts, rfl⟩
    exact ⟨last, run_token_eq_ok_iff.2 ⟨haccepts, rfl⟩, rfl⟩

theorem readsSpelling_columnDeclaration : ReadsSpelling columnDeclaration SpellsColumn := by
  intro tokens rest column
  constructor
  · intro h
    obtain ⟨name, _, rfl, hname, h⟩ := run_token_bind_eq_ok_iff.1 h
    obtain ⟨type, rfl, htype, rfl⟩ := run_token_map_eq_ok_iff.1 h
    exact ⟨[name, type], ⟨of_decide_eq_true hname, of_decide_eq_true htype, rfl⟩, rfl⟩
  · rintro ⟨-, ⟨hname, htype, rfl⟩, rfl⟩
    refine run_token_bind_eq_ok_iff.2 ⟨_, _, rfl, decide_eq_true hname, ?_⟩
    exact run_token_map_eq_ok_iff.2 ⟨_, rfl, decide_eq_true htype, rfl⟩

/-- What is read as a list is spelled with commas. -/
theorem commaSeparated_of_run {item : Production α} {spells : α → List Token → Prop}
    (h : ReadsSpelling item spells) {tokens rest : List Token} {items : List α}
    (hrun : item.separated.run tokens = .ok (items, rest)) :
    ∃ block, CommaSeparated spells items block ∧ block ++ rest = tokens := by
  induction items generalizing tokens with
  | nil =>
    rcases run_separated_cases item tokens with ⟨_, -, herror⟩ | ⟨a, left, -, -, hok⟩ |
      ⟨a, comma, left, -, -, hok⟩
    · simp [herror] at hrun
    · simp [hok] at hrun
    · rw [hok] at hrun
      cases hothers : item.separated.run left <;> simp [hothers, Except.map] at hrun
  | cons first others ih =>
    rcases run_separated_cases item tokens with ⟨_, -, herror⟩ | ⟨a, left, hread, -, hok⟩ |
      ⟨a, comma, left, hread, hcomma, hok⟩
    · simp [herror] at hrun
    · simp only [hok, Except.ok.injEq, Prod.mk.injEq, List.cons.injEq] at hrun
      obtain ⟨⟨rfl, rfl⟩, rfl⟩ := hrun
      obtain ⟨block, hblock, rfl⟩ := (h _ _ _).1 hread
      exact ⟨block, .single hblock, rfl⟩
    · rw [hok] at hrun
      cases hothers : item.separated.run left with
      | error failure => simp [hothers, Except.map] at hrun
      | ok result =>
        obtain ⟨items, after⟩ := result
        simp only [hothers, Except.map, Except.ok.injEq, Prod.mk.injEq, List.cons.injEq] at hrun
        obtain ⟨⟨rfl, rfl⟩, rfl⟩ := hrun
        obtain ⟨list, hlist, rfl⟩ := ih hothers
        obtain ⟨block, hblock, rfl⟩ := (h _ _ _).1 hread
        exact ⟨block ++ comma :: list, .cons hblock hcomma hlist, by simp⟩

/-- What is spelled with commas is read as a list, up to a token that is no comma. -/
theorem CommaSeparated.run {item : Production α} {spells : α → List Token → Prop}
    (h : ReadsSpelling item spells) {items : List α} {block : List Token}
    (hblock : CommaSeparated spells items block) {rest : List Token}
    (hrest : Stops isComma rest) :
    item.separated.run (block ++ rest) = .ok (items, rest) := by
  induction hblock with
  | single hspells => exact run_separated_of_stops ((h _ _ _).2 ⟨_, hspells, rfl⟩) hrest
  | @cons a block comma others list hspells hcomma _ ih =>
    have hread : item.run (block ++ comma :: (list ++ rest)) = .ok (a, comma :: (list ++ rest)) :=
      (h _ _ _).2 ⟨block, hspells, rfl⟩
    rw [List.append_assoc, List.cons_append, run_separated_of_comma hread hcomma, ih]
    rfl

/-! ## Statements -/

theorem spells_of_run_select {tokens rest : List Token} {statement : Statement}
    (h : select.run tokens = .ok (statement, rest)) :
    ∃ block, Spells statement block ∧ block ++ rest = tokens := by
  obtain ⟨first, _, rfl, hfirst, h⟩ := run_token_bind_eq_ok_iff.1 h
  obtain ⟨items, _, hitems, hnext⟩ := run_bind_eq_ok_iff.1 h
  obtain ⟨list, hlist, rfl⟩ := commaSeparated_of_run readsSpelling_expression hitems
  obtain ⟨separator, _, rfl, hseparator, hnext⟩ := run_token_bind_eq_ok_iff.1 hnext
  obtain ⟨table, rfl, htable, rfl⟩ := run_token_map_eq_ok_iff.1 hnext
  exact ⟨_, .select hfirst hlist hseparator (of_decide_eq_true htable), by simp⟩

theorem spells_of_run_insert {tokens rest : List Token} {statement : Statement}
    (h : insert.run tokens = .ok (statement, rest)) :
    ∃ block, Spells statement block ∧ block ++ rest = tokens := by
  obtain ⟨first, _, rfl, hfirst, h⟩ := run_token_bind_eq_ok_iff.1 h
  obtain ⟨second, _, rfl, hsecond, h⟩ := run_token_bind_eq_ok_iff.1 h
  obtain ⟨table, _, rfl, htable, h⟩ := run_token_bind_eq_ok_iff.1 h
  obtain ⟨third, _, rfl, hthird, h⟩ := run_token_bind_eq_ok_iff.1 h
  obtain ⟨opening, _, rfl, hopening, h⟩ := run_token_bind_eq_ok_iff.1 h
  obtain ⟨values, _, hvalues, hnext⟩ := run_bind_eq_ok_iff.1 h
  obtain ⟨list, hlist, rfl⟩ := commaSeparated_of_run readsSpelling_expression hvalues
  obtain ⟨closing, rfl, hclosing, rfl⟩ := run_token_map_eq_ok_iff.1 hnext
  exact ⟨_, .insert hfirst hsecond (of_decide_eq_true htable) hthird hopening hlist hclosing,
    by simp⟩

theorem spells_of_run_createTable {tokens rest : List Token} {statement : Statement}
    (h : createTable.run tokens = .ok (statement, rest)) :
    ∃ block, Spells statement block ∧ block ++ rest = tokens := by
  obtain ⟨first, _, rfl, hfirst, h⟩ := run_token_bind_eq_ok_iff.1 h
  obtain ⟨second, _, rfl, hsecond, h⟩ := run_token_bind_eq_ok_iff.1 h
  obtain ⟨name, _, rfl, hname, h⟩ := run_token_bind_eq_ok_iff.1 h
  obtain ⟨opening, _, rfl, hopening, h⟩ := run_token_bind_eq_ok_iff.1 h
  obtain ⟨columns, _, hcolumns, hnext⟩ := run_bind_eq_ok_iff.1 h
  obtain ⟨list, hlist, rfl⟩ := commaSeparated_of_run readsSpelling_columnDeclaration hcolumns
  obtain ⟨closing, rfl, hclosing, rfl⟩ := run_token_map_eq_ok_iff.1 hnext
  exact ⟨_, .createTable hfirst hsecond (of_decide_eq_true hname) hopening hlist hclosing,
    by simp⟩

/-- A spelling is read by the production of its statement. -/
theorem run_of_spells {statement : Statement} {block : List Token} (h : Spells statement block)
    (rest : List Token) :
    select.run (block ++ rest) = .ok (statement, rest) ∨
      insert.run (block ++ rest) = .ok (statement, rest) ∨
        createTable.run (block ++ rest) = .ok (statement, rest) := by
  cases h with
  | @select first separator table items list hfirst hitems hseparator htable =>
    left
    have hstops : Stops isComma (separator :: table :: rest) :=
      stops_cons_iff.2 (Token.isSymbol_of_isKeyword hseparator .comma)
    have hlist := hitems.run readsSpelling_expression hstops
    rw [List.append_assoc]
    refine run_token_bind_eq_ok_iff.2 ⟨_, _, rfl, hfirst, ?_⟩
    refine run_bind_eq_ok_iff.2 ⟨_, _, hlist, ?_⟩
    refine run_token_bind_eq_ok_iff.2 ⟨_, _, rfl, hseparator, ?_⟩
    exact run_token_map_eq_ok_iff.2 ⟨_, rfl, decide_eq_true htable, rfl⟩
  | @insert first second table third opening closing values list hfirst hsecond htable hthird
      hopening hvalues hclosing =>
    right
    left
    have hstops : Stops isComma (closing :: rest) :=
      stops_cons_iff.2 (Token.isSymbol_of_ne hclosing (by decide))
    have hlist := hvalues.run readsSpelling_expression hstops
    rw [List.append_assoc]
    refine run_token_bind_eq_ok_iff.2 ⟨_, _, rfl, hfirst, ?_⟩
    refine run_token_bind_eq_ok_iff.2 ⟨_, _, rfl, hsecond, ?_⟩
    refine run_token_bind_eq_ok_iff.2 ⟨_, _, rfl, decide_eq_true htable, ?_⟩
    refine run_token_bind_eq_ok_iff.2 ⟨_, _, rfl, hthird, ?_⟩
    refine run_token_bind_eq_ok_iff.2 ⟨_, _, rfl, hopening, ?_⟩
    refine run_bind_eq_ok_iff.2 ⟨_, _, hlist, ?_⟩
    exact run_token_map_eq_ok_iff.2 ⟨_, rfl, hclosing, rfl⟩
  | @createTable first second name opening closing columns list hfirst hsecond hname hopening
      hcolumns hclosing =>
    right
    right
    have hstops : Stops isComma (closing :: rest) :=
      stops_cons_iff.2 (Token.isSymbol_of_ne hclosing (by decide))
    have hlist := hcolumns.run readsSpelling_columnDeclaration hstops
    rw [List.append_assoc]
    refine run_token_bind_eq_ok_iff.2 ⟨_, _, rfl, hfirst, ?_⟩
    refine run_token_bind_eq_ok_iff.2 ⟨_, _, rfl, hsecond, ?_⟩
    refine run_token_bind_eq_ok_iff.2 ⟨_, _, rfl, decide_eq_true hname, ?_⟩
    refine run_token_bind_eq_ok_iff.2 ⟨_, _, rfl, hopening, ?_⟩
    refine run_bind_eq_ok_iff.2 ⟨_, _, hlist, ?_⟩
    exact run_token_map_eq_ok_iff.2 ⟨_, rfl, hclosing, rfl⟩

/-- **Statements are read as they are spelled.** -/
theorem run_statement_iff_spells : ReadsSpelling statement Spells := by
  intro tokens rest result
  rw [run_statement_eq_ok_iff]
  constructor
  · rintro (h | h | h)
    · exact spells_of_run_select h
    · exact spells_of_run_insert h
    · exact spells_of_run_createTable h
  · rintro ⟨block, hblock, rfl⟩
    exact run_of_spells hblock rest

/-! ## Scripts -/

/-- A block is read on its own exactly if it spells a statement with its semicolons. -/
theorem run_terminated_iff_spells {block : List Token} {result : Statement} :
    (terminated statement).run block = .ok (result, []) ↔ SpellsTerminated result block := by
  rw [terminated, run_bind_eq_ok_iff]
  constructor
  · rintro ⟨a, between, hread, hnext⟩
    obtain ⟨⟨⟩, hsemicolons, rfl⟩ := run_map_eq_ok_iff.1 hnext
    obtain ⟨marks, hne, hmarks, rfl, -⟩ := run_semicolons_eq_ok_iff.1 hsemicolons
    obtain ⟨spelling, hspelling, rfl⟩ := (run_statement_iff_spells _ _ _).1 hread
    exact ⟨spelling, marks, hspelling, hne, hmarks, by simp⟩
  · rintro ⟨spelling, marks, hspelling, hne, hmarks, rfl⟩
    refine ⟨result, marks, (run_statement_iff_spells _ _ _).2 ⟨spelling, hspelling, rfl⟩, ?_⟩
    refine run_map_eq_ok_iff.2 ⟨(), run_semicolons_eq_ok_iff.2 ?_, rfl⟩
    exact ⟨marks, hne, hmarks, List.append_nil marks, stops_nil _⟩

theorem blocks_iff_spells {statements : List Statement} {blocks : List (List Token)} :
    (terminated statement).Blocks statements blocks ↔
      List.Forall₂ SpellsTerminated statements blocks := by
  simp only [Production.Blocks, run_terminated_iff_spells]

/-- **Scripts are read as they are spelled.** -/
theorem parse_eq_ok_iff_spells {tokens : List Token} {statements : List Statement} :
    parse tokens = .ok statements ↔ ∃ blocks, SpellsScript statements blocks tokens := by
  rw [parse_eq_ok_iff, runToEnd_eq_ok_iff predictive_terminated avoids_terminated]
  simp only [SpellsScript, blocks_iff_spells, exists_and_left]

/-- A script ends with a semicolon. -/
theorem SpellsScript.exists_getLast? {statements : List Statement} {blocks : List (List Token)}
    {tokens : List Token} (h : SpellsScript statements blocks tokens) :
    ∃ mark, tokens.getLast? = some mark ∧ mark.isSymbol .semicolon = true := by
  obtain ⟨hne, hblocks, rfl⟩ := h
  induction hblocks with
  | nil => exact absurd rfl hne
  | @cons _ block others blocks hblock hblocks ih =>
    rw [List.flatten_cons, List.getLast?_append]
    by_cases hothers : others = []
    · subst hothers
      cases hblocks
      obtain ⟨spelling, marks, -, hmarks, hall, rfl⟩ := hblock
      refine ⟨marks.getLast hmarks, ?_, hall _ (List.getLast_mem hmarks)⟩
      rw [List.flatten_nil, List.getLast?_append, List.getLast?_eq_some_getLast hmarks]
      rfl
    · obtain ⟨mark, hlast, hmark⟩ := ih hothers
      exact ⟨mark, by rw [hlast, Option.some_or], hmark⟩

/-- **The grammar and its unique reading.**  Tokens are accepted with some statements
exactly if they are a script of these statements, and there is only one way to read them:
the statements are unique, and so is the block that spells each of them. -/
theorem parse_accepts_unique_spelling (tokens : List Token) :
    (∀ statements, parse tokens = .ok statements ↔
      ∃ blocks, SpellsScript statements blocks tokens) ∧
    ∀ statements blocks statements' blocks', SpellsScript statements blocks tokens →
      SpellsScript statements' blocks' tokens → statements = statements' ∧ blocks = blocks' := by
  refine ⟨fun statements => parse_eq_ok_iff_spells, ?_⟩
  rintro statements blocks statements' blocks' ⟨-, hblocks, hflatten⟩ ⟨-, hblocks', hflatten'⟩
  exact blocks_unique predictive_terminated avoids_terminated (blocks_iff_spells.2 hblocks)
    (blocks_iff_spells.2 hblocks') (hflatten.trans hflatten'.symm)

/-- A question with two semicolons and an insertion, on one line:
`SELECT a, 1 FROM t;; INSERT INTO t VALUES ('x');`. -/
def sampleScript : List Token :=
  [⟨.keyword, "select", ⟨0, 0⟩⟩, ⟨.identifier, "a", ⟨0, 7⟩⟩, ⟨.symbol, ",", ⟨0, 8⟩⟩,
    ⟨.number, "1", ⟨0, 10⟩⟩, ⟨.keyword, "from", ⟨0, 12⟩⟩, ⟨.identifier, "t", ⟨0, 17⟩⟩,
    ⟨.symbol, ";", ⟨0, 18⟩⟩, ⟨.symbol, ";", ⟨0, 19⟩⟩, ⟨.keyword, "insert", ⟨0, 21⟩⟩,
    ⟨.keyword, "into", ⟨0, 28⟩⟩, ⟨.identifier, "t", ⟨0, 33⟩⟩, ⟨.keyword, "values", ⟨0, 35⟩⟩,
    ⟨.symbol, "(", ⟨0, 42⟩⟩, ⟨.string, "x", ⟨0, 43⟩⟩, ⟨.symbol, ")", ⟨0, 46⟩⟩,
    ⟨.symbol, ";", ⟨0, 47⟩⟩]

/-- The statements of the sample script, with the places of their tokens. -/
def sampleStatements : List Statement :=
  [.select [⟨.identifier, "a", ⟨0, 7⟩⟩, ⟨.number, "1", ⟨0, 10⟩⟩] ⟨.identifier, "t", ⟨0, 17⟩⟩,
    .insert ⟨.identifier, "t", ⟨0, 33⟩⟩ [⟨.string, "x", ⟨0, 43⟩⟩]]

/-- The sample script is read as these statements, and spells nothing else. -/
theorem parse_accepts_unique_spelling_sampleScript :
    parse sampleScript = .ok sampleStatements ∧
      ∃ blocks, SpellsScript sampleStatements blocks sampleScript ∧
        ∀ statements' blocks', SpellsScript statements' blocks' sampleScript →
          statements' = sampleStatements ∧ blocks' = blocks := by
  have hparse : parse sampleScript = .ok sampleStatements := by
    decide +kernel
  obtain ⟨haccepts, hunique⟩ := parse_accepts_unique_spelling sampleScript
  obtain ⟨blocks, hblocks⟩ := (haccepts sampleStatements).1 hparse
  exact ⟨hparse, blocks, hblocks, fun statements' blocks' hblocks' =>
    hunique statements' blocks' sampleStatements blocks hblocks' hblocks⟩

end Grammar
end ColumnarSql
