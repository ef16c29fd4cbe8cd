import ColumnarSql.Grammar.Production
import ColumnarSql.Statement

/-!
# The grammar of scripts

A script is one or more statements, each followed by at least one semicolon.

```text
script     = (statement ';' ';'*)+
statement  = select | insert | create
select     = SELECT expression (',' expression)* FROM identifier
insert     = INSERT INTO identifier VALUES '(' expression (',' expression)* ')'
create     = CREATE TABLE identifier '(' column (',' column)* ')'
column     = identifier keyword
expression = number | string | identifier
```

Any reserved word is accepted where a column's type stands; which of them name a type is
settled when the statement is executed.  The three statements begin with different words,
so at most one of them gets past its first token, and the order in which they are tried
leaves no trace.  `parseWith` takes the alternatives as an argument, so that this can be
said of it.
-/

namespace ColumnarSql
namespace Grammar

/-! ## Tokens -/

/-- A certain reserved word. -/
def keyword (word : Keyword) : Production Token :=
  .token (.keyword word) (·.isKeyword word)

/-- A certain punctuation mark. -/
def symbol (mark : Symbol) : Production Token :=
  .token (.symbol mark) (·.isSymbol mark)

/-- An identifier, named in a failure by its role. -/
def identifier (role : Expectation) : Production Token :=
  .token role (·.kind = .identifier)

/-- A number, a text or an identifier. -/
def expression : Production Token :=
  .token .expression fun token =>
    token.kind = .number || token.kind = .string || token.kind = .identifier

/-- Any reserved word, in the place of a type. -/
def typeWord : Production Token :=
  .token .dataType (·.kind = .keyword)

/-! ## Statements -/

/-- A column with the word for its type. -/
def columnDeclaration : Production ColumnDeclaration :=
  (identifier .columnName).bind fun name =>
  typeWord.map fun type =>
  ⟨name, type⟩

/-- `SELECT item, … FROM table` -/
def select : Production Statement :=
  (keyword .SELECT).bind fun _ =>
  expression.separated.bind fun items =>
  (keyword .FROM).bind fun _ =>
  (identifier .tableName).map fun table =>
  .select items table

/-- `INSERT INTO table VALUES (value, …)` -/
def insert : Production Statement :=
  (keyword .INSERT).bind fun _ =>
  (keyword .INTO).bind fun _ =>
  (identifier .tableName).bind fun table =>
  (keyword .VALUES).bind fun _ =>
  (symbol .leftParen).bind fun _ =>
  expression.separated.bind fun values =>
  (symbol .rightParen).map fun _ =>
  .insert table values

/-- `CREATE TABLE name (column type, …)` -/
def createTable : Production Statement :=
  (keyword .CREATE).bind fun _ =>
  (keyword .TABLE).bind fun _ =>
  (identifier .tableName).bind fun name =>
  (symbol .leftParen).bind fun _ =>
  columnDeclaration.separated.bind fun columns =>
  (symbol .rightParen).map fun _ =>
  .createTable name columns

/-- The statements in the order in which they are tried. -/
def statements : List (Production Statement) :=
  [select, insert, createTable]

/-! ## Scripts -/

/-- Reads one or more semicolons, as many as there are. -/
def runSemicolons : List Token → Except Failure (Unit × List Token)
  | [] => .error ⟨.semicolon, []⟩
  | token :: rest =>
    if token.isSymbol .semicolon then
      .ok ((), rest.dropWhile (·.isSymbol .semicolon))
    else
      .error ⟨.semicolon, token :: rest⟩

/-- One or more semicolons. -/
def semicolons : Production Unit where
  run := runSemicolons
  shorter {tokens rest a} h := by
    cases tokens with
    | nil => simp [runSemicolons] at h
    | cons token others =>
      simp only [runSemicolons] at h
      split at h
      · obtain ⟨-, rfl⟩ := Prod.mk.inj (Except.ok.inj h)
        have := (List.dropWhile_sublist (p := (·.isSymbol .semicolon)) (l := others)).length_le
        simp only [List.length_cons]
        omega
      · simp at h

/-- A statement with the semicolons that end it. -/
def terminated (statement : Production Statement) : Production Statement :=
  statement.bind fun result => semicolons.map fun _ => result

end Grammar

/-- The statements of a script, where a statement is one of the given alternatives. -/
def parseWith (alternatives : List (Production Statement)) (tokens : List Token) :
    Except ParseError (List Statement) :=
  ((Grammar.terminated (.firstOf .statement alternatives)).runToEnd tokens).mapError
    (ParseError.ofFailure tokens)

/-- The statements of a script. -/
def parse (tokens : List Token) : Except ParseError (List Statement) :=
  parseWith Grammar.statements tokens

end ColumnarSql
