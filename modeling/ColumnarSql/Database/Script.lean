import ColumnarSql.Database.Basic
import ColumnarSql.Grammar.Script
import ColumnarSql.Tokenization

/-!
# Running a script

A script goes through three stages: its text is cut into tokens, the tokens are read as
statements, and the statements are executed in order up to the first that fails.  A text
that is no script is refused before anything is executed; a statement that fails leaves
the effects of those before it.
-/

namespace ColumnarSql

/-- Why a script did not run to its end, by the stage that failed. -/
inductive ScriptError where
  | lex (error : LexError)
  | parse (error : ParseError)
  | execution (error : ExecutionError)
  deriving DecidableEq, Repr

namespace ScriptError

/-- The wording of the error. -/
def message : ScriptError → String
  | lex error => "lex error: " ++ error.message
  | parse error => "parse error: " ++ error.message
  | execution error => "execution error: " ++ error.message

end ScriptError

/-- The statements of a text. -/
def statementsOf (source : String) : Except ScriptError (List Statement) :=
  match tokenize source with
  | .error error => .error (.lex error)
  | .ok tokens =>
    match parse tokens with
    | .error error => .error (.parse error)
    | .ok statements => .ok statements

namespace Database

/-- Runs a script, and answers with what its statements have done. -/
def run (source : String) : EStateM ScriptError Database (List Outcome) := fun database =>
  match statementsOf source with
  | .error error => .error error database
  | .ok statements =>
    match executeAll statements database with
    | .error error database => .error (.execution error) database
    | .ok outcomes database => .ok outcomes database

end Database

end ColumnarSql
