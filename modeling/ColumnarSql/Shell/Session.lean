import ColumnarSql.Database.Script
import ColumnarSql.Shell.Rendering
import ColumnarSql.Unicode.WhiteSpace

/-!
# A session with the shell

The shell may begin with a script, and then takes one script from each line of its input
and shows what it has done.  A failure is shown like any other answer and ends nothing.
A line without anything but white space is passed over.  An answer with a column that is
too wide to be aligned cannot be shown, and the shell breaks off without a word on it.

Input comes as bytes.  A line ends at a line feed, and a carriage return before the line
feed belongs to the end of the line; bytes after the last line feed are a line as well.
A session stops at the first line that is not UTF-8, and does not begin if the script is
not.  So there are three ways to end, and `Ending.status` is what the shell returns for each.
-/

namespace ColumnarSql
namespace Shell

/-- What the shell prints before it reads a line. -/
def prompt : String := "$ "

/-! ## One script -/

/-- What the shell prints for the answer to a script. -/
def renderAnswer : Except ScriptError (List Outcome) → String
  | .ok outcomes => String.join (outcomes.map renderOutcome)
  | .error error => "error: " ++ error.message ++ "\n"

/-- Whether the answer to a script can be shown.  A failure always can. -/
def isShown : Except ScriptError (List Outcome) → Bool
  | .ok outcomes => outcomes.all isPrintable
  | .error _ => true

/-- What the shell prints for the answer to a script, if it can be shown. -/
def show? (answer : Except ScriptError (List Outcome)) : Option String :=
  if isShown answer then some (renderAnswer answer) else none

/-- Runs a script, and gives what the shell prints, if it can, with the database that is
left. -/
def answer (script : String) (database : Database) : Option String × Database :=
  match database.run script with
  | .ok outcomes database => (show? (.ok outcomes), database)
  | .error error database => (show? (.error error), database)

/-- Whether a line has nothing to run. -/
def isBlankLine (line : String) : Bool :=
  line.toList.all Unicode.isWhiteSpace

/-- The answer to a line of input. -/
def answerLine (line : String) (database : Database) : Option String × Database :=
  if isBlankLine line then (some "", database) else answer line database

/-! ## Lines of input -/

/-- The bytes of the input, line by line, each with the line feed that ends it. -/
def splitLines : List UInt8 → List (List UInt8)
  | [] => []
  | byte :: rest =>
    if byte = 10 then
      [byte] :: splitLines rest
    else
      match splitLines rest with
      | [] => [[byte]]
      | line :: lines => (byte :: line) :: lines

/-- A line without the line feed at its end and the carriage return before that. -/
def dropLineEnd (line : List UInt8) : List UInt8 :=
  match line.reverse with
  | 10 :: 13 :: text => text.reverse
  | 10 :: text => text.reverse
  | _ => line

/-- The text that bytes stand for in UTF-8. -/
def decode? (bytes : List UInt8) : Option String :=
  String.fromUTF8? ⟨bytes.toArray⟩

/-- The text of a line of input. -/
def lineText? (line : List UInt8) : Option String :=
  decode? (dropLineEnd line)

/-! ## Sessions -/

/-- How a session ends. -/
inductive Ending where
  | regular
  /-- A line or the script cannot be read. -/
  | unreadable
  /-- An answer cannot be shown. -/
  | tooWide
  deriving DecidableEq, Repr

/-- The exit status of the shell. -/
def Ending.status : Ending → Nat
  | regular => 0
  | unreadable => 1
  | tooWide => 101

/-- What a session prints, how it ends, and what it leaves. -/
structure Transcript where
  output : String
  ending : Ending
  database : Database

/-- A session that prints a text first. -/
def Transcript.after (output : String) (later : Transcript) : Transcript :=
  ⟨output ++ later.output, later.ending, later.database⟩

/-- The conversation over the lines of the input. -/
def converse (database : Database) : List (List UInt8) → Transcript
  | [] => ⟨prompt ++ "\n", .regular, database⟩
  | line :: lines =>
    match lineText? line with
    | none => ⟨prompt, .unreadable, database⟩
    | some text =>
      match answerLine text database with
      | (none, database) => ⟨prompt, .tooWide, database⟩
      | (some output, database) => .after (prompt ++ output) (converse database lines)

/-- What a session begins with. -/
inductive Startup where
  | none
  | unreadable
  | script (bytes : List UInt8)
  deriving DecidableEq, Repr

/-- A whole session, with an empty database at its beginning. -/
def session (startup : Startup) (input : List UInt8) : Transcript :=
  match startup with
  | .none => converse .empty (splitLines input)
  | .unreadable => ⟨"", .unreadable, .empty⟩
  | .script bytes =>
    match decode? bytes with
    | none => ⟨"", .unreadable, .empty⟩
    | some text =>
      match answer text .empty with
      | (none, database) => ⟨"", .tooWide, database⟩
      | (some output, database) => .after output (converse database (splitLines input))

end Shell
end ColumnarSql
