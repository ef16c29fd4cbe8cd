import ColumnarSql.Shell.Session

/-!
# The command line

An optional argument names a file with a script, which is run first; then the shell
takes its lines from standard input.  Everything that is decided is decided by
`Shell.answer` and `Shell.answerLine`; here bytes are read and text is printed, each
answer before the next line is waited for.  The exit status is that of `Shell.Ending`.
-/

namespace ColumnarSql
namespace Shell

/-- The next line of the input with its line feed, behind what has been read of it. -/
partial def readLine (input : IO.FS.Stream) (line : List UInt8) : IO (List UInt8) := do
  match (← input.read 1).toList with
  | [byte] =>
    if byte = 10 then
      pure (byte :: line).reverse
    else
      readLine input (byte :: line)
  | _ => pure line.reverse

/-- Prints a text at once. -/
def printNow (output : IO.FS.Stream) (text : String) : IO Unit := do
  output.putStr text
  output.flush

/-- The conversation from here to its end. -/
partial def talk (input output : IO.FS.Stream) (database : Database) : IO Ending := do
  printNow output prompt
  match ← readLine input [] with
  | [] => do
    printNow output "\n"
    pure .regular
  | line =>
    match lineText? line with
    | none => pure .unreadable
    | some text =>
      match answerLine text database with
      | (none, _) => pure .tooWide
      | (some reply, database) => do
        printNow output reply
        talk input output database

/-- The text of a script file, if it can be read and is UTF-8. -/
def readScript (path : String) : IO (Option String) := do
  try
    let bytes ← IO.FS.readBinFile path
    pure (decode? bytes.toList)
  catch _ => pure none

end Shell
end ColumnarSql

open ColumnarSql Shell in
/-- Runs the script file that the first argument names, and then the shell. -/
def main (arguments : List String) : IO UInt32 := do
  let input ← IO.getStdin
  let output ← IO.getStdout
  let ending : Ending ← match arguments with
    | [] => talk input output .empty
    | path :: _ =>
      match ← readScript path with
      | none => pure .unreadable
      | some script =>
        match answer script .empty with
        | (none, _) => pure .tooWide
        | (some reply, database) => do
          printNow output reply
          talk input output database
  pure ending.status.toUInt32
