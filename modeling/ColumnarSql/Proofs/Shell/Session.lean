import ColumnarSql.Proofs.Database.Dump
import ColumnarSql.Proofs.Database.Trace
import ColumnarSql.Proofs.Shell.BlankLine
import ColumnarSql.Proofs.Shell.Input
import ColumnarSql.Proofs.Shell.Rendering

/-!
# What a session prints

A session runs its script and then every line, one after another, and each of them finds the
database that those before it have left.  So what is printed can be written down without the loop:
behind each prompt stands what running the line answers in the database that the script and the
lines before have led to, whatever they answered (`Shell.dialogue`).  Nothing stands there if the
line is blank; as running it would change nothing, it makes no difference that it is passed over
(`Shell.answerLine_of_printable`).

Three things end a session: the end of the input, a line that is not UTF-8, and an answer that
cannot be shown.  A failure is none of them (`Shell.isShown_of_error`), so a session goes on behind
it.  Every input comes to one of these points (`Shell.exists_texts`), `Shell.converse_append` is the
induction along the lines up to there, and `Shell.session_runs_every_line` the statement about whole
sessions.

The last of the three ends is not meant to be there.  A text of more than 65535 characters is stored
like any other, and the first question for it takes the shell down with it.
`Shell.session_of_wide_value` finds a script for every table that has such a text in it.
-/

namespace ColumnarSql
namespace Shell

open Database

/-! ## Answers -/

/-- The answer to a script. -/
def answerTo (script : String) (database : Database) : Except ScriptError (List Outcome) :=
  answerOf (run script database)

/-- The database that scripts lead to from the empty one, whatever they answer. -/
def databaseAfter (scripts : List String) : Database :=
  Database.empty.afterCalls (scripts.map .run)

/-- What is printed behind the prompt for a line. -/
def shown (line : String) (database : Database) : String :=
  if isBlankLine line then "" else renderAnswer (answerTo line database)

/-- What is printed behind the prompt for a line can be. -/
def Printable (line : String) (database : Database) : Prop :=
  isBlankLine line = true ∨ isShown (answerTo line database) = true

instance (line : String) (database : Database) : Decidable (Printable line database) :=
  inferInstanceAs (Decidable (_ ∨ _))

theorem databaseAfter_concat (scripts : List String) (script : String) :
    databaseAfter (scripts ++ [script]) = leftBy (run script (databaseAfter scripts)) := by
  rw [databaseAfter, List.map_append, afterCalls, List.foldl_append]
  rfl

theorem answer_eq (script : String) (database : Database) :
    answer script database =
      (show? (answerTo script database), leftBy (run script database)) := by
  rw [answer, answerTo]
  cases run script database <;> rfl

theorem show?_of_isShown {answer : Except ScriptError (List Outcome)} (h : isShown answer = true) :
    show? answer = some (renderAnswer answer) :=
  if_pos h

/-- A question is answered with its table, if this can be shown. -/
theorem answer_of_selected {script : String} {database left : Database} {result : ResultSet}
    (hrun : run script database = .ok [.selected result] left)
    (hprintable : isPrintable (.selected result) = true) :
    answer script database = (some (renderResult result), left) := by
  have hshown : isShown (.ok [.selected result]) = true := by
    rw [isShown, List.all_cons, hprintable, List.all_nil, Bool.and_true]
  rw [answer_eq, answerTo, hrun]
  simp only [answerOf, leftBy, show?_of_isShown hshown, renderAnswer, renderOutcome,
    List.map_singleton, String.join_cons, String.join_nil, String.append_empty]

/-- **A failure can be shown.** -/
theorem isShown_of_error {script : String} {database left : Database} {error : ScriptError}
    (h : run script database = .error error left) :
    isShown (answerTo script database) = true := by
  rw [answerTo, h]
  rfl

/-- A line that can be answered leaves what running it leaves, blank or not. -/
theorem answerLine_of_printable {line : String} {database : Database}
    (h : Printable line database) :
    answerLine line database = (some (shown line database), leftBy (run line database)) := by
  by_cases hblank : isBlankLine line = true
  · have hleft : leftBy (run line database) = database := by
      rcases run_of_isBlankLine hblank database with ⟨error, hrun⟩ | ⟨error, hrun⟩ <;>
        rw [hrun] <;> rfl
    rw [answerLine, if_pos hblank, shown, if_pos hblank, hleft]
  · rw [answerLine, if_neg hblank, shown, if_neg hblank, answer_eq,
      show?_of_isShown (h.resolve_left hblank)]

/-- To a line that cannot be answered there is no answer. -/
theorem answerLine_of_not_printable {line : String} {database : Database}
    (h : ¬ Printable line database) :
    answerLine line database = (none, leftBy (run line database)) := by
  obtain ⟨hblank, hshown⟩ := not_or.1 h
  rw [answerLine, if_neg hblank, answer_eq, show?, if_neg hshown]

/-! ## Dialogues -/

/-- **A dialogue**: for each line a prompt, and the answer in the database that the scripts and the
lines before have led to. -/
def dialogue (scripts lines : List String) : String :=
  String.join (lines.mapIdx fun position line =>
    prompt ++ shown line (databaseAfter (scripts ++ lines.take position)))

/-- All answers of a dialogue can be printed. -/
def AllPrintable (scripts lines : List String) : Prop :=
  ∀ position line, lines[position]? = some line →
    Printable line (databaseAfter (scripts ++ lines.take position))

theorem allPrintable_nil (scripts : List String) : AllPrintable scripts [] :=
  fun position line hline => by simp at hline

theorem dialogue_cons (scripts : List String) (line : String) (lines : List String) :
    dialogue scripts (line :: lines) =
      prompt ++ shown line (databaseAfter scripts) ++ dialogue (scripts ++ [line]) lines := by
  rw [dialogue, List.mapIdx_cons, String.join_cons, List.take_zero, List.append_nil, dialogue]
  simp only [List.take_succ_cons, List.append_assoc, List.singleton_append]

theorem allPrintable_cons_iff {scripts : List String} {line : String} {lines : List String} :
    AllPrintable scripts (line :: lines) ↔
      Printable line (databaseAfter scripts) ∧ AllPrintable (scripts ++ [line]) lines := by
  constructor
  · intro h
    refine ⟨by simpa using h 0 line rfl, fun position other hother => ?_⟩
    simpa using h (position + 1) other hother
  · rintro ⟨hfirst, hothers⟩ position other hother
    cases position with
    | zero =>
      obtain rfl : line = other := Option.some.inj hother
      simpa using hfirst
    | succ position => simpa using hothers position other hother

theorem Transcript.after_after (first second : String) (later : Transcript) :
    Transcript.after first (.after second later) = .after (first ++ second) later := by
  simp only [Transcript.after, String.append_assoc]

/-- **Along the lines** that can be answered a conversation is a dialogue, and goes on behind
them. -/
theorem converse_append {scripts texts : List String} {front : List (List UInt8)}
    (hfront : front.map lineText? = texts.map some) (hprintable : AllPrintable scripts texts)
    (behind : List (List UInt8)) :
    converse (databaseAfter scripts) (front ++ behind) =
      .after (dialogue scripts texts) (converse (databaseAfter (scripts ++ texts)) behind) := by
  induction texts generalizing scripts front with
  | nil =>
    obtain rfl : front = [] := by simpa using hfront
    rw [List.append_nil]
    show _ = Transcript.mk ("" ++ _) _ _
    rw [String.empty_append]
    rfl
  | cons text texts ih =>
    cases front with
    | nil => simp at hfront
    | cons line front =>
      obtain ⟨hline, hfront⟩ := List.cons.inj hfront
      obtain ⟨hfirst, hothers⟩ := allPrintable_cons_iff.1 hprintable
      rw [List.cons_append, converse, hline]
      simp only [answerLine_of_printable hfirst]
      rw [← databaseAfter_concat, ih hfront hothers, Transcript.after_after, dialogue_cons,
        List.append_assoc, List.singleton_append]

/-- Every input begins with lines that can be answered, and there ends, or a line follows that is
not UTF-8 or cannot be answered. -/
theorem exists_texts (scripts : List String) (input : List (Option String)) :
    ∃ texts others, input = texts.map some ++ others ∧ AllPrintable scripts texts ∧
      (others = [] ∨ others.head? = some none ∨ ∃ line, others.head? = some (some line) ∧
        ¬ Printable line (databaseAfter (scripts ++ texts))) := by
  induction input generalizing scripts with
  | nil => exact ⟨[], [], rfl, allPrintable_nil scripts, .inl rfl⟩
  | cons first input ih =>
    cases first with
    | none => exact ⟨[], none :: input, rfl, allPrintable_nil scripts, .inr (.inl rfl)⟩
    | some line =>
      by_cases hline : Printable line (databaseAfter scripts)
      · obtain ⟨texts, others, rfl, htexts, hothers⟩ := ih (scripts ++ [line])
        rw [List.append_assoc, List.singleton_append] at hothers
        exact ⟨line :: texts, others, rfl, allPrintable_cons_iff.2 ⟨hline, htexts⟩, hothers⟩
      · exact ⟨[], some line :: input, rfl, allPrintable_nil scripts,
          .inr (.inr ⟨line, rfl, by rwa [List.append_nil]⟩)⟩

/-! ## Sessions -/

/-- What a session begins with can be read, and is a script or nothing. -/
inductive Startup.Reads : Startup → Option String → Prop
  | none : Reads .none .none
  | script {bytes : List UInt8} {text : String} (htext : decode? bytes = some text) :
      Reads (.script bytes) (some text)

/-- What is printed before the first prompt. -/
def opening (script : Option String) : String :=
  script.elim "" fun text => renderAnswer (answerTo text .empty)

/-- What is printed before the first prompt can be. -/
def OpeningPrintable (script : Option String) : Prop :=
  ∀ text ∈ script, isShown (answerTo text .empty) = true

variable {startup : Startup} {script : Option String}

theorem session_of_openingPrintable (hstartup : startup.Reads script)
    (hopening : OpeningPrintable script) (input : List UInt8) :
    session startup input =
      .after (opening script) (converse (databaseAfter script.toList) (splitLines input)) := by
  cases hstartup with
  | none =>
    show _ = Transcript.mk ("" ++ _) _ _
    rw [String.empty_append]
    rfl
  | @script bytes text htext =>
    have hshow := show?_of_isShown (hopening text rfl)
    simp only [session, htext, answer_eq, hshow]
    rfl

/-- A script whose answer cannot be shown ends the session before it begins. -/
theorem session_of_not_isShown {bytes : List UInt8} {text : String}
    (htext : decode? bytes = some text) (hshown : isShown (answerTo text .empty) = false)
    (input : List UInt8) :
    session (.script bytes) input = ⟨"", .tooWide, databaseAfter [text]⟩ := by
  have hshow : show? (answerTo text .empty) = none := if_neg (by simp [hshown])
  simp only [session, htext, answer_eq, hshow]
  rfl

/-- **Sessions.**  Let the script and the lines up to some point be readable, and their answers
fit.  If there are no more lines, the session comes to its regular end.  It prints the answer to
the script, the dialogue over the lines, and a last prompt with a line feed, and it leaves the
database that the script and all lines lead to one after another, blank ones included.  If the next
line is not UTF-8, or its answer cannot be shown, the session breaks off behind the prompt for it.
Every input has such a point with one of these three behind it.  A script whose answer cannot be
shown breaks the session off at once.

A blank line would be refused without being executed.  And whatever fails has an answer that can be
shown, so no failure is among these ends. -/
theorem session_runs_every_line (hstartup : startup.Reads script) (input : List UInt8) :
    (∀ texts others, lines input = texts.map some ++ others →
      OpeningPrintable script → AllPrintable script.toList texts →
        (others = [] → session startup input =
          ⟨opening script ++ dialogue script.toList texts ++ prompt ++ "\n", .regular,
            databaseAfter (script.toList ++ texts)⟩) ∧
        (others.head? = some none → session startup input =
          ⟨opening script ++ dialogue script.toList texts ++ prompt, .unreadable,
            databaseAfter (script.toList ++ texts)⟩) ∧
        ∀ line, others.head? = some (some line) →
          ¬ Printable line (databaseAfter (script.toList ++ texts)) → session startup input =
            ⟨opening script ++ dialogue script.toList texts ++ prompt, .tooWide,
              databaseAfter (script.toList ++ texts ++ [line])⟩) ∧
    (∃ texts others, lines input = texts.map some ++ others ∧ AllPrintable script.toList texts ∧
      (others = [] ∨ others.head? = some none ∨ ∃ line, others.head? = some (some line) ∧
        ¬ Printable line (databaseAfter (script.toList ++ texts)))) ∧
    (∀ text ∈ script, isShown (answerTo text .empty) = false →
      session startup input = ⟨"", .tooWide, databaseAfter [text]⟩) ∧
    (∀ line database, isBlankLine line = true →
      (∃ error, run line database = .error (.lex error) database) ∨
        ∃ error, run line database = .error (.parse error) database) ∧
    ∀ line database error left, run line database = .error error left →
      isShown (answerTo line database) = true ∧ Printable line database := by
  refine ⟨?_, exists_texts script.toList (lines input), ?_,
    fun line database hblank => run_of_isBlankLine hblank database, ?_⟩
  · intro texts others hlines hopening hprintable
    obtain ⟨front, behind, hsplit, hfront, hbehind⟩ := List.map_eq_append_iff.1 hlines
    have hsession : session startup input =
        .after (opening script ++ dialogue script.toList texts)
          (converse (databaseAfter (script.toList ++ texts)) behind) := by
      rw [session_of_openingPrintable hstartup hopening, hsplit,
        converse_append hfront hprintable, Transcript.after_after]
    subst hbehind
    refine ⟨fun hnil => ?_, fun hhead => ?_, fun line hhead hwide => ?_⟩
    · obtain rfl := List.map_eq_nil_iff.1 hnil
      rw [hsession, converse, Transcript.after, ← String.append_assoc]
    · obtain ⟨bytes, hbytes, hline⟩ := Option.map_eq_some_iff.1 (List.head?_map.symm.trans hhead)
      obtain ⟨behind, rfl⟩ := List.head?_eq_some_iff.1 hbytes
      rw [hsession, converse, hline, Transcript.after]
    · obtain ⟨bytes, hbytes, hline⟩ := Option.map_eq_some_iff.1 (List.head?_map.symm.trans hhead)
      obtain ⟨behind, rfl⟩ := List.head?_eq_some_iff.1 hbytes
      rw [hsession, converse, hline]
      simp only [answerLine_of_not_printable hwide, Transcript.after, databaseAfter_concat]
  · intro text htext hshown
    cases hstartup with
    | none => simp at htext
    | script hbytes =>
      obtain rfl := Option.some.inj htext
      exact session_of_not_isShown hbytes hshown input
  · intro line database error left hrun
    exact ⟨isShown_of_error hrun, .inr (isShown_of_error hrun)⟩

/-- A row for a table from the script, white space that no script knows, a question that fails, and
one that is answered. -/
def sampleLines : List String :=
  ["INSERT INTO t VALUES (1);", " \u00a0", "SELECT b FROM t;", "SELECT a FROM t;"]

theorem session_runs_every_line_sampleLines :
    Startup.Reads (.script (encode "CREATE TABLE t (a INT);")) (some "CREATE TABLE t (a INT);") ∧
      lines (inputOf sampleLines) = sampleLines.map some ∧
      session (.script (encode "CREATE TABLE t (a INT);")) (inputOf sampleLines) =
        ⟨"ok\n$ ok\n$ $ error: execution error: column \"b\" does not exist\n" ++
            "$ |         a|\n|         1|\n(1 row)\n$ \n",
          .regular, databaseAfter ("CREATE TABLE t (a INT);" :: sampleLines)⟩ := by
  have hreads : Startup.Reads (.script (encode "CREATE TABLE t (a INT);"))
      (some "CREATE TABLE t (a INT);") := .script (decode?_encode _)
  have hlines : lines (inputOf sampleLines) = sampleLines.map some :=
    lines_inputOf (by decide +kernel)
  have hopening : OpeningPrintable (some "CREATE TABLE t (a INT);") := by
    rintro text htext
    obtain rfl := Option.some.inj htext
    decide +kernel
  have hprintable : AllPrintable ["CREATE TABLE t (a INT);"] sampleLines := by
    simp only [sampleLines, allPrintable_cons_iff]
    exact ⟨by decide +kernel, by decide +kernel, by decide +kernel, by decide +kernel,
      allPrintable_nil _⟩
  have hsession := ((session_runs_every_line hreads (inputOf sampleLines)).1 sampleLines []
    (by rw [hlines, List.append_nil]) hopening hprintable).1 rfl
  have houtput : opening (some "CREATE TABLE t (a INT);") ++
        dialogue ["CREATE TABLE t (a INT);"] sampleLines ++ prompt ++ "\n" =
      "ok\n$ ok\n$ $ error: execution error: column \"b\" does not exist\n" ++
        "$ |         a|\n|         1|\n(1 row)\n$ \n" := by
    decide +kernel
  refine ⟨hreads, hlines, ?_⟩
  rw [hsession, ← houtput]
  rfl

/-! ## Wide values -/

/-- **A table with a value that is too long** has a script that ends the session before it
begins: the script that creates the table, adds its rows and asks for them, all of which
succeeds. -/
theorem session_of_wide_value {content : Content} {row : Row} (hrow : row ∈ content.rows)
    {value : Value} (hvalue : value ∈ row) (hwide : maximalWidth < value.display.length)
    (layout : Layout) (input : List UInt8) :
    (∃ outcomes database, run (layout.script (content.statements ++ [content.question])) .empty =
        .ok outcomes database) ∧
      ∃ database, session (.script (encode
          (layout.script (content.statements ++ [content.question])))) input =
        ⟨"", .tooWide, database⟩ := by
  have hwritable : ∀ statement ∈ content.statements ++ [content.question],
      statement.Writable := by
    intro statement hstatement
    exact Content.writable_of_mem (by simpa [or_comm] using hstatement)
  obtain ⟨database, hall, hrestored⟩ :=
    Content.restore_table aligned_empty (table?_empty content.name)
  have hquestion := Content.execute_question hrestored.aligned hrestored.has
  have hrun : run (layout.script (content.statements ++ [content.question])) .empty =
      .ok (content.outcomes ++ [.selected ⟨content.columns, content.rows⟩]) database := by
    rw [run_of_lexes (layout.lexes_script hwritable)
      (Grammar.parse_blocks (by simp) hwritable), executeAll_append hall,
      executeAll_cons_of_ok hquestion rfl]
  have hrectangular : ResultSet.Rectangular ⟨content.columns, content.rows⟩ := by
    intro row hrow
    simpa using congrArg List.length (content.types row hrow)
  have hwideResult : isPrintable (.selected ⟨content.columns, content.rows⟩) = false := by
    rw [Bool.eq_false_iff]
    intro hshown
    have hlength := (isPrintable_selected_iff hrectangular).1 hshown (row.map Value.display)
      (List.mem_cons_of_mem _ (List.mem_map_of_mem hrow)) _ (List.mem_map_of_mem hvalue)
    exact hwide.not_ge hlength
  refine ⟨⟨_, database, hrun⟩, _, session_of_not_isShown (decode?_encode _) ?_ input⟩
  rw [answerTo, hrun]
  simp [isShown, answerOf, hwideResult]

/-- A table with one text. -/
def textContent (text : String) : Content where
  name := "t"
  columns := [⟨"a", .text⟩]
  rows := [[.text text]]
  columns_ne_nil := by simp
  nodup_columns := by simp
  types := by simp [Value.type]
  literals := by simp [Value.IsLiteral]

/-- A text of so many letters. -/
def letters (count : Nat) : String :=
  String.ofList (List.replicate count 'x')

theorem length_letters (count : Nat) : (letters count).length = count := by
  rw [letters, String.length_ofList, List.length_replicate]

/-- The script that stores a text with one letter more than can be aligned, and asks for it. -/
def wideScript : String :=
  Layout.plain.script ((textContent (letters 65536)).statements ++
    [(textContent (letters 65536)).question])

/-- **Not every session ends regularly.**  The statements of the script all succeed, and there is no
line of input. -/
theorem session_of_wide_value_letters :
    (∃ outcomes database, run wideScript .empty = .ok outcomes database) ∧
      (session (.script (encode wideScript)) []).output = "" ∧
      (session (.script (encode wideScript)) []).ending.status = 101 := by
  have hwide : maximalWidth < (Value.text (letters 65536)).display.length := by
    rw [Value.display, length_letters]
    decide
  obtain ⟨hrun, database, hsession⟩ :=
    @session_of_wide_value (textContent (letters 65536)) _ (List.mem_singleton_self _) _
      (List.mem_singleton_self _) hwide .plain []
  refine ⟨hrun, ?_, ?_⟩
  · rw [wideScript, hsession]
  · rw [wideScript, hsession]
    rfl

end Shell
end ColumnarSql
