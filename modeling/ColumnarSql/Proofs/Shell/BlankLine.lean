import ColumnarSql.Proofs.Grammar.Spelling
import ColumnarSql.Proofs.Lexeme.Offence
import ColumnarSql.Proofs.Unicode.WhiteSpace
import ColumnarSql.Shell.Session

/-!
# Why a blank line may be passed over

The shell does not run a line of white space, and would not do anything if it ran it.  This is not
the same notion of white space on both sides.  A line is blank for the shell if all its characters
have the Unicode property, while a script knows four characters of white space and no others.

If a line consists of these four, it has no tokens, and the empty list of tokens is no script.  If
there is another character, the first such is the place where the line is refused: it is no letter,
no digit and nothing else that a token begins with (`Lexeme.offends_of_isWhiteSpace`).  In both
cases nothing is executed (`Shell.run_of_isBlankLine`).
-/

namespace ColumnarSql

open Lexeme (Offends)

/-- A text without anything but white space has no tokens. -/
theorem tokenize_of_blank {source : String} (h : Blank source.toList) :
    tokenize source = .ok [] := by
  have hlexes := lexes_blanks h lexes_nil
  rw [List.append_nil] at hlexes
  obtain ⟨tokens, htokens, hunplaced⟩ := hlexes none .start
  rw [tokenize, htokens, List.map_eq_nil_iff.1 hunplaced]

/-- A script has a token. -/
theorem exists_parse_nil_eq : ∃ error, parse [] = .error error := by
  cases hparse : parse [] with
  | error error => exact ⟨error, rfl⟩
  | ok statements =>
    exact absurd rfl (Production.ne_nil_of_runToEnd (Grammar.parse_eq_ok_iff.1 hparse))

/-- **White space that a script does not know** begins no token. -/
theorem Lexeme.offends_of_isWhiteSpace {c : Char} (h : Unicode.isWhiteSpace c = true)
    (hblank : Punctuation.isBlank c = false) (rest : List Char) : Offends .stray (c :: rest) := by
  have hstray := Unicode.forall_isWhiteSpace (p := fun c => Punctuation.isBlank c = true ∨
    (c ∉ separators ∧ c ≠ '\'' ∧ c ≠ '"' ∧ c.isDigit = false ∧ c ≠ '.' ∧
      Unicode.isAlphabetic c = false)) (by decide +kernel) h
  obtain ⟨hseparator, happostrophe, hquote, hdigit, hpoint, hletter⟩ :=
    hstray.resolve_left (by simp [hblank])
  exact .stray hseparator happostrophe hquote hdigit hpoint hletter

/-- A text is white space of scripts, or there is a first character that is not. -/
theorem blank_or_exists_first (text : List Char) :
    Blank text ∨ ∃ before c rest, before ++ c :: rest = text ∧ Blank before ∧
      Punctuation.isBlank c = false := by
  induction text with
  | nil => exact .inl fun c hc => absurd hc List.not_mem_nil
  | cons first text ih =>
    by_cases hfirst : Punctuation.isBlank first = true
    · rcases ih with hblank | ⟨before, c, rest, rfl, hbefore, hc⟩
      · exact .inl (List.forall_mem_cons.2 ⟨hfirst, hblank⟩)
      · exact .inr ⟨first :: before, c, rest, rfl, List.forall_mem_cons.2 ⟨hfirst, hbefore⟩, hc⟩
    · exact .inr ⟨[], first, text, rfl, fun c hc => absurd hc List.not_mem_nil,
        by simpa using hfirst⟩

namespace Shell

/-- A blank line has no statements: it has no tokens, or it cannot be cut into tokens. -/
theorem statementsOf_of_isBlankLine {line : String} (h : isBlankLine line = true) :
    (∃ error, statementsOf line = .error (.lex error)) ∨
      ∃ error, statementsOf line = .error (.parse error) := by
  rcases blank_or_exists_first line.toList with hblank | ⟨before, c, rest, htext, hbefore, hc⟩
  · obtain ⟨error, herror⟩ := exists_parse_nil_eq
    exact .inr ⟨error, by simp only [statementsOf, tokenize_of_blank hblank, herror]⟩
  · left
    have hmem : c ∈ line.toList := by
      rw [← htext]
      simp
    have hoffends : Offends .stray (String.ofList (c :: rest)).toList := by
      rw [String.toList_ofList]
      exact Lexeme.offends_of_isWhiteSpace (List.all_eq_true.1 h c hmem) hc rest
    have htokens : tokenize (String.ofList before) = .ok [] :=
      tokenize_of_blank (by rwa [String.toList_ofList])
    have hline : String.ofList before ++ String.ofList (c :: rest) = line := by
      rw [← String.ofList_append, htext, String.ofList_toList]
    obtain ⟨error, herror⟩ : ∃ error, tokenize line = .error error := by
      rw [← hline]
      exact ⟨_, tokenize_append_of_offends htokens
        (fun c' hc' => hbefore c' (by simpa using List.mem_of_getLast? hc')) hoffends⟩
    exact ⟨error, by simp only [statementsOf, herror]⟩

/-- **To run a blank line is to do nothing**, and to be told so by a lexical error or a syntax
error. -/
theorem run_of_isBlankLine {line : String} (h : isBlankLine line = true) (database : Database) :
    (∃ error, database.run line = .error (.lex error) database) ∨
      ∃ error, database.run line = .error (.parse error) database := by
  rcases statementsOf_of_isBlankLine h with ⟨error, herror⟩ | ⟨error, herror⟩
  · exact .inl ⟨error, by simp only [Database.run, herror]⟩
  · exact .inr ⟨error, by simp only [Database.run, herror]⟩

end Shell
end ColumnarSql
