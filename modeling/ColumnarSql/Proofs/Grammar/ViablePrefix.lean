import ColumnarSql.Proofs.Grammar.Script

/-!
# Where a script goes wrong

Tokens are `Grammar.Viable` if they are the beginning of a script.  A sequence of tokens
that is no script has a longest viable beginning, and the error of the parser is the error
behind it:

* `Grammar.parse_error_at_first_offence`: the error names the token behind the
  longest viable beginning, and what it expects there keeps the beginning viable;
* in particular no token is named exactly if all tokens together are viable, so that the
  script only ends too early.

A script that fails was read by one statement after another, and the failure is that of the
last one (`Production.fails_runToEnd`).  Which of the three statements it was is decided by
its first word, so the failure that got furthest is the only one that got anywhere.
-/

namespace ColumnarSql
namespace Grammar

open Production

/-- Tokens are the beginning of a script. -/
def Viable (tokens : List Token) : Prop :=
  ∃ rest statements, parse (tokens ++ rest) = .ok statements

theorem viable_of_append {tokens rest : List Token} (h : Viable (tokens ++ rest)) :
    Viable tokens := by
  obtain ⟨rest', statements, hparse⟩ := h
  rw [List.append_assoc] at hparse
  exact ⟨rest ++ rest', statements, hparse⟩

theorem parse_eq_error_iff {tokens : List Token} {error : ParseError} :
    parse tokens = .error error ↔ ∃ failure,
      (terminated statement).runToEnd tokens = .error failure ∧
        ParseError.ofFailure tokens failure = error := by
  show ((terminated statement).runToEnd tokens).mapError (ParseError.ofFailure tokens) = _ ↔ _
  cases (terminated statement).runToEnd tokens <;> simp [Except.mapError]

/-- Before a failure stands the longest viable beginning. -/
theorem viable_of_failure {tokens : List Token} {failure : Failure}
    (h : (terminated statement).runToEnd tokens = .error failure) :
    ∃ block, block ++ failure.rest = tokens ∧
      (∀ token ∈ failure.rest.head?, ¬ Viable (block ++ [token])) ∧
      ∀ token, failure.expected.admits token = true → Viable (block ++ [token]) := by
  obtain ⟨block, hblock, hwrong, hexpected⟩ :=
    fails_runToEnd predictive_terminated avoids_terminated h
  refine ⟨block, hblock, fun token htoken => ?_, fun token htoken => ?_⟩
  · rintro ⟨rest, statements, hparse⟩
    rw [List.append_assoc] at hparse
    exact hwrong token htoken rest statements (parse_eq_ok_iff.1 hparse)
  · obtain ⟨rest, statements, hread⟩ := hexpected token htoken
    refine ⟨rest, statements, parse_eq_ok_iff.2 ?_⟩
    rw [List.append_assoc]
    exact hread

/-! ## The error -/

/-- **The first offending token** is the one at position `i`, or the tokens end there; the
error says which, and where. -/
structure FirstOffence (tokens : List Token) (error : ParseError) (i : Nat) : Prop where
  le_length : i ≤ tokens.length
  /-- The error gives the place and the value of the token. -/
  names : ∀ hi : i < tokens.length,
    error.location = tokens[i].location ∧ error.found = some tokens[i].value
  /-- At the end it gives no value, and the place of the last token. -/
  names_end : i = tokens.length →
    error.found = none ∧ error.location = (tokens.getLast?.map (·.location)).getD .start
  viable : Viable (tokens.take i)
  not_viable : i < tokens.length → ¬ Viable (tokens.take (i + 1))
  /-- With any token in its stead that the wording of the error admits, they are. -/
  viable_expected : ∀ expected : Expectation, expected.display = error.expected.display →
    ∀ token, expected.admits token = true → Viable (tokens.take i ++ [token])

/-- Tokens that end too early. -/
theorem firstOffence_nil {block : List Token} {expected : Expectation} (hblock : Viable block)
    (hexpected : ∀ token, expected.admits token = true → Viable (block ++ [token])) :
    FirstOffence block (ParseError.ofFailure block ⟨expected, []⟩) block.length where
  le_length := le_rfl
  names hi := absurd hi (lt_irrefl _)
  names_end _ := by
    refine ⟨rfl, ?_⟩
    simp only [ParseError.ofFailure, List.head?_nil, Option.none_or]
    cases block.getLast? <;> rfl
  viable := by
    rw [List.take_length]
    exact hblock
  not_viable hi := absurd hi (lt_irrefl _)
  viable_expected other hother token htoken := by
    rw [List.take_length]
    obtain rfl := Expectation.display_injective hother
    exact hexpected token htoken

/-- A wrong token. -/
theorem firstOffence_cons {block rest : List Token} {token : Token} {expected : Expectation}
    (hblock : Viable block) (hwrong : ¬ Viable (block ++ [token]))
    (hexpected : ∀ token, expected.admits token = true → Viable (block ++ [token])) :
    FirstOffence (block ++ token :: rest)
      (ParseError.ofFailure (block ++ token :: rest) ⟨expected, token :: rest⟩) block.length where
  le_length := by
    rw [List.length_append]
    omega
  names hi := by
    have hget : (block ++ token :: rest)[block.length] = token := by
      rw [List.getElem_append_right le_rfl]
      simp
    rw [hget]
    exact ⟨rfl, rfl⟩
  names_end hi := by
    rw [List.length_append, List.length_cons] at hi
    omega
  viable := by
    rw [List.take_left]
    exact hblock
  not_viable _ := by
    have htake : (block ++ token :: rest).take (block.length + 1) = block ++ [token] := by
      rw [List.append_cons]
      exact List.take_left' (by simp)
    rw [htake]
    exact hwrong
  viable_expected other hother token htoken := by
    rw [List.take_left]
    obtain rfl := Expectation.display_injective hother
    exact hexpected token htoken

/-- **Parse errors point at the first offending token.**  If tokens are no script, the
error is the one at the first position where they cannot go on as they do; and it finds no
token exactly if all tokens together are viable. -/
theorem parse_error_at_first_offence {tokens : List Token} {error : ParseError}
    (h : parse tokens = .error error) :
    (∃ i, FirstOffence tokens error i) ∧ (error.found = none ↔ Viable tokens) := by
  obtain ⟨⟨expected, rest⟩, hrun, rfl⟩ := parse_eq_error_iff.1 h
  obtain ⟨block, hblock, hwrong, hexpected⟩ := viable_of_failure hrun
  have hviable : Viable block := by
    obtain ⟨token, htoken⟩ := expected.exists_admits
    exact viable_of_append (hexpected token htoken)
  cases rest with
  | nil =>
    obtain rfl : block = tokens := by simpa using hblock
    exact ⟨⟨block.length, firstOffence_nil hviable hexpected⟩, iff_of_true rfl hviable⟩
  | cons token rest =>
    obtain rfl : block ++ token :: rest = tokens := hblock
    have hnot : ¬ Viable (block ++ [token]) := hwrong token rfl
    refine ⟨⟨block.length, firstOffence_cons hviable hnot hexpected⟩, ?_⟩
    refine iff_of_false (Option.some_ne_none token.value) fun hall => hnot ?_
    rw [List.append_cons] at hall
    exact viable_of_append hall

/-- A question, and then the beginning of an insertion that names no table:
`SELECT a FROM t; INSERT INTO (`. -/
def brokenScript : List Token :=
  [⟨.keyword, "select", ⟨0, 0⟩⟩, ⟨.identifier, "a", ⟨0, 7⟩⟩, ⟨.keyword, "from", ⟨0, 9⟩⟩,
    ⟨.identifier, "t", ⟨0, 14⟩⟩, ⟨.symbol, ";", ⟨0, 15⟩⟩, ⟨.keyword, "insert", ⟨0, 17⟩⟩,
    ⟨.keyword, "into", ⟨0, 24⟩⟩, ⟨.symbol, "(", ⟨0, 29⟩⟩]

/-- The error in the broken script is at the parenthesis. -/
theorem parse_error_at_first_offence_brokenScript :
    parse brokenScript = .error ⟨⟨0, 29⟩, .tableName, some "("⟩ ∧
      (∃ i, FirstOffence brokenScript ⟨⟨0, 29⟩, .tableName, some "("⟩ i) ∧
      (some "(" = none ↔ Viable brokenScript) := by
  have hparse : parse brokenScript = .error ⟨⟨0, 29⟩, .tableName, some "("⟩ := by
    decide +kernel
  exact ⟨hparse, parse_error_at_first_offence hparse⟩

end Grammar
end ColumnarSql
