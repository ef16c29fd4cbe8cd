import ColumnarSql.Proofs.Grammar.Script
import Mathlib.Data.List.Perm.Basic

/-!
# What a statement does not depend on

How a statement is read, and with what error it is refused, depends on the tokens that it begins
with and on nothing else.

* It does not depend on the other kinds of statements.  All of them are tried at the same token and
  the failures are compared, but the first token alone tells which of them is read there
  (`Grammar.predict`).  So no order in which they might be tried leaves a trace in a result or in
  an error: `Grammar.backtracking_is_prediction`.
* It does not depend on the statements before it.  Tokens behind a script are read as they are on
  their own; and where they are refused, the error is the same, with its place, even if the reason
  is that the tokens end too early: `Grammar.parse_continues`.

The second law asks that the tokens behind a script do not begin with a semicolon.  Such a
semicolon would end the last statement of the script once more, and on its own it is no statement.
-/

namespace ColumnarSql
namespace Grammar

open Production

/-! ## The other kinds of statements -/

/-- What is read at a place of some tokens, by the token that stands there: the statement that
begins with this word, or else nothing. -/
def predict (tokens : List Token) (cursor : Nat) : Except Failure (Statement × List Token) :=
  if tokens[cursor]?.any (·.isKeyword .SELECT) then select.run (tokens.drop cursor)
  else if tokens[cursor]?.any (·.isKeyword .INSERT) then insert.run (tokens.drop cursor)
  else if tokens[cursor]?.any (·.isKeyword .CREATE) then createTable.run (tokens.drop cursor)
  else .error ⟨.statement, tokens.drop cursor⟩

/-- The statements are tried as the token that stands there says. -/
theorem run_statement_eq_predict (tokens : List Token) (cursor : Nat) :
    statement.run (tokens.drop cursor) = predict tokens cursor := by
  rw [statement, ← map_snd_branches,
    run_firstOf .statement (fun _ h => (branch_of_mem h).1) nodup_branches, predict]
  simp only [chosen, branches, List.find?_cons, List.find?_nil, List.head?_drop]
  cases tokens[cursor]?.any (·.isKeyword .SELECT) with
  | true => rfl
  | false =>
    cases tokens[cursor]?.any (·.isKeyword .INSERT) with
    | true => rfl
    | false => cases tokens[cursor]?.any (·.isKeyword .CREATE) <;> rfl

/-- In every order the statements are the same production. -/
theorem firstOf_eq_statement {alternatives : List (Production Statement)}
    (h : alternatives.Perm statements) : .firstOf .statement alternatives = statement := by
  -- an order of the statements is an order of the words that they begin with
  obtain ⟨order, rfl, hperm⟩ :
      Relation.Comp (· = List.map Prod.snd ·) List.Perm alternatives branches := by
    rw [List.eq_map_comp_perm]
    exact h
  have hbranches : ∀ alternative ∈ order, alternative.2.BeginsWith alternative.1 :=
    fun _ hmem => (branch_of_mem (hperm.mem_iff.1 hmem)).1
  exact firstOf_perm .statement hbranches ((hperm.map Prod.fst).nodup_iff.2 nodup_branches) hperm

/-- **Trying is predicting.**  At every place of some tokens the three kinds of statements are
tried in turn, and the failures are compared.  The outcome, be it a statement or a failure, is that
of the one kind whose word stands there; where none of the words stands, it is the failure at that
place that expects a statement.  So the tokens of a script give the same statements, or the same
error, in whatever order the three kinds are tried. -/
theorem backtracking_is_prediction :
    (∀ tokens cursor, statement.run (tokens.drop cursor) = predict tokens cursor) ∧
    ∀ alternatives : List (Production Statement), alternatives.Perm statements →
      (∀ tokens, (Production.firstOf .statement alternatives).run tokens =
        statement.run tokens) ∧
      ∀ tokens, parseWith alternatives tokens = parse tokens := by
  refine ⟨run_statement_eq_predict, fun alternatives h => ⟨fun tokens => ?_, fun tokens => ?_⟩⟩
  · rw [firstOf_eq_statement h]
  · rw [parseWith, firstOf_eq_statement h]
    rfl

/-- `SELECT a FROM t;` on a line of its own. -/
def questionOn (line : Nat) : List Token :=
  [⟨.keyword, "select", ⟨line, 0⟩⟩, ⟨.identifier, "a", ⟨line, 7⟩⟩, ⟨.keyword, "from", ⟨line, 9⟩⟩,
    ⟨.identifier, "t", ⟨line, 14⟩⟩, ⟨.symbol, ";", ⟨line, 15⟩⟩]

/-- What this question asks. -/
def questionStatement (line : Nat) : Statement :=
  .select [⟨.identifier, "a", ⟨line, 7⟩⟩] ⟨.identifier, "t", ⟨line, 14⟩⟩

/-- With tables created first, the question is read all the same, its end is refused with the same
error, and no statement is found where its second token stands. -/
theorem backtracking_is_prediction_question :
    statement.run ((questionOn 0).drop 1) = .error ⟨.statement, (questionOn 0).drop 1⟩ ∧
      [createTable, select, insert].Perm statements ∧
      parseWith [createTable, select, insert] (questionOn 0) = .ok [questionStatement 0] ∧
      parseWith [createTable, select, insert] ((questionOn 0).take 4) =
        .error ⟨⟨0, 14⟩, .semicolon, none⟩ := by
  have hperm : [createTable, select, insert].Perm statements :=
    @List.perm_append_comm _ [createTable] [select, insert]
  obtain ⟨hpredict, horder⟩ := backtracking_is_prediction
  refine ⟨(hpredict (questionOn 0) 1).trans rfl, hperm, ?_, ?_⟩
  · rw [(horder _ hperm).2]
    decide +kernel
  · rw [(horder _ hperm).2]
    decide +kernel

end Grammar

/-! ## The statements before -/

/-- The place of an error is looked for behind what has been read. -/
theorem ParseError.ofFailure_append {tokens : List Token} (hne : tokens ≠ [])
    (before : List Token) (failure : Failure) :
    ofFailure (before ++ tokens) failure = ofFailure tokens failure := by
  rw [ofFailure, List.getLast?_append_of_ne_nil _ hne, ofFailure]

namespace Grammar

open Production

/-- Behind a script other tokens are parsed as they are on their own. -/
theorem parse_append_of_ok {before tokens : List Token} {statements : List Statement}
    (hbefore : parse before = .ok statements) (hne : tokens ≠ [])
    (hstops : Stops isSemicolon tokens) :
    parse (before ++ tokens) = (parse tokens).map (statements ++ ·) := by
  have hread := runToEnd_append predictive_terminated (parse_eq_ok_iff.1 hbefore) hne hstops
  show ((terminated statement).runToEnd (before ++ tokens)).mapError _ =
    (((terminated statement).runToEnd tokens).mapError _).map _
  rw [hread]
  cases (terminated statement).runToEnd tokens with
  | ok others => rfl
  | error failure => exact congrArg Except.error (ParseError.ofFailure_append hne before failure)

/-- Two scripts, one behind the other, are one script. -/
theorem parse_append {tokens tokens' : List Token} {first second : List Statement}
    (h : parse tokens = .ok first) (h' : parse tokens' = .ok second) :
    parse (tokens ++ tokens') = .ok (first ++ second) := by
  have hrun := parse_eq_ok_iff.1 h'
  rw [parse_append_of_ok h (ne_nil_of_runToEnd hrun) (avoids_runToEnd avoids_terminated hrun), h']
  rfl

/-- **Parsing goes on as if it began.**  Let some tokens be a script, and let others stand behind
them that do not begin with a semicolon.  If these are a script, both together are the script of all
the statements.  If these are refused, both together are refused, and the error is the same in its
place, in what it expects and in what it finds. -/
theorem parse_continues {before tokens : List Token} {statements : List Statement}
    (hbefore : parse before = .ok statements) (hne : tokens ≠ [])
    (hstart : ∀ token ∈ tokens.head?, token.isSymbol .semicolon = false) :
    (∀ others, parse tokens = .ok others →
      parse (before ++ tokens) = .ok (statements ++ others)) ∧
    ∀ error, parse tokens = .error error → parse (before ++ tokens) = .error error := by
  rw [parse_append_of_ok hbefore hne hstart]
  refine ⟨fun others hothers => ?_, fun error herror => ?_⟩
  · rw [hothers]
    rfl
  · rw [herror]
    rfl

/-- A question behind another one, and one that ends too early. -/
theorem parse_continues_questions :
    parse (questionOn 0) = .ok [questionStatement 0] ∧
      parse (questionOn 0 ++ questionOn 1) = .ok [questionStatement 0, questionStatement 1] ∧
      parse ((questionOn 1).take 3) = .error ⟨⟨1, 9⟩, .tableName, none⟩ ∧
      parse (questionOn 0 ++ (questionOn 1).take 3) = .error ⟨⟨1, 9⟩, .tableName, none⟩ := by
  have hquestion : ∀ line ∈ [0, 1], parse (questionOn line) = .ok [questionStatement line] := by
    decide +kernel
  have herror : parse ((questionOn 1).take 3) = .error ⟨⟨1, 9⟩, .tableName, none⟩ := by
    decide +kernel
  have hfirst := hquestion 0 (by decide)
  have hscript := @parse_continues _ (questionOn 1) _ hfirst (by decide) (by decide)
  have hrefused := @parse_continues _ ((questionOn 1).take 3) _ hfirst (by decide) (by decide)
  exact ⟨hfirst, hscript.1 _ (hquestion 1 (by decide)), herror, hrefused.2 _ herror⟩

end Grammar
end ColumnarSql
