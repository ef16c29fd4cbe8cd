import ColumnarSql.Proofs.Grammar.Dispatch
import Mathlib.Data.List.Flatten
import Mathlib.Data.List.Forall2
import Mathlib.Data.List.TakeWhile

/-!
# Scripts look one token ahead

The productions of the language are predictive, and so a script is read without ever
taking anything back:

* `Grammar.predictive_statement`: a statement knows its own end, and
  `Grammar.run_statement_eq_ok_iff` says that it is one of the three;
* `Grammar.predictive_terminated`: a statement with its semicolons goes on with semicolons;
* `Production.runToEnd_append`: behind a script another one is read as on its own;
* `Production.runToEnd_eq_ok_iff`: a script is read exactly if it falls into blocks, each
  of which is read on its own;
* `Production.blocks_unique`: it falls into blocks in one way only;
* `Production.fails_runToEnd`: where a script fails, the wrong token cannot be added to
  what stands before it, and every expected token can.

The last four hold for any production that nothing it reads can go on with; for
statements this is so because none of them begins with a semicolon.
-/

namespace ColumnarSql

namespace Production

variable {α : Type} {item : Production α} {further : Token → Bool}

/-! ## Reading to the end -/

theorem runToEnd_of_error {tokens : List Token} {failure : Failure}
    (h : item.run tokens = .error failure) : item.runToEnd tokens = .error failure := by
  rw [runToEnd]
  split <;> simp_all

theorem runToEnd_of_nil {tokens : List Token} {a : α} (h : item.run tokens = .ok (a, [])) :
    item.runToEnd tokens = .ok [a] := by
  rw [runToEnd]
  split <;> simp_all

theorem runToEnd_of_ne_nil {tokens rest : List Token} {a : α}
    (h : item.run tokens = .ok (a, rest)) (hrest : rest ≠ []) :
    item.runToEnd tokens = (item.runToEnd rest).map (a :: ·) := by
  rw [runToEnd]
  split <;> simp_all

/-- The first thing that is read to the end. -/
theorem exists_run_of_runToEnd {tokens : List Token} {list : List α}
    (h : item.runToEnd tokens = .ok list) :
    ∃ a rest, item.run tokens = .ok (a, rest) ∧
      (rest = [] ∧ list = [a] ∨
        rest ≠ [] ∧ ∃ others, item.runToEnd rest = .ok others ∧ list = a :: others) := by
  cases hrun : item.run tokens with
  | error failure =>
    rw [runToEnd_of_error hrun] at h
    simp at h
  | ok result =>
    obtain ⟨a, rest⟩ := result
    refine ⟨a, rest, rfl, ?_⟩
    by_cases hrest : rest = []
    · subst hrest
      rw [runToEnd_of_nil hrun] at h
      exact .inl ⟨rfl, (Except.ok.inj h).symm⟩
    · rw [runToEnd_of_ne_nil hrun hrest] at h
      cases hothers : item.runToEnd rest with
      | error failure => simp [hothers, Except.map] at h
      | ok others =>
        simp only [hothers, Except.map, Except.ok.injEq] at h
        exact .inr ⟨hrest, others, rfl, h.symm⟩

theorem avoids_runToEnd (havoids : item.Avoids further) {tokens : List Token} {list : List α}
    (h : item.runToEnd tokens = .ok list) : Stops further tokens := by
  obtain ⟨a, rest, hrun, -⟩ := exists_run_of_runToEnd h
  exact havoids hrun

theorem ne_nil_of_runToEnd {tokens : List Token} {list : List α}
    (h : item.runToEnd tokens = .ok list) : tokens ≠ [] := by
  obtain ⟨a, rest, hrun, -⟩ := exists_run_of_runToEnd h
  rintro rfl
  exact absurd (item.shorter hrun) (by simp)

/-- **What has been read does not count.**  Behind tokens that are read to the end, others that
these do not go on with are read as they are on their own, and fail as they do. -/
theorem runToEnd_append (h : item.Predictive further) {tokens more : List Token} {list : List α}
    (hrun : item.runToEnd tokens = .ok list) (hmore : more ≠ []) (hstops : Stops further more) :
    item.runToEnd (tokens ++ more) = (item.runToEnd more).map (list ++ ·) := by
  induction list generalizing tokens with
  | nil =>
    obtain ⟨a, rest, -, ⟨-, heq⟩ | ⟨-, others, -, heq⟩⟩ := exists_run_of_runToEnd hrun <;>
      simp at heq
  | cons a others ih =>
    obtain ⟨a', rest, hread, hlast⟩ := exists_run_of_runToEnd hrun
    obtain ⟨block, rfl, hstops', hsame⟩ := h.reads hread
    rcases hlast with ⟨rfl, heq⟩ | ⟨hrest, others', hothers, heq⟩
    · obtain ⟨rfl, rfl⟩ := List.cons.inj heq
      rw [List.append_nil, runToEnd_of_ne_nil (hsame more hstops) hmore]
      rfl
    · obtain ⟨rfl, rfl⟩ := List.cons.inj heq
      obtain ⟨token, rest', rfl⟩ := List.exists_cons_of_ne_nil hrest
      have hnext := hsame (token :: rest' ++ more) (stops_cons_iff.2 (stops_cons_iff.1 hstops'))
      rw [List.append_assoc, runToEnd_of_ne_nil hnext (List.cons_ne_nil _ _), ih hothers]
      cases item.runToEnd more <;> rfl

/-- The blocks of a list: each of them is read on its own. -/
def Blocks (item : Production α) : List α → List (List Token) → Prop :=
  List.Forall₂ fun a block => item.run block = .ok (a, [])

theorem stops_flatten (havoids : item.Avoids further) {list : List α}
    {blocks : List (List Token)} (h : item.Blocks list blocks) :
    Stops further blocks.flatten := by
  cases h with
  | nil => exact stops_nil _
  | @cons a block others blocks' hread _ =>
    have hstops := havoids hread
    rw [List.flatten_cons]
    cases block with
    | nil => exact absurd (item.shorter hread) (by simp)
    | cons token rest => exact stops_cons_iff.2 (stops_cons_iff.1 hstops)

/-- Before more blocks a block is read as on its own. -/
theorem run_flatten (h : item.Predictive further) (havoids : item.Avoids further) {a : α}
    {list : List α} {block : List Token} {blocks : List (List Token)}
    (hread : item.run block = .ok (a, [])) (hblocks : item.Blocks list blocks) :
    item.run (block ++ blocks.flatten) = .ok (a, blocks.flatten) := by
  obtain ⟨block', hblock', -, hsame⟩ := h.reads hread
  rw [List.append_nil] at hblock'
  rw [← hblock']
  exact hsame _ (stops_flatten havoids hblocks)

/-- **Reading to the end** succeeds exactly if the tokens fall into blocks. -/
theorem runToEnd_eq_ok_iff (h : item.Predictive further) (havoids : item.Avoids further)
    {tokens : List Token} {list : List α} :
    item.runToEnd tokens = .ok list ↔
      list ≠ [] ∧ ∃ blocks, item.Blocks list blocks ∧ blocks.flatten = tokens := by
  constructor
  · intro hrun
    induction list generalizing tokens with
    | nil =>
      obtain ⟨a, rest, -, ⟨-, heq⟩ | ⟨-, others, -, heq⟩⟩ := exists_run_of_runToEnd hrun <;>
        simp at heq
    | cons a others ih =>
      refine ⟨List.cons_ne_nil _ _, ?_⟩
      obtain ⟨a', rest, hread, ⟨rfl, heq⟩ | ⟨-, others', hothers, heq⟩⟩ :=
        exists_run_of_runToEnd hrun
      · obtain ⟨rfl, rfl⟩ := List.cons.inj heq
        exact ⟨[tokens], .cons hread .nil, by simp⟩
      · obtain ⟨rfl, rfl⟩ := List.cons.inj heq
        obtain ⟨-, blocks, hblocks, rfl⟩ := ih hothers
        obtain ⟨block, rfl, -, hsame⟩ := h.reads hread
        have hblock := hsame [] (stops_nil _)
        rw [List.append_nil] at hblock
        exact ⟨block :: blocks, .cons hblock hblocks, rfl⟩
  · rintro ⟨hne, blocks, hblocks, rfl⟩
    induction hblocks with
    | nil => exact absurd rfl hne
    | @cons a block others blocks hread hblocks ih =>
      have hrun := run_flatten h havoids hread hblocks
      rw [List.flatten_cons]
      by_cases hnil : others = []
      · subst hnil
        cases hblocks
        exact runToEnd_of_nil hrun
      · have hothers := ih hnil
        rw [runToEnd_of_ne_nil hrun (ne_nil_of_runToEnd hothers), hothers]
        rfl

/-- **The blocks are unique**, and so is what is read from them. -/
theorem blocks_unique (h : item.Predictive further) (havoids : item.Avoids further)
    {list list' : List α} {blocks blocks' : List (List Token)} (hblocks : item.Blocks list blocks)
    (hblocks' : item.Blocks list' blocks') (heq : blocks.flatten = blocks'.flatten) :
    list = list' ∧ blocks = blocks' := by
  have hne : ∀ {a : α} {block : List Token} {rest : List Token},
      item.run block = .ok (a, []) → block ++ rest ≠ [] := by
    intro a block rest hread hnil
    rw [(List.append_eq_nil_iff.1 hnil).1] at hread
    exact absurd (item.shorter hread) (by simp)
  induction hblocks generalizing list' blocks' with
  | nil =>
    cases hblocks' with
    | nil => exact ⟨rfl, rfl⟩
    | cons hread' _ => exact absurd heq.symm (hne hread')
  | cons hread hothers ih =>
    cases hblocks' with
    | nil => exact absurd heq (hne hread)
    | cons hread' hothers' =>
      have hrun := run_flatten h havoids hread hothers
      have hrun' := run_flatten h havoids hread' hothers'
      rw [List.flatten_cons, List.flatten_cons] at heq
      rw [heq, hrun'] at hrun
      obtain ⟨rfl, hrest⟩ := Prod.mk.inj (Except.ok.inj hrun)
      obtain ⟨rfl, rfl⟩ := ih hothers' hrest.symm
      rw [List.append_cancel_right heq]
      exact ⟨rfl, rfl⟩

/-- Where reading to the end fails, the wrong token cannot be added to what stands before
it, and every expected token can. -/
theorem fails_runToEnd (h : item.Predictive further) (havoids : item.Avoids further)
    {tokens : List Token} {failure : Failure} (hrun : item.runToEnd tokens = .error failure) :
    ∃ block, block ++ failure.rest = tokens ∧
      (∀ token ∈ failure.rest.head?, ∀ rest list,
        item.runToEnd (block ++ token :: rest) ≠ .ok list) ∧
      ∀ token, failure.expected.admits token = true →
        ∃ rest list, item.runToEnd (block ++ token :: rest) = .ok list := by
  induction hlength : tokens.length using Nat.strongRecOn generalizing tokens with
  | ind length ih =>
    cases hread : item.run tokens with
    | error failure' =>
      rw [runToEnd_of_error hread] at hrun
      obtain rfl := Except.error.inj hrun
      obtain ⟨block, hblock, hwrong, hexpected⟩ := h.fails hread
      refine ⟨block, hblock, fun token htoken rest list hall => ?_, fun token htoken => ?_⟩
      · obtain ⟨a, left, hfirst, -⟩ := exists_run_of_runToEnd hall
        exact hwrong token htoken rest _ hfirst
      · obtain ⟨rest, a, hfirst⟩ := hexpected token htoken
        exact ⟨rest, [a], runToEnd_of_nil hfirst⟩
    | ok result =>
      obtain ⟨a, left⟩ := result
      have hleft : left ≠ [] := by
        rintro rfl
        rw [runToEnd_of_nil hread] at hrun
        simp at hrun
      rw [runToEnd_of_ne_nil hread hleft] at hrun
      cases hothers : item.runToEnd left with
      | ok others => simp [hothers, Except.map] at hrun
      | error failure' =>
        simp only [hothers, Except.map, Except.error.injEq] at hrun
        subst hrun
        obtain ⟨block', rfl, hwrong, hexpected⟩ :=
          ih left.length (hlength ▸ item.shorter hread) hothers rfl
        obtain ⟨block, rfl, hstops, hsame⟩ := h.reads hread
        -- Reading goes on behind the first block whatever stands there in its stead.
        have hgoes : ∀ token rest, Stops further (block' ++ token :: rest) →
            item.runToEnd (block ++ block' ++ token :: rest) =
              (item.runToEnd (block' ++ token :: rest)).map (a :: ·) := by
          intro token rest hstops'
          rw [List.append_assoc]
          exact runToEnd_of_ne_nil (hsame _ hstops') (by simp)
        refine ⟨block ++ block', List.append_assoc _ _ _,
          fun token htoken rest list hall => ?_, fun token htoken => ?_⟩
        · obtain ⟨others, hrest⟩ := List.head?_eq_some_iff.1 htoken
          rw [hrest] at hstops
          rw [hgoes token rest (stops_append_cons hstops rest)] at hall
          cases hlist : item.runToEnd (block' ++ token :: rest) with
          | error failure => simp [hlist, Except.map] at hall
          | ok list' => exact hwrong token htoken rest list' hlist
        · obtain ⟨rest, list, hlist⟩ := hexpected token htoken
          refine ⟨rest, a :: list, ?_⟩
          rw [hgoes token rest (avoids_runToEnd havoids hlist), hlist]
          rfl

end Production

namespace Grammar

open Production

theorem predictive_keyword (word : Keyword) : (keyword word).Predictive never :=
  predictive_token fun _ => rfl

theorem predictive_symbol (mark : Symbol) : (symbol mark).Predictive never :=
  predictive_token fun _ => rfl

theorem predictive_tableName : (identifier .tableName).Predictive never :=
  predictive_token fun _ => rfl

theorem predictive_columnName : (identifier .columnName).Predictive never :=
  predictive_token fun _ => rfl

theorem predictive_expression : expression.Predictive never :=
  predictive_token fun _ => rfl

theorem predictive_typeWord : typeWord.Predictive never :=
  predictive_token fun _ => rfl

/-- A reserved word ends a list. -/
theorem avoids_keyword (word : Keyword) : (keyword word).Avoids isComma :=
  avoids_token fun _ htoken => Token.isSymbol_of_isKeyword htoken .comma

/-- A closing parenthesis ends a list. -/
theorem avoids_rightParen : (symbol .rightParen).Avoids isComma :=
  avoids_token fun _ htoken => Token.isSymbol_of_ne htoken (by decide)

/-! ## Statements -/

theorem predictive_columnDeclaration : columnDeclaration.Predictive never :=
  predictive_bind predictive_columnName (fun _ => predictive_map predictive_typeWord)
    (fun _ => avoids_never _)

/-- A list up to a closing parenthesis. -/
theorem predictive_enclosed {α : Type} {item : Production α} (h : item.Predictive never)
    (f : List α → Statement) :
    (item.separated.bind fun items => (symbol .rightParen).map fun _ => f items).Predictive
      never :=
  predictive_bind (predictive_separated h) (fun _ => predictive_map (predictive_symbol _))
    (fun _ => avoids_map avoids_rightParen)

/-- A reserved word and then something that knows its own end. -/
theorem branch {word : Keyword} {next : Token → Production Statement}
    (h : ∀ token, (next token).Predictive never) :
    ((keyword word).bind next).BeginsWith word ∧ ((keyword word).bind next).Predictive never :=
  ⟨beginsWith_bind h, predictive_bind (predictive_keyword word) h fun _ => avoids_never _⟩

theorem branch_select : select.BeginsWith .SELECT ∧ select.Predictive never := by
  refine branch fun _ => ?_
  refine predictive_bind (predictive_separated predictive_expression) (fun items => ?_)
    (fun _ => avoids_bind (avoids_keyword .FROM))
  exact predictive_bind (predictive_keyword _) (fun _ => predictive_map predictive_tableName)
    (fun _ => avoids_never _)

theorem branch_insert : insert.BeginsWith .INSERT ∧ insert.Predictive never := by
  refine branch fun _ => ?_
  refine predictive_bind (predictive_keyword _) (fun _ => ?_) (fun _ => avoids_never _)
  refine predictive_bind predictive_tableName (fun table => ?_) (fun _ => avoids_never _)
  refine predictive_bind (predictive_keyword _) (fun _ => ?_) (fun _ => avoids_never _)
  refine predictive_bind (predictive_symbol _) (fun _ => ?_) (fun _ => avoids_never _)
  exact predictive_enclosed predictive_expression (.insert table)

theorem branch_createTable :
    createTable.BeginsWith .CREATE ∧ createTable.Predictive never := by
  refine branch fun _ => ?_
  refine predictive_bind (predictive_keyword _) (fun _ => ?_) (fun _ => avoids_never _)
  refine predictive_bind predictive_tableName (fun name => ?_) (fun _ => avoids_never _)
  refine predictive_bind (predictive_symbol _) (fun _ => ?_) (fun _ => avoids_never _)
  exact predictive_enclosed predictive_columnDeclaration (.createTable name)

/-- The statements with the words they begin with. -/
def branches : List (Keyword × Production Statement) :=
  [(.SELECT, select), (.INSERT, insert), (.CREATE, createTable)]

theorem map_snd_branches : branches.map Prod.snd = statements := rfl

theorem nodup_branches : (branches.map Prod.fst).Nodup := by
  decide

theorem branch_of_mem {alternative : Keyword × Production Statement}
    (h : alternative ∈ branches) :
    alternative.2.BeginsWith alternative.1 ∧ alternative.2.Predictive never := by
  simp only [branches, List.mem_cons, List.not_mem_nil, or_false] at h
  rcases h with rfl | rfl | rfl
  · exact branch_select
  · exact branch_insert
  · exact branch_createTable

/-- A statement. -/
def statement : Production Statement :=
  .firstOf .statement statements

/-- A statement is one of the three. -/
theorem run_statement_eq_ok_iff {tokens : List Token} {result : Statement × List Token} :
    statement.run tokens = .ok result ↔
      select.run tokens = .ok result ∨ insert.run tokens = .ok result ∨
        createTable.run tokens = .ok result := by
  rw [statement, ← map_snd_branches,
    run_firstOf_eq_ok_iff (fun _ h => (branch_of_mem h).1) nodup_branches]
  simp [branches]

/-- **Statements look one token ahead.** -/
theorem predictive_statement : statement.Predictive never := by
  rw [statement, ← map_snd_branches]
  refine predictive_firstOf (fun _ h => (branch_of_mem h).1) (fun _ h => (branch_of_mem h).2)
    nodup_branches fun token htoken => ?_
  simp only [Expectation.admits, Bool.or_eq_true] at htoken
  rcases htoken with (htoken | htoken) | htoken
  · exact ⟨(.SELECT, select), by simp [branches], htoken⟩
  · exact ⟨(.INSERT, insert), by simp [branches], htoken⟩
  · exact ⟨(.CREATE, createTable), by simp [branches], htoken⟩

/-- No statement begins with a semicolon. -/
theorem avoids_statement : statement.Avoids isSemicolon := by
  intro tokens result hrun
  rw [statement, ← map_snd_branches,
    run_firstOf_eq_ok_iff (fun _ h => (branch_of_mem h).1) nodup_branches] at hrun
  obtain ⟨alternative, hmem, hread⟩ := hrun
  obtain ⟨token, rest, rfl, htoken⟩ := (branch_of_mem hmem).1.head_of_ok hread
  rw [stops_cons_iff]
  exact Token.isSymbol_of_isKeyword htoken .semicolon

/-! ## Semicolons -/

theorem run_semicolons_of_semicolon {token : Token} (h : isSemicolon token = true)
    (rest : List Token) :
    semicolons.run (token :: rest) = .ok ((), rest.dropWhile isSemicolon) := if_pos h

theorem run_semicolons_of_stops {tokens : List Token} (h : Stops isSemicolon tokens) :
    semicolons.run tokens = .error ⟨.semicolon, tokens⟩ := by
  cases tokens with
  | nil => rfl
  | cons token rest => exact if_neg (by simpa [isSemicolon] using stops_cons_iff.1 h)

theorem dropWhile_of_stops {further : Token → Bool} {rest : List Token}
    (h : Stops further rest) : rest.dropWhile further = rest := by
  cases rest with
  | nil => rfl
  | cons token rest => exact List.dropWhile_cons_of_neg (by simp [stops_cons_iff.1 h])

/-- Semicolons are read as far as they go. -/
theorem run_semicolons_eq_ok_iff {tokens rest : List Token} :
    semicolons.run tokens = .ok ((), rest) ↔
      ∃ marks, marks ≠ [] ∧ (∀ mark ∈ marks, isSemicolon mark = true) ∧
        marks ++ rest = tokens ∧ Stops isSemicolon rest := by
  constructor
  · intro hrun
    by_cases hstops : Stops isSemicolon tokens
    · rw [run_semicolons_of_stops hstops] at hrun
      simp at hrun
    · obtain ⟨token, others, rfl⟩ : ∃ token others, tokens = token :: others :=
        List.exists_cons_of_ne_nil (by rintro rfl; exact hstops (stops_nil _))
      have htoken : isSemicolon token = true := by simpa [stops_cons_iff] using hstops
      rw [run_semicolons_of_semicolon htoken] at hrun
      obtain ⟨-, rfl⟩ := Prod.mk.inj (Except.ok.inj hrun)
      refine ⟨token :: others.takeWhile isSemicolon, by simp, ?_, ?_, ?_⟩
      · intro mark hmark
        rcases List.mem_cons.1 hmark with rfl | hmark
        · exact htoken
        · exact List.mem_takeWhile_imp hmark
      · rw [List.cons_append, List.takeWhile_append_dropWhile]
      · intro next hnext
        have hdrop := List.head?_dropWhile_not isSemicolon others
        rw [Option.mem_def.1 hnext] at hdrop
        exact hdrop
  · rintro ⟨marks, hne, hmarks, rfl, hstops⟩
    obtain ⟨mark, others, rfl⟩ := List.exists_cons_of_ne_nil hne
    have hothers : ∀ other ∈ others, isSemicolon other = true :=
      fun other hother => hmarks other (List.mem_cons_of_mem _ hother)
    rw [List.cons_append, run_semicolons_of_semicolon (hmarks mark List.mem_cons_self),
      List.dropWhile_append_of_pos hothers, dropWhile_of_stops hstops]

theorem predictive_semicolons : semicolons.Predictive isSemicolon where
  reads {tokens rest a} hrun := by
    obtain ⟨marks, hne, hmarks, hblock, hstops⟩ := run_semicolons_eq_ok_iff.1 hrun
    exact ⟨marks, hblock, hstops, fun rest' hrest' =>
      run_semicolons_eq_ok_iff.2 ⟨marks, hne, hmarks, rfl, hrest'⟩⟩
  fails {tokens failure} hrun := by
    have hstops : Stops isSemicolon tokens := by
      intro token htoken
      obtain ⟨rest, rfl⟩ := List.head?_eq_some_iff.1 htoken
      rw [Bool.eq_false_iff]
      intro hsemicolon
      rw [run_semicolons_of_semicolon hsemicolon] at hrun
      simp at hrun
    rw [run_semicolons_of_stops hstops] at hrun
    obtain rfl := Except.error.inj hrun
    refine ⟨[], rfl, fun token htoken rest result hread => ?_, fun token htoken => ?_⟩
    · have hwrong : Stops isSemicolon (token :: rest) := stops_cons_iff.2 (hstops token htoken)
      rw [List.nil_append, run_semicolons_of_stops hwrong] at hread
      simp at hread
    · exact ⟨[], (), run_semicolons_of_semicolon htoken []⟩

/-- **A statement with its semicolons** goes on with semicolons and nothing else. -/
theorem predictive_terminated : (terminated statement).Predictive isSemicolon :=
  predictive_bind predictive_statement (fun _ => predictive_map predictive_semicolons)
    (fun _ => avoids_never _)

theorem avoids_terminated : (terminated statement).Avoids isSemicolon :=
  avoids_bind avoids_statement

theorem parse_eq_ok_iff {tokens : List Token} {statements : List Statement} :
    parse tokens = .ok statements ↔
      (terminated statement).runToEnd tokens = .ok statements := by
  show ((terminated statement).runToEnd tokens).mapError (ParseError.ofFailure tokens) = _ ↔ _
  cases (terminated statement).runToEnd tokens <;> simp [Except.mapError]

end Grammar
end ColumnarSql
