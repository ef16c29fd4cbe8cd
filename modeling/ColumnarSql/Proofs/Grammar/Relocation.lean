import ColumnarSql.Proofs.Grammar.Script

/-!
# Reading without places

The productions look at the class and the value of a token, never at its place.  So tokens
can be read without their places: what comes out is what would have come out with them,
again without places, and this holds for failures as well.

`Grammar.parse_unplaced` states it for scripts.  Places then matter only where they are
reported, and a script that is written in two ways is read in one.

`Production.Unplaces` is the property that each way to make productions keeps.  It is a
relation between two productions, because what follows in a bind depends on what was read:
behind a token it follows the token, and behind the token without its place the token
without its place.
-/

namespace ColumnarSql

/-! ## Forgetting places -/

/-- A column as declared, without places. -/
def ColumnDeclaration.unplaced (column : ColumnDeclaration) : ColumnDeclaration :=
  ⟨column.name.unplaced, column.type.unplaced⟩

/-- A statement without places. -/
def Statement.unplaced : Statement → Statement
  | select items table => select (items.map Token.unplaced) table.unplaced
  | insert table values => insert table.unplaced (values.map Token.unplaced)
  | createTable name columns =>
    createTable name.unplaced (columns.map ColumnDeclaration.unplaced)

/-- A failure among tokens without places. -/
def Failure.unplaced (failure : Failure) : Failure :=
  ⟨failure.expected, failure.rest.map Token.unplaced⟩

/-- An error without its place. -/
def ParseError.unplaced (error : ParseError) : ParseError :=
  ⟨.start, error.expected, error.found⟩

/-- Which of two failures got further does not depend on places. -/
theorem Failure.furthest_unplaced (first second : Failure) :
    first.unplaced.furthest second.unplaced = (first.furthest second).unplaced := by
  unfold Failure.furthest
  simp only [unplaced, List.length_map]
  split <;> rfl

/-- The error of a failure does not depend on places, apart from its own. -/
theorem ParseError.ofFailure_unplaced (tokens : List Token) (failure : Failure) :
    ofFailure (tokens.map Token.unplaced) failure.unplaced =
      (ofFailure tokens failure).unplaced := by
  obtain ⟨expected, rest⟩ := failure
  cases rest with
  | cons token rest => rfl
  | nil =>
    simp only [ofFailure, Failure.unplaced, unplaced, List.map_nil, List.head?_nil,
      Option.none_or, List.getLast?_map]
    cases tokens.getLast? <;> rfl

namespace Production

variable {α β : Type}

/-- A result without places. -/
def unplacedResult (unplace : α → α) :
    Except Failure (α × List Token) → Except Failure (α × List Token)
  | .error failure => .error failure.unplaced
  | .ok (a, rest) => .ok (unplace a, rest.map Token.unplaced)

/-- **Places do not matter** to what a production reads: the second production reads
without places what the first one reads with them. -/
def Unplaces (unplace : α → α) (placed plain : Production α) : Prop :=
  ∀ tokens : List Token,
    plain.run (tokens.map Token.unplaced) = unplacedResult unplace (placed.run tokens)

theorem Unplaces.run_of_error {unplace : α → α} {placed plain : Production α}
    (h : Unplaces unplace placed plain) {tokens : List Token} {failure : Failure}
    (hrun : placed.run tokens = .error failure) :
    plain.run (tokens.map Token.unplaced) = .error failure.unplaced := by
  rw [h, hrun]
  rfl

theorem Unplaces.run_of_ok {unplace : α → α} {placed plain : Production α}
    (h : Unplaces unplace placed plain) {tokens rest : List Token} {a : α}
    (hrun : placed.run tokens = .ok (a, rest)) :
    plain.run (tokens.map Token.unplaced) = .ok (unplace a, rest.map Token.unplaced) := by
  rw [h, hrun]
  rfl

theorem unplaces_token {expected : Expectation} {accepts : Token → Bool}
    (h : ∀ token, accepts token.unplaced = accepts token) :
    Unplaces Token.unplaced (token expected accepts) (token expected accepts) := by
  intro tokens
  cases tokens with
  | nil => rfl
  | cons first rest =>
    rw [List.map_cons, run_token_cons, run_token_cons, h]
    by_cases haccepts : accepts first = true
    · rw [if_pos haccepts, if_pos haccepts]
      rfl
    · rw [if_neg haccepts, if_neg haccepts]
      rfl

theorem unplaces_bind {f : α → α} {g : β → β} {placed plain : Production α}
    {next next' : α → Production β} (h : Unplaces f placed plain)
    (hnext : ∀ a, Unplaces g (next a) (next' (f a))) :
    Unplaces g (placed.bind next) (plain.bind next') := by
  intro tokens
  cases hrun : placed.run tokens with
  | error failure =>
    rw [run_bind_of_error hrun, run_bind_of_error (h.run_of_error hrun)]
    rfl
  | ok result =>
    obtain ⟨a, rest⟩ := result
    rw [run_bind_of_ok hrun, run_bind_of_ok (h.run_of_ok hrun)]
    exact hnext a rest

theorem unplaces_map {f : α → α} {g : β → β} {placed plain : Production α}
    {result result' : α → β} (h : Unplaces f placed plain)
    (hresult : ∀ a, result' (f a) = g (result a)) :
    Unplaces g (placed.map result) (plain.map result') := by
  intro tokens
  cases hrun : placed.run tokens with
  | error failure =>
    rw [run_map_eq_error_iff.2 hrun]
    exact run_map_eq_error_iff.2 (h.run_of_error hrun)
  | ok read =>
    obtain ⟨a, rest⟩ := read
    rw [run_map_eq_ok_iff.2 ⟨a, hrun, rfl⟩]
    exact run_map_eq_ok_iff.2 ⟨f a, h.run_of_ok hrun, hresult a⟩

theorem stops_unplaced {further : Token → Bool}
    (h : ∀ token, further token.unplaced = further token) {rest : List Token}
    (hrest : Stops further rest) : Stops further (rest.map Token.unplaced) := by
  cases rest with
  | nil => exact stops_nil _
  | cons token rest =>
    rw [List.map_cons, stops_cons_iff, h]
    exact stops_cons_iff.1 hrest

theorem unplaces_separated {f : α → α} {placed plain : Production α}
    (h : Unplaces f placed plain) :
    Unplaces (List.map f) placed.separated plain.separated := by
  intro tokens
  induction hlength : tokens.length using Nat.strongRecOn generalizing tokens with
  | ind length ih =>
    rcases run_separated_cases placed tokens with ⟨failure, hread, herror⟩ |
      ⟨a, rest, hread, hstops, hok⟩ | ⟨a, comma, rest, hread, hcomma, hok⟩
    · rw [herror, run_separated_of_error (h.run_of_error hread)]
      rfl
    · rw [hok, run_separated_of_stops (h.run_of_ok hread) (stops_unplaced (fun _ => rfl) hstops)]
      rfl
    · have hshorter := placed.shorter hread
      rw [List.length_cons] at hshorter
      have hplain : plain.run (tokens.map Token.unplaced) =
          .ok (f a, comma.unplaced :: rest.map Token.unplaced) := h.run_of_ok hread
      rw [hok, run_separated_of_comma hplain hcomma, ih rest.length (by omega) rest rfl]
      cases placed.separated.run rest <;> rfl

theorem runFirstOf_unplaced {f : α → α} {alternatives : List (Production α)}
    (h : ∀ alternative ∈ alternatives, Unplaces f alternative alternative) (failure : Failure)
    (tokens : List Token) :
    runFirstOf failure.unplaced alternatives (tokens.map Token.unplaced) =
      unplacedResult f (runFirstOf failure alternatives tokens) := by
  induction alternatives generalizing failure with
  | nil => rfl
  | cons alternative others ih =>
    have halternative := h alternative List.mem_cons_self
    rw [runFirstOf, runFirstOf]
    cases hrun : alternative.run tokens with
    | ok result => rw [halternative.run_of_ok hrun]; rfl
    | error failure' =>
      rw [halternative.run_of_error hrun]
      simp only [Failure.furthest_unplaced]
      exact ih (fun other hother => h other (List.mem_cons_of_mem _ hother)) _

theorem unplaces_firstOf {f : α → α} {expected : Expectation}
    {alternatives : List (Production α)}
    (h : ∀ alternative ∈ alternatives, Unplaces f alternative alternative) :
    Unplaces f (firstOf expected alternatives) (firstOf expected alternatives) :=
  fun tokens => runFirstOf_unplaced h ⟨expected, tokens⟩ tokens

/-- Reading to the end does not depend on places. -/
theorem runToEnd_unplaced {f : α → α} {placed plain : Production α}
    (h : Unplaces f placed plain) (tokens : List Token) :
    plain.runToEnd (tokens.map Token.unplaced) =
      match placed.runToEnd tokens with
      | .error failure => .error failure.unplaced
      | .ok list => .ok (list.map f) := by
  induction hlength : tokens.length using Nat.strongRecOn generalizing tokens with
  | ind length ih =>
    cases hrun : placed.run tokens with
    | error failure =>
      rw [runToEnd_of_error hrun, runToEnd_of_error (h.run_of_error hrun)]
    | ok result =>
      obtain ⟨a, rest⟩ := result
      by_cases hrest : rest = []
      · subst hrest
        rw [runToEnd_of_nil hrun, runToEnd_of_nil (h.run_of_ok hrun)]
        rfl
      · have hrest' : rest.map Token.unplaced ≠ [] := by simpa using hrest
        rw [runToEnd_of_ne_nil hrun hrest, runToEnd_of_ne_nil (h.run_of_ok hrun) hrest',
          ih rest.length (hlength ▸ placed.shorter hrun) rest rfl]
        cases placed.runToEnd rest <;> rfl

end Production

/-! ## The grammar -/

namespace Grammar

open Production

theorem unplaces_keyword (word : Keyword) :
    Unplaces Token.unplaced (keyword word) (keyword word) :=
  unplaces_token fun _ => rfl

theorem unplaces_symbol (mark : Symbol) :
    Unplaces Token.unplaced (symbol mark) (symbol mark) :=
  unplaces_token fun _ => rfl

theorem unplaces_identifier (role : Expectation) :
    Unplaces Token.unplaced (identifier role) (identifier role) :=
  unplaces_token fun _ => rfl

theorem unplaces_expression : Unplaces Token.unplaced expression expression :=
  unplaces_token fun _ => rfl

theorem unplaces_typeWord : Unplaces Token.unplaced typeWord typeWord :=
  unplaces_token fun _ => rfl

theorem unplaces_columnDeclaration :
    Unplaces ColumnDeclaration.unplaced columnDeclaration columnDeclaration :=
  unplaces_bind (unplaces_identifier _) fun _ => unplaces_map unplaces_typeWord fun _ => rfl

theorem unplaces_select : Unplaces Statement.unplaced select select := by
  refine unplaces_bind (unplaces_keyword _) fun _ => ?_
  refine unplaces_bind (unplaces_separated unplaces_expression) fun _ => ?_
  refine unplaces_bind (unplaces_keyword _) fun _ => ?_
  exact unplaces_map (unplaces_identifier _) fun _ => rfl

theorem unplaces_insert : Unplaces Statement.unplaced insert insert := by
  refine unplaces_bind (unplaces_keyword _) fun _ => ?_
  refine unplaces_bind (unplaces_keyword _) fun _ => ?_
  refine unplaces_bind (unplaces_identifier _) fun _ => ?_
  refine unplaces_bind (unplaces_keyword _) fun _ => ?_
  refine unplaces_bind (unplaces_symbol _) fun _ => ?_
  refine unplaces_bind (unplaces_separated unplaces_expression) fun _ => ?_
  exact unplaces_map (unplaces_symbol _) fun _ => rfl

theorem unplaces_createTable : Unplaces Statement.unplaced createTable createTable := by
  refine unplaces_bind (unplaces_keyword _) fun _ => ?_
  refine unplaces_bind (unplaces_keyword _) fun _ => ?_
  refine unplaces_bind (unplaces_identifier _) fun _ => ?_
  refine unplaces_bind (unplaces_symbol _) fun _ => ?_
  refine unplaces_bind (unplaces_separated unplaces_columnDeclaration) fun _ => ?_
  exact unplaces_map (unplaces_symbol _) fun _ => rfl

theorem unplaces_statement : Unplaces Statement.unplaced statement statement := by
  refine unplaces_firstOf fun alternative hmem => ?_
  simp only [statements, List.mem_cons, List.not_mem_nil, or_false] at hmem
  rcases hmem with rfl | rfl | rfl
  · exact unplaces_select
  · exact unplaces_insert
  · exact unplaces_createTable

theorem dropWhile_unplaced (rest : List Token) :
    (rest.map Token.unplaced).dropWhile isSemicolon =
      (rest.dropWhile isSemicolon).map Token.unplaced := by
  rw [List.dropWhile_map]
  rfl

theorem unplaces_semicolons : Unplaces id semicolons semicolons := by
  intro tokens
  by_cases hstops : Stops isSemicolon tokens
  · rw [run_semicolons_of_stops hstops,
      run_semicolons_of_stops (stops_unplaced (fun _ => rfl) hstops)]
    rfl
  · cases tokens with
    | nil => exact absurd (stops_nil _) hstops
    | cons token rest =>
      have htoken : isSemicolon token = true := by simpa [stops_cons_iff] using hstops
      have hplain : isSemicolon token.unplaced = true := htoken
      rw [List.map_cons, run_semicolons_of_semicolon htoken, run_semicolons_of_semicolon hplain,
        dropWhile_unplaced]
      rfl

theorem unplaces_terminated :
    Unplaces Statement.unplaced (terminated statement) (terminated statement) :=
  unplaces_bind unplaces_statement fun _ => unplaces_map unplaces_semicolons fun _ => rfl

/-- **Scripts are read without regard to places.** -/
theorem parse_unplaced (tokens : List Token) :
    parse (tokens.map Token.unplaced) =
      match parse tokens with
      | .error error => .error error.unplaced
      | .ok statements => .ok (statements.map Statement.unplaced) := by
  show ((terminated statement).runToEnd (tokens.map Token.unplaced)).mapError
      (ParseError.ofFailure (tokens.map Token.unplaced)) =
    match ((terminated statement).runToEnd tokens).mapError (ParseError.ofFailure tokens) with
    | .error error => .error error.unplaced
    | .ok statements => .ok (statements.map Statement.unplaced)
  rw [runToEnd_unplaced unplaces_terminated]
  cases (terminated statement).runToEnd tokens with
  | error failure => exact congrArg Except.error (ParseError.ofFailure_unplaced tokens failure)
  | ok statements => rfl

end Grammar
end ColumnarSql
