import ColumnarSql.Grammar.Production
import ColumnarSql.Proofs.Token
import Mathlib.Data.List.Basic

/-!
# Productions that look one token ahead

The productions of the language never have to take back what they read.  A single token
decides how each of them goes on, and `Production.Predictive` says what that amounts to:

* what a production reads is a block at the front, and the block is read in the same way
  before anything that does not begin with a token the production would go on with;
* where it fails, what it has read before cannot be the wrong thing: no tokens behind the
  wrong one would help, while every token that was expected there can be completed.

The set of tokens a production would go on with is the parameter `further`: commas for a
list, semicolons for the end of a statement, and none for everything that knows its own
end.  `Stops` says that tokens do not begin with one of them, and `Avoids` that nothing a
production reads does.

Each way to make productions keeps the property (`predictive_token`, `predictive_bind`,
`predictive_map`, `predictive_separated`).  The proofs never look inside a production; they
follow the way it is made.

## What an expectation admits

`Expectation.admits` is the class of tokens that an expectation names.  The expectation of
a statement admits the first words of the three statements, because a failure reports it
only where none of them stands.  A message gives the wording of the expectation only, and
that is enough to know the class (`Expectation.display_injective`).
-/

namespace ColumnarSql

namespace Expectation

/-- Whether a token is of the class that an expectation names. -/
def admits : Expectation → Token → Bool
  | keyword word, token => token.isKeyword word
  | symbol mark, token => token.isSymbol mark
  | statement, token =>
    token.isKeyword .SELECT || token.isKeyword .INSERT || token.isKeyword .CREATE
  | semicolon, token => token.isSymbol .semicolon
  | tableName, token => token.kind = .identifier
  | columnName, token => token.kind = .identifier
  | dataType, token => token.kind = .keyword
  | expression, token =>
    token.kind = .number || token.kind = .string || token.kind = .identifier

/-- Every expectation admits a token. -/
theorem exists_admits (expected : Expectation) : ∃ token, expected.admits token = true := by
  cases expected with
  | keyword word => exact ⟨⟨.keyword, word.spelling, .start⟩, Token.isKeyword_iff.2 ⟨rfl, rfl⟩⟩
  | symbol mark => exact ⟨⟨.symbol, mark.spelling, .start⟩, Token.isSymbol_iff.2 ⟨rfl, rfl⟩⟩
  | statement => exact ⟨⟨.keyword, "select", .start⟩, rfl⟩
  | semicolon => exact ⟨⟨.symbol, ";", .start⟩, rfl⟩
  | tableName => exact ⟨⟨.identifier, "", .start⟩, rfl⟩
  | columnName => exact ⟨⟨.identifier, "", .start⟩, rfl⟩
  | dataType => exact ⟨⟨.keyword, "", .start⟩, rfl⟩
  | expression => exact ⟨⟨.number, "", .start⟩, rfl⟩

/-- All expectations. -/
def all : List Expectation :=
  Keyword.all.map keyword ++ Symbol.all.map symbol ++
    [statement, semicolon, tableName, columnName, dataType, expression]

theorem mem_all (expected : Expectation) : expected ∈ all := by
  cases expected with
  | keyword word => simp [all, Keyword.mem_all]
  | symbol mark => simp [all, Symbol.mem_all]
  | _ => simp [all]

/-- The wording of an expectation says which one it is. -/
theorem display_injective {first second : Expectation} (h : first.display = second.display) :
    first = second := by
  have hall : ∀ first ∈ all, ∀ second ∈ all, first.display = second.display →
      first = second := by
    decide +kernel
  exact hall first (mem_all first) second (mem_all second) h

end Expectation

namespace Production

variable {α β : Type}

/-! ## Tokens that a production would go on with -/

/-- Tokens do not begin with one that would be read as well. -/
def Stops (further : Token → Bool) (rest : List Token) : Prop :=
  ∀ token ∈ rest.head?, further token = false

/-- The class of no token. -/
def never : Token → Bool := fun _ => false

theorem stops_never (rest : List Token) : Stops never rest := fun _ _ => rfl

theorem stops_nil (further : Token → Bool) : Stops further [] := by
  intro token htoken
  simp at htoken

theorem stops_cons_iff {further : Token → Bool} {token : Token} {rest : List Token} :
    Stops further (token :: rest) ↔ further token = false := by
  simp [Stops]

/-- Whether tokens stop is decided by the first of them. -/
theorem stops_append_cons {further : Token → Bool} {block : List Token} {token : Token}
    {rest : List Token} (h : Stops further (block ++ token :: rest)) (rest' : List Token) :
    Stops further (block ++ token :: rest') := by
  cases block <;> simpa [Stops] using h

/-- Nothing that a production reads begins with a token of a class. -/
def Avoids (production : Production α) (further : Token → Bool) : Prop :=
  ∀ ⦃tokens : List Token⦄ ⦃result : α × List Token⦄,
    production.run tokens = .ok result → Stops further tokens

theorem avoids_never (production : Production α) : production.Avoids never :=
  fun tokens _ _ => stops_never tokens

/-! ## The property -/

/-- **Prediction.**  A production that is decided by one token at a time, and goes on with
the tokens of the class `further`. -/
structure Predictive (production : Production α) (further : Token → Bool) : Prop where
  /-- What is read is a block that reading does not stop inside, and it is read in the
  same way whatever follows, as long as that is nothing to go on with. -/
  reads : ∀ {tokens rest : List Token} {a : α}, production.run tokens = .ok (a, rest) →
    ∃ block, block ++ rest = tokens ∧ Stops further rest ∧
      ∀ rest', Stops further rest' → production.run (block ++ rest') = .ok (a, rest')
  /-- Before a failure stands a block to which the wrong token cannot be added, and every
  expected token can. -/
  fails : ∀ {tokens : List Token} {failure : Failure},
    production.run tokens = .error failure →
      ∃ block, block ++ failure.rest = tokens ∧
        (∀ token ∈ failure.rest.head?, ∀ rest result,
          production.run (block ++ token :: rest) ≠ .ok result) ∧
        ∀ token, failure.expected.admits token = true →
          ∃ rest a, production.run (block ++ token :: rest) = .ok (a, [])

/-- A failure leaves no more tokens than there were. -/
theorem Predictive.length_rest_le {production : Production α} {further : Token → Bool}
    (h : production.Predictive further) {tokens : List Token} {failure : Failure}
    (hrun : production.run tokens = .error failure) :
    failure.rest.length ≤ tokens.length := by
  obtain ⟨block, hblock, -, -⟩ := h.fails hrun
  rw [← hblock, List.length_append]
  omega

/-- Every token that the failure on no tokens expects begins something that is read to the
end. -/
theorem Predictive.exists_run {production : Production α} {further : Token → Bool}
    (h : production.Predictive further) : ∃ tokens a, production.run tokens = .ok (a, []) := by
  cases hrun : production.run [] with
  | ok result => exact absurd (production.shorter hrun) (by simp)
  | error failure =>
    obtain ⟨block, hblock, -, hexpected⟩ := h.fails hrun
    obtain ⟨token, htoken⟩ := failure.expected.exists_admits
    obtain ⟨rest, a, hread⟩ := hexpected token htoken
    exact ⟨block ++ token :: rest, a, hread⟩

/-! ## A single token -/

@[simp] theorem run_token_nil (expected : Expectation) (accepts : Token → Bool) :
    (token expected accepts).run [] = .error ⟨expected, []⟩ := rfl

theorem run_token_cons (expected : Expectation) (accepts : Token → Bool) (first : Token)
    (rest : List Token) :
    (token expected accepts).run (first :: rest) =
      if accepts first then .ok (first, rest) else .error ⟨expected, first :: rest⟩ := rfl

theorem run_token_eq_ok_iff {expected : Expectation} {accepts : Token → Bool} {first : Token}
    {tokens rest : List Token} :
    (token expected accepts).run tokens = .ok (first, rest) ↔
      accepts first = true ∧ first :: rest = tokens := by
  cases tokens with
  | nil => simp
  | cons other others =>
    rw [run_token_cons]
    by_cases h : accepts other = true
    · rw [if_pos h, Except.ok.injEq, Prod.mk.injEq, List.cons.injEq]
      constructor
      · rintro ⟨rfl, rfl⟩
        exact ⟨h, rfl, rfl⟩
      · rintro ⟨-, rfl, rfl⟩
        exact ⟨rfl, rfl⟩
    · rw [if_neg h]
      constructor
      · intro heq
        simp at heq
      · rintro ⟨hfirst, heq⟩
        rw [(List.cons.inj heq).1] at hfirst
        exact absurd hfirst h

theorem run_token_eq_error_iff {expected : Expectation} {accepts : Token → Bool}
    {tokens : List Token} {failure : Failure} :
    (token expected accepts).run tokens = .error failure ↔
      failure = ⟨expected, tokens⟩ ∧ Stops accepts tokens := by
  cases tokens with
  | nil => simp [stops_nil, eq_comm]
  | cons other others =>
    rw [run_token_cons, stops_cons_iff]
    cases h : accepts other <;> simp [eq_comm]

/-- A production of one token is predictive, if its expectation says what it accepts. -/
theorem predictive_token {expected : Expectation} {accepts : Token → Bool}
    (h : ∀ token, expected.admits token = accepts token) :
    (token expected accepts).Predictive never where
  reads {tokens rest first} hrun := by
    obtain ⟨hfirst, rfl⟩ := run_token_eq_ok_iff.1 hrun
    refine ⟨[first], rfl, stops_never rest, fun rest' _ => ?_⟩
    exact run_token_eq_ok_iff.2 ⟨hfirst, rfl⟩
  fails {tokens failure} hrun := by
    obtain ⟨rfl, hstops⟩ := run_token_eq_error_iff.1 hrun
    refine ⟨[], rfl, fun wrong hwrong rest result hread => ?_, fun first hfirst => ?_⟩
    · obtain ⟨htaken, heq⟩ := run_token_eq_ok_iff.1 hread
      have hhead : result.1 = wrong := (List.cons.inj heq).1
      rw [hhead, hstops wrong hwrong] at htaken
      exact absurd htaken (by simp)
    · refine ⟨[], first, run_token_eq_ok_iff.2 ⟨?_, rfl⟩⟩
      rw [← h]
      exact hfirst

/-- A production of one token avoids what it does not accept. -/
theorem avoids_token {expected : Expectation} {accepts further : Token → Bool}
    (h : ∀ token, accepts token = true → further token = false) :
    (token expected accepts).Avoids further := by
  intro tokens result hrun
  obtain ⟨htoken, rfl⟩ := run_token_eq_ok_iff.1 hrun
  rw [stops_cons_iff]
  exact h _ htoken

/-! ## One thing after another -/

theorem run_bind (production : Production α) (next : α → Production β) (tokens : List Token) :
    (production.bind next).run tokens =
      match production.run tokens with
      | .error failure => .error failure
      | .ok (a, rest) => (next a).run rest := rfl

theorem run_bind_of_ok {production : Production α} {next : α → Production β}
    {tokens rest : List Token} {a : α} (h : production.run tokens = .ok (a, rest)) :
    (production.bind next).run tokens = (next a).run rest := by
  rw [run_bind, h]

theorem run_bind_of_error {production : Production α} {next : α → Production β}
    {tokens : List Token} {failure : Failure} (h : production.run tokens = .error failure) :
    (production.bind next).run tokens = .error failure := by
  rw [run_bind, h]

theorem run_bind_eq_ok_iff {production : Production α} {next : α → Production β}
    {tokens rest : List Token} {b : β} :
    (production.bind next).run tokens = .ok (b, rest) ↔
      ∃ a between, production.run tokens = .ok (a, between) ∧
        (next a).run between = .ok (b, rest) := by
  rw [run_bind]
  cases production.run tokens with
  | error failure => simp
  | ok result =>
    obtain ⟨a, between⟩ := result
    constructor
    · intro h
      exact ⟨a, between, rfl, h⟩
    · rintro ⟨a', between', heq, h⟩
      obtain ⟨rfl, rfl⟩ := Prod.mk.inj (Except.ok.inj heq)
      exact h

theorem avoids_bind {production : Production α} {next : α → Production β}
    {further : Token → Bool} (h : production.Avoids further) :
    (production.bind next).Avoids further := by
  intro tokens result hrun
  obtain ⟨a, between, hread, -⟩ := run_bind_eq_ok_iff.1 hrun
  exact h hread

/-- **One production after another.**  If nothing that the second one reads begins with a
token that the first would go on with, both together are predictive. -/
theorem predictive_bind {production : Production α} {next : α → Production β}
    {further further' : Token → Bool} (hfirst : production.Predictive further)
    (hnext : ∀ a, (next a).Predictive further')
    (hstart : ∀ a, (next a).Avoids further) :
    (production.bind next).Predictive further' where
  reads {tokens rest b} hrun := by
    obtain ⟨a, between, hread, hthen⟩ := run_bind_eq_ok_iff.1 hrun
    obtain ⟨block, rfl, -, hsame⟩ := hfirst.reads hread
    obtain ⟨block', rfl, hstops, hsame'⟩ := (hnext a).reads hthen
    refine ⟨block ++ block', List.append_assoc _ _ _, hstops, fun rest' hrest' => ?_⟩
    have hthen' := hsame' rest' hrest'
    rw [List.append_assoc, run_bind_of_ok (hsame _ (hstart a hthen'))]
    exact hthen'
  fails {tokens failure} hrun := by
    cases hread : production.run tokens with
    | error failure' =>
      rw [run_bind_of_error hread] at hrun
      obtain rfl := Except.error.inj hrun
      obtain ⟨block, hblock, hwrong, hexpected⟩ := hfirst.fails hread
      refine ⟨block, hblock, fun token htoken rest result hthen => ?_, fun token htoken => ?_⟩
      · obtain ⟨a, between, hread', -⟩ := run_bind_eq_ok_iff.1 hthen
        exact hwrong token htoken rest _ hread'
      · obtain ⟨rest, a, hread'⟩ := hexpected token htoken
        obtain ⟨tokens', b, hthen⟩ := (hnext a).exists_run
        obtain ⟨block', hblock', -, hsame⟩ := hfirst.reads hread'
        rw [List.append_nil] at hblock'
        refine ⟨rest ++ tokens', b, ?_⟩
        rw [← List.cons_append, ← List.append_assoc, ← hblock',
          run_bind_of_ok (hsame tokens' (hstart a hthen))]
        exact hthen
    | ok result =>
      obtain ⟨a, between⟩ := result
      rw [run_bind_of_ok hread] at hrun
      obtain ⟨block, rfl, hstops, hsame⟩ := hfirst.reads hread
      obtain ⟨block', rfl, hwrong, hexpected⟩ := (hnext a).fails hrun
      refine ⟨block ++ block', List.append_assoc _ _ _, fun token htoken rest result hthen => ?_,
        fun token htoken => ?_⟩
      · obtain ⟨others, hothers⟩ : ∃ others, failure.rest = token :: others :=
          List.head?_eq_some_iff.1 htoken
        rw [hothers] at hstops
        rw [List.append_assoc, run_bind_of_ok (hsame _ (stops_append_cons hstops rest))] at hthen
        exact hwrong token htoken rest result hthen
      · obtain ⟨rest, b, hthen⟩ := hexpected token htoken
        refine ⟨rest, b, ?_⟩
        rw [List.append_assoc, run_bind_of_ok (hsame _ (hstart a hthen))]
        exact hthen

theorem run_map_eq_ok_iff {f : α → β} {production : Production α} {tokens rest : List Token}
    {b : β} :
    (production.map f).run tokens = .ok (b, rest) ↔
      ∃ a, production.run tokens = .ok (a, rest) ∧ f a = b := by
  cases hrun : production.run tokens with
  | error failure => simp [map, hrun, Except.map]
  | ok result =>
    obtain ⟨a, left⟩ := result
    simp only [map, hrun, Except.map, Except.ok.injEq, Prod.mk.injEq]
    constructor
    · rintro ⟨rfl, rfl⟩
      exact ⟨a, ⟨rfl, rfl⟩, rfl⟩
    · rintro ⟨a', ⟨rfl, rfl⟩, rfl⟩
      exact ⟨rfl, rfl⟩

theorem run_map_eq_error_iff {f : α → β} {production : Production α} {tokens : List Token}
    {failure : Failure} :
    (production.map f).run tokens = .error failure ↔ production.run tokens = .error failure := by
  cases hrun : production.run tokens <;> simp [map, hrun, Except.map]

theorem avoids_map {f : α → β} {production : Production α} {further : Token → Bool}
    (h : production.Avoids further) : (production.map f).Avoids further := by
  intro tokens result hrun
  obtain ⟨a, hread, -⟩ := run_map_eq_ok_iff.1 hrun
  exact h hread

/-- Another result changes nothing about what is read. -/
theorem predictive_map {f : α → β} {production : Production α} {further : Token → Bool}
    (h : production.Predictive further) : (production.map f).Predictive further where
  reads {tokens rest b} hrun := by
    obtain ⟨a, hread, rfl⟩ := run_map_eq_ok_iff.1 hrun
    obtain ⟨block, hblock, hstops, hsame⟩ := h.reads hread
    exact ⟨block, hblock, hstops, fun rest' hrest' =>
      run_map_eq_ok_iff.2 ⟨a, hsame rest' hrest', rfl⟩⟩
  fails {tokens failure} hrun := by
    obtain ⟨block, hblock, hwrong, hexpected⟩ := h.fails (run_map_eq_error_iff.1 hrun)
    refine ⟨block, hblock, fun token htoken rest result hread => ?_, fun token htoken => ?_⟩
    · obtain ⟨a, hread', -⟩ := run_map_eq_ok_iff.1 hread
      exact hwrong token htoken rest _ hread'
    · obtain ⟨rest, a, hread⟩ := hexpected token htoken
      exact ⟨rest, f a, run_map_eq_ok_iff.2 ⟨a, hread, rfl⟩⟩

/-! ## Lists -/

theorem run_separated_of_error {item : Production α} {tokens : List Token} {failure : Failure}
    (h : item.run tokens = .error failure) : item.separated.run tokens = .error failure := by
  show runSeparated item tokens = _
  rw [runSeparated]
  split <;> simp_all

theorem run_separated_of_stops {item : Production α} {tokens rest : List Token} {a : α}
    (h : item.run tokens = .ok (a, rest)) (hrest : Stops isComma rest) :
    item.separated.run tokens = .ok ([a], rest) := by
  show runSeparated item tokens = _
  rw [runSeparated]
  split
  · simp_all
  · simp_all
  · next a' next others h' =>
    obtain ⟨rfl, rfl⟩ := Prod.mk.inj (Except.ok.inj (h.symm.trans h'))
    have hnext : next.isSymbol .comma = false := stops_cons_iff.1 hrest
    rw [hnext]
    rfl

theorem run_separated_of_comma {item : Production α} {tokens rest : List Token} {a : α}
    {comma : Token} (h : item.run tokens = .ok (a, comma :: rest))
    (hcomma : isComma comma = true) :
    item.separated.run tokens =
      (item.separated.run rest).map fun (others, after) => (a :: others, after) := by
  show runSeparated item tokens = (runSeparated item rest).map _
  rw [runSeparated]
  split
  · simp_all
  · simp_all
  · next a' next others h' =>
    obtain ⟨rfl, heq⟩ := Prod.mk.inj (Except.ok.inj (h.symm.trans h'))
    obtain ⟨rfl, rfl⟩ := List.cons.inj heq
    exact if_pos hcomma

/-- What one reading of a list does: the first item fails, or the list ends behind it, or
the list goes on behind a comma. -/
theorem run_separated_cases (item : Production α) (tokens : List Token) :
    (∃ failure, item.run tokens = .error failure ∧
        item.separated.run tokens = .error failure) ∨
      (∃ a rest, item.run tokens = .ok (a, rest) ∧ Stops isComma rest ∧
        item.separated.run tokens = .ok ([a], rest)) ∨
      ∃ a comma rest, item.run tokens = .ok (a, comma :: rest) ∧ isComma comma = true ∧
        item.separated.run tokens =
          (item.separated.run rest).map fun (others, after) => (a :: others, after) := by
  cases h : item.run tokens with
  | error failure => exact .inl ⟨failure, rfl, run_separated_of_error h⟩
  | ok result =>
    obtain ⟨a, rest⟩ := result
    cases rest with
    | nil => exact .inr (.inl ⟨a, [], rfl, stops_nil _, run_separated_of_stops h (stops_nil _)⟩)
    | cons next rest =>
      cases hnext : isComma next with
      | false =>
        exact .inr (.inl ⟨a, next :: rest, rfl, stops_cons_iff.2 hnext,
          run_separated_of_stops h (stops_cons_iff.2 hnext)⟩)
      | true => exact .inr (.inr ⟨a, next, rest, rfl, hnext, run_separated_of_comma h hnext⟩)

/-- What a list reads, item by item. -/
theorem reads_separated {item : Production α} (h : item.Predictive never)
    {tokens rest : List Token} {items : List α}
    (hrun : item.separated.run tokens = .ok (items, rest)) :
    ∃ block, block ++ rest = tokens ∧ Stops isComma rest ∧
      ∀ rest', Stops isComma rest' → item.separated.run (block ++ rest') = .ok (items, rest') := by
  induction hlength : tokens.length using Nat.strongRecOn
    generalizing tokens items rest with
  | ind length ih =>
    rcases run_separated_cases item tokens with ⟨failure, -, herror⟩ |
      ⟨a, left, hread, hstops, hok⟩ | ⟨a, comma, left, hread, hcomma, hok⟩
    · rw [herror] at hrun
      simp at hrun
    · rw [hok] at hrun
      obtain ⟨rfl, rfl⟩ := Prod.mk.inj (Except.ok.inj hrun)
      obtain ⟨block, hblock, -, hsame⟩ := h.reads hread
      exact ⟨block, hblock, hstops, fun rest' hrest' =>
        run_separated_of_stops (hsame rest' (stops_never rest')) hrest'⟩
    · rw [hok] at hrun
      cases hothers : item.separated.run left with
      | error failure => simp [hothers, Except.map] at hrun
      | ok result =>
        obtain ⟨others, after⟩ := result
        simp only [hothers, Except.map, Except.ok.injEq, Prod.mk.injEq] at hrun
        obtain ⟨rfl, rfl⟩ := hrun
        have hshorter := item.shorter hread
        rw [List.length_cons] at hshorter
        obtain ⟨block', rfl, hstops, hsame'⟩ := ih left.length (by omega) hothers rfl
        obtain ⟨block, rfl, -, hsame⟩ := h.reads hread
        refine ⟨block ++ comma :: block', by simp, hstops, fun rest' hrest' => ?_⟩
        rw [List.append_assoc, List.cons_append,
          run_separated_of_comma (hsame _ (stops_never _)) hcomma, hsame' rest' hrest']
        rfl

/-- Where a list fails, one of its items does. -/
theorem fails_separated {item : Production α} (h : item.Predictive never)
    {tokens : List Token} {failure : Failure}
    (hrun : item.separated.run tokens = .error failure) :
    ∃ block, block ++ failure.rest = tokens ∧
      (∀ token ∈ failure.rest.head?, ∀ rest result,
        item.separated.run (block ++ token :: rest) ≠ .ok result) ∧
      ∀ token, failure.expected.admits token = true →
        ∃ rest items, item.separated.run (block ++ token :: rest) = .ok (items, []) := by
  induction hlength : tokens.length using Nat.strongRecOn generalizing tokens with
  | ind length ih =>
    rcases run_separated_cases item tokens with ⟨failure', hread, herror⟩ |
      ⟨a, left, -, -, hok⟩ | ⟨a, comma, left, hread, hcomma, hok⟩
    · rw [herror] at hrun
      obtain rfl := Except.error.inj hrun
      obtain ⟨block, hblock, hwrong, hexpected⟩ := h.fails hread
      refine ⟨block, hblock, fun token htoken rest result hread' => ?_, fun token htoken => ?_⟩
      · rcases run_separated_cases item (block ++ token :: rest) with ⟨_, -, herror'⟩ |
          ⟨a, left, hitem, -, -⟩ | ⟨a, comma, left, hitem, -, -⟩
        · rw [herror'] at hread'
          simp at hread'
        · exact hwrong token htoken rest _ hitem
        · exact hwrong token htoken rest _ hitem
      · obtain ⟨rest, a, hitem⟩ := hexpected token htoken
        exact ⟨rest, [a], run_separated_of_stops hitem (stops_nil _)⟩
    · rw [hok] at hrun
      simp at hrun
    · rw [hok] at hrun
      cases hothers : item.separated.run left with
      | ok result => simp [hothers, Except.map] at hrun
      | error failure' =>
        simp only [hothers, Except.map, Except.error.injEq] at hrun
        subst hrun
        have hshorter := item.shorter hread
        rw [List.length_cons] at hshorter
        obtain ⟨block', hblock', hwrong, hexpected⟩ := ih left.length (by omega) hothers rfl
        obtain ⟨block, rfl, -, hsame⟩ := h.reads hread
        have hgoes : ∀ rest', item.separated.run ((block ++ comma :: block') ++ rest') =
            (item.separated.run (block' ++ rest')).map
              fun (others, after) => (a :: others, after) := by
          intro rest'
          rw [List.append_assoc, List.cons_append]
          exact run_separated_of_comma (hsame _ (stops_never _)) hcomma
        refine ⟨block ++ comma :: block', by simp [hblock'],
          fun token htoken rest result hread' => ?_, fun token htoken => ?_⟩
        · rw [hgoes] at hread'
          cases hrest : item.separated.run (block' ++ token :: rest) with
          | error _ => simp [hrest, Except.map] at hread'
          | ok result' => exact hwrong token htoken rest result' hrest
        · obtain ⟨rest, others, hrest⟩ := hexpected token htoken
          refine ⟨rest, a :: others, ?_⟩
          rw [hgoes, hrest]
          rfl

/-- **Lists.**  If an item knows its own end, a list goes on with commas and nothing
else. -/
theorem predictive_separated {item : Production α} (h : item.Predictive never) :
    item.separated.Predictive isComma where
  reads := reads_separated h
  fails := fails_separated h

end Production
end ColumnarSql
