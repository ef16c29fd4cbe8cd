import ColumnarSql.Grammar.Expectation

/-!
# Productions

A production reads something from the front of a list of tokens: it gives what it read
with the tokens that are left, or it fails and tells where.  A production that succeeds
has read at least one token; the promise comes with the production, and it is why a
list of things or a whole script is read in finitely many steps.

A failure leaves the tokens as they were, so another production can be tried on them.
`firstOf` tries several, and if all fail it reports the failure that got furthest; if
none got past the first token it reports an expectation of its own, which no single
alternative could give.
-/

namespace ColumnarSql

variable {α β : Type}

/-- A reader of tokens that reads at least one. -/
structure Production (α : Type) where
  run : List Token → Except Failure (α × List Token)
  /-- Success leaves fewer tokens. -/
  shorter : ∀ {tokens rest : List Token} {a : α},
    run tokens = .ok (a, rest) → rest.length < tokens.length

namespace Production

/-! ## A single token -/

/-- Reads a token of some class, or fails with the given expectation. -/
def runToken (expected : Expectation) (accepts : Token → Bool) :
    List Token → Except Failure (Token × List Token)
  | [] => .error ⟨expected, []⟩
  | token :: rest => if accepts token then .ok (token, rest) else .error ⟨expected, token :: rest⟩

/-- One token of some class. -/
def token (expected : Expectation) (accepts : Token → Bool) : Production Token where
  run := runToken expected accepts
  shorter {tokens rest a} h := by
    cases tokens with
    | nil => simp [runToken] at h
    | cons first others =>
      simp only [runToken] at h
      split at h
      · obtain ⟨-, rfl⟩ := Prod.mk.inj (Except.ok.inj h)
        simp
      · simp at h

/-! ## One thing after another -/

/-- Reads with a production and goes on with the result. -/
def runBind (production : Production α) (next : α → Production β) (tokens : List Token) :
    Except Failure (β × List Token) :=
  match production.run tokens with
  | .error failure => .error failure
  | .ok (a, rest) => (next a).run rest

/-- One production and then another, which may depend on what the first one read. -/
def bind (production : Production α) (next : α → Production β) : Production β where
  run := runBind production next
  shorter {tokens rest a} h := by
    unfold runBind at h
    split at h
    · simp at h
    · next first between hfirst =>
      have := production.shorter hfirst
      have := (next first).shorter h
      omega

/-- The same production with another result. -/
def map (f : α → β) (production : Production α) : Production β where
  run tokens := (production.run tokens).map fun (a, rest) => (f a, rest)
  shorter {tokens rest a} h := by
    cases hrun : production.run tokens with
    | error failure => simp [hrun, Except.map] at h
    | ok result =>
      obtain ⟨first, left⟩ := result
      simp only [hrun, Except.map, Except.ok.injEq, Prod.mk.injEq] at h
      rw [← h.2]
      exact production.shorter hrun

/-! ## Lists -/

/-- Reads one or more things with commas between them. -/
def runSeparated (item : Production α) (tokens : List Token) :
    Except Failure (List α × List Token) :=
  match _read : item.run tokens with
  | .error failure => .error failure
  | .ok (a, []) => .ok ([a], [])
  | .ok (a, next :: rest) =>
    if next.isSymbol .comma then
      (runSeparated item rest).map fun (others, after) => (a :: others, after)
    else
      .ok ([a], next :: rest)
termination_by tokens.length
decreasing_by
  have := item.shorter _read
  simp only [List.length_cons] at this
  omega

theorem length_lt_of_runSeparated {item : Production α} {tokens rest : List Token}
    {items : List α} (h : runSeparated item tokens = .ok (items, rest)) :
    rest.length < tokens.length := by
  fun_induction runSeparated item tokens generalizing items rest with
  | case1 => simp at h
  | case2 tokens a hrun =>
    obtain ⟨-, rfl⟩ := Prod.mk.inj (Except.ok.inj h)
    exact item.shorter hrun
  | case3 tokens a next others hrun hcomma ih =>
    have hitem := item.shorter hrun
    cases htail : runSeparated item others with
    | error failure => simp [htail, Except.map] at h
    | ok result =>
      obtain ⟨others', left⟩ := result
      simp only [htail, Except.map, Except.ok.injEq, Prod.mk.injEq] at h
      have hothers := ih htail
      rw [h.2] at hothers
      simp only [List.length_cons] at hitem
      omega
  | case4 tokens a next others hrun hcomma =>
    obtain ⟨-, rfl⟩ := Prod.mk.inj (Except.ok.inj h)
    exact item.shorter hrun

/-- One or more things with commas between them. -/
def separated (item : Production α) : Production (List α) where
  run := runSeparated item
  shorter := length_lt_of_runSeparated

/-- Reads one thing after another until no token is left. -/
def runToEnd (item : Production α) (tokens : List Token) : Except Failure (List α) :=
  match _read : item.run tokens with
  | .error failure => .error failure
  | .ok (a, []) => .ok [a]
  | .ok (a, next :: rest) => (runToEnd item (next :: rest)).map (a :: ·)
termination_by tokens.length
decreasing_by exact item.shorter _read

/-! ## Alternatives -/

/-- Tries productions in turn on the same tokens.  If all fail, the failure that got
furthest is reported, `failure` among them. -/
def runFirstOf (failure : Failure) (alternatives : List (Production α))
    (tokens : List Token) : Except Failure (α × List Token) :=
  match alternatives with
  | [] => .error failure
  | alternative :: others =>
    match alternative.run tokens with
    | .ok result => .ok result
    | .error failure' => runFirstOf (failure.furthest failure') others tokens

/-- The first production that succeeds.  If none gets past the first token, the failure
has the given expectation. -/
def firstOf (expected : Expectation) (alternatives : List (Production α)) :
    Production α where
  run tokens := runFirstOf ⟨expected, tokens⟩ alternatives tokens
  shorter {tokens rest a} h := by
    generalize (⟨expected, tokens⟩ : Failure) = failure at h
    induction alternatives generalizing failure with
    | nil => simp [runFirstOf] at h
    | cons alternative others ih =>
      simp only [runFirstOf] at h
      split at h
      · next hrun =>
        rw [Except.ok.inj h] at hrun
        exact alternative.shorter hrun
      · exact ih _ h

end Production

end ColumnarSql
