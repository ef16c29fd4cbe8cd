import ColumnarSql.Proofs.Grammar.Script

/-!
# Walks along tokens

A production reads from the front of a list and hands on the tokens that are left.  A reader may as
well keep all tokens and hand on a place among them.  `Walk` is such a reader.  It looks at the
token at a place and moves on, and it repeats itself with loops: nothing in it says that a loop
ends, so each loop is given a number of rounds, and a walk that does not end within them has no
outcome.

`Walk.FollowsFrom` compares a walk with a production.  A walk that follows a production has an
outcome wherever it begins, if the rounds are as many as the tokens, and the outcome is that of the
production: the place that is handed on is where the tokens begin that are left, and the place of a
failure is where those begin that the failure names.  Neither lies before the beginning of the walk
nor behind the end of the tokens.  Each way to make productions has its way to make walks:

* `Walk.followsFrom_one`, `Walk.followsFrom_bind`, `Walk.followsFrom_map`: a token, and one thing
  after another;
* `Walk.followsFrom_list`: items with commas between them, by a loop that is entered while a comma
  stands at the place;
* `Walk.followsFrom_enclosed`: the same up to a closing token, by a loop that is left from its
  middle.  It takes a comma before it knows whether an item follows;
* `Walk.followsFrom_firstOf`: alternatives, with the failure that got furthest;
* `Walk.followsFrom_semicolons`, `Walk.agrees_toEndLoop`: semicolons, and one thing after another up
  to the end.

That the rounds are enough is the same argument in each of the loops.  A production that succeeds
leaves fewer tokens than it has found, and so every round begins further to the right.
-/

namespace ColumnarSql

variable {α β : Type}

namespace Production

/-! ## Productions, one step at a time -/

/-- Goes on with the tokens that are left. -/
def goOn (result : Except Failure (α × List Token))
    (next : α → List Token → Except Failure (β × List Token)) : Except Failure (β × List Token) :=
  match result with
  | .error failure => .error failure
  | .ok (a, rest) => next a rest

theorem goOn_goOn {γ : Type} (result : Except Failure (α × List Token))
    (next : α → List Token → Except Failure (β × List Token))
    (next' : β → List Token → Except Failure (γ × List Token)) :
    goOn (goOn result next) next' = goOn result fun a rest => goOn (next a rest) next' := by
  cases result <;> rfl

theorem run_bind_eq (production : Production α) (next : α → Production β) (tokens : List Token) :
    (production.bind next).run tokens =
      goOn (production.run tokens) fun a rest => (next a).run rest :=
  rfl

theorem run_map_eq (f : α → β) (production : Production α) (tokens : List Token) :
    (production.map f).run tokens =
      goOn (production.run tokens) fun a rest => .ok (f a, rest) := by
  cases hrun : production.run tokens <;> simp [map, goOn, hrun, Except.map]

theorem stops_iff {accepts : Token → Bool} {rest : List Token} :
    Stops accepts rest ↔ rest.head?.any accepts = false := by
  cases rest with
  | nil => simp [stops_nil]
  | cons token rest => exact stops_cons_iff

/-- What a list does behind an item: it goes on behind a comma, and otherwise it ends. -/
def behindItem (item : Production α) (read : List α) (rest : List Token) :
    Except Failure (List α × List Token) :=
  if rest.head?.any isComma then
    goOn (item.separated.run rest.tail) fun others after => .ok (read ++ others, after)
  else
    .ok (read, rest)

theorem run_separated_eq (item : Production α) (tokens : List Token) :
    item.separated.run tokens =
      goOn (item.run tokens) fun a rest => behindItem item [a] rest := by
  rcases run_separated_cases item tokens with ⟨failure, hread, hlist⟩ |
    ⟨a, rest, hread, hstops, hlist⟩ | ⟨a, comma, rest, hread, hcomma, hlist⟩
  · rw [hlist, hread]
    rfl
  · have hends : behindItem item [a] rest = .ok ([a], rest) :=
      if_neg (by rw [stops_iff.1 hstops]; exact Bool.false_ne_true)
    rw [hlist, hread, goOn, hends]
  · have hgoes : behindItem item [a] (comma :: rest) =
        goOn (item.separated.run rest) fun others after => .ok ([a] ++ others, after) :=
      if_pos hcomma
    rw [hlist, hread, goOn, hgoes]
    cases item.separated.run rest <;> rfl

/-- What stands before an item is kept. -/
theorem goOn_behindItem (item : Production α) (read : List α) (a : α) (rest : List Token) :
    (goOn (behindItem item [a] rest) fun others after => .ok (read ++ others, after)) =
      behindItem item (read ++ [a]) rest := by
  rw [behindItem, behindItem]
  split
  · rw [goOn_goOn]
    simp [goOn]
  · rfl

/-- What is read up to the end, with the tokens that are left. -/
def runAll (item : Production α) (read : List α) (tokens : List Token) :
    Except Failure (List α × List Token) :=
  if tokens = [] then .ok (read, []) else (item.runToEnd tokens).map fun list => (read ++ list, [])

theorem runAll_eq (item : Production α) (read : List α) {tokens : List Token}
    (hne : tokens ≠ []) :
    runAll item read tokens =
      goOn (item.run tokens) fun a rest => runAll item (read ++ [a]) rest := by
  rw [runAll, if_neg hne]
  cases hrun : item.run tokens with
  | error failure =>
    rw [runToEnd_of_error hrun]
    rfl
  | ok result =>
    obtain ⟨a, rest⟩ := result
    rw [goOn, runAll]
    by_cases hrest : rest = []
    · subst hrest
      rw [if_pos rfl, runToEnd_of_nil hrun]
      rfl
    · rw [if_neg hrest, runToEnd_of_ne_nil hrun hrest]
      cases item.runToEnd rest <;> simp [Except.map]

end Production

/-! ## Arrivals -/

/-- Where a walk stops, and what it expected there. -/
structure Stop where
  expected : Expectation
  place : Nat
  deriving DecidableEq, Repr

/-- How a walk ends: with what it has read and the place behind it, or with a stop.  It has no
outcome if a loop has not ended within its rounds. -/
abbrev Arrival (α : Type) := Option (Except Stop (α × Nat))

/-- A reader that goes from a place among some tokens to a later one.  The first number is that of
the rounds that each of its loops may take. -/
def Walk (α : Type) := Nat → List Token → Nat → Arrival α

namespace Arrival

/-- Goes on from where a walk has arrived. -/
def goOn (arrival : Arrival α) (next : α → Nat → Arrival β) : Arrival β :=
  match arrival with
  | none => none
  | some (.error stop) => some (.error stop)
  | some (.ok (a, place)) => next a place

/-- An arrival with the places counted from further to the left. -/
def moved (distance : Nat) (arrival : Arrival α) : Arrival α :=
  match arrival with
  | none => none
  | some (.error stop) => some (.error ⟨stop.expected, distance + stop.place⟩)
  | some (.ok (a, place)) => some (.ok (a, distance + place))

/-- **A walk has arrived where a production leaves off**, not before a place and not behind the end
of the tokens. -/
def Agrees (tokens : List Token) (start : Nat) (arrival : Arrival α) :
    Except Failure (α × List Token) → Prop
  | .ok (a, rest) => ∃ place, arrival = some (.ok (a, place)) ∧ start ≤ place ∧
      place ≤ tokens.length ∧ tokens.drop place = rest
  | .error failure => ∃ place, arrival = some (.error ⟨failure.expected, place⟩) ∧
      start ≤ place ∧ place ≤ tokens.length ∧ tokens.drop place = failure.rest

variable {tokens : List Token} {start : Nat}

theorem agrees_ok (a : α) {place : Nat} (hstart : start ≤ place) (hend : place ≤ tokens.length) :
    Agrees tokens start (some (.ok (a, place))) (.ok (a, tokens.drop place)) :=
  ⟨place, rfl, hstart, hend, rfl⟩

theorem agrees_error (expected : Expectation) {place : Nat} (hstart : start ≤ place)
    (hend : place ≤ tokens.length) :
    Agrees (α := α) tokens start (some (.error ⟨expected, place⟩))
      (.error ⟨expected, tokens.drop place⟩) :=
  ⟨place, rfl, hstart, hend, rfl⟩

/-- An arrival behind a place is one behind an earlier place. -/
theorem Agrees.mono {arrival : Arrival α} {result : Except Failure (α × List Token)}
    {earlier : Nat} (h : Agrees tokens start arrival result) (hle : earlier ≤ start) :
    Agrees tokens earlier arrival result := by
  cases result with
  | ok read =>
    obtain ⟨place, harrival, hstart, hrest⟩ := h
    exact ⟨place, harrival, hle.trans hstart, hrest⟩
  | error failure =>
    obtain ⟨place, harrival, hstart, hrest⟩ := h
    exact ⟨place, harrival, hle.trans hstart, hrest⟩

/-- **One thing after another.** -/
theorem Agrees.goOn {arrival : Arrival α} {result : Except Failure (α × List Token)}
    {next : α → Nat → Arrival β} {next' : α → List Token → Except Failure (β × List Token)}
    (h : Agrees tokens start arrival result)
    (hnext : ∀ a place, start ≤ place → place ≤ tokens.length →
      result = .ok (a, tokens.drop place) →
        Agrees tokens start (next a place) (next' a (tokens.drop place))) :
    Agrees tokens start (arrival.goOn next) (Production.goOn result next') := by
  cases result with
  | ok read =>
    obtain ⟨place, rfl, hstart, hend, hrest⟩ := h
    have hread := hnext read.1 place hstart hend (by rw [hrest])
    rw [hrest] at hread
    exact hread
  | error failure =>
    obtain ⟨place, rfl, hstart, hend, hrest⟩ := h
    exact ⟨place, rfl, hstart, hend, hrest⟩

/-- **What stands to the left does not count**: with the same result the places differ by the
tokens in front. -/
theorem Agrees.eq_moved {front : List Token} {start' : Nat} {arrival arrival' : Arrival α}
    {result : Except Failure (α × List Token)} (h : Agrees tokens start arrival result)
    (h' : Agrees (front ++ tokens) start' arrival' result) :
    arrival' = arrival.moved front.length := by
  have hplaces {place place' : Nat} (hend : place ≤ tokens.length)
      (hend' : place' ≤ (front ++ tokens).length)
      (hdrop : (front ++ tokens).drop place' = tokens.drop place) :
      place' = front.length + place := by
    have hlength := congrArg List.length hdrop
    rw [List.length_drop, List.length_drop, List.length_append] at hlength
    rw [List.length_append] at hend'
    omega
  cases result with
  | ok read =>
    obtain ⟨place, rfl, -, hend, hrest⟩ := h
    obtain ⟨place', rfl, -, hend', hrest'⟩ := h'
    rw [hplaces hend hend' (hrest'.trans hrest.symm), moved]
  | error failure =>
    obtain ⟨place, rfl, -, hend, hrest⟩ := h
    obtain ⟨place', rfl, -, hend', hrest'⟩ := h'
    rw [hplaces hend hend' (hrest'.trans hrest.symm), moved]

end Arrival

namespace Walk

open Arrival Production

/-- **A walk follows a production** from every place that is far enough to the right, if its loops
may take as many rounds as there are tokens. -/
def FollowsFrom (least : Nat) (walk : Walk α) (production : Production α) : Prop :=
  ∀ {limit place : Nat} {tokens : List Token}, tokens.length ≤ limit → least ≤ place →
    place ≤ tokens.length →
      Agrees tokens place (walk limit tokens place) (production.run (tokens.drop place))

variable {least : Nat} {walk : Walk α} {production : Production α}

/-- A production that succeeds moves a walk on. -/
theorem lt_of_run {tokens : List Token} {place next : Nat} {a : α}
    (h : production.run (tokens.drop place) = .ok (a, tokens.drop next)) (hnext : next ≤ tokens.length) :
    place < next := by
  have hshorter := production.shorter h
  rw [List.length_drop, List.length_drop] at hshorter
  omega

/-! ## A token -/

/-- A token of some class, or a stop with the given expectation. -/
def one (expected : Expectation) (accepts : Token → Bool) : Walk Token := fun _ tokens place =>
  match tokens[place]? with
  | some token =>
    if accepts token then some (.ok (token, place + 1)) else some (.error ⟨expected, place⟩)
  | none => some (.error ⟨expected, place⟩)

theorem followsFrom_one (expected : Expectation) (accepts : Token → Bool) :
    FollowsFrom least (one expected accepts) (.token expected accepts) := by
  intro limit place tokens _ _ hend
  rw [one]
  by_cases hlt : place < tokens.length
  · rw [List.getElem?_eq_getElem hlt, List.drop_eq_getElem_cons hlt, run_token_cons]
    dsimp only
    split
    · exact agrees_ok _ (Nat.le_succ _) hlt
    · rw [← List.drop_eq_getElem_cons hlt]
      exact agrees_error _ le_rfl hend
  · rw [List.getElem?_eq_none (by omega), List.drop_of_length_le (by omega), run_token_nil]
    exact ⟨place, rfl, le_rfl, hend, List.drop_of_length_le (by omega)⟩

/-! ## One thing after another -/

/-- A walk, and another one from where it arrives. -/
def bind (walk : Walk α) (next : α → Walk β) : Walk β := fun limit tokens place =>
  (walk limit tokens place).goOn fun a behind => next a limit tokens behind

/-- The same walk with another result. -/
def map (f : α → β) (walk : Walk α) : Walk β :=
  walk.bind fun a _ _ behind => some (.ok (f a, behind))

theorem followsFrom_bind {next : α → Walk β} {next' : α → Production β}
    (h : FollowsFrom least walk production)
    (hnext : ∀ a, FollowsFrom (least + 1) (next a) (next' a)) :
    FollowsFrom least (walk.bind next) (production.bind next') := by
  intro limit place tokens hlimit hleast hend
  rw [run_bind_eq]
  refine (h hlimit hleast hend).goOn fun a behind hstart hbehind hread => ?_
  have hlt := lt_of_run hread hbehind
  exact (hnext a hlimit (by omega) hbehind).mono hstart

theorem followsFrom_map {f : α → β} (h : FollowsFrom least walk production) :
    FollowsFrom least (walk.map f) (production.map f) := by
  intro limit place tokens hlimit hleast hend
  rw [run_map_eq]
  refine (h hlimit hleast hend).goOn fun a behind hstart hbehind _ => ?_
  exact agrees_ok _ hstart hbehind

/-! ## Lists -/

/-- Whether a token of some class stands at a place. -/
def stands (accepts : Token → Bool) (tokens : List Token) (place : Nat) : Bool :=
  tokens[place]?.any accepts

/-- While a comma stands at the place: another item behind the comma. -/
def commaLoop (item : Walk α) (limit : Nat) (tokens : List Token) (rounds : Nat) (read : List α)
    (place : Nat) : Arrival (List α) :=
  if stands isComma tokens place then
    match rounds with
    | 0 => none
    | rounds + 1 => (item limit tokens (place + 1)).goOn fun a behind =>
        commaLoop item limit tokens rounds (read ++ [a]) behind
  else
    some (.ok (read, place))

/-- One or more items with commas between them. -/
def list (item : Walk α) : Walk (List α) :=
  item.bind fun a limit tokens behind => commaLoop item limit tokens limit [a] behind

/-- An item and a comma over and over, until there is no comma behind an item but a closing token.
The comma is taken before it is known whether an item follows. -/
def closingLoop (item : Walk α) (closing : Walk Token) (limit : Nat) (tokens : List Token) :
    Nat → List α → Nat → Arrival (List α)
  | 0, _, _ => none
  | rounds + 1, read, place => (item limit tokens place).goOn fun a behind =>
      if stands isComma tokens behind then
        closingLoop item closing limit tokens rounds (read ++ [a]) (behind + 1)
      else
        (closing limit tokens behind).goOn fun _ after => some (.ok (read ++ [a], after))

/-- One or more items with commas between them, up to a closing token. -/
def enclosed (item : Walk α) (closing : Walk Token) : Walk (List α) := fun limit tokens place =>
  closingLoop item closing limit tokens limit [] place

theorem stands_eq (accepts : Token → Bool) (tokens : List Token) (place : Nat) :
    stands accepts tokens place = (tokens.drop place).head?.any accepts := by
  rw [stands, List.head?_drop]

theorem stops_drop_iff {accepts : Token → Bool} {tokens : List Token} {place : Nat} :
    Stops accepts (tokens.drop place) ↔ stands accepts tokens place = false := by
  rw [stands_eq, stops_iff]

theorem lt_of_stands {accepts : Token → Bool} {tokens : List Token} {place : Nat}
    (h : stands accepts tokens place = true) : place < tokens.length := by
  obtain ⟨token, htoken, -⟩ := Option.any_eq_true _ _ |>.1 h
  exact (List.getElem?_eq_some_iff.1 htoken).1

/-- **The loop over commas** reads what is behind an item. -/
theorem agrees_commaLoop {item : Walk α} (h : FollowsFrom least item production) {limit : Nat}
    {tokens : List Token} (hlimit : tokens.length ≤ limit) {rounds place : Nat} (read : List α)
    (hleast : least ≤ place) (hend : place ≤ tokens.length)
    (hrounds : tokens.length - place ≤ rounds) :
    Agrees tokens place (commaLoop item limit tokens rounds read place)
      (behindItem production read (tokens.drop place)) := by
  induction rounds generalizing read place with
  | zero =>
    have hstands : ¬ stands isComma tokens place = true := by
      intro hcomma
      have := lt_of_stands hcomma
      omega
    rw [commaLoop, behindItem, ← stands_eq, if_neg hstands, if_neg hstands]
    exact agrees_ok _ le_rfl hend
  | succ rounds ih =>
    rw [commaLoop, behindItem, ← stands_eq]
    by_cases hcomma : stands isComma tokens place = true
    · have hlt := lt_of_stands hcomma
      rw [if_pos hcomma, if_pos hcomma, List.tail_drop, run_separated_eq, Production.goOn_goOn]
      refine ((h hlimit (by omega) hlt).mono (Nat.le_succ _)).goOn
        fun a behind hstart hbehind hread => ?_
      -- Behind the item the place is further to the right, so a round less is enough.
      have hnext := lt_of_run hread hbehind
      rw [goOn_behindItem]
      exact (ih (read ++ [a]) (by omega) hbehind (by omega)).mono hstart
    · rw [if_neg hcomma, if_neg hcomma]
      exact agrees_ok _ le_rfl hend

/-- **Lists**, by a loop that is entered while a comma stands at the place. -/
theorem followsFrom_list {item : Walk α} (h : FollowsFrom least item production) :
    FollowsFrom least item.list production.separated := by
  intro limit place tokens hlimit hleast hend
  rw [run_separated_eq]
  refine (h hlimit hleast hend).goOn fun a behind hstart hbehind _ => ?_
  exact (agrees_commaLoop h hlimit [a] (hleast.trans hstart) hbehind (by omega)).mono hstart

/-- **The loop up to a closing token** reads a list and the token. -/
theorem agrees_closingLoop {item : Walk α} {closing : Walk Token} {closing' : Production Token}
    (h : FollowsFrom least item production) (hclosing : FollowsFrom least closing closing')
    {limit : Nat} {tokens : List Token} (hlimit : tokens.length ≤ limit) {rounds place : Nat}
    (read : List α) (hleast : least ≤ place) (hend : place ≤ tokens.length)
    (hrounds : tokens.length - place < rounds) :
    Agrees tokens place (closingLoop item closing limit tokens rounds read place)
      (Production.goOn (production.separated.run (tokens.drop place)) fun items rest =>
        Production.goOn (closing'.run rest) fun _ after => .ok (read ++ items, after)) := by
  induction rounds generalizing read place with
  | zero => omega
  | succ rounds ih =>
    rw [closingLoop, run_separated_eq, Production.goOn_goOn]
    refine (h hlimit hleast hend).goOn fun a behind hstart hbehind hread => ?_
    have hnext := lt_of_run hread hbehind
    rw [behindItem, ← stands_eq]
    by_cases hcomma : stands isComma tokens behind = true
    · have hlt := lt_of_stands hcomma
      have hloop := ih (read ++ [a]) (by omega) hlt (by omega)
      rw [if_pos hcomma, if_pos hcomma, List.tail_drop, Production.goOn_goOn]
      simp only [List.append_assoc] at hloop
      exact hloop.mono (by omega)
    · rw [if_neg hcomma, if_neg hcomma]
      refine ((hclosing hlimit (by omega) hbehind).mono hstart).goOn
        fun _ after hstart' hafter _ => ?_
      exact agrees_ok _ hstart' hafter

/-- **Lists up to a closing token**, by a loop that is left from its middle.  There is a round for
the first item because something has been read before. -/
theorem followsFrom_enclosed {item : Walk α} {closing : Walk Token} {closing' : Production Token}
    (h : FollowsFrom (least + 1) item production)
    (hclosing : FollowsFrom (least + 1) closing closing') (f : List α → β) :
    FollowsFrom (least + 1) ((item.enclosed closing).map f)
      (production.separated.bind fun items => closing'.map fun _ => f items) := by
  intro limit place tokens hlimit hleast hend
  have hrun : (production.separated.bind fun items => closing'.map fun _ => f items).run
        (tokens.drop place) =
      Production.goOn (Production.goOn (production.separated.run (tokens.drop place))
        fun items rest => Production.goOn (closing'.run rest) fun _ after => .ok ([] ++ items, after))
          fun items after => .ok (f items, after) := by
    rw [Production.goOn_goOn, run_bind_eq]
    simp only [run_map_eq, Production.goOn_goOn]
    rfl
  rw [hrun]
  refine (agrees_closingLoop h hclosing hlimit [] hleast hend (by omega)).goOn
    fun items after hstart hafter _ => ?_
  exact agrees_ok _ hstart hafter

/-! ## Alternatives -/

/-- The stop that got further, of two that got equally far the first. -/
def further (furthest : Option Stop) (stop : Stop) : Option Stop :=
  if furthest.all (·.place < stop.place) then some stop else furthest

/-- The stop that is reported if all alternatives have failed: the one that got furthest, if it got
past the first token. -/
def report (expected : Expectation) (place : Nat) (furthest : Option Stop) : Stop :=
  match furthest with
  | some stop => if place < stop.place then stop else ⟨expected, place⟩
  | none => ⟨expected, place⟩

/-- Tries walks in turn from the same place. -/
def tryAll (expected : Expectation) (limit : Nat) (tokens : List Token) (place : Nat)
    (furthest : Option Stop) : List (Walk α) → Arrival α
  | [] => some (.error (report expected place furthest))
  | walk :: walks =>
    match walk limit tokens place with
    | none => none
    | some (.ok read) => some (.ok read)
    | some (.error stop) => tryAll expected limit tokens place (further furthest stop) walks

/-- The first walk that arrives. -/
def firstOf (expected : Expectation) (walks : List (Walk α)) : Walk α :=
  fun limit tokens place => tryAll expected limit tokens place none walks

/-- The failure of a stop. -/
def failureAt (tokens : List Token) (stop : Stop) : Failure :=
  ⟨stop.expected, tokens.drop stop.place⟩

theorem furthest_failureAt {tokens : List Token} {first second : Stop}
    (hsecond : second.place ≤ tokens.length) :
    (failureAt tokens first).furthest (failureAt tokens second) =
      failureAt tokens (if first.place < second.place then second else first) := by
  have hlength : (tokens.drop second.place).length < (tokens.drop first.place).length ↔
      first.place < second.place := by
    rw [List.length_drop, List.length_drop]
    omega
  rw [Failure.furthest, failureAt, failureAt]
  by_cases hlt : first.place < second.place
  · rw [if_pos (hlength.2 hlt), if_pos hlt, failureAt]
  · rw [if_neg (mt hlength.1 hlt), if_neg hlt, failureAt]

/-- One more stop to choose the furthest from. -/
theorem report_further (expected : Expectation) (place : Nat) (furthest : Option Stop)
    (stop : Stop) :
    report expected place (further furthest stop) =
      if (report expected place furthest).place < stop.place then stop
      else report expected place furthest := by
  cases furthest with
  | none => rfl
  | some other =>
    by_cases hfurther : other.place < stop.place
    · have hstop : further (some other) stop = some stop := if_pos (by simpa using hfurther)
      rw [hstop, report, report]
      by_cases hother : place < other.place
      · rw [if_pos (hother.trans hfurther), if_pos hother, if_pos hfurther]
      · rw [if_neg hother]
    · have hstop : further (some other) stop = some other := if_neg (by simpa using hfurther)
      have hbefore : ¬ (report expected place (some other)).place < stop.place := by
        rw [report]
        split
        · exact hfurther
        · show ¬ place < stop.place
          omega
      rw [hstop, if_neg hbefore]

/-- The stop that is reported is among the tokens. -/
theorem place_report (expected : Expectation) {tokens : List Token} {place : Nat}
    {furthest : Option Stop} (hend : place ≤ tokens.length)
    (hfurthest : ∀ stop ∈ furthest, stop.place ≤ tokens.length) :
    place ≤ (report expected place furthest).place ∧
      (report expected place furthest).place ≤ tokens.length := by
  cases furthest with
  | none => exact ⟨le_rfl, hend⟩
  | some stop =>
    rw [report]
    split
    · next hlt => exact ⟨hlt.le, hfurthest stop rfl⟩
    · exact ⟨le_rfl, hend⟩

theorem agrees_tryAll {walks : List (Walk α)} {productions : List (Production α)}
    (h : List.Forall₂ (FollowsFrom least) walks productions) (expected : Expectation)
    {limit place : Nat} {tokens : List Token} (hlimit : tokens.length ≤ limit)
    (hleast : least ≤ place) (hend : place ≤ tokens.length) {furthest : Option Stop}
    (hfurthest : ∀ stop ∈ furthest, stop.place ≤ tokens.length) :
    Agrees tokens place (tryAll expected limit tokens place furthest walks)
      (runFirstOf (failureAt tokens (report expected place furthest)) productions
        (tokens.drop place)) := by
  induction h generalizing furthest with
  | nil =>
    obtain ⟨hstart, hstop⟩ := place_report expected hend hfurthest
    exact ⟨_, rfl, hstart, hstop, rfl⟩
  | @cons walk production walks productions hfollows _ ih =>
    have hagrees := hfollows hlimit hleast hend
    rw [tryAll, runFirstOf]
    cases hrun : production.run (tokens.drop place) with
    | ok read =>
      rw [hrun] at hagrees
      obtain ⟨behind, harrival, hbehind⟩ := hagrees
      rw [harrival]
      exact ⟨behind, rfl, hbehind⟩
    | error failure =>
      rw [hrun] at hagrees
      obtain ⟨wrong, harrival, hstart, hwrong, hrest⟩ := hagrees
      have hfailure : failure = failureAt tokens ⟨failure.expected, wrong⟩ := by
        rw [failureAt, hrest]
      rw [harrival]
      dsimp only
      rw [hfailure, furthest_failureAt hwrong, ← report_further]
      refine ih fun stop hstop => ?_
      rw [further] at hstop
      split at hstop
      · obtain rfl := Option.some.inj hstop
        exact hwrong
      · exact hfurthest stop hstop

/-- **Alternatives**, with the failure that got furthest. -/
theorem followsFrom_firstOf {walks : List (Walk α)} {productions : List (Production α)}
    (h : List.Forall₂ (FollowsFrom least) walks productions) (expected : Expectation) :
    FollowsFrom least (firstOf expected walks) (.firstOf expected productions) := by
  intro limit place tokens hlimit hleast hend
  exact agrees_tryAll h expected hlimit hleast hend (by simp)

/-! ## Semicolons -/

/-- Moves on while a semicolon stands at the place. -/
def skip (tokens : List Token) (rounds place : Nat) : Option Nat :=
  if stands isSemicolon tokens place then
    match rounds with
    | 0 => none
    | rounds + 1 => skip tokens rounds (place + 1)
  else
    some place

/-- One or more semicolons, as many as there are. -/
def semicolons : Walk Unit := fun limit tokens place =>
  (skip tokens limit place).map fun behind =>
    if place < behind then .ok ((), behind) else .error ⟨.semicolon, place⟩

/-- The loop ends behind the semicolons. -/
theorem exists_skip {tokens : List Token} {rounds place : Nat} (hend : place ≤ tokens.length)
    (hrounds : tokens.length - place ≤ rounds) :
    ∃ behind, skip tokens rounds place = some behind ∧ place ≤ behind ∧
      behind ≤ tokens.length ∧
      tokens.drop behind = (tokens.drop place).dropWhile isSemicolon ∧
      (place < behind ↔ stands isSemicolon tokens place = true) := by
  by_cases hstands : stands isSemicolon tokens place = true
  · have hlt := lt_of_stands hstands
    cases rounds with
    | zero => omega
    | succ rounds =>
      obtain ⟨behind, hskip, hstart, hbehind, hdrop, -⟩ :=
        exists_skip hlt (show tokens.length - (place + 1) ≤ rounds by omega)
      have htoken : isSemicolon tokens[place] = true := by
        rwa [stands, List.getElem?_eq_getElem hlt] at hstands
      refine ⟨behind, ?_, by omega, hbehind, ?_, iff_of_true (by omega) hstands⟩
      · rw [skip, if_pos hstands, hskip]
      · rw [hdrop, List.drop_eq_getElem_cons hlt, List.dropWhile_cons_of_pos htoken]
  · have hstops := stops_drop_iff.2 (Bool.eq_false_iff.2 hstands)
    refine ⟨place, ?_, le_rfl, hend, (Grammar.dropWhile_of_stops hstops).symm,
      iff_of_false (lt_irrefl _) hstands⟩
    unfold skip
    rw [if_neg hstands]

theorem followsFrom_semicolons : FollowsFrom least semicolons Grammar.semicolons := by
  intro limit place tokens hlimit _ hend
  obtain ⟨behind, hskip, hstart, hbehind, hdrop, hiff⟩ :=
    exists_skip hend (show tokens.length - place ≤ limit by omega)
  rw [semicolons, hskip, Option.map_some]
  by_cases hstands : stands isSemicolon tokens place = true
  · have hlt := lt_of_stands hstands
    have htoken : isSemicolon tokens[place] = true := by
      rwa [stands, List.getElem?_eq_getElem hlt] at hstands
    rw [if_pos (hiff.2 hstands), List.drop_eq_getElem_cons hlt,
      Grammar.run_semicolons_of_semicolon htoken, ← List.dropWhile_cons_of_pos htoken,
      ← List.drop_eq_getElem_cons hlt, ← hdrop]
    exact agrees_ok () hstart hbehind
  · have hstops := stops_drop_iff.2 (Bool.eq_false_iff.2 hstands)
    rw [if_neg (mt hiff.1 hstands), Grammar.run_semicolons_of_stops hstops]
    exact agrees_error _ le_rfl hend

/-! ## Up to the end -/

/-- One thing after another while there are tokens. -/
def toEndLoop (item : Walk α) (limit : Nat) (tokens : List Token) (rounds : Nat) (read : List α)
    (place : Nat) : Arrival (List α) :=
  if place < tokens.length then
    match rounds with
    | 0 => none
    | rounds + 1 => (item limit tokens place).goOn fun a behind =>
        toEndLoop item limit tokens rounds (read ++ [a]) behind
  else
    some (.ok (read, place))

/-- **Up to the end**, by a loop that is entered while there are tokens. -/
theorem agrees_toEndLoop {item : Walk α} (h : FollowsFrom least item production) {limit : Nat}
    {tokens : List Token} (hlimit : tokens.length ≤ limit) {rounds place : Nat} (read : List α)
    (hleast : least ≤ place) (hend : place ≤ tokens.length)
    (hrounds : tokens.length - place ≤ rounds) :
    Agrees tokens place (toEndLoop item limit tokens rounds read place)
      (runAll production read (tokens.drop place)) := by
  induction rounds generalizing read place with
  | zero =>
    rw [toEndLoop, if_neg (by omega), runAll, if_pos (List.drop_of_length_le (by omega))]
    exact ⟨place, rfl, le_rfl, hend, List.drop_of_length_le (by omega)⟩
  | succ rounds ih =>
    rw [toEndLoop]
    by_cases hlt : place < tokens.length
    · have hne : tokens.drop place ≠ [] := by simpa [List.drop_eq_nil_iff] using hlt
      rw [if_pos hlt, runAll_eq production read hne]
      refine (h hlimit hleast hend).goOn fun a behind hstart hbehind hread => ?_
      have hnext := lt_of_run hread hbehind
      exact (ih (read ++ [a]) (by omega) hbehind (by omega)).mono hstart
    · rw [if_neg hlt, runAll, if_pos (List.drop_of_length_le (by omega))]
      exact ⟨place, rfl, le_rfl, hend, List.drop_of_length_le (by omega)⟩

end Walk
end ColumnarSql
