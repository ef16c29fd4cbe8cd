import ColumnarSql.Grammar.Script
import ColumnarSql.Proofs.Grammar.Prediction

/-!
# Alternatives that begin with different words

`Production.firstOf` tries its alternatives in turn and compares how far they got.  None of
this can be seen if the alternatives begin with different reserved words.  Then the first
token decides: at most one alternative gets past it, and the others fail on the spot, in
whatever order they are tried.

`Production.run_firstOf` is this statement for any list of alternatives with their words,
`Production.firstOf_perm` says that their order does not matter, and
`Production.predictive_firstOf` says that such a choice is predictive again.

The failure of an alternative counts only if it lies strictly behind the first token; that
is what `Production.BeginsWith` asks, beside the refusal of every other word.
-/

namespace ColumnarSql

namespace Production

variable {α : Type}

/-- Productions that read the same are the same. -/
theorem ext_run {first second : Production α}
    (h : ∀ tokens, first.run tokens = second.run tokens) : first = second := by
  obtain ⟨run, _⟩ := first
  obtain ⟨run', _⟩ := second
  obtain rfl : run = run' := funext h
  rfl

/-- A production begins with a reserved word: it refuses tokens that do not begin with the
word, and after the word it can only fail further on. -/
structure BeginsWith (production : Production α) (word : Keyword) : Prop where
  refuses : ∀ {tokens : List Token}, Stops (·.isKeyword word) tokens →
    production.run tokens = .error ⟨.keyword word, tokens⟩
  passes : ∀ {token : Token} {rest : List Token} {failure : Failure},
    token.isKeyword word = true → production.run (token :: rest) = .error failure →
      failure.rest.length ≤ rest.length

/-- A reserved word and then something predictive. -/
theorem beginsWith_bind {word : Keyword} {next : Token → Production α}
    {further : Token → Bool} (h : ∀ token, (next token).Predictive further) :
    ((Grammar.keyword word).bind next).BeginsWith word where
  refuses {tokens} hstops :=
    run_bind_of_error (run_token_eq_error_iff.2 ⟨rfl, hstops⟩)
  passes {token rest failure} htoken hrun := by
    have hword : (Grammar.keyword word).run (token :: rest) = .ok (token, rest) :=
      run_token_eq_ok_iff.2 ⟨htoken, rfl⟩
    rw [run_bind_of_ok hword] at hrun
    exact (h token).length_rest_le hrun

theorem BeginsWith.head_of_ok {production : Production α} {word : Keyword}
    (h : production.BeginsWith word) {tokens : List Token} {result : α × List Token}
    (hrun : production.run tokens = .ok result) :
    ∃ token rest, tokens = token :: rest ∧ token.isKeyword word = true := by
  by_cases hstops : Stops (·.isKeyword word) tokens
  · rw [h.refuses hstops] at hrun
    simp at hrun
  · cases tokens with
    | nil => exact absurd (stops_nil _) hstops
    | cons token rest =>
      refine ⟨token, rest, rfl, ?_⟩
      rw [stops_cons_iff] at hstops
      simpa using hstops

/-- What stands before a failure behind the word begins with the word. -/
theorem BeginsWith.exists_block {production : Production α} {word : Keyword}
    (h : production.BeginsWith word) {token : Token} {rest block : List Token} {failure : Failure}
    (htoken : token.isKeyword word = true) (hrun : production.run (token :: rest) = .error failure)
    (hblock : block ++ failure.rest = token :: rest) : ∃ block', block = token :: block' := by
  have hlength := h.passes htoken hrun
  cases block with
  | nil =>
    rw [List.nil_append] at hblock
    rw [hblock, List.length_cons] at hlength
    omega
  | cons first block' =>
    obtain ⟨rfl, -⟩ := List.cons.inj hblock
    exact ⟨block', rfl⟩

/-- Behind its word something predictive can be completed. -/
theorem BeginsWith.exists_run {production : Production α} {word : Keyword}
    {further : Token → Bool} (h : production.BeginsWith word)
    (hpredictive : production.Predictive further) {token : Token}
    (htoken : token.isKeyword word = true) :
    ∃ rest a, production.run (token :: rest) = .ok (a, []) := by
  have hnothing := h.refuses (stops_nil _)
  obtain ⟨block, hblock, -, hcomplete⟩ := hpredictive.fails hnothing
  obtain ⟨rfl, -⟩ := List.append_eq_nil_iff.1 hblock
  exact hcomplete token htoken

/-! ## The choice -/

/-- The alternative whose word stands at the front. -/
def chosen (alternatives : List (Keyword × Production α)) (tokens : List Token) :
    Option (Production α) :=
  (alternatives.find? fun alternative => tokens.head?.any (·.isKeyword alternative.1)).map
    Prod.snd

/-- Alternatives that all refuse the first token leave an earlier failure as it was. -/
theorem runFirstOf_of_refuses {failure : Failure} {tokens : List Token}
    (hfailure : failure.rest.length ≤ tokens.length)
    {alternatives : List (Keyword × Production α)}
    (h : ∀ alternative ∈ alternatives, alternative.2.BeginsWith alternative.1)
    (hrefused : ∀ alternative ∈ alternatives, Stops (·.isKeyword alternative.1) tokens) :
    runFirstOf failure (alternatives.map Prod.snd) tokens = .error failure := by
  induction alternatives with
  | nil => rfl
  | cons alternative others ih =>
    have hrun := (h alternative List.mem_cons_self).refuses
      (hrefused alternative List.mem_cons_self)
    have hkept : failure.furthest ⟨.keyword alternative.1, tokens⟩ = failure :=
      if_neg (Nat.not_lt.2 hfailure)
    rw [List.map_cons, runFirstOf, hrun]
    simp only [hkept]
    exact ih (fun other hother => h other (List.mem_cons_of_mem _ hother))
      (fun other hother => hrefused other (List.mem_cons_of_mem _ hother))

/-- **The first token decides.**  If the alternatives begin with different words, the one
whose word stands at the front is taken, and its failure is reported; without such a word
the choice itself fails. -/
theorem run_firstOf (expected : Expectation) {alternatives : List (Keyword × Production α)}
    (h : ∀ alternative ∈ alternatives, alternative.2.BeginsWith alternative.1)
    (hwords : (alternatives.map Prod.fst).Nodup) (tokens : List Token) :
    (firstOf expected (alternatives.map Prod.snd)).run tokens =
      match chosen alternatives tokens with
      | some production => production.run tokens
      | none => .error ⟨expected, tokens⟩ := by
  show runFirstOf ⟨expected, tokens⟩ (alternatives.map Prod.snd) tokens = _
  induction alternatives with
  | nil => rfl
  | cons alternative others ih =>
    obtain ⟨hword, hwords'⟩ := List.nodup_cons.1 hwords
    have hothers := fun other hother => h other (List.mem_cons_of_mem _ hother)
    have halternative := h alternative List.mem_cons_self
    rw [List.map_cons, runFirstOf, chosen, List.find?_cons]
    cases hhead : tokens.head?.any (·.isKeyword alternative.1) with
    | false =>
      have hstops : Stops (·.isKeyword alternative.1) tokens := by
        intro token htoken
        rw [Option.mem_def.1 htoken] at hhead
        exact hhead
      have hkept : (⟨expected, tokens⟩ : Failure).furthest ⟨.keyword alternative.1, tokens⟩ =
          ⟨expected, tokens⟩ := if_neg (by simp)
      rw [halternative.refuses hstops]
      simp only [hkept]
      exact ih hothers hwords'
    | true =>
      obtain ⟨token, htoken, hkeyword⟩ := (Option.any_eq_true _ _).1 hhead
      obtain ⟨rest, rfl⟩ := List.head?_eq_some_iff.1 htoken
      simp only [Option.map_some]
      cases hrun : alternative.2.run (token :: rest) with
      | ok result => rfl
      | error failure =>
        have hlength := halternative.passes hkeyword hrun
        have hfurther : (⟨expected, token :: rest⟩ : Failure).furthest failure = failure :=
          if_pos (by simp only [List.length_cons]; omega)
        simp only [hfurther]
        refine runFirstOf_of_refuses (by simp only [List.length_cons]; omega) hothers ?_
        intro other hother
        rw [stops_cons_iff, Bool.eq_false_iff]
        intro hother'
        have hsame := Token.isKeyword_unique hkeyword hother'
        exact hword (hsame ▸ List.mem_map_of_mem hother)

/-- A chosen alternative is one of them, and its word stands at the front. -/
theorem exists_of_chosen {alternatives : List (Keyword × Production α)} {tokens : List Token}
    {production : Production α} (h : chosen alternatives tokens = some production) :
    ∃ word token rest, (word, production) ∈ alternatives ∧ tokens = token :: rest ∧
      token.isKeyword word = true := by
  obtain ⟨⟨word, production'⟩, hfind, rfl⟩ := Option.map_eq_some_iff.1 h
  have hhead := List.find?_some hfind
  rw [Option.any_eq_true] at hhead
  obtain ⟨token, htoken, hkeyword⟩ := hhead
  obtain ⟨rest, rfl⟩ := List.head?_eq_some_iff.1 htoken
  exact ⟨word, token, rest, List.mem_of_find?_eq_some hfind, rfl, hkeyword⟩

/-- If the word of an alternative stands at the front, that alternative is chosen. -/
theorem chosen_of_mem {alternatives : List (Keyword × Production α)}
    (hwords : (alternatives.map Prod.fst).Nodup) {word : Keyword} {production : Production α}
    (hmem : (word, production) ∈ alternatives) {token : Token}
    (htoken : token.isKeyword word = true) (rest : List Token) :
    chosen alternatives (token :: rest) = some production := by
  induction alternatives with
  | nil => simp at hmem
  | cons alternative others ih =>
    obtain ⟨hword, hwords'⟩ := List.nodup_cons.1 hwords
    rw [chosen, List.find?_cons]
    rcases List.mem_cons.1 hmem with rfl | hmem
    · simp [htoken]
    · have hother : token.isKeyword alternative.1 = false := by
        rw [Bool.eq_false_iff]
        intro hkeyword
        have hsame := Token.isKeyword_unique htoken hkeyword
        exact hword (hsame ▸ List.mem_map_of_mem hmem)
      simp only [List.head?_cons, Option.any_some, hother]
      exact ih hwords' hmem

/-- Which alternative is chosen does not depend on where in the list it stands. -/
theorem chosen_eq_some_iff {alternatives : List (Keyword × Production α)}
    (hwords : (alternatives.map Prod.fst).Nodup) {tokens : List Token}
    {production : Production α} :
    chosen alternatives tokens = some production ↔
      ∃ word token rest, (word, production) ∈ alternatives ∧ tokens = token :: rest ∧
        token.isKeyword word = true := by
  refine ⟨exists_of_chosen, ?_⟩
  rintro ⟨word, token, rest, hmem, rfl, htoken⟩
  exact chosen_of_mem hwords hmem htoken rest

/-- **The order of the alternatives does not matter**, neither for what is read nor for the
failure. -/
theorem firstOf_perm (expected : Expectation) {first second : List (Keyword × Production α)}
    (h : ∀ alternative ∈ first, alternative.2.BeginsWith alternative.1)
    (hwords : (first.map Prod.fst).Nodup) (hperm : first.Perm second) :
    firstOf expected (first.map Prod.snd) = firstOf expected (second.map Prod.snd) := by
  have h' : ∀ alternative ∈ second, alternative.2.BeginsWith alternative.1 :=
    fun alternative hmem => h alternative (hperm.mem_iff.2 hmem)
  have hwords' : (second.map Prod.fst).Nodup := (hperm.map Prod.fst).nodup_iff.1 hwords
  have hchosen : chosen first = chosen second := by
    funext tokens
    ext production
    rw [chosen_eq_some_iff hwords, chosen_eq_some_iff hwords']
    simp only [hperm.mem_iff]
  refine ext_run fun tokens => ?_
  rw [run_firstOf expected h hwords, run_firstOf expected h' hwords', hchosen]

/-- Behind the word of an alternative the choice is this alternative. -/
theorem run_firstOf_of_mem (expected : Expectation)
    {alternatives : List (Keyword × Production α)}
    (h : ∀ alternative ∈ alternatives, alternative.2.BeginsWith alternative.1)
    (hwords : (alternatives.map Prod.fst).Nodup) {word : Keyword} {production : Production α}
    (hmem : (word, production) ∈ alternatives) {token : Token}
    (htoken : token.isKeyword word = true) (rest : List Token) :
    (firstOf expected (alternatives.map Prod.snd)).run (token :: rest) =
      production.run (token :: rest) := by
  rw [run_firstOf expected h hwords, chosen_of_mem hwords hmem htoken]

/-- The choice reads what one of the alternatives reads. -/
theorem run_firstOf_eq_ok_iff {expected : Expectation}
    {alternatives : List (Keyword × Production α)}
    (h : ∀ alternative ∈ alternatives, alternative.2.BeginsWith alternative.1)
    (hwords : (alternatives.map Prod.fst).Nodup) {tokens : List Token}
    {result : α × List Token} :
    (firstOf expected (alternatives.map Prod.snd)).run tokens = .ok result ↔
      ∃ alternative ∈ alternatives, alternative.2.run tokens = .ok result := by
  rw [run_firstOf expected h hwords]
  constructor
  · intro hrun
    cases hchosen : chosen alternatives tokens with
    | none => simp [hchosen] at hrun
    | some production =>
      rw [hchosen] at hrun
      obtain ⟨word, -, -, hmem, -, -⟩ := exists_of_chosen hchosen
      exact ⟨(word, production), hmem, hrun⟩
  · rintro ⟨⟨word, production⟩, hmem, hrun⟩
    obtain ⟨token, rest, rfl, htoken⟩ := (h _ hmem).head_of_ok hrun
    rw [chosen_of_mem hwords hmem htoken rest]
    exact hrun

/-- Where no word of an alternative stands at the front, nothing is read. -/
theorem run_firstOf_ne_ok {expected : Expectation} {alternatives : List (Keyword × Production α)}
    (h : ∀ alternative ∈ alternatives, alternative.2.BeginsWith alternative.1)
    (hwords : (alternatives.map Prod.fst).Nodup) {token : Token} {others : List Token}
    (hchosen : chosen alternatives (token :: others) = none) (rest : List Token)
    (result : α × List Token) :
    (firstOf expected (alternatives.map Prod.snd)).run (token :: rest) ≠ .ok result := by
  intro hread
  obtain ⟨⟨word, production⟩, hmem, hread'⟩ := (run_firstOf_eq_ok_iff h hwords).1 hread
  obtain ⟨_, _, heq, hkeyword⟩ := (h _ hmem).head_of_ok hread'
  rw [← (List.cons.inj heq).1] at hkeyword
  rw [chosen_of_mem hwords hmem hkeyword others] at hchosen
  simp at hchosen

/-- **Choice.**  Alternatives that begin with different words and know their own end make a
choice that knows its own end, if the expectation of the choice admits just these words. -/
theorem predictive_firstOf {expected : Expectation}
    {alternatives : List (Keyword × Production α)}
    (h : ∀ alternative ∈ alternatives, alternative.2.BeginsWith alternative.1)
    (hpredictive : ∀ alternative ∈ alternatives, alternative.2.Predictive never)
    (hwords : (alternatives.map Prod.fst).Nodup)
    (hexpected : ∀ token, expected.admits token = true →
      ∃ alternative ∈ alternatives, token.isKeyword alternative.1 = true) :
    (firstOf expected (alternatives.map Prod.snd)).Predictive never where
  reads {tokens rest a} hrun := by
    obtain ⟨alternative, hmem, hread⟩ := (run_firstOf_eq_ok_iff h hwords).1 hrun
    obtain ⟨block, hblock, hstops, hsame⟩ := (hpredictive _ hmem).reads hread
    exact ⟨block, hblock, hstops, fun rest' hrest' =>
      (run_firstOf_eq_ok_iff h hwords).2 ⟨alternative, hmem, hsame rest' hrest'⟩⟩
  fails {tokens failure} hrun := by
    rw [run_firstOf expected h hwords] at hrun
    cases hchosen : chosen alternatives tokens with
    | none =>
      rw [hchosen] at hrun
      obtain rfl := Except.error.inj hrun
      refine ⟨[], rfl, fun token htoken rest result => ?_, fun token htoken => ?_⟩
      · obtain ⟨others, rfl⟩ := List.head?_eq_some_iff.1 htoken
        exact run_firstOf_ne_ok h hwords hchosen rest result
      · obtain ⟨⟨word, production⟩, hmem, hkeyword⟩ := hexpected token htoken
        obtain ⟨rest, a, hread⟩ := (h _ hmem).exists_run (hpredictive _ hmem) hkeyword
        exact ⟨rest, a, (run_firstOf_eq_ok_iff h hwords).2 ⟨_, hmem, hread⟩⟩
    | some production =>
      rw [hchosen] at hrun
      obtain ⟨word, first, others, hmem, rfl, hkeyword⟩ := exists_of_chosen hchosen
      obtain ⟨block, hblock, hwrong, hcomplete⟩ := (hpredictive _ hmem).fails hrun
      -- The word itself is behind: the alternative stays chosen whatever is put there.
      obtain ⟨block', rfl⟩ := (h _ hmem).exists_block hkeyword hrun hblock
      have hsame : ∀ rest, (firstOf expected (alternatives.map Prod.snd)).run
          (first :: block' ++ rest) = production.run (first :: block' ++ rest) :=
        fun rest => run_firstOf_of_mem expected h hwords hmem hkeyword (block' ++ rest)
      refine ⟨first :: block', hblock, fun token htoken rest result hread => ?_,
        fun token htoken => ?_⟩
      · rw [hsame] at hread
        exact hwrong token htoken rest result hread
      · obtain ⟨rest, a, hread⟩ := hcomplete token htoken
        refine ⟨rest, a, ?_⟩
        rw [hsame]
        exact hread

end Production
end ColumnarSql
