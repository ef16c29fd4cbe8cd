import ColumnarSql.Proofs.Grammar.ViablePrefix
import ColumnarSql.Proofs.Lexeme.Cut
import Mathlib.Data.List.Induction

/-!
# Places of tokens and errors

The loop of `tokenizeWith` never counts.  It carries a place along and moves it over one lexeme at
a time.  A reader of a message counts: the lines before the place, and the characters of its own
line.  `Location.behind` is the place that is found in this way behind a text.

* `Location.after_start`: carried along from the start of a text, a place is the one that is
  counted.
* `Location.lt_after`: a place moves on with every character, by line or else by column.
* `getElem?_tokensOf`: a token has the place behind the text in front of its first character,
  whatever line feeds the tokens in that text contain.
* `exists_location_of_parse_error`: an error in the grammar has the place of one of the tokens.

A literal may run over several lines, and what it stands for is shorter than what is written.  So
the places of tokens are not to be had from their values, and `Piece` keeps what is written.
-/

namespace ColumnarSql

namespace Location

/-! ## Counting -/

/-- **The place behind a text**: the line feeds in it, and the characters behind the last of
these. -/
def behind (text : List Char) : Location :=
  ⟨text.count '\n', (text.reverse.takeWhile (· ≠ '\n')).length⟩

theorem behind_concat (text : List Char) (c : Char) :
    behind (text ++ [c]) = (behind text).next c := by
  by_cases hc : c = '\n'
  · subst hc
    simp [behind, next]
  · simp [behind, next, hc]

/-- **A place that is carried along a text** is the one that is counted behind it. -/
theorem after_start (text : List Char) : start.after text = behind text := by
  induction text using List.reverseRecOn with
  | nil => rfl
  | append_singleton text c ih =>
    rw [after_append, ih, behind_concat]
    rfl

/-! ## The order of places -/

/-- Places come in the order of their lines, and in a line in that of their columns. -/
instance : LT Location where
  lt first second :=
    first.line < second.line ∨ first.line = second.line ∧ first.column < second.column

theorem lt_iff {first second : Location} :
    first < second ↔
      first.line < second.line ∨ first.line = second.line ∧ first.column < second.column :=
  Iff.rfl

instance (first second : Location) : Decidable (first < second) :=
  decidable_of_iff _ lt_iff.symm

theorem lt_trans {first second third : Location} (h : first < second) (h' : second < third) :
    first < third := by
  rw [lt_iff] at h h' ⊢
  omega

/-- A line feed leads to a later line, and any other character to a later column. -/
theorem lt_next (location : Location) (c : Char) : location < location.next c := by
  rw [lt_iff, next]
  split
  · exact .inl (Nat.lt_succ_self _)
  · exact .inr ⟨rfl, Nat.lt_succ_self _⟩

/-- Behind some text is later than before it. -/
theorem lt_after {text : List Char} (hne : text ≠ []) (location : Location) :
    location < location.after text := by
  induction text generalizing location with
  | nil => exact absurd rfl hne
  | cons c text ih =>
    rw [after_cons]
    by_cases htext : text = []
    · rw [htext, after_nil]
      exact location.lt_next c
    · exact lt_trans (location.lt_next c) (ih htext _)

end Location

/-! ## The tokens of pieces -/

section Tokens

variable {pieces : List Piece} {location : Location}

theorem textOf_append (pieces others : List Piece) (tail : List Char) :
    textOf (pieces ++ others) tail = textOf pieces (textOf others tail) := by
  simp only [textOf, List.flatMap_append, List.append_assoc]

/-- **A token has the place behind the text in front of it.** -/
theorem getElem?_tokensOf (location : Location) {i : Nat} {piece : Piece}
    (h : pieces[i]? = some piece) :
    (tokensOf location pieces)[i]? =
      some ⟨piece.kind, piece.value, location.after (textOf (pieces.take i) piece.gap)⟩ := by
  induction pieces generalizing location i with
  | nil => simp at h
  | cons first pieces ih =>
    cases i with
    | zero =>
      obtain rfl : first = piece := by simpa using h
      rfl
    | succ i =>
      rw [List.getElem?_cons_succ] at h
      rw [tokensOf, List.getElem?_cons_succ, ih _ h, List.take_succ_cons, textOf_cons,
        ← List.append_assoc, Location.after_append _ (first.gap ++ first.text)]
      rfl

/-- The text in front of a token and the token itself are the beginning of the whole text. -/
theorem textOf_take_isPrefix {i : Nat} {piece : Piece} (h : pieces[i]? = some piece)
    (tail : List Char) : textOf (pieces.take i) piece.gap ++ piece.text <+: textOf pieces tail := by
  obtain ⟨hlt, hget⟩ := List.getElem?_eq_some_iff.1 h
  refine ⟨textOf (pieces.drop (i + 1)) tail, ?_⟩
  calc textOf (pieces.take i) piece.gap ++ piece.text ++ textOf (pieces.drop (i + 1)) tail
      = textOf (pieces.take i) (textOf (piece :: pieces.drop (i + 1)) tail) := by
        rw [textOf_cons, textOf_append_tail, List.append_assoc]
    _ = textOf pieces tail := by
        rw [← textOf_append, ← hget, List.getElem_cons_drop, List.take_append_drop]

/-- No token is in front of the place where the pieces begin. -/
theorem exists_location_of_mem_tokensOf {token : Token} (h : token ∈ tokensOf location pieces) :
    ∃ before, token.location = location.after before := by
  obtain ⟨i, hi⟩ := List.mem_iff_getElem?.1 h
  have hlength : (tokensOf location pieces).length = pieces.length := by
    simpa using congrArg List.length (tokensOf_unplaced pieces location)
  have hlt : i < pieces.length := hlength ▸ (List.getElem?_eq_some_iff.1 hi).1
  rw [getElem?_tokensOf location (List.getElem?_eq_getElem hlt)] at hi
  exact ⟨_, by rw [← Option.some.inj hi]⟩

/-- **Tokens come at later and later places.** -/
theorem pairwise_tokensOf (h : ∀ piece ∈ pieces, piece.text ≠ []) (location : Location) :
    (tokensOf location pieces).Pairwise (·.location < ·.location) := by
  induction pieces generalizing location with
  | nil => exact .nil
  | cons piece pieces ih =>
    obtain ⟨hpiece, hothers⟩ := List.forall_mem_cons.1 h
    refine .cons (fun token htoken => ?_) (ih hothers _)
    obtain ⟨before, hbefore⟩ := exists_location_of_mem_tokensOf htoken
    rw [hbefore, Piece.written, Location.after_append, ← Location.after_append]
    exact Location.lt_after (by simp [hpiece]) _

/-- Behind all pieces is later than any of their tokens. -/
theorem lt_of_mem_tokensOf (h : ∀ piece ∈ pieces, piece.text ≠ []) {token : Token}
    (htoken : token ∈ tokensOf location pieces) (tail : List Char) :
    token.location < location.after (textOf pieces tail) := by
  induction pieces generalizing location with
  | nil => simp [tokensOf] at htoken
  | cons piece pieces ih =>
    obtain ⟨hpiece, hothers⟩ := List.forall_mem_cons.1 h
    rw [textOf_cons, Location.after_append]
    rcases List.mem_cons.1 htoken with rfl | htoken
    · exact Location.lt_after (by simp [hpiece]) _
    · rw [Location.after_append, ← Location.after_append _ piece.gap]
      exact ih hothers htoken

end Tokens

/-! ## Errors in the grammar -/

/-- An error in the grammar is at the place of a token, the last one if the tokens end too
early. -/
theorem exists_location_of_parse_error {tokens : List Token} {error : ParseError}
    (h : parse tokens = .error error) :
    (∃ token ∈ tokens, error.location = token.location) ∨
      tokens = [] ∧ error.location = .start := by
  obtain ⟨failure, hrun, rfl⟩ := Grammar.parse_eq_error_iff.1 h
  obtain ⟨block, hblock, -, -⟩ := Grammar.viable_of_failure hrun
  cases hnext : failure.rest.head?.or tokens.getLast? with
  | none =>
    obtain ⟨-, hlast⟩ := Option.or_eq_none_iff.1 hnext
    refine .inr ⟨List.getLast?_eq_none_iff.1 hlast, ?_⟩
    simp [ParseError.ofFailure, hnext]
  | some token =>
    refine .inl ⟨token, ?_, by simp [ParseError.ofFailure, hnext]⟩
    rcases Option.or_eq_some_iff.1 hnext with hhead | ⟨-, hlast⟩
    · rw [← hblock]
      exact List.mem_append_right _ (List.mem_of_head? hhead)
    · exact List.mem_of_getLast? hlast

/-- **Places are exact.**  Every text is cut into pieces up to some place, and the tokens that the
loop gives are those of the pieces.  Each has the place that is found by counting in the text in
front of its first character, so each is later than the ones before it.  If the pieces and white
space are not the whole text, then the error has the place that is found by counting in all of
them, which is later than that of every token.  And if the tokens are no script, then the error has
the place of one of them. -/
theorem places_are_exact (source : String) :
    ∃ pieces gap rest tokens, IsCut pieces (gap ++ rest) ∧ Blank gap ∧
      Scanner.firstMatch scanners rest = none ∧ textOf pieces (gap ++ rest) = source.toList ∧
      tokens.map Token.unplaced = pieces.map Piece.token ∧
      (∀ i piece, pieces[i]? = some piece →
        textOf (pieces.take i) piece.gap ++ piece.text <+: source.toList ∧
        tokens[i]?.map (·.location) = some (.behind (textOf (pieces.take i) piece.gap))) ∧
      tokens.Pairwise (·.location < ·.location) ∧
      (rest = [] → tokenize source = .ok tokens) ∧
      (rest ≠ [] →
        tokenize source =
          .error ⟨.behind (textOf pieces gap), tokens.getLast?.map Token.value⟩ ∧
        ∀ token ∈ tokens, token.location < .behind (textOf pieces gap)) ∧
      ∀ error, parse tokens = .error error →
        (∃ token ∈ tokens, error.location = token.location) ∨
          tokens = [] ∧ error.location = ⟨0, 0⟩ := by
  obtain ⟨pieces, gap, rest, hcut, hgap, hnone, htext⟩ := exists_isCut source.toList
  have hpieces : ∀ piece ∈ pieces, piece.text ≠ [] := fun piece hpiece =>
    (hcut.denotes piece hpiece).ne_nil
  have hloop := tokenizeWith_of_isCut hcut hgap hnone none .start
  rw [htext] at hloop
  refine ⟨pieces, gap, rest, tokensOf .start pieces, hcut, hgap, hnone, htext,
    tokensOf_unplaced pieces .start, fun i piece hpiece => ⟨?_, ?_⟩, pairwise_tokensOf hpieces _,
    fun hrest => ?_, fun hrest => ⟨?_, fun token htoken => ?_⟩,
    fun error => exists_location_of_parse_error⟩
  · rw [← htext]
    exact textOf_take_isPrefix hpiece _
  · rw [getElem?_tokensOf .start hpiece, Option.map_some, Location.after_start]
  · rw [tokenize, hloop, if_pos hrest]
  · rw [tokenize, hloop, if_neg hrest, lastValue_eq pieces .start, Option.or_none, ← textOf,
      Location.after_start]
  · rw [← Location.after_start]
    exact lt_of_mem_tokensOf hpieces htoken gap

/-- The tokens of `SELECT 'it''s`, `on', "a`, `b"` and `;` on four lines: a text with a doubled
delimiter and a name, each of which runs over the end of a line. -/
def multilineTokens : List Token :=
  [⟨.keyword, "select", ⟨0, 0⟩⟩, ⟨.string, "it's\non", ⟨0, 7⟩⟩, ⟨.symbol, ",", ⟨1, 3⟩⟩,
    ⟨.identifier, "a\nb", ⟨1, 5⟩⟩, ⟨.symbol, ";", ⟨3, 0⟩⟩]

/-- The tokens of the four lines come at later and later places, and the semicolon is where the
question goes wrong.  A malformed number is refused at its own place behind a text of two lines. -/
theorem places_are_exact_multilineTokens :
    tokenize "SELECT 'it''s\non', \"a\nb\"\n;" = .ok multilineTokens ∧
      multilineTokens.Pairwise (·.location < ·.location) ∧
      parse multilineTokens = .error ⟨⟨3, 0⟩, .keyword .FROM, some ";"⟩ ∧
      ((∃ token ∈ multilineTokens, ⟨3, 0⟩ = token.location) ∨
        multilineTokens = [] ∧ (⟨3, 0⟩ : Location) = ⟨0, 0⟩) ∧
      tokenize "'a\nb' 1.2.3" = .error ⟨⟨1, 3⟩, some "a\nb"⟩ ∧
      ∃ pieces gap rest, IsCut pieces (gap ++ rest) ∧
        textOf pieces (gap ++ rest) = "'a\nb' 1.2.3".toList ∧
        ⟨1, 3⟩ = Location.behind (textOf pieces gap) := by
  have htokens : tokenize "SELECT 'it''s\non', \"a\nb\"\n;" = .ok multilineTokens := by
    decide +kernel
  have hparse : parse multilineTokens = .error ⟨⟨3, 0⟩, .keyword .FROM, some ";"⟩ := by
    decide +kernel
  have hnumber : tokenize "'a\nb' 1.2.3" = .error ⟨⟨1, 3⟩, some "a\nb"⟩ := by
    decide +kernel
  obtain ⟨pieces, gap, rest, tokens, -, -, -, -, -, -, hlater, hall, herror, hplaces⟩ :=
    places_are_exact "SELECT 'it''s\non', \"a\nb\"\n;"
  obtain ⟨pieces', gap', rest', tokens', hcut', -, -, htext', -, -, -, hall', herror', -⟩ :=
    places_are_exact "'a\nb' 1.2.3"
  obtain rfl : tokens = multilineTokens := by
    by_cases hrest : rest = []
    · exact Except.ok.inj ((hall hrest).symm.trans htokens)
    · exact absurd (htokens.symm.trans (herror hrest).1) (by simp)
  refine ⟨htokens, hlater, hparse, hplaces _ hparse, hnumber, pieces', gap', rest', hcut', htext',
    ?_⟩
  by_cases hrest : rest' = []
  · exact absurd (hnumber.symm.trans (hall' hrest)) (by simp)
  · exact congrArg LexError.location (Except.error.inj (hnumber.symm.trans (herror' hrest).1))

end ColumnarSql
