import ColumnarSql.Proofs.Lexeme.Relayout

/-!
# One text behind another

Two texts with white space between them have the tokens of the first and then those of the second,
and where the second one is refused, so are both together, for the same reason.  Only places change:
those of the second text are counted from its own beginning, and have to be counted from the
beginning of the first.  `Location.movedBy` does this.  A line of the second text keeps its columns,
except for the first, which goes on with the last line of the text before.

There are two halves to the argument.  Nothing of the first text reaches over the white space,
because no lexeme goes on with it; this is known from cuts.  And the second text is read in the same
way wherever it stands (`tokenizeWith_movedBy`), because a scanner sees what lies ahead and nothing
else.  This half holds of any scanners at all: a place and the value of the last token go into what
the loop reports, and decide nothing.
-/

namespace ColumnarSql

/-! ## Places -/

/-- A place of a text that begins at `origin`, if it is `location` when counted from the beginning
of this text. -/
def Location.movedBy (origin location : Location) : Location :=
  if location.line = 0 then
    ⟨origin.line, origin.column + location.column⟩
  else
    ⟨origin.line + location.line, location.column⟩

/-- A token of a text that begins at `origin`. -/
def Token.movedBy (origin : Location) (token : Token) : Token :=
  ⟨token.kind, token.value, origin.movedBy token.location⟩

/-- The error of a text that begins at `origin`, behind a token with the value `before`. -/
def LexError.movedBy (origin : Location) (before : Option String) (error : LexError) : LexError :=
  ⟨origin.movedBy error.location, error.after.or before⟩

namespace Location

theorem movedBy_start (origin : Location) : origin.movedBy start = origin := by
  simp [movedBy, start]

theorem movedBy_next (origin location : Location) (c : Char) :
    origin.movedBy (location.next c) = (origin.movedBy location).next c := by
  rw [next, next]
  by_cases hc : c = '\n'
  · rw [if_pos hc, if_pos hc]
    by_cases hline : location.line = 0 <;> simp [movedBy, hline, Nat.add_assoc]
  · rw [if_neg hc, if_neg hc]
    by_cases hline : location.line = 0 <;> simp [movedBy, hline, Nat.add_assoc]

/-- Passing over a text commutes with moving it. -/
theorem movedBy_after (origin location : Location) (text : List Char) :
    origin.movedBy (location.after text) = (origin.movedBy location).after text := by
  induction text generalizing location with
  | nil => rfl
  | cons c text ih => rw [after_cons, after_cons, ih, movedBy_next]

end Location

/-! ## A text in another place -/

/-- What is read of a text that begins at `origin` behind a token with the value `before`, if
`result` is read of the text on its own. -/
def readAt (origin : Location) (before : Option String) (result : Except LexError (List Token)) :
    Except LexError (List Token) :=
  match result with
  | .error error => .error (error.movedBy origin before)
  | .ok tokens => .ok (tokens.map (Token.movedBy origin))

theorem readAt_map_cons (origin : Location) (before : Option String) (token : Token)
    (result : Except LexError (List Token)) :
    readAt origin before (result.map (token :: ·)) =
      (readAt origin before result).map (token.movedBy origin :: ·) := by
  cases result <;> rfl

/-- **A text is read in the same way wherever it stands.** -/
theorem tokenizeWith_movedBy (scanners : List Scanner) (origin : Location)
    (before after : Option String) (location : Location) (source : List Char) :
    tokenizeWith scanners (after.or before) (origin.movedBy location) source =
      readAt origin before (tokenizeWith scanners after location source) := by
  fun_induction tokenizeWith scanners after location source with
  | case1 => exact tokenizeWith_nil
  | case2 after location source hne hnone => exact tokenizeWith_of_none hne hnone
  | case3 after location source _ lexeme hfound htoken ih =>
    rw [tokenizeWith_of_blank hfound htoken, ← Location.movedBy_after]
    exact ih
  | case4 after location source _ lexeme hfound kind value htoken ih =>
    -- from here on the last token is one of the text itself, so what stood before is forgotten
    rw [tokenizeWith_of_token hfound htoken, ← Location.movedBy_after, readAt_map_cons, ← ih,
      Option.some_or]
    rfl

/-- A text on its own begins at the start and behind no token. -/
theorem tokenizeWith_eq_readAt (origin : Location) (before : Option String) (source : String) :
    tokenizeWith scanners before origin source.toList = readAt origin before (tokenize source) := by
  have hmoved := tokenizeWith_movedBy scanners origin before none .start source.toList
  rw [Option.none_or, Location.movedBy_start] at hmoved
  exact hmoved

/-! ## White space between two texts -/

/-- **A text behind another one and white space** is read as on its own, but from another place and
behind another token. -/
theorem tokenize_append_blank {first second : String} {tokens : List Token} {c : Char}
    (hfirst : tokenize first = .ok tokens) (hblank : Punctuation.isBlank c = true) :
    tokenize (first ++ String.singleton c ++ second) =
      (readAt (Location.start.after (first ++ String.singleton c).toList)
        (tokens.getLast?.map Token.value) (tokenize second)).map (tokens ++ ·) := by
  obtain ⟨pieces, tail, hcut, htail, htext, rfl⟩ := tokenize_eq_ok_iff.1 hfirst
  have hgap : Blank (tail ++ [c]) :=
    List.forall_mem_append.2 ⟨htail, by simpa [Blank] using hblank⟩
  -- whatever is in front, the white space separates it from the second text
  have hlonger : IsCut pieces (tail ++ [c] ++ second.toList) := by
    rw [List.append_assoc]
    refine hcut.append_tail fun piece _ => ?_
    rw [← List.append_assoc]
    exact (hgap.separated.ends piece.text piece.kind).append_left (by simp) second.toList
  have htexts : (first ++ String.singleton c ++ second).toList =
      textOf pieces (tail ++ [c] ++ second.toList) := by
    rw [String.toList_append, String.toList_append, String.toList_singleton, ← htext,
      textOf_append_tail, textOf_append_tail]
  have hplace : (Location.start.after (pieces.flatMap Piece.written)).after (tail ++ [c]) =
      Location.start.after (first ++ String.singleton c).toList := by
    rw [String.toList_append, String.toList_singleton, ← htext, ← textOf_append_tail,
      ← Location.after_append]
    rfl
  rw [tokenize, htexts, tokenizeWith_textOf hlonger, tokenizeWith_gap hgap, hplace,
    tokenizeWith_eq_readAt, lastValue_eq pieces .start, Option.or_none]

/-- **White space separates texts.**  Let a text have tokens and a space, a tab, a line feed or a
carriage return stand behind it.  If another text has tokens, both together have the tokens of the first and then those of
the second, each at its place behind the end of the white space.  If the other text has none, both
together have none, and the error is that of the second text, at its place behind the end of the
white space; it tells the last token before this place, which may be one of the first text. -/
theorem tokenize_separated {first : String} {tokens : List Token} {c : Char}
    (hfirst : tokenize first = .ok tokens) (hc : c ∈ [' ', '\t', '\n', '\r'])
    (second : String) :
    (∀ tokens', tokenize second = .ok tokens' →
      tokenize (first ++ String.singleton c ++ second) =
        .ok (tokens ++ tokens'.map
          (Token.movedBy (Location.start.after (first ++ String.singleton c).toList)))) ∧
    ∀ error, tokenize second = .error error →
      tokenize (first ++ String.singleton c ++ second) =
        .error ⟨(Location.start.after (first ++ String.singleton c).toList).movedBy error.location,
          error.after.or (tokens.getLast?.map Token.value)⟩ := by
  have hblank : Punctuation.isBlank c = true := by
    simpa [Punctuation.isBlank, or_assoc] using hc
  have hboth := @tokenize_append_blank first second tokens c hfirst hblank
  refine ⟨fun tokens' hsecond => ?_, fun error hsecond => ?_⟩
  · rw [hboth, hsecond]
    rfl
  · rw [hboth, hsecond]
    rfl

/-- A text that ends within its second line goes on there, unless the white space is a line feed, and
the next line keeps its columns.  A stray character is reported behind the last token before it, in
whichever text this token is. -/
theorem tokenize_separated_secondLine :
    tokenize "'a\n'" = .ok [⟨.string, "a\n", ⟨0, 0⟩⟩] ∧
      tokenize "b\n c" = .ok [⟨.identifier, "b", ⟨0, 0⟩⟩, ⟨.identifier, "c", ⟨1, 1⟩⟩] ∧
      tokenize "!" = .error ⟨⟨0, 0⟩, none⟩ ∧ tokenize "b\n!" = .error ⟨⟨1, 0⟩, some "b"⟩ ∧
      (∀ c ∈ [' ', '\t', '\r'],
        tokenize ("'a\n'" ++ String.singleton c ++ "b\n c") = .ok [⟨.string, "a\n", ⟨0, 0⟩⟩,
          ⟨.identifier, "b", ⟨1, 2⟩⟩, ⟨.identifier, "c", ⟨2, 1⟩⟩] ∧
        tokenize ("'a\n'" ++ String.singleton c ++ "!") = .error ⟨⟨1, 2⟩, some "a\n"⟩ ∧
        tokenize ("'a\n'" ++ String.singleton c ++ "b\n!") = .error ⟨⟨2, 0⟩, some "b"⟩) ∧
      tokenize ("'a\n'" ++ String.singleton '\n' ++ "b\n c") = .ok [⟨.string, "a\n", ⟨0, 0⟩⟩,
        ⟨.identifier, "b", ⟨2, 0⟩⟩, ⟨.identifier, "c", ⟨3, 1⟩⟩] ∧
      tokenize ("'a\n'" ++ String.singleton '\n' ++ "!") = .error ⟨⟨2, 0⟩, some "a\n"⟩ ∧
      tokenize ("'a\n'" ++ String.singleton '\n' ++ "b\n!") = .error ⟨⟨3, 0⟩, some "b"⟩ := by
  have hfirst : tokenize "'a\n'" = .ok [⟨.string, "a\n", ⟨0, 0⟩⟩] := by
    decide +kernel
  have hnames : tokenize "b\n c" =
      .ok [⟨.identifier, "b", ⟨0, 0⟩⟩, ⟨.identifier, "c", ⟨1, 1⟩⟩] := by
    decide +kernel
  have hstray : tokenize "!" = .error ⟨⟨0, 0⟩, none⟩ := by
    decide +kernel
  have hlate : tokenize "b\n!" = .error ⟨⟨1, 0⟩, some "b"⟩ := by
    decide +kernel
  have hfeed : '\n' ∈ [' ', '\t', '\n', '\r'] := by
    decide
  refine ⟨hfirst, hnames, hstray, hlate, fun c hc => ?_,
    (tokenize_separated hfirst hfeed "b\n c").1 _ hnames,
    (tokenize_separated hfirst hfeed "!").2 _ hstray,
    (tokenize_separated hfirst hfeed "b\n!").2 _ hlate⟩
  have hcases : c = ' ' ∨ c = '\t' ∨ c = '\r' := by
    simpa using hc
  have hmem : c ∈ [' ', '\t', '\n', '\r'] := by
    rcases hcases with rfl | rfl | rfl <;> decide
  have hplace : Location.start.after ("'a\n'" ++ String.singleton c).toList = ⟨1, 2⟩ := by
    rcases hcases with rfl | rfl | rfl <;> decide +kernel
  have hseparated := tokenize_separated hfirst hmem
  rw [hplace] at hseparated
  exact ⟨(hseparated "b\n c").1 _ hnames, (hseparated "!").2 _ hstray,
    (hseparated "b\n!").2 _ hlate⟩

end ColumnarSql
