import ColumnarSql.Proofs.Lexeme.Denotation
import ColumnarSql.Proofs.Token

/-!
# The cut of a text into its tokens

A `Piece` is one token of a text with the characters that it was written with and the white
space in front of it.  Pieces are cut rightly from a text (`IsCut`) if the white space is white
space, the characters stand for the token, and what follows does not go on with them.

The loop of `tokenizeWith` is described for a text that begins with such pieces, whatever stands
behind them: it gives the tokens of the pieces and goes on there (`tokenizeWith_textOf`).  And
every text begins with pieces up to a place where nothing more is found (`exists_isCut`).  So what
the loop does with a text is known in every case (`tokenizeWith_of_isCut`), and

* `tokenize_eq_ok_iff`: a text has tokens exactly if it is made of pieces and white space, and
  then its tokens are those of the pieces;
* `IsCut.unique`: a text is made of pieces in one way only.

No step of these proofs looks into a scanner.  All they use is `Lexeme.firstMatch_eq_some_iff`,
which says what the scanners find together.
-/

namespace ColumnarSql

open Lexeme (Denotes furtherOf)

/-- White space and nothing else. -/
def Blank (text : List Char) : Prop :=
  ∀ c ∈ text, Punctuation.isBlank c = true

instance (text : List Char) : Decidable (Blank text) :=
  decidable_of_iff _ List.all_eq_true

/-- A token of a text with the characters that it takes up there. -/
structure Piece where
  /-- The white space in front of the token. -/
  gap : List Char
  text : List Char
  kind : TokenKind
  value : String
  deriving DecidableEq, Repr

/-- The characters that a piece takes up. -/
def Piece.written (piece : Piece) : List Char :=
  piece.gap ++ piece.text

/-- The token of a piece, its place aside. -/
def Piece.token (piece : Piece) : Token :=
  ⟨piece.kind, piece.value, .start⟩

/-- The text of some pieces with what stands behind them. -/
def textOf (pieces : List Piece) (tail : List Char) : List Char :=
  pieces.flatMap Piece.written ++ tail

/-- The tokens of some pieces that begin at a place. -/
def tokensOf (location : Location) : List Piece → List Token
  | [] => []
  | piece :: pieces =>
    ⟨piece.kind, piece.value, location.after piece.gap⟩ ::
      tokensOf (location.after piece.written) pieces

/-- The value of the last token up to the end of some pieces. -/
def lastValue (after : Option String) : List Piece → Option String
  | [] => after
  | piece :: pieces => lastValue (some piece.value) pieces

/-- **Pieces are cut rightly** from the front of a text that goes on with a tail. -/
inductive IsCut : List Piece → List Char → Prop
  | nil {tail : List Char} : IsCut [] tail
  /-- White space, a text that stands for the token, and behind it nothing that goes on with
  this text. -/
  | cons {piece : Piece} {pieces : List Piece} {tail : List Char} (hgap : Blank piece.gap)
      (hdenotes : Denotes piece.text piece.kind piece.value)
      (hends : Ends (furtherOf piece.text piece.kind) (textOf pieces tail))
      (hothers : IsCut pieces tail) : IsCut (piece :: pieces) tail

theorem isCut_cons_iff {piece : Piece} {pieces : List Piece} {tail : List Char} :
    IsCut (piece :: pieces) tail ↔
      Blank piece.gap ∧ Denotes piece.text piece.kind piece.value ∧
        Ends (furtherOf piece.text piece.kind) (textOf pieces tail) ∧ IsCut pieces tail := by
  constructor
  · rintro (_ | ⟨hgap, hdenotes, hends, hothers⟩)
    exact ⟨hgap, hdenotes, hends, hothers⟩
  · rintro ⟨hgap, hdenotes, hends, hothers⟩
    exact .cons hgap hdenotes hends hothers

instance instDecidableIsCut :
    ∀ (pieces : List Piece) (tail : List Char), Decidable (IsCut pieces tail)
  | [], _ => isTrue .nil
  | _ :: pieces, tail =>
    have := instDecidableIsCut pieces tail
    decidable_of_iff _ isCut_cons_iff.symm

section Texts

variable (piece : Piece) (pieces : List Piece) (tail : List Char) (location : Location)

@[simp] theorem textOf_nil : textOf [] tail = tail :=
  rfl

theorem textOf_cons :
    textOf (piece :: pieces) tail = piece.gap ++ (piece.text ++ textOf pieces tail) := by
  simp only [textOf, Piece.written, List.flatMap_cons, List.append_assoc]

theorem textOf_append_tail (more : List Char) :
    textOf pieces (tail ++ more) = textOf pieces tail ++ more := by
  simp only [textOf, List.append_assoc]

theorem tokensOf_unplaced :
    (tokensOf location pieces).map Token.unplaced = pieces.map Piece.token := by
  induction pieces generalizing location with
  | nil => rfl
  | cons piece pieces ih => rw [tokensOf, List.map_cons, List.map_cons, ih]; rfl

/-- The last value is that of the last token. -/
theorem lastValue_eq (after : Option String) :
    lastValue after pieces = ((tokensOf location pieces).getLast?.map Token.value).or after := by
  induction pieces generalizing after location with
  | nil => rfl
  | cons piece pieces ih =>
    rw [lastValue, tokensOf, ih (location.after piece.written), List.getLast?_cons]
    cases (tokensOf (location.after piece.written) pieces).getLast? <;> rfl

end Texts

theorem IsCut.denotes {pieces : List Piece} {tail : List Char} (h : IsCut pieces tail) :
    ∀ piece ∈ pieces, Denotes piece.text piece.kind piece.value := by
  induction h with
  | nil => simp
  | cons hgap hdenotes hends hothers ih => exact List.forall_mem_cons.2 ⟨hdenotes, ih⟩

/-- More text may follow, if the last piece does not go on with it. -/
theorem IsCut.append_tail {pieces : List Piece} {tail : List Char} (h : IsCut pieces tail)
    {more : List Char} (hlast : ∀ piece ∈ pieces.getLast?,
      Ends (furtherOf piece.text piece.kind) (tail ++ more)) : IsCut pieces (tail ++ more) := by
  induction h with
  | nil => exact .nil
  | @cons piece pieces tail hgap hdenotes hends hothers ih =>
    by_cases hnil : pieces = []
    · subst hnil
      exact .cons hgap hdenotes (hlast piece rfl) .nil
    · obtain ⟨other, others, rfl⟩ := List.exists_cons_of_ne_nil hnil
      rw [List.getLast?_cons_cons] at hlast
      refine .cons hgap hdenotes ?_ (ih hlast)
      rw [textOf_append_tail]
      -- another piece follows, so what comes behind the tail is not seen from here
      refine hends.append_left (fun htext => ?_) more
      cases hothers with
      | cons _ hother _ _ => simp [textOf_cons, hother.ne_nil] at htext

/-- Less text may follow. -/
theorem IsCut.of_append_tail {pieces : List Piece} {tail more : List Char}
    (h : IsCut pieces (tail ++ more)) : IsCut pieces tail := by
  induction pieces with
  | nil => exact .nil
  | cons piece pieces ih =>
    obtain ⟨hgap, hdenotes, hends, hothers⟩ := isCut_cons_iff.1 h
    rw [textOf_append_tail] at hends
    exact .cons hgap hdenotes hends.of_append (ih hothers)

/-! ## The loop along a cut -/

section Loop

variable {after : Option String} {location : Location} {rest tail : List Char}

theorem tokenizeWith_blank {c : Char} (hc : Punctuation.isBlank c = true) :
    tokenizeWith scanners after location (c :: rest) =
      tokenizeWith scanners after (location.next c) rest :=
  tokenizeWith_of_blank (Lexeme.firstMatch_of_blank hc rest) rfl

/-- White space is passed over. -/
theorem tokenizeWith_gap {gap : List Char} (hgap : Blank gap) :
    tokenizeWith scanners after location (gap ++ rest) =
      tokenizeWith scanners after (location.after gap) rest := by
  induction gap generalizing location with
  | nil => rfl
  | cons c gap ih =>
    rw [List.cons_append, tokenizeWith_blank (hgap c List.mem_cons_self), Location.after_cons]
    exact ih fun c' hc' => hgap c' (List.mem_cons_of_mem _ hc')

/-- A text that stands for a token gives this token. -/
theorem tokenizeWith_denoted {text : List Char} {kind : TokenKind} {value : String}
    (hdenotes : Denotes text kind value) (hends : Ends (furtherOf text kind) rest) :
    tokenizeWith scanners after location (text ++ rest) =
      (tokenizeWith scanners (some value) (location.after text) rest).map
        (⟨kind, value, location⟩ :: ·) :=
  tokenizeWith_of_token (Lexeme.firstMatch_of_denotes hdenotes hends) rfl

/-- **Pieces at the front of a text** give their tokens, and the loop goes on behind them. -/
theorem tokenizeWith_textOf {pieces : List Piece} (h : IsCut pieces tail) :
    tokenizeWith scanners after location (textOf pieces tail) =
      (tokenizeWith scanners (lastValue after pieces)
        (location.after (pieces.flatMap Piece.written)) tail).map
          (tokensOf location pieces ++ ·) := by
  induction h generalizing after location with
  | @nil tail =>
    show tokenizeWith scanners after location tail =
      (tokenizeWith scanners after location tail).map ([] ++ ·)
    cases tokenizeWith scanners after location tail <;> rfl
  | @cons piece pieces tail hgap hdenotes hends hothers ih =>
    rw [textOf_cons, tokenizeWith_gap hgap, tokenizeWith_denoted hdenotes hends, ih,
      ← Location.after_append, ← Location.after_append, List.flatMap_cons, Piece.written,
      lastValue, tokensOf]
    cases tokenizeWith scanners (lastValue (some piece.value) pieces)
      (location.after (piece.gap ++ piece.text ++ pieces.flatMap Piece.written)) tail <;> rfl

end Loop

/-! ## Every text has a cut -/

/-- **Every text begins with pieces** up to some white space behind which nothing is found. -/
theorem exists_isCut (source : List Char) : ∃ pieces gap rest,
    IsCut pieces (gap ++ rest) ∧ Blank gap ∧ Scanner.firstMatch scanners rest = none ∧
      textOf pieces (gap ++ rest) = source := by
  induction hlength : source.length using Nat.strongRecOn generalizing source with
  | ind length ih =>
    cases hfound : Scanner.firstMatch scanners source with
    | none => exact ⟨[], [], source, .nil, by simp [Blank], hfound, rfl⟩
    | some lexeme =>
      have hshorter : lexeme.rest.length < length := hlength ▸ Scanner.length_rest_lt hfound
      obtain ⟨pieces, gap, rest, hcut, hgap, hnone, htext⟩ := ih _ hshorter lexeme.rest rfl
      obtain ⟨hsource, hvalid⟩ := Lexeme.firstMatch_eq_some_iff.1 hfound
      cases hvalid with
      | @token text _ kind value hdenotes hends =>
        refine ⟨⟨[], text, kind, value⟩ :: pieces, gap, rest, ?_, hgap, hnone, ?_⟩
        · exact .cons (by simp [Blank]) hdenotes (htext.symm ▸ hends) hcut
        · rw [textOf_cons, htext]
          exact hsource
      | @blank c _ hblank =>
        -- the character joins the white space in front of whatever is first
        cases hcut with
        | nil =>
          refine ⟨[], c :: gap, rest, .nil, List.forall_mem_cons.2 ⟨hblank, hgap⟩, hnone, ?_⟩
          rw [textOf_nil] at htext ⊢
          rw [← hsource, ← htext]
          rfl
        | @cons piece pieces _ hfront hdenotes hends hothers =>
          refine ⟨{ piece with gap := c :: piece.gap } :: pieces, gap, rest, ?_, hgap, hnone, ?_⟩
          · exact .cons (List.forall_mem_cons.2 ⟨hblank, hfront⟩) hdenotes hends hothers
          · rw [textOf_cons] at htext ⊢
            rw [← hsource, ← htext]
            rfl

/-- **What the loop does with a text**: it gives the tokens of the pieces, unless something is
left behind them and white space. -/
theorem tokenizeWith_of_isCut {pieces : List Piece} {gap rest : List Char}
    (hcut : IsCut pieces (gap ++ rest)) (hgap : Blank gap)
    (hnone : Scanner.firstMatch scanners rest = none) (after : Option String)
    (location : Location) :
    tokenizeWith scanners after location (textOf pieces (gap ++ rest)) =
      if rest = [] then
        .ok (tokensOf location pieces)
      else
        .error ⟨location.after (pieces.flatMap Piece.written ++ gap), lastValue after pieces⟩ := by
  rw [tokenizeWith_textOf hcut, tokenizeWith_gap hgap, ← Location.after_append]
  by_cases hrest : rest = []
  · rw [if_pos hrest, hrest, tokenizeWith_nil]
    exact congrArg Except.ok (List.append_nil _)
  · rw [if_neg hrest, tokenizeWith_of_none hrest hnone]
    rfl

/-- Pieces and white space give the tokens of the pieces. -/
theorem IsCut.tokenizeWith {pieces : List Piece} {tail : List Char} (hcut : IsCut pieces tail)
    (htail : Blank tail) (after : Option String) (location : Location) :
    tokenizeWith scanners after location (textOf pieces tail) =
      .ok (tokensOf location pieces) := by
  rw [← List.append_nil tail] at hcut ⊢
  rw [tokenizeWith_of_isCut hcut htail rfl, if_pos rfl]

/-- **A text has tokens** exactly if it is made of pieces and white space, and then its tokens
are those of the pieces. -/
theorem tokenize_eq_ok_iff {source : String} {tokens : List Token} :
    tokenize source = .ok tokens ↔
      ∃ pieces tail, IsCut pieces tail ∧ Blank tail ∧ textOf pieces tail = source.toList ∧
        tokensOf .start pieces = tokens := by
  constructor
  · intro h
    obtain ⟨pieces, gap, rest, hcut, hgap, hnone, htext⟩ := exists_isCut source.toList
    have hloop := tokenizeWith_of_isCut hcut hgap hnone none .start
    rw [tokenize, ← htext, hloop] at h
    split at h
    · next hrest =>
      rw [hrest, List.append_nil] at hcut htext
      exact ⟨pieces, gap, hcut, hgap, htext, Except.ok.inj h⟩
    · simp at h
  · rintro ⟨pieces, tail, hcut, htail, htext, rfl⟩
    rw [tokenize, ← htext]
    exact hcut.tokenizeWith htail none .start

/-! ## There is only one cut -/

/-- Where a piece begins is not in white space. -/
theorem Lexeme.Denotes.not_blank {text rest : List Char} {kind : TokenKind} {value : String}
    (h : Denotes text kind value) (hends : Ends (furtherOf text kind) rest) :
    ¬ Blank (text ++ rest) := by
  obtain ⟨c, others, rfl⟩ := List.exists_cons_of_ne_nil h.ne_nil
  intro hblank
  have hc := ends_cons_iff.1 (h.ends_blank hends)
  simp [hblank c List.mem_cons_self] at hc

/-- **A text is made of pieces in one way only.** -/
theorem IsCut.unique {pieces pieces' : List Piece} {tail tail' : List Char}
    (h : IsCut pieces tail) (htail : Blank tail) (h' : IsCut pieces' tail')
    (htail' : Blank tail') (htext : textOf pieces tail = textOf pieces' tail') :
    pieces = pieces' ∧ tail = tail' := by
  induction h generalizing pieces' with
  | nil =>
    cases h' with
    | nil => exact ⟨rfl, htext⟩
    | cons hgap hdenotes hends hothers =>
      rw [textOf_nil, textOf_cons] at htext
      refine absurd (fun c hc => htail c ?_) (hdenotes.not_blank hends)
      rw [htext]
      exact List.mem_append_right _ hc
  | @cons piece pieces tail hgap hdenotes hends hothers ih =>
    cases h' with
    | nil =>
      rw [textOf_nil, textOf_cons] at htext
      refine absurd (fun c hc => htail' c ?_) (hdenotes.not_blank hends)
      rw [← htext]
      exact List.mem_append_right _ hc
    | @cons piece' pieces' _ hgap' hdenotes' hends' hothers' =>
      rw [textOf_cons, textOf_cons] at htext
      have hgaps := eq_of_ends htext hgap' (hdenotes'.ends_blank hends') hgap
        (hdenotes.ends_blank hends)
      rw [hgaps, List.append_cancel_left_eq] at htext
      have hfound := Lexeme.firstMatch_of_denotes hdenotes hends
      rw [htext, Lexeme.firstMatch_of_denotes hdenotes' hends'] at hfound
      obtain ⟨htexts, ⟨hkinds, hvalues⟩, hrest⟩ : piece'.text = piece.text ∧
          (piece'.kind = piece.kind ∧ piece'.value = piece.value) ∧
            textOf pieces' tail' = textOf pieces tail := by
        simpa using hfound
      obtain ⟨rfl, rfl⟩ := ih htail hothers' hrest.symm
      obtain ⟨gap, text, kind, value⟩ := piece
      obtain ⟨gap', text', kind', value'⟩ := piece'
      simp_all

/-- **Nothing is lost, invented or moved.**  A text has tokens exactly if it is made of white space
and one text for each of them, in their order.  None of these texts is empty, and each stands for
its token and for no other; and the text is made of such pieces in one way only. -/
theorem tokenize_lossless (source : String) :
    (∀ tokens, tokenize source = .ok tokens ↔
      ∃ pieces tail, IsCut pieces tail ∧ Blank tail ∧ textOf pieces tail = source.toList ∧
        tokensOf .start pieces = tokens) ∧
    ∀ pieces tail, IsCut pieces tail → Blank tail → textOf pieces tail = source.toList →
      (∀ piece ∈ pieces, piece.text ≠ [] ∧ ∀ kind value,
        Denotes piece.text kind value → kind = piece.kind ∧ value = piece.value) ∧
      ∀ pieces' tail', IsCut pieces' tail' → Blank tail' →
        textOf pieces' tail' = source.toList → pieces' = pieces ∧ tail' = tail := by
  refine ⟨fun tokens => tokenize_eq_ok_iff, fun pieces tail hcut htail htext => ⟨?_, ?_⟩⟩
  · intro piece hpiece
    have hdenotes := hcut.denotes piece hpiece
    exact ⟨hdenotes.ne_nil, fun kind value hother => hother.unique hdenotes⟩
  · intro pieces' tail' hcut' htail' htext'
    exact hcut'.unique htail' hcut htail (htext'.trans htext.symm)

/-- A statement with lexemes that touch, and with all that changes between a text and its
tokens. -/
def samplePieces : List Piece :=
  [⟨[], "inSert".toList, .keyword, "insert"⟩, ⟨[' '], "INTO".toList, .keyword, "into"⟩,
    ⟨[], "\"a\"\"b\"".toList, .identifier, "a\"b"⟩,
    ⟨[' ', '\n'], "valueS".toList, .keyword, "values"⟩, ⟨[], ['('], .symbol, "("⟩,
    ⟨[], "'it''s'".toList, .string, "it's"⟩, ⟨[], [','], .symbol, ","⟩,
    ⟨[' '], "1.5e7".toList, .number, "1.5e7"⟩, ⟨[], [')'], .symbol, ")"⟩,
    ⟨[], [';'], .symbol, ";"⟩]

theorem tokenize_lossless_samplePieces :
    tokenize "inSert INTO\"a\"\"b\" \nvalueS('it''s', 1.5e7);\n" =
        .ok (tokensOf .start samplePieces) ∧
      ∀ pieces tail, IsCut pieces tail → Blank tail →
        textOf pieces tail = "inSert INTO\"a\"\"b\" \nvalueS('it''s', 1.5e7);\n".toList →
          pieces = samplePieces ∧ tail = ['\n'] := by
  have hcut : IsCut samplePieces ['\n'] := by
    decide +kernel
  have htail : Blank ['\n'] := by
    decide
  have htext : textOf samplePieces ['\n'] =
      "inSert INTO\"a\"\"b\" \nvalueS('it''s', 1.5e7);\n".toList := by
    decide +kernel
  obtain ⟨haccepts, hpieces⟩ :=
    tokenize_lossless "inSert INTO\"a\"\"b\" \nvalueS('it''s', 1.5e7);\n"
  obtain ⟨-, hunique⟩ := hpieces samplePieces ['\n'] hcut htail htext
  exact ⟨(haccepts _).2 ⟨samplePieces, ['\n'], hcut, htail, htext, rfl⟩, hunique⟩

end ColumnarSql
