import ColumnarSql.Proofs.Lexeme.Reading

/-!
# Layout

The same tokens can be laid out in many ways: with other white space, and with the reserved words
in another letter case.  `Relayout` says that two lists of pieces are two layouts of the same
tokens.  White space may come and go at the ends of the text; between two tokens it may become
other white space, or come where there was none, but not go.

`IsCut.relayout` says that another layout of a right cut is a right cut.  What has to be seen is
that no lexeme begins to go on where it did not before.  The text behind a lexeme changes in two
ways only.  It may begin with white space, which goes on with nothing.  Or it begins with the same
lexeme as before; then it has the same first character, unless this lexeme is a reserved word.
The first character of a reserved word is a letter, and not an `e`, so it goes on with another
word and with nothing else, whatever its case (`Word.Spells.furtherOf_head`).
-/

namespace ColumnarSql

open Lexeme (Denotes furtherOf)

/-- **The same token in another layout**: behind other white space, and in another letter case if
it is a reserved word. -/
structure Piece.Relaid (piece piece' : Piece) : Prop where
  kind_eq : piece'.kind = piece.kind
  value_eq : piece'.value = piece.value
  gap_blank : Blank piece'.gap
  text_eq : piece'.text = piece.text ∨
    piece.kind = .keyword ∧ piece'.text.map Char.toLower = piece.text.map Char.toLower

/-- White space that separates a token from the one before it does so in another layout. -/
def Piece.KeepsGap (piece piece' : Piece) : Prop :=
  piece.gap ≠ [] → piece'.gap ≠ []

/-- **Two layouts of the same tokens.**  In front of the first token there may be white space
or not. -/
structure Relayout (pieces pieces' : List Piece) : Prop where
  each : List.Forall₂ Piece.Relaid pieces pieces'
  gaps : List.Forall₂ Piece.KeepsGap pieces.tail pieces'.tail

instance (piece piece' : Piece) : Decidable (piece.Relaid piece') :=
  decidable_of_iff (piece'.kind = piece.kind ∧ piece'.value = piece.value ∧ Blank piece'.gap ∧
      (piece'.text = piece.text ∨ piece.kind = .keyword ∧
        piece'.text.map Char.toLower = piece.text.map Char.toLower))
    ⟨fun ⟨hkind, hvalue, hgap, htext⟩ => ⟨hkind, hvalue, hgap, htext⟩,
      fun ⟨hkind, hvalue, hgap, htext⟩ => ⟨hkind, hvalue, hgap, htext⟩⟩

instance (piece piece' : Piece) : Decidable (piece.KeepsGap piece') :=
  inferInstanceAs (Decidable (_ → _))

/-! ## What follows a lexeme -/

theorem Blank.separated {text : List Char} (h : Blank text) : Separated text :=
  fun c hc => mem_separators_of_isBlank (h c (List.mem_of_mem_head? hc))

/-- The first character of a reserved word goes on with words and with nothing else. -/
theorem Word.Spells.head {word : Keyword} {c : Char} {rest : List Char}
    (h : Word.Spells word (c :: rest)) :
    Word.isWordChar c = true ∧ Number.isNumberChar c = false ∧ c ≠ '\'' ∧ c ≠ '"' := by
  obtain ⟨hascii, halpha⟩ := h.isAlpha c List.mem_cons_self
  -- of all letters only `e` goes on with a number, and no reserved word begins with it
  have hfirst : c.toLower ≠ 'e' := by
    intro he
    have hspelling : 'e' :: rest.map Char.toLower = word.spelling.toList := by
      rw [← he]
      exact Word.spells_iff.1 h
    cases word <;> exact absurd (List.cons.inj hspelling).1 (by decide)
  exact Unicode.forall_ascii
    (p := fun c => c.isAlpha = true → c.toLower ≠ 'e' →
      Word.isWordChar c = true ∧ Number.isNumberChar c = false ∧ c ≠ '\'' ∧ c ≠ '"')
    (by decide +kernel) hascii halpha hfirst

/-- For the lexeme in front it does not matter in which case a reserved word begins. -/
theorem Word.Spells.furtherOf_head {word word' : Keyword} {c c' : Char} {rest rest' : List Char}
    (h : Word.Spells word (c :: rest)) (h' : Word.Spells word' (c' :: rest'))
    (text : List Char) (kind : TokenKind) : furtherOf text kind c = furtherOf text kind c' := by
  obtain ⟨hword, hnumber, hapostrophe, hquote⟩ := h.head
  obtain ⟨hword', hnumber', hapostrophe', hquote'⟩ := h'.head
  cases kind with
  | keyword => exact hword.trans hword'.symm
  | symbol => rfl
  | number => exact hnumber.trans hnumber'.symm
  | string => simp [furtherOf, hapostrophe, hapostrophe']
  | identifier =>
    rw [furtherOf]
    split
    · simp [hquote, hquote']
    · exact hword.trans hword'.symm

/-! ## Another layout of a cut -/

variable {piece piece' : Piece} {pieces pieces' : List Piece} {tail tail' : List Char}

/-- A token stays the same token in another layout. -/
theorem Piece.Relaid.denotes (h : piece.Relaid piece')
    (hdenotes : Denotes piece.text piece.kind piece.value) :
    Denotes piece'.text piece'.kind piece'.value := by
  rw [h.kind_eq, h.value_eq]
  rcases h.text_eq with hsame | ⟨hkind, hcase⟩
  · rw [hsame]
    exact hdenotes
  · rw [hkind, Lexeme.denotes_keyword_iff] at hdenotes ⊢
    obtain ⟨word, hspells, hvalue⟩ := hdenotes
    refine ⟨word, ?_, hvalue⟩
    rw [Word.spells_iff, hcase]
    exact Word.spells_iff.1 hspells

/-- A token goes on with the same characters in another layout. -/
theorem Piece.Relaid.furtherOf_eq (h : piece.Relaid piece') :
    furtherOf piece'.text piece'.kind = furtherOf piece.text piece.kind := by
  rw [h.kind_eq]
  rcases h.text_eq with hsame | ⟨hkind, -⟩
  · rw [hsame]
  · rw [hkind]
    rfl

/-- A token that does not go on with a lexeme does not go on with it in another layout. -/
theorem Piece.Relaid.ends (h : piece.Relaid piece')
    (hdenotes : Denotes piece.text piece.kind piece.value) {rest rest' : List Char}
    {text : List Char} {kind : TokenKind}
    (hends : Ends (furtherOf text kind) (piece.text ++ rest)) :
    Ends (furtherOf text kind) (piece'.text ++ rest') := by
  have hdenotes' := h.denotes hdenotes
  obtain ⟨c, others, htext⟩ := List.exists_cons_of_ne_nil hdenotes.ne_nil
  obtain ⟨c', others', htext'⟩ := List.exists_cons_of_ne_nil hdenotes'.ne_nil
  rw [htext, List.cons_append, ends_cons_iff] at hends
  rw [htext', List.cons_append, ends_cons_iff, ← hends]
  rcases h.text_eq with hsame | ⟨hkind, -⟩
  · rw [htext, htext'] at hsame
    rw [(List.cons.inj hsame).1]
  · rw [hkind, Lexeme.denotes_keyword_iff, htext] at hdenotes
    rw [h.kind_eq, hkind, Lexeme.denotes_keyword_iff, htext'] at hdenotes'
    obtain ⟨word, hspells, -⟩ := hdenotes
    obtain ⟨word', hspells', -⟩ := hdenotes'
    exact hspells'.furtherOf_head hspells text kind

/-- A token that does not go on with what follows does not go on with another layout of it. -/
theorem ends_relayout (hcut : IsCut pieces tail)
    (heach : List.Forall₂ Piece.Relaid pieces pieces')
    (hgaps : List.Forall₂ Piece.KeepsGap pieces pieces') (htail' : Blank tail')
    {text : List Char} {kind : TokenKind} (hends : Ends (furtherOf text kind) (textOf pieces tail)) :
    Ends (furtherOf text kind) (textOf pieces' tail') := by
  cases heach with
  | nil => exact htail'.separated.ends text kind
  | @cons piece piece' pieces pieces' hpiece hothers =>
    cases hcut with
    | cons hgap hdenotes _ _ =>
      have hkeeps := (List.forall₂_cons.1 hgaps).1
      rw [textOf_cons] at hends ⊢
      -- where no white space comes in there was none, so the two lexemes touched before
      by_cases hnone : piece'.gap = []
      · have hnone' : piece.gap = [] := by
          by_contra hsome
          exact hkeeps hsome hnone
        rw [hnone', List.nil_append] at hends
        rw [hnone, List.nil_append]
        exact hpiece.ends hdenotes hends
      · exact (hpiece.gap_blank.separated.ends text kind).append_left hnone _

/-- **Another layout of a cut is a cut.** -/
theorem IsCut.relayout (hcut : IsCut pieces tail) (h : Relayout pieces pieces')
    (htail' : Blank tail') : IsCut pieces' tail' := by
  obtain ⟨heach, hgaps⟩ := h
  induction hcut generalizing pieces' with
  | nil =>
    cases heach
    exact .nil
  | @cons piece pieces tail hgap hdenotes hends hothers ih =>
    cases heach with
    | @cons _ piece' _ others' hpiece hrelaid =>
      refine .cons hpiece.gap_blank (hpiece.denotes hdenotes) ?_ (ih hrelaid ?_)
      · rw [hpiece.furtherOf_eq]
        exact ends_relayout hothers hrelaid hgaps htail' hends
      · cases hgaps with
        | nil => exact .nil
        | cons _ hgaps => exact hgaps

/-- Two layouts of the same tokens have the same tokens. -/
theorem Relayout.map_token (h : Relayout pieces pieces') :
    pieces'.map Piece.token = pieces.map Piece.token := by
  obtain ⟨heach, -⟩ := h
  induction heach with
  | nil => rfl
  | cons hpiece _ ih =>
    rw [List.map_cons, List.map_cons, ih, Piece.token, hpiece.kind_eq, hpiece.value_eq]
    rfl

end ColumnarSql
