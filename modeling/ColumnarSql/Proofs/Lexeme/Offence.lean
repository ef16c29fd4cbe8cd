import ColumnarSql.Proofs.Lexeme.Relayout

/-!
# Where a text is refused

A text that has no tokens is refused at the first place where no lexeme begins.  There are three
reasons for that, and the first character tells which one it can be (`Lexeme.Offence.ofChar`):

* a delimiter opens a literal that is never closed, because every further delimiter up to the end
  of the text is doubled;
* a digit or a point begins no number that could end, because a digit, a point or an `e` follows
  every number that begins there;
* the character begins nothing at all.

`Lexeme.Offends` says so without a word about scanning, and `Lexeme.firstMatch_eq_none_iff` says
that the scanners find nothing exactly where a text offends in one of these ways.

The error is exact in both directions.  What stands before the place that it reports is a text with
tokens, and the error tells the last of them: a lexeme that ends before other text also ends before
less of it (`IsCut.of_append_tail`).  Conversely, a text that offends may be put behind a text with
tokens that is empty or ends in white space, and is then refused where it begins
(`tokenize_append_of_offends`).  The white space is needed, since a point on its own offends, and
behind a digit it does not.  It need not be said that it stands outside of literals, for no lexeme
ends in white space (`Lexeme.Denotes.not_blank_of_getLast?`).
-/

namespace ColumnarSql

open Text.Delimited (double)

/-! ## Nothing is found -/

/-- Every separator is found. -/
theorem Punctuation.exists_scan {c : Char} (h : c ∈ separators) (rest : List Char) :
    ∃ lexeme, scan (c :: rest) = some lexeme := by
  simp only [separators, List.mem_cons, List.not_mem_nil, or_false] at h
  rcases h with rfl | rfl | rfl | rfl | rfl | rfl | rfl | rfl | rfl <;> exact ⟨_, rfl⟩

/-- A literal is not found exactly if it is never closed. -/
theorem Quotation.scan_eq_none_iff {delimiter : Char} {kind : TokenKind} {rest : List Char} :
    scan delimiter kind (delimiter :: rest) = none ↔ ∃ text, rest = double delimiter text := by
  rw [scan, Option.map_eq_none_iff, Text.Delimited.read, if_pos rfl,
    Text.Delimited.readBody_eq_none_iff]

/-- No number is found exactly if none begins there that could end. -/
theorem Number.scan_eq_none_iff {source : List Char} :
    scan source = none ↔ ∀ text behind, text ++ behind = source → IsNumber text →
      ¬ Ends isNumberChar behind := by
  rw [Option.eq_none_iff_forall_ne_some]
  constructor
  · intro h text behind hsource hnumber hends
    exact h ⟨text, some (.number, String.ofList text), behind⟩
      (scan_eq_some_iff.2 ⟨hsource, hnumber, rfl, hends⟩)
  · intro h lexeme hfound
    obtain ⟨hsource, hnumber, -, hends⟩ := scan_eq_some_iff.1 hfound
    exact h lexeme.text lexeme.rest hsource hnumber hends

namespace Lexeme

/-! ## Offences -/

/-- Why no lexeme begins at some place. -/
inductive Offence where
  | unclosed
  | malformed
  | stray
  deriving DecidableEq, Repr

/-- **A text offends** at its front. -/
inductive Offends : Offence → List Char → Prop
  /-- A delimiter opens a literal, and every delimiter behind it is doubled up to the end. -/
  | unclosed {delimiter : Char} (hdelimiter : delimiter = '\'' ∨ delimiter = '"')
      (text : List Char) : Offends .unclosed (delimiter :: double delimiter text)
  /-- There is a digit or a point, and every number that begins there is gone on with. -/
  | malformed {c : Char} {rest : List Char} (hstart : c.isDigit = true ∨ c = '.')
      (hnumbers : ∀ text behind, text ++ behind = c :: rest → Number.IsNumber text →
        ¬ Ends Number.isNumberChar behind) : Offends .malformed (c :: rest)
  /-- The character is no white space and no punctuation mark, no delimiter, no digit, no point
  and no letter. -/
  | stray {c : Char} {rest : List Char} (hseparator : c ∉ separators) (happostrophe : c ≠ '\'')
      (hquote : c ≠ '"') (hdigit : c.isDigit = false) (hpoint : c ≠ '.')
      (hletter : Unicode.isAlphabetic c = false) : Offends .stray (c :: rest)

/-- The one offence that a character can begin. -/
def Offence.ofChar (c : Char) : Offence :=
  if c = '\'' ∨ c = '"' then .unclosed
  else if c.isDigit = true ∨ c = '.' then .malformed
  else .stray

theorem Offends.eq_ofChar {offence : Offence} {c : Char} {rest : List Char}
    (h : Offends offence (c :: rest)) : offence = .ofChar c := by
  cases h with
  | unclosed hdelimiter text => rw [Offence.ofChar, if_pos hdelimiter]
  | malformed hstart hnumbers =>
    have hdelimiter : ¬ (c = '\'' ∨ c = '"') := by
      rintro (rfl | rfl) <;> revert hstart <;> decide
    rw [Offence.ofChar, if_neg hdelimiter, if_pos hstart]
  | stray hseparator happostrophe hquote hdigit hpoint hletter =>
    rw [Offence.ofChar, if_neg (by simp [happostrophe, hquote]), if_neg (by simp [hdigit, hpoint])]

/-- **A text offends in one way only.** -/
theorem Offends.unique {first second : Offence} {source : List Char} (hfirst : Offends first source)
    (hsecond : Offends second source) : first = second := by
  cases source with
  | nil => cases hfirst
  | cons c rest => rw [hfirst.eq_ofChar, hsecond.eq_ofChar]

/-- Where a text offends nothing is found. -/
theorem Offends.firstMatch {offence : Offence} {source : List Char} (h : Offends offence source) :
    Scanner.firstMatch scanners source = none := by
  rw [Scanner.firstMatch_eq_dispatch]
  cases h with
  | unclosed hdelimiter text =>
    rcases hdelimiter with rfl | rfl
    · exact Quotation.scan_eq_none_iff.2 ⟨text, rfl⟩
    · exact (Scanner.dispatch_quotationMark _).trans (Quotation.scan_eq_none_iff.2 ⟨text, rfl⟩)
  | @malformed c rest hstart hnumbers =>
    have hfigure : Start.ofText (c :: rest) = some .figure :=
      Start.ofText_cons_eq_some_iff.2 hstart
    rw [Scanner.dispatch, hfigure]
    exact Number.scan_eq_none_iff.2 hnumbers
  | @stray c rest hseparator happostrophe hquote hdigit hpoint hletter =>
    have hnone : Start.ofText (c :: rest) = none := by
      refine Start.ofChar_eq_none_iff.2 fun start => ?_
      cases start <;> simp [Start.Covers, *]
    rw [Scanner.dispatch, hnone]

/-- **Nothing is found** exactly where a text offends. -/
theorem firstMatch_eq_none_iff {c : Char} {rest : List Char} :
    Scanner.firstMatch scanners (c :: rest) = none ↔
      ∃ offence, Offends offence (c :: rest) := by
  refine ⟨fun h => ?_, fun ⟨offence, h⟩ => h.firstMatch⟩
  rw [Scanner.firstMatch_eq_dispatch, Scanner.dispatch] at h
  split at h
  · next hstart =>
    obtain ⟨lexeme, hlexeme⟩ := Punctuation.exists_scan (Start.ofChar_eq_some_iff.1 hstart) rest
    simp [hlexeme] at h
  · next hstart =>
    obtain rfl : c = '\'' := Start.ofChar_eq_some_iff.1 hstart
    obtain ⟨text, rfl⟩ := Quotation.scan_eq_none_iff.1 h
    exact ⟨.unclosed, .unclosed (.inl rfl) text⟩
  · next hstart =>
    exact ⟨.malformed, .malformed (Start.ofChar_eq_some_iff.1 hstart)
      (Number.scan_eq_none_iff.1 h)⟩
  · next hstart =>
    rw [Word.scanIdentifier, Option.or_eq_none_iff, Option.or_eq_none_iff] at h
    obtain ⟨-, hquoted, hbare⟩ := h
    have hletter := Word.scanBare_eq_none_iff.1 hbare
    obtain rfl : c = '"' :=
      (Start.ofChar_eq_some_iff.1 hstart).resolve_right (by simp [hletter])
    obtain ⟨text, rfl⟩ := Quotation.scan_eq_none_iff.1 hquoted
    exact ⟨.unclosed, .unclosed (.inr rfl) text⟩
  · next hstart =>
    have hnot := Start.ofChar_eq_none_iff.1 hstart
    obtain ⟨hdigit, hpoint⟩ := not_or.1 (hnot .figure)
    obtain ⟨hquote, hletter⟩ := not_or.1 (hnot .letter)
    exact ⟨.stray, .stray (hnot .separator) (hnot .apostrophe) hquote
      (Bool.eq_false_iff.2 hdigit) hpoint (Bool.eq_false_iff.2 hletter)⟩

end Lexeme

/-! ## The ends of lexemes -/

/-- Numbers are made of number characters and signs. -/
theorem Number.IsNumber.of_mem {text : List Char} (h : Number.IsNumber text) {c : Char}
    (hc : c ∈ text) : Number.isNumberChar c = true ∨ c = '+' ∨ c = '-' := by
  have hdigit : ∀ digits, Number.AllDigits digits → c ∈ digits → Number.isNumberChar c = true :=
    fun digits hdigits hmem => by simp [Number.isNumberChar, hdigits c hmem]
  obtain ⟨mantissa, exponent, hmantissa, hexponent, rfl⟩ := h
  rcases List.mem_append.1 hc with hc | hc
  · cases hmantissa with
    | whole hne hbefore => exact .inl (hdigit _ hbefore hc)
    | decimal hne hbefore hafter =>
      rcases List.mem_append.1 hc with hc | hc
      · exact .inl (hdigit _ hbefore hc)
      · rcases List.mem_cons.1 hc with rfl | hc
        · exact .inl (by decide)
        · exact .inl (hdigit _ hafter hc)
    | fraction hne hafter =>
      rcases List.mem_cons.1 hc with rfl | hc
      · exact .inl (by decide)
      · exact .inl (hdigit _ hafter hc)
  · cases hexponent with
    | none => simp at hc
    | some hsign hne hdigits =>
      rcases List.mem_cons.1 hc with rfl | hc
      · exact .inl (by decide)
      · rcases List.mem_append.1 hc with hc | hc
        · rcases hsign with rfl | rfl | rfl <;> simp_all
        · exact .inl (hdigit _ hdigits hc)

/-- No lexeme is gone on with by white space. -/
theorem Lexeme.not_blank_of_furtherOf (text : List Char) (kind : TokenKind) {c : Char}
    (h : furtherOf text kind c = true) : Punctuation.isBlank c = false := by
  rw [Bool.eq_false_iff]
  intro hblank
  rw [furtherOf_separator (mem_separators_of_isBlank hblank)] at h
  simp at h

/-- **No lexeme ends in white space.** -/
theorem Lexeme.Denotes.not_blank_of_getLast? {text : List Char} {kind : TokenKind}
    {value : String} (h : Denotes text kind value) :
    ∀ c ∈ text.getLast?, Punctuation.isBlank c = false := by
  have hword : ∀ c, Word.isWordChar c = true → Punctuation.isBlank c = false :=
    fun c hc => not_blank_of_furtherOf [] .keyword hc
  have henclosed : ∀ (delimiter : Char) (value : List Char), ∀ c ∈
      (Text.Delimited.enclose delimiter value).getLast?, c = delimiter := by
    intro delimiter value c hc
    rw [Text.Delimited.enclose, ← List.cons_append, List.getLast?_concat] at hc
    exact (Option.some.inj hc).symm
  intro c hc
  cases h with
  | keyword hspells => exact hword c (hspells.isWord.isWordChar c (List.mem_of_mem_getLast? hc))
  | symbol mark =>
    cases mark
    all_goals
      obtain rfl := Option.some.inj hc
      decide
  | number hnumber =>
    rcases hnumber.of_mem (List.mem_of_mem_getLast? hc) with hnumber | rfl | rfl
    · exact not_blank_of_furtherOf [] .number hnumber
    · decide
    · decide
  | string value =>
    obtain rfl := henclosed _ _ c hc
    decide
  | quoted value =>
    obtain rfl := henclosed _ _ c hc
    decide
  | bare hbare hname => exact hword c (hbare.isWordChar c (List.mem_of_mem_getLast? hc))

/-! ## Errors -/

open Lexeme (Offends)

/-- Pieces end before a text that is put behind them and white space. -/
theorem IsCut.append_of_getLast? {pieces : List Piece} {tail : List Char} (h : IsCut pieces tail)
    (htail : Blank tail)
    (hlast : ∀ c ∈ (textOf pieces tail).getLast?, Punctuation.isBlank c = true)
    (more : List Char) : IsCut pieces (tail ++ more) := by
  refine h.append_tail fun piece hpiece => ?_
  by_cases hnil : tail = []
  · -- without white space the text would end with the last lexeme
    subst hnil
    obtain ⟨before, rfl⟩ := List.getLast?_eq_some_iff.1 hpiece
    have hdenotes := h.denotes piece (List.mem_append_right _ List.mem_cons_self)
    obtain ⟨c, hc⟩ : ∃ c, piece.text.getLast? = some c :=
      ⟨_, List.getLast?_eq_some_getLast hdenotes.ne_nil⟩
    have htext : (textOf (before ++ [piece]) []).getLast? = some c := by
      simp only [textOf, Piece.written, List.flatMap_append, List.flatMap_cons, List.flatMap_nil,
        List.append_nil, List.getLast?_append, hc, Option.some_or]
    have hblank := hlast c htext
    rw [hdenotes.not_blank_of_getLast? c hc] at hblank
    simp at hblank
  · exact (htail.separated.ends piece.text piece.kind).append_left hnil more

/-- **A text that offends is refused where it begins**, behind a text with tokens that is empty or
ends in white space. -/
theorem tokenize_append_of_offends {before behind : String} {tokens : List Token}
    {offence : Lexeme.Offence} (h : tokenize before = .ok tokens)
    (hlast : ∀ c ∈ before.toList.getLast?, Punctuation.isBlank c = true)
    (hoffends : Offends offence behind.toList) :
    tokenize (before ++ behind) =
      .error ⟨Location.start.after before.toList, tokens.getLast?.map Token.value⟩ := by
  obtain ⟨pieces, tail, hcut, htail, htext, rfl⟩ := tokenize_eq_ok_iff.1 h
  rw [← htext] at hlast
  have hne : behind.toList ≠ [] := by
    intro hnil
    rw [hnil] at hoffends
    cases hoffends
  rw [tokenize, String.toList_append, ← htext, ← textOf_append_tail,
    tokenizeWith_of_isCut (hcut.append_of_getLast? htail hlast _) htail hoffends.firstMatch,
    if_neg hne, lastValue_eq pieces .start, Option.or_none]
  rfl

/-- **What stands before an error** is a text with tokens, and the error tells its end and the last
of its tokens.  What stands behind offends. -/
theorem exists_of_tokenize_error {source : String} {error : LexError}
    (h : tokenize source = .error error) :
    ∃ before behind tokens offence, before ++ behind = source ∧ tokenize before = .ok tokens ∧
      error = ⟨Location.start.after before.toList, tokens.getLast?.map Token.value⟩ ∧
      Offends offence behind.toList := by
  obtain ⟨pieces, gap, rest, hcut, hgap, hnone, htext⟩ := exists_isCut source.toList
  rw [tokenize, ← htext, tokenizeWith_of_isCut hcut hgap hnone] at h
  split at h
  · simp at h
  · next hne =>
    obtain ⟨c, others, rfl⟩ := List.exists_cons_of_ne_nil hne
    obtain ⟨offence, hoffends⟩ := Lexeme.firstMatch_eq_none_iff.1 hnone
    refine ⟨String.ofList (textOf pieces gap), String.ofList (c :: others),
      tokensOf .start pieces, offence, ?_, ?_, ?_, ?_⟩
    · rw [← String.toList_inj, String.toList_append, String.toList_ofList, String.toList_ofList,
        ← htext, textOf_append_tail]
    · exact tokenize_eq_ok_iff.2
        ⟨pieces, gap, hcut.of_append_tail, hgap, String.toList_ofList.symm, rfl⟩
    · rw [String.toList_ofList, ← Except.error.inj h, lastValue_eq pieces .start, Option.or_none]
      rfl
    · rw [String.toList_ofList]
      exact hoffends

/-- **Errors are exact.**  A text without tokens can be cut in two in such a way that the first part
has tokens, the second part offends in exactly one way, and the error tells the place where the
second part begins and the value of the last token of the first.  Conversely, if a text has tokens
and is empty or ends in white space, and another text offends, then the one with the other behind it
has no tokens, and the error tells the place between them. -/
theorem tokenize_error_exact :
    (∀ source error, tokenize source = .error error →
      ∃ before behind tokens offence, before ++ behind = source ∧ behind ≠ "" ∧
        tokenize before = .ok tokens ∧
        error.location = Location.start.after before.toList ∧
        error.after = tokens.getLast?.map Token.value ∧
        Offends offence behind.toList ∧
        ∀ other, Offends other behind.toList → other = offence) ∧
    ∀ before behind tokens offence, tokenize before = .ok tokens →
      (∀ c ∈ before.toList.getLast?, Punctuation.isBlank c = true) →
      Offends offence behind.toList →
        tokenize (before ++ behind) =
          .error ⟨Location.start.after before.toList, tokens.getLast?.map Token.value⟩ := by
  refine ⟨fun source error h => ?_, fun before behind tokens offence h hlast hoffends =>
    tokenize_append_of_offends h hlast hoffends⟩
  obtain ⟨before, behind, tokens, offence, hsource, hbefore, rfl, hoffends⟩ :=
    exists_of_tokenize_error h
  have hne : behind ≠ "" := by
    rintro rfl
    cases hoffends
  exact ⟨before, behind, tokens, offence, hsource, hne, hbefore, rfl, rfl, hoffends,
    fun other hother => hother.unique hoffends⟩

/-- A number with two points is refused as a whole; and a literal that ends in a doubled delimiter
is never closed, so it is refused on its own line. -/
theorem tokenize_error_exact_refusedTexts :
    tokenize "SELECT 'it''s', 1.2.3 FROM t;" = .error ⟨⟨0, 16⟩, some ","⟩ ∧
      (∃ before behind tokens offence, before ++ behind = "SELECT 'it''s', 1.2.3 FROM t;" ∧
        behind ≠ "" ∧ tokenize before = .ok tokens ∧
        ⟨0, 16⟩ = Location.start.after before.toList ∧
        some "," = tokens.getLast?.map Token.value ∧
        Offends offence behind.toList ∧
        ∀ other, Offends other behind.toList → other = offence) ∧
      tokenize "FROM\r\n" = .ok [⟨.keyword, "from", ⟨0, 0⟩⟩] ∧
      Offends .unclosed "'b''".toList ∧
      tokenize ("FROM\r\n" ++ "'b''") = .error ⟨⟨1, 0⟩, some "from"⟩ := by
  have hnumber : tokenize "SELECT 'it''s', 1.2.3 FROM t;" = .error ⟨⟨0, 16⟩, some ","⟩ := by
    decide +kernel
  have hbefore : tokenize "FROM\r\n" = .ok [⟨.keyword, "from", ⟨0, 0⟩⟩] := by
    decide +kernel
  have hoffends : Offends .unclosed "'b''".toList :=
    .unclosed (.inl rfl) ['b', '\'']
  have hlast : ∀ c ∈ "FROM\r\n".toList.getLast?, Punctuation.isBlank c = true := by
    intro c hc
    obtain rfl : '\n' = c := Option.some.inj hc
    rfl
  exact ⟨hnumber, tokenize_error_exact.1 _ _ hnumber, hbefore, hoffends,
    tokenize_error_exact.2 _ _ _ _ hbefore hlast hoffends⟩

end ColumnarSql
