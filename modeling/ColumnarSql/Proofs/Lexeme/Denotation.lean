import ColumnarSql.Proofs.Lexeme.Dispatch

/-!
# What lexemes stand for

`Lexeme.Denotes` says which texts stand for which tokens, one constructor for each way to write
a token, and without a word about scanning.  `Lexeme.furtherOf` says which characters a lexeme
would go on with if they followed.  Together they say what a lexeme of the language is
(`Lexeme.IsValid`), and `Lexeme.firstMatch_eq_some_iff` says that the scanners, tried in their
order, find these and nothing else.

The order of the scanners shows only in the constructor for bare words, which leaves the
reserved words out.  Apart from these the first character says which scanner is asked
(`Scanner.firstMatch_eq_dispatch`).  What this means for a bare word is said once more without
naming a scanner: it is one token, a reserved word if it spells one and a name if it spells none
(`Word.bare_word_is_one_token`).
-/

namespace ColumnarSql

namespace Lexeme

open Text.Delimited (enclose)

/-- **A text stands for a token** of a class and with a value. -/
inductive Denotes : List Char → TokenKind → String → Prop
  /-- A reserved word is written in any letter case, and its value is in lower case. -/
  | keyword {text : List Char} {word : Keyword} (hspells : Word.Spells word text) :
      Denotes text .keyword word.spelling
  | symbol (mark : Symbol) : Denotes mark.spelling.toList .symbol mark.spelling
  | number {text : List Char} (hnumber : Number.IsNumber text) :
      Denotes text .number (String.ofList text)
  /-- A text stands between apostrophes, and the apostrophes in it are doubled. -/
  | string (value : List Char) : Denotes (enclose '\'' value) .string (String.ofList value)
  /-- A name may stand between quotation marks, and those in it are doubled. -/
  | quoted (value : List Char) : Denotes (enclose '"' value) .identifier (String.ofList value)
  /-- A word that spells no reserved word is a name and its own value. -/
  | bare {text : List Char} (hword : Word.IsWord text) (hname : ∀ word, ¬ Word.Spells word text) :
      Denotes text .identifier (String.ofList text)

/-- The characters that a lexeme would go on with. -/
def furtherOf (text : List Char) : TokenKind → Char → Bool
  | .keyword => Word.isWordChar
  | .symbol => fun _ => false
  | .number => Number.isNumberChar
  | .string => (· == '\'')
  | .identifier => if text.head? = some '"' then (· == '"') else Word.isWordChar

/-- **A lexeme of the language**: a character of white space, or a text that stands for a token
and is not gone on with. -/
inductive IsValid : Lexeme → Prop
  | blank {c : Char} {rest : List Char} (hblank : Punctuation.isBlank c = true) :
      IsValid ⟨[c], none, rest⟩
  | token {text rest : List Char} {kind : TokenKind} {value : String}
      (hdenotes : Denotes text kind value) (hends : Ends (furtherOf text kind) rest) :
      IsValid ⟨text, some (kind, value), rest⟩

/-- What stands for a token has a character. -/
theorem Denotes.ne_nil {text : List Char} {kind : TokenKind} {value : String}
    (h : Denotes text kind value) : text ≠ [] := by
  cases h with
  | keyword hspells =>
    obtain ⟨c, rest, rfl, -, -⟩ := hspells.isWord
    simp
  | symbol mark => exact mark.spelling_ne_nil
  | number hnumber =>
    obtain ⟨mantissa, exponent, hmantissa, -, rfl⟩ := hnumber
    cases hmantissa <;> simp_all
  | string value => simp [enclose]
  | quoted value => simp [enclose]
  | bare hword hname =>
    obtain ⟨c, rest, rfl, -, -⟩ := hword
    simp

theorem denotes_keyword_iff {text : List Char} {value : String} :
    Denotes text .keyword value ↔ ∃ word, Word.Spells word text ∧ value = word.spelling := by
  constructor
  · rintro (⟨hspells⟩ | _ | _ | _ | _ | _)
    exact ⟨_, hspells, rfl⟩
  · rintro ⟨word, hspells, rfl⟩
    exact .keyword hspells

end Lexeme

/-! ## What the scanners find -/

namespace Lexeme

open Scanner (firstMatch_eq_dispatch dispatch)
open Text.Delimited (enclose)

/-- A bare word goes on with word characters. -/
theorem furtherOf_of_isWord {text : List Char} (h : Word.IsWord text) :
    furtherOf text .identifier = Word.isWordChar := by
  obtain ⟨c, rest, rfl, hc, -⟩ := h
  have hquote : c ≠ '"' := (ne_of_isAlphabetic hc).2.2.1
  rw [furtherOf, if_neg (by simpa using hquote)]

/-- What is found is a lexeme of the language. -/
theorem isValid_of_firstMatch {source : List Char} {lexeme : Lexeme}
    (h : Scanner.firstMatch scanners source = some lexeme) : lexeme.IsValid := by
  rw [firstMatch_eq_dispatch] at h
  obtain ⟨text, token, rest⟩ := lexeme
  unfold dispatch at h
  split at h
  · rcases Punctuation.scan_cases h with ⟨c, rest', hblank, heq, -⟩ | ⟨mark, rest', heq, -⟩
    · rw [heq]
      exact .blank hblank
    · rw [heq]
      exact .token (.symbol mark) fun _ _ => rfl
  · obtain ⟨value, htext, htoken, -, hends⟩ := Quotation.scan_eq_some_iff.1 h
    obtain rfl : text = enclose '\'' value := htext
    obtain rfl : token = some (.string, String.ofList value) := htoken
    exact .token (.string value) hends
  · obtain ⟨-, hnumber, htoken, hends⟩ := Number.scan_eq_some_iff.1 h
    obtain rfl : token = some (.number, String.ofList text) := htoken
    exact .token (.number hnumber) hends
  · rw [Word.scanIdentifier, Option.or_eq_some_iff, Option.or_eq_some_iff] at h
    rcases h with h | ⟨hkeyword, h | ⟨-, h⟩⟩
    · obtain ⟨-, ⟨word, hword, htoken⟩, hends⟩ := Word.scanKeyword_eq_some_iff.1 h
      obtain rfl : token = some (.keyword, word.spelling) := htoken
      exact .token (.keyword hword) hends
    · obtain ⟨value, htext, htoken, -, hends⟩ := Quotation.scan_eq_some_iff.1 h
      obtain rfl : text = enclose '"' value := htext
      obtain rfl : token = some (.identifier, String.ofList value) := htoken
      exact .token (.quoted value) hends
    · obtain ⟨hsource, hword, htoken, hends⟩ := Word.scanBare_eq_some_iff.1 h
      obtain rfl : token = some (.identifier, String.ofList text) := htoken
      refine .token (.bare hword fun word hspells => ?_) ?_
      · -- the scanner for reserved words came before and would have found it
        have hfound : Word.scanKeyword source =
            some ⟨text, some (.keyword, word.spelling), rest⟩ :=
          Word.scanKeyword_eq_some_iff.2 ⟨hsource, ⟨word, hspells, rfl⟩, hends⟩
        simp [hkeyword] at hfound
      · rw [furtherOf_of_isWord hword]
        exact hends
  · simp at h

/-- A text that stands for a token is found before a text that does not go on with it. -/
theorem firstMatch_of_denotes {text rest : List Char} {kind : TokenKind} {value : String}
    (hdenotes : Denotes text kind value) (hends : Ends (furtherOf text kind) rest) :
    Scanner.firstMatch scanners (text ++ rest) = some ⟨text, some (kind, value), rest⟩ := by
  rw [firstMatch_eq_dispatch]
  cases hdenotes with
  | @keyword _ word hspells =>
    have hfound : Word.scanKeyword (text ++ rest) =
        some ⟨text, some (.keyword, word.spelling), rest⟩ :=
      Word.scanKeyword_eq_some_iff.2 ⟨rfl, ⟨word, hspells, rfl⟩, hends⟩
    rw [dispatch, hspells.isWord.ofText_eq, hfound]
    rfl
  | symbol mark =>
    rw [dispatch, mark.ofText_eq, Punctuation.scan_mark]
  | number hnumber =>
    rw [dispatch, hnumber.ofText_eq]
    exact Number.scan_eq_some_iff.2 ⟨rfl, hnumber, rfl, hends⟩
  | string value => exact Quotation.scan_eq_some_iff.2 ⟨value, rfl, rfl, rfl, hends⟩
  | quoted value =>
    exact (Scanner.dispatch_quotationMark _).trans
      (Quotation.scan_eq_some_iff.2 ⟨value, rfl, rfl, rfl, hends⟩)
  | bare hword hname =>
    rw [furtherOf_of_isWord hword] at hends
    have hfound : Word.scanBare (text ++ rest) =
        some ⟨text, some (.identifier, String.ofList text), rest⟩ :=
      Word.scanBare_eq_some_iff.2 ⟨rfl, hword, rfl, hends⟩
    -- a reserved word found here would be the same word, cut off at the same place
    have hkeyword : Word.scanKeyword (text ++ rest) = none := by
      rw [Option.eq_none_iff_forall_ne_some]
      rintro ⟨text', token', rest'⟩ hfound'
      obtain ⟨hsource, ⟨word, hspells, -⟩, hends'⟩ := Word.scanKeyword_eq_some_iff.1 hfound'
      obtain rfl : text' = text := eq_of_ends hsource hword.isWordChar hends
        hspells.isWord.isWordChar hends'
      exact hname word hspells
    rw [dispatch, hword.ofText_eq, hkeyword, hword.scanIdentifier_eq, hfound]
    rfl

/-- White space is found whatever follows. -/
theorem firstMatch_of_blank {c : Char} (h : Punctuation.isBlank c = true) (rest : List Char) :
    Scanner.firstMatch scanners (c :: rest) = some ⟨[c], none, rest⟩ := by
  have hstart : Start.ofText (c :: rest) = some .separator :=
    Start.ofText_cons_eq_some_iff.2 (mem_separators_of_isBlank h)
  rw [firstMatch_eq_dispatch, dispatch, hstart]
  exact Punctuation.scan_of_blank h rest

/-- **What the scanners find**: the lexemes of the language, and nothing else. -/
theorem firstMatch_eq_some_iff {source : List Char} {lexeme : Lexeme} :
    Scanner.firstMatch scanners source = some lexeme ↔
      lexeme.text ++ lexeme.rest = source ∧ lexeme.IsValid := by
  constructor
  · intro h
    exact ⟨Scanner.firstMatch_splits h, isValid_of_firstMatch h⟩
  · rintro ⟨rfl, hvalid⟩
    cases hvalid with
    | blank hblank => exact firstMatch_of_blank hblank _
    | token hdenotes hends => exact firstMatch_of_denotes hdenotes hends

/-- A text stands for what the scanners find in it, if that is all of it. -/
theorem denotes_iff_firstMatch {text : List Char} {kind : TokenKind} {value : String} :
    Denotes text kind value ↔
      ∃ lexeme ∈ Scanner.firstMatch scanners text,
        lexeme.text = text ∧ lexeme.token = some (kind, value) := by
  constructor
  · intro h
    have hfound := firstMatch_of_denotes h (ends_nil _)
    rw [List.append_nil] at hfound
    exact ⟨_, hfound, rfl, rfl⟩
  · rintro ⟨⟨text', token, rest⟩, hfound, htext, htoken⟩
    obtain rfl : text' = text := htext
    obtain rfl : token = some (kind, value) := htoken
    cases (firstMatch_eq_some_iff.1 hfound).2 with
    | token hdenotes hends => exact hdenotes

instance (text : List Char) (kind : TokenKind) (value : String) :
    Decidable (Denotes text kind value) :=
  decidable_of_iff _ denotes_iff_firstMatch.symm

/-- A text stands for one token only. -/
theorem Denotes.unique {text : List Char} {kind kind' : TokenKind} {value value' : String}
    (h : Denotes text kind value) (h' : Denotes text kind' value') :
    kind = kind' ∧ value = value' := by
  have hfound := firstMatch_of_denotes h (ends_nil _)
  rw [firstMatch_of_denotes h' (ends_nil _)] at hfound
  simpa [eq_comm] using hfound

/-- What stands for a token does not begin with white space. -/
theorem Denotes.ends_blank {text rest : List Char} {kind : TokenKind} {value : String}
    (h : Denotes text kind value) (hends : Ends (furtherOf text kind) rest) :
    Ends Punctuation.isBlank (text ++ rest) := by
  have hfound := firstMatch_of_denotes h hends
  intro c hc
  obtain ⟨others, hothers⟩ := List.head?_eq_some_iff.1 hc
  rw [hothers] at hfound
  rw [Bool.eq_false_iff]
  intro hblank
  rw [firstMatch_of_blank hblank] at hfound
  simp at hfound

end Lexeme

/-! ## Bare words -/

namespace Word

open Lexeme (Denotes furtherOf)

/-- **A bare word is one token.**  A word that is not gone on with is found as a whole.  It is a
reserved word, with the spelling of this for its value, if it is the same up to the case of ASCII
letters; and it is a name with its own characters for the value if there is no such reserved word.
The loop gives this token and goes on behind the word. -/
theorem bare_word_is_one_token {text rest : List Char} (hword : IsWord text)
    (hends : Ends isWordChar rest) :
    ∃ kind value,
      Scanner.firstMatch scanners (text ++ rest) = some ⟨text, some (kind, value), rest⟩ ∧
      (∀ after location, tokenizeWith scanners after location (text ++ rest) =
        (tokenizeWith scanners (some value) (location.after text) rest).map
          (⟨kind, value, location⟩ :: ·)) ∧
      (∀ word : Keyword, text.map Char.toLower = word.spelling.toList →
        kind = .keyword ∧ value = word.spelling) ∧
      ((∀ word : Keyword, text.map Char.toLower ≠ word.spelling.toList) →
        kind = .identifier ∧ value = String.ofList text) := by
  by_cases hspelled : ∃ word, Spells word text
  · obtain ⟨word, hspells⟩ := hspelled
    have hfound := Lexeme.firstMatch_of_denotes (.keyword hspells) hends
    refine ⟨_, _, hfound, fun after location => tokenizeWith_of_token hfound rfl,
      fun other hother => ⟨rfl, ?_⟩, fun hnone => absurd (spells_iff.1 hspells) (hnone word)⟩
    rw [hspells.unique (spells_iff.2 hother)]
  · have hname : ∀ word, ¬ Spells word text := not_exists.1 hspelled
    have hends' : Ends (furtherOf text .identifier) rest := by
      rwa [Lexeme.furtherOf_of_isWord hword]
    have hfound := Lexeme.firstMatch_of_denotes (.bare hword hname) hends'
    exact ⟨_, _, hfound, fun after location => tokenizeWith_of_token hfound rfl,
      fun word hspells => absurd (spells_iff.2 hspells) (hname word), fun _ => ⟨rfl, rfl⟩⟩

/-- `inTO` before a bracket is a reserved word, although it begins with another one, and `INTÖ$1`
at the end of a text is a name. -/
theorem bare_word_is_one_token_into :
    IsWord "inTO".toList ∧ Ends isWordChar "(a".toList ∧
      Scanner.firstMatch scanners "inTO(a".toList =
        some ⟨"inTO".toList, some (.keyword, "into"), "(a".toList⟩ ∧
      IsWord "INTÖ$1".toList ∧ Ends isWordChar "".toList ∧
      tokenizeWith scanners none .start ("INTÖ$1".toList ++ []) =
        .ok [⟨.identifier, "INTÖ$1", .start⟩] := by
  have hinto : IsWord "inTO".toList :=
    ⟨'i', "nTO".toList, rfl, by decide +kernel, List.all_eq_true.1 (by decide +kernel)⟩
  have hbracket : Ends isWordChar "(a".toList :=
    ends_cons_iff.2 (by decide +kernel)
  have hname : IsWord "INTÖ$1".toList :=
    ⟨'I', "NTÖ$1".toList, rfl, by decide +kernel, List.all_eq_true.1 (by decide +kernel)⟩
  obtain ⟨kind, value, hfound, -, hkeyword, -⟩ := bare_word_is_one_token hinto hbracket
  obtain ⟨rfl, rfl⟩ := hkeyword .INTO rfl
  obtain ⟨kind', value', -, htokens, -, hidentifier⟩ :=
    bare_word_is_one_token hname (ends_nil isWordChar)
  obtain ⟨rfl, rfl⟩ := hidentifier fun word => by cases word <;> decide
  refine ⟨hinto, hbracket, hfound, hname, ends_nil _, ?_⟩
  rw [htokens, tokenizeWith_nil]
  rfl

end Word
end ColumnarSql
