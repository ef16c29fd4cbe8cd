import ColumnarSql.Proofs.Lexeme.Reading

/-!
# Which tokens there are

Not every class goes with every value.  `Lexeme.Expressible` says which pairs a text can produce: a
reserved word or a punctuation mark has its spelling, a number has a text of the grammar of numbers,
and names and texts may have any value at all.  `tokenize_image` says that the lists of tokens of
all texts, places aside, are exactly the lists of such pairs.

That nothing else is produced is read off `Lexeme.Denotes`.  That everything is produced needs a
text for each list, and `rendering` is one: each token in its canonical spelling, and a single space
between two of them.  The space ends whatever stands before it, so the tokens can be put together
in any order (`lexes_rendering`), and a name may be empty, spell a reserved word or contain
quotation marks, since it is always written between them.

In particular `rendering` is an inverse of `tokenize` from the side of the tokens: the canonical
text of the tokens of a text has the same tokens.
-/

namespace ColumnarSql

open Text.Delimited (enclose)

/-- What a token says, its place aside: its class and its value. -/
def Token.content (token : Token) : TokenKind × String :=
  (token.kind, token.value)

namespace Lexeme

/-- **A class and a value that go together.** -/
inductive Expressible : TokenKind → String → Prop
  | keyword (word : Keyword) : Expressible .keyword word.spelling
  | symbol (mark : Symbol) : Expressible .symbol mark.spelling
  | number {text : List Char} (hnumber : Number.IsNumber text) :
      Expressible .number (String.ofList text)
  | identifier (value : String) : Expressible .identifier value
  | string (value : String) : Expressible .string value

/-- The canonical spelling of a token: names and texts between their delimiters, everything else as
it is. -/
def canonical : TokenKind × String → String
  | (.identifier, value) => String.ofList (enclose '"' value.toList)
  | (.string, value) => String.ofList (enclose '\'' value.toList)
  | (_, value) => value

/-- What a text stands for goes together. -/
theorem Denotes.expressible {text : List Char} {kind : TokenKind} {value : String}
    (h : Denotes text kind value) : Expressible kind value := by
  cases h with
  | keyword hspells => exact .keyword _
  | symbol mark => exact .symbol mark
  | number hnumber => exact .number hnumber
  | string value => exact .string _
  | quoted value => exact .identifier _
  | bare hword hname => exact .identifier _

/-- A class and a value that go together have a text, the canonical one. -/
theorem Expressible.denotes {kind : TokenKind} {value : String} (h : Expressible kind value) :
    Denotes (canonical (kind, value)).toList kind value := by
  cases h with
  | keyword word =>
    refine .keyword (Word.spells_iff.2 ?_)
    cases word <;> decide
  | symbol mark => exact .symbol mark
  | @number text hnumber =>
    show Denotes (String.ofList text).toList .number (String.ofList text)
    rw [String.toList_ofList]
    exact .number hnumber
  | identifier value =>
    have hquoted := Denotes.quoted value.toList
    rw [String.ofList_toList] at hquoted
    rw [canonical, String.toList_ofList]
    exact hquoted
  | string value =>
    have hstring := Denotes.string value.toList
    rw [String.ofList_toList] at hstring
    rw [canonical, String.toList_ofList]
    exact hstring

theorem expressible_iff_denotes {kind : TokenKind} {value : String} :
    Expressible kind value ↔ Denotes (canonical (kind, value)).toList kind value :=
  ⟨Expressible.denotes, Denotes.expressible⟩

instance (kind : TokenKind) (value : String) : Decidable (Expressible kind value) :=
  decidable_of_iff _ expressible_iff_denotes.symm

end Lexeme

open Lexeme (Expressible canonical)

/-- **The canonical text** of some tokens: their canonical spellings with single spaces between
them. -/
def rendering (contents : List (TokenKind × String)) : String :=
  " ".intercalate (contents.map canonical)

/-- The canonical text of some tokens is cut into these tokens. -/
theorem lexes_rendering {contents : List (TokenKind × String)}
    (h : ∀ content ∈ contents, Expressible content.1 content.2) :
    Lexes (rendering contents).toList
      (contents.map fun content => ⟨content.1, content.2, .start⟩) := by
  rw [rendering, String.toList_intercalate, List.map_map]
  induction contents with
  | nil => exact lexes_nil
  | cons content contents ih =>
    have hdenotes := (h content List.mem_cons_self).denotes
    have hothers := ih fun other hother => h other (List.mem_cons_of_mem _ hother)
    rw [List.map_cons, List.map_cons]
    by_cases hnil : contents = []
    · rw [hnil, List.map_nil, List.map_nil, List.intercalate_singleton]
      have hlexes := lexes_of_denotes hdenotes (ends_nil _) lexes_nil
      rw [List.append_nil] at hlexes
      exact hlexes
    · rw [List.intercalate_cons_of_ne_nil (by simpa using hnil), List.append_assoc]
      have hspace : Separated (" ".toList ++
          " ".toList.intercalate (contents.map (String.toList ∘ canonical))) :=
        separated_cons (c := ' ') (by decide) _
      exact lexes_of_denotes hdenotes (hspace.ends _ _) (lexes_blank (c := ' ') rfl hothers)

/-- The canonical text of some tokens has these tokens. -/
theorem tokenize_rendering {contents : List (TokenKind × String)}
    (h : ∀ content ∈ contents, Expressible content.1 content.2) :
    ∃ tokens, tokenize (rendering contents) = .ok tokens ∧
      tokens.map Token.content = contents := by
  obtain ⟨tokens, htokens, hunplaced⟩ := lexes_rendering h none .start
  refine ⟨tokens, htokens, ?_⟩
  have hcontents := congrArg (List.map Token.content) hunplaced
  rw [List.map_map, List.map_map] at hcontents
  rw [← List.map_id contents]
  exact hcontents

/-- Every token of a text has a class and a value that go together. -/
theorem expressible_of_tokenize {source : String} {tokens : List Token}
    (h : tokenize source = .ok tokens) :
    ∀ content ∈ tokens.map Token.content, Expressible content.1 content.2 := by
  obtain ⟨pieces, tail, hcut, -, -, rfl⟩ := tokenize_eq_ok_iff.1 h
  have hcontents : (tokensOf .start pieces).map Token.content =
      pieces.map fun piece => (piece.kind, piece.value) := by
    have hunplaced := congrArg (List.map Token.content) (tokensOf_unplaced pieces .start)
    rw [List.map_map, List.map_map] at hunplaced
    exact hunplaced
  intro content hcontent
  rw [hcontents, List.mem_map] at hcontent
  obtain ⟨piece, hpiece, rfl⟩ := hcontent
  exact (hcut.denotes piece hpiece).expressible

/-- **Which lists of tokens there are.**  Some text has these tokens, places aside, exactly if each
of them has a class and a value that go together; and then their canonical text is such a text.  So
the canonical text of the tokens of any text has the same tokens again. -/
theorem tokenize_image (contents : List (TokenKind × String)) :
    ((∃ source tokens, tokenize source = .ok tokens ∧ tokens.map Token.content = contents) ↔
      ∀ content ∈ contents, Expressible content.1 content.2) ∧
    ((∀ content ∈ contents, Expressible content.1 content.2) →
      ∃ tokens, tokenize (rendering contents) = .ok tokens ∧
        tokens.map Token.content = contents) ∧
    ∀ source tokens, tokenize source = .ok tokens →
      ∃ tokens', tokenize (rendering (tokens.map Token.content)) = .ok tokens' ∧
        tokens'.map Token.content = tokens.map Token.content := by
  refine ⟨⟨?_, fun h => ?_⟩, tokenize_rendering, fun source tokens h => ?_⟩
  · rintro ⟨source, tokens, h, rfl⟩
    exact expressible_of_tokenize h
  · obtain ⟨tokens, htokens, hcontents⟩ := tokenize_rendering h
    exact ⟨rendering contents, tokens, htokens, hcontents⟩
  · exact tokenize_rendering (expressible_of_tokenize h)

/-- Tokens that would run together without the spaces, or be taken for others without their
delimiters. -/
def sampleContents : List (TokenKind × String) :=
  [(.keyword, "into"), (.identifier, "into"), (.identifier, ""), (.number, "1.e+07"),
    (.number, ".5"), (.symbol, "*"), (.string, "it's"), (.identifier, "a\"b;\n")]

/-- The sample tokens have a canonical text; an exponent without digits is the value of no
token. -/
theorem tokenize_image_sampleContents :
    (∀ content ∈ sampleContents, Expressible content.1 content.2) ∧
      rendering sampleContents =
        "into \"into\" \"\" 1.e+07 .5 * 'it''s' \"a\"\"b;\n\"" ∧
      (∃ tokens, tokenize "into \"into\" \"\" 1.e+07 .5 * 'it''s' \"a\"\"b;\n\"" = .ok tokens ∧
        tokens.map Token.content = sampleContents) ∧
      ¬ ∃ source tokens, tokenize source = .ok tokens ∧
        tokens.map Token.content = [(.number, "1e")] := by
  have hsample : ∀ content ∈ sampleContents, Expressible content.1 content.2 := by
    decide +kernel
  have hrendering : rendering sampleContents =
      "into \"into\" \"\" 1.e+07 .5 * 'it''s' \"a\"\"b;\n\"" := by
    decide +kernel
  have htokens := (tokenize_image sampleContents).2.1 hsample
  rw [hrendering] at htokens
  refine ⟨hsample, hrendering, htokens, fun hsome => ?_⟩
  exact absurd ((tokenize_image [(.number, "1e")]).1.1 hsome) (by decide +kernel)

end ColumnarSql
