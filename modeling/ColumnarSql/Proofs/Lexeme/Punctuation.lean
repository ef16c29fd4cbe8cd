import ColumnarSql.Lexeme.Punctuation
import ColumnarSql.Lexeme.Quotation
import ColumnarSql.Proofs.Lexeme.Boundary
import ColumnarSql.Proofs.Lexeme.LongestMatch

/-!
# Punctuation, white space and quotations

These lexemes can be told by their first character.  White space and the punctuation marks are
the `separators`; each is a lexeme of its own whatever stands behind it, and nothing else is found
where one of them is looked for (`Punctuation.scan_cases`).  A quotation begins with its
delimiter and is found exactly where the written form of a text stands, with no further delimiter
behind it (`Quotation.scan_eq_some_iff`).

Punctuation marks are looked for in any letter case like reserved words, although they are no
letters.  No other character has one of them for its lower case
(`Punctuation.eq_spelling_of_lower`).
-/

namespace ColumnarSql

/-- The characters that end every lexeme before them: white space and the punctuation marks. -/
def separators : List Char :=
  [' ', '\t', '\n', '\r', ';', '*', ',', '(', ')']

theorem mem_separators_of_isBlank {c : Char} (h : Punctuation.isBlank c = true) :
    c ∈ separators := by
  simp only [Punctuation.isBlank, Bool.or_eq_true, beq_iff_eq] at h
  rcases h with ((rfl | rfl) | rfl) | rfl <;> decide

theorem Symbol.exists_spelling (mark : Symbol) :
    ∃ c ∈ separators, mark.spelling.toList = [c] := by
  cases mark <;> exact ⟨_, by decide, rfl⟩

namespace Punctuation

theorem scan_of_blank {c : Char} (h : isBlank c = true) (rest : List Char) :
    scan (c :: rest) = some ⟨[c], none, rest⟩ := by
  rw [scan, scanBlank, if_pos h]
  rfl

theorem scan_mark (symbol : Symbol) (rest : List Char) :
    scan (symbol.spelling.toList ++ rest) =
      some ⟨symbol.spelling.toList, some (.symbol, symbol.spelling), rest⟩ := by
  cases symbol <;> rfl

theorem plain_of_mem_spelling (symbol : Symbol) :
    ∀ c ∈ symbol.spelling.toList, c.toNat < 128 ∧ c ≠ 'k' :=
  List.forall_iff_forall_mem.1 (by cases symbol <;> decide)

/-- The lower case of a character is a punctuation mark only if the character is. -/
theorem eq_spelling_of_lower {symbol : Symbol} {text : List Char}
    (h : text.flatMap Unicode.lower = symbol.spelling.toList) : text = symbol.spelling.toList := by
  have hplain := plain_of_mem_spelling symbol
  have hsmall : ∀ c ∈ symbol.spelling.toList, c.isLower = false :=
    List.forall_iff_forall_mem.1 (by cases symbol <;> decide)
  have hmap := (Unicode.flatMap_lower_eq_iff hplain).1 h
  rw [← hmap] at hplain hsmall ⊢
  refine (List.map_id text).symm.trans (List.map_congr_left fun c hc => ?_)
  have hmem := List.mem_map_of_mem (f := Char.toLower) hc
  have hascii := Unicode.toNat_lt_of_toLower (hplain _ hmem).1
  exact Unicode.forall_ascii (p := fun c => c.toLower.isLower = false → c = c.toLower)
    (by decide) hascii (hsmall _ hmem)

theorem readable_of_mem : ∀ entry ∈ symbolSpellings, Spelling.Readable entry.2.toList := by
  intro entry hentry
  obtain ⟨symbol, -, rfl⟩ := List.mem_map.1 hentry
  exact ⟨symbol.spelling_ne_nil, fun c hc => (plain_of_mem_spelling symbol c hc).1⟩

/-- White space and punctuation marks are all that is found. -/
theorem scan_cases {source : List Char} {lexeme : Lexeme} (h : scan source = some lexeme) :
    (∃ c rest, isBlank c = true ∧ lexeme = ⟨[c], none, rest⟩ ∧ c :: rest = source) ∨
      ∃ (symbol : Symbol) (rest : List Char),
        lexeme = ⟨symbol.spelling.toList, some (.symbol, symbol.spelling), rest⟩ ∧
          symbol.spelling.toList ++ rest = source := by
  rcases Option.or_eq_some_iff.1 h with h | ⟨-, h⟩
  · left
    cases source with
    | nil => simp [scanBlank] at h
    | cons c rest =>
      rw [scanBlank] at h
      split at h
      · next hblank => exact ⟨c, rest, hblank, (Option.some.inj h).symm, rfl⟩
      · simp at h
  · obtain ⟨⟨symbol, length⟩, hmatch, rfl⟩ := Option.map_eq_some_iff.1 h
    obtain ⟨before, spelling, after, hentries, rfl, hbegins, -, -⟩ :=
      Spelling.longestMatch_eq_some readable_of_mem hmatch
    have hmem : (symbol, spelling) ∈ symbolSpellings := by
      rw [hentries]
      exact List.mem_append_right _ List.mem_cons_self
    obtain ⟨other, -, heq⟩ := List.mem_map.1 hmem
    obtain ⟨rfl, rfl⟩ := Prod.mk.inj heq
    have htext := eq_spelling_of_lower
      ((Spelling.begins_iff_take (readable_of_mem _ hmem).2).1 hbegins)
    refine .inr ⟨other, source.drop other.spelling.toList.length, ?_, ?_⟩
    · simp only [htext]
    · conv_rhs => rw [← List.take_append_drop other.spelling.toList.length source, htext]

/-- A character that is no separator begins nothing. -/
theorem scan_of_not_separator {c : Char} (h : c ∉ separators) (rest : List Char) :
    scan (c :: rest) = none := by
  rw [Option.eq_none_iff_forall_ne_some]
  intro lexeme hfound
  rcases scan_cases hfound with ⟨c', rest', hblank, -, hsource⟩ | ⟨symbol, rest', -, hsource⟩
  · obtain ⟨rfl, -⟩ := List.cons.inj hsource
    exact h (mem_separators_of_isBlank hblank)
  · obtain ⟨c', hmem, hspelling⟩ := symbol.exists_spelling
    rw [hspelling] at hsource
    obtain ⟨rfl, -⟩ := List.cons.inj hsource
    exact h hmem

end Punctuation

namespace Quotation

/-- A text does not go on with a delimiter exactly if the delimiter is not its first
character. -/
theorem ends_iff_head?_ne {delimiter : Char} {rest : List Char} :
    Ends (· == delimiter) rest ↔ rest.head? ≠ some delimiter := by
  cases rest <;> simp [ends_nil, ends_cons_iff]

/-- **A quotation is found exactly where a text stands in its written form** and no further
delimiter follows. -/
theorem scan_eq_some_iff {delimiter : Char} {kind : TokenKind} {source : List Char}
    {lexeme : Lexeme} :
    scan delimiter kind source = some lexeme ↔
      ∃ value, lexeme.text = Text.Delimited.enclose delimiter value ∧
        lexeme.token = some (kind, String.ofList value) ∧ lexeme.text ++ lexeme.rest = source ∧
        Ends (· == delimiter) lexeme.rest := by
  rw [scan, Option.map_eq_some_iff]
  constructor
  · rintro ⟨⟨value, rest⟩, hread, rfl⟩
    obtain ⟨hsource, hrest⟩ := Text.Delimited.read_eq_some_iff.1 hread
    exact ⟨value, rfl, rfl, hsource.symm, ends_iff_head?_ne.2 hrest⟩
  · obtain ⟨text, token, rest⟩ := lexeme
    rintro ⟨value, htext, htoken, hsource, hrest⟩
    obtain rfl : text = Text.Delimited.enclose delimiter value := htext
    obtain rfl : token = some (kind, String.ofList value) := htoken
    exact ⟨(value, rest),
      Text.Delimited.read_eq_some_iff.2 ⟨hsource.symm, ends_iff_head?_ne.1 hrest⟩, rfl⟩

/-- Another character begins no literal. -/
theorem scan_of_ne {delimiter c : Char} {kind : TokenKind} (h : c ≠ delimiter)
    (rest : List Char) : scan delimiter kind (c :: rest) = none := by
  rw [scan, Text.Delimited.read, if_neg h, Option.map_none]

end Quotation

end ColumnarSql
