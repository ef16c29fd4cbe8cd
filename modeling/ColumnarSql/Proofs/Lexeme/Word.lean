import ColumnarSql.Lexeme.Word
import ColumnarSql.Proofs.Lexeme.Boundary
import ColumnarSql.Proofs.Lexeme.LongestMatch

/-!
# Reserved words and bare words

A word is a letter and then word characters, and it ends where no word character follows
(`Word.IsWord`).  Some words spell a reserved word: their lower case is its spelling
(`Word.Spells`), which for these spellings means that they are the same up to the case of ASCII
letters (`Word.spells_iff`).

* `Word.scanKeyword_eq_some_iff`: a reserved word is found exactly where a word stands that
  spells it;
* `Word.scanBare_eq_some_iff`: a bare word is found exactly where a word stands.

The scanner for reserved words does not look for words.  It takes the longest reserved word that
the text begins with, which may be a piece of the word that stands there, or, as far as the
search is concerned, more than that.  Both are excluded by what reserved words are made of:
every character that goes into one is a word character, so none is longer than the word that
stands there (`length_le_of_ends`); and if it is shorter, a word character follows.
-/

namespace ColumnarSql
namespace Word

/-- A word: a letter, and then word characters. -/
def IsWord (text : List Char) : Prop :=
  ∃ c rest, text = c :: rest ∧ Unicode.isAlphabetic c = true ∧ ∀ c' ∈ rest, isWordChar c' = true

/-- A text spells a reserved word: its lower case is the spelling. -/
def Spells (word : Keyword) (text : List Char) : Prop :=
  text.flatMap Unicode.lower = word.spelling.toList

/-! ## The spellings -/

/-- Reserved words are written in small letters of ASCII, and `k` is none of them. -/
theorem plain_of_mem_spelling (word : Keyword) :
    ∀ c ∈ word.spelling.toList, c.toNat < 128 ∧ c ≠ 'k' :=
  List.forall_iff_forall_mem.1 (by cases word <;> decide)

theorem readable_spelling (word : Keyword) : Spelling.Readable word.spelling.toList :=
  ⟨word.spelling_ne_nil, fun c hc => (plain_of_mem_spelling word c hc).1⟩

/-- **A text spells a reserved word** exactly if it is the same up to the case of ASCII
letters. -/
theorem spells_iff {word : Keyword} {text : List Char} :
    Spells word text ↔ text.map Char.toLower = word.spelling.toList :=
  Unicode.flatMap_lower_eq_iff (plain_of_mem_spelling word)

theorem Spells.length_eq {word : Keyword} {text : List Char} (h : Spells word text) :
    text.length = word.spelling.toList.length := by
  rw [← spells_iff.1 h, List.length_map]

/-- A text spells one reserved word only. -/
theorem Spells.unique {first second : Keyword} {text : List Char} (hfirst : Spells first text)
    (hsecond : Spells second text) : first = second :=
  Keyword.spelling_injective (String.toList_inj.1 (hfirst.symm.trans hsecond))

/-- What spells a reserved word is made of ASCII letters. -/
theorem Spells.isAlpha {word : Keyword} {text : List Char} (h : Spells word text) :
    ∀ c ∈ text, c.toNat < 128 ∧ c.isAlpha = true := by
  intro c hc
  have hmem : c.toLower ∈ word.spelling.toList := by
    rw [← spells_iff.1 h]
    exact List.mem_map_of_mem hc
  have hascii : c.toNat < 128 :=
    Unicode.toNat_lt_of_toLower (plain_of_mem_spelling word _ hmem).1
  have hletter := Unicode.forall_ascii
    (p := fun c => c.toLower.isLower = true → c.isAlpha = true) (by decide) hascii
  exact ⟨hascii, hletter (word.isLower_of_mem_spelling _ hmem)⟩

theorem isAlphabetic_of_isAlpha {c : Char} (hascii : c.toNat < 128) (h : c.isAlpha = true) :
    Unicode.isAlphabetic c = true :=
  (Unicode.isAlphabetic_eq_isAlpha hascii).trans h

theorem isWordChar_of_isAlphabetic {c : Char} (h : Unicode.isAlphabetic c = true) :
    isWordChar c = true := by
  simp [isWordChar, h]

theorem IsWord.isWordChar {text : List Char} (h : IsWord text) :
    ∀ c ∈ text, isWordChar c = true := by
  obtain ⟨c, rest, rfl, hc, hrest⟩ := h
  intro c' hc'
  rcases List.mem_cons.1 hc' with rfl | hc'
  · exact isWordChar_of_isAlphabetic hc
  · exact hrest c' hc'

/-- What spells a reserved word is a word. -/
theorem Spells.isWord {word : Keyword} {text : List Char} (h : Spells word text) :
    IsWord text := by
  have hletter : ∀ c ∈ text, Unicode.isAlphabetic c = true := fun c hc =>
    isAlphabetic_of_isAlpha (h.isAlpha c hc).1 (h.isAlpha c hc).2
  have hne : text ≠ [] := by
    rintro rfl
    exact word.spelling_ne_nil h.symm
  obtain ⟨c, rest, rfl⟩ := List.exists_cons_of_ne_nil hne
  exact ⟨c, rest, rfl, hletter c List.mem_cons_self,
    fun c' hc' => isWordChar_of_isAlphabetic (hletter c' (List.mem_cons_of_mem _ hc'))⟩

/-! ## The scanner for reserved words -/

theorem eq_spelling_of_mem {word : Keyword} {spelling : String}
    (h : (word, spelling) ∈ keywordSpellings) : spelling = word.spelling := by
  obtain ⟨other, -, heq⟩ := List.mem_map.1 h
  obtain ⟨rfl, rfl⟩ := Prod.mk.inj heq
  rfl

theorem readable_of_mem : ∀ entry ∈ keywordSpellings, Spelling.Readable entry.2.toList := by
  rintro ⟨word, spelling⟩ hentry
  rw [eq_spelling_of_mem hentry]
  exact readable_spelling word

/-- A match is a reserved word that the text at the front spells. -/
theorem spells_of_longestMatch {source : List Char} {word : Keyword} {length : Nat}
    (h : Spelling.longestMatch keywordSpellings source = some (word, length)) :
    Spells word (source.take length) := by
  obtain ⟨before, spelling, after, hentries, rfl, hbegins, -, -⟩ :=
    Spelling.longestMatch_eq_some readable_of_mem h
  have hmem : (word, spelling) ∈ keywordSpellings := by
    rw [hentries]
    exact List.mem_append_right _ List.mem_cons_self
  rw [eq_spelling_of_mem hmem] at hbegins ⊢
  exact (Spelling.begins_iff_take (readable_spelling word).2).1 hbegins

/-- A match is at least as long as any reserved word that the text begins with. -/
theorem length_le_of_longestMatch {source : List Char} {word other : Keyword} {length : Nat}
    (h : Spelling.longestMatch keywordSpellings source = some (word, length))
    (hother : Spelling.Begins other.spelling.toList source) :
    other.spelling.toList.length ≤ length := by
  obtain ⟨before, spelling, after, hentries, rfl, -, hbefore, hafter⟩ :=
    Spelling.longestMatch_eq_some readable_of_mem h
  have hmem : (other, other.spelling) ∈ keywordSpellings :=
    List.mem_map.2 ⟨other, other.mem_all, rfl⟩
  rw [hentries, List.mem_append, List.mem_cons] at hmem
  rcases hmem with hmem | heq | hmem
  · exact (hbefore _ hmem hother).le
  · rw [← (Prod.mk.inj heq).2]
  · exact hafter _ hmem hother

/-- **The longest match at the front of a word** that spells a reserved word is this word. -/
theorem longestMatch_of_spells {word : Keyword} {text rest : List Char} (h : Spells word text)
    (hrest : Ends isWordChar rest) :
    Spelling.longestMatch keywordSpellings (text ++ rest) = some (word, text.length) := by
  have hbegins : Spelling.Begins word.spelling.toList (text ++ rest) := ⟨text, rest, rfl, h⟩
  have hmem : (word, word.spelling) ∈ keywordSpellings :=
    List.mem_map.2 ⟨word, word.mem_all, rfl⟩
  obtain ⟨other, length, hmatch⟩ := Spelling.exists_of_begins readable_of_mem hmem hbegins
  have hother := spells_of_longestMatch hmatch
  have hlong : text.length ≤ length := by
    rw [h.length_eq]
    exact length_le_of_longestMatch hmatch hbegins
  have htake : ((text ++ rest).take length).length = length := by
    obtain ⟨spelling, hentry, rfl⟩ := Spelling.longestMatch_mem hmatch
    rw [hother.length_eq, eq_spelling_of_mem hentry]
  have hshort : ((text ++ rest).take length).length ≤ text.length :=
    length_le_of_ends (List.take_append_drop _ _) h.isWord.isWordChar hrest
      hother.isWord.isWordChar
  obtain rfl : length = text.length := by omega
  rw [List.take_left] at hother
  rw [hmatch, hother.unique h]

/-- **A reserved word is found exactly where a word stands that spells it.** -/
theorem scanKeyword_eq_some_iff {source : List Char} {lexeme : Lexeme} :
    scanKeyword source = some lexeme ↔
      lexeme.text ++ lexeme.rest = source ∧
        (∃ word, Spells word lexeme.text ∧ lexeme.token = some (.keyword, word.spelling)) ∧
        Ends isWordChar lexeme.rest := by
  constructor
  · intro h
    have hsplits := scanKeyword_splits h
    unfold scanKeyword at h
    split at h
    · simp at h
    · next word length hmatch =>
      split at h
      · simp at h
      · next hnext =>
        obtain rfl := Option.some.inj h
        exact ⟨hsplits, ⟨word, spells_of_longestMatch hmatch, rfl⟩,
          any_head?_eq_false_iff.1 (by simpa using hnext)⟩
  · obtain ⟨text, token, rest⟩ := lexeme
    rintro ⟨hsource, ⟨word, hword, htoken⟩, hrest⟩
    have hmatch := longestMatch_of_spells hword hrest
    have hnone : rest.head?.any isWordChar = false := any_head?_eq_false_iff.2 hrest
    rw [← hsource, scanKeyword, hmatch]
    simp only [List.take_left, List.drop_left, hnone, ← htoken]
    rfl

/-- A character that is no letter begins no reserved word. -/
theorem scanKeyword_of_not_alphabetic {c : Char} (h : Unicode.isAlphabetic c = false)
    (rest : List Char) : scanKeyword (c :: rest) = none := by
  rw [Option.eq_none_iff_forall_ne_some]
  intro lexeme hfound
  obtain ⟨hsource, ⟨word, hword, -⟩, -⟩ := scanKeyword_eq_some_iff.1 hfound
  obtain ⟨c', text, htext, hc', -⟩ := hword.isWord
  rw [htext, List.cons_append] at hsource
  rw [(List.cons.inj hsource).1, h] at hc'
  simp at hc'

/-! ## Bare words -/

/-- **A bare word is found exactly where a word stands.** -/
theorem scanBare_eq_some_iff {source : List Char} {lexeme : Lexeme} :
    scanBare source = some lexeme ↔
      lexeme.text ++ lexeme.rest = source ∧ IsWord lexeme.text ∧
        lexeme.token = some (.identifier, String.ofList lexeme.text) ∧
        Ends isWordChar lexeme.rest := by
  constructor
  · intro h
    have hsplits := scanBare_splits h
    unfold scanBare at h
    split at h
    · simp at h
    · next c rest =>
      split at h
      · next hc =>
        obtain rfl := Option.some.inj h
        exact ⟨hsplits, ⟨c, _, rfl, hc, fun _ hc' => List.mem_takeWhile_imp hc'⟩, rfl,
          ends_dropWhile isWordChar rest⟩
      · simp at h
  · obtain ⟨text, token, rest⟩ := lexeme
    rintro ⟨hsource, ⟨c, others, htext, hc, hothers⟩, htoken, hrest⟩
    obtain rfl : text = c :: others := htext
    obtain rfl : token = some (.identifier, String.ofList (c :: others)) := htoken
    rw [← hsource, List.cons_append, scanBare, if_pos hc]
    simp only [takeWhile_append_of_ends hothers hrest, dropWhile_append_of_ends hothers hrest]

end Word
end ColumnarSql
