import ColumnarSql.Proofs.Lexeme.Number
import ColumnarSql.Proofs.Lexeme.Punctuation
import ColumnarSql.Proofs.Lexeme.Word
import ColumnarSql.Tokenization

/-!
# The first character decides

Five scanners are tried in turn at every place of a text, and the first that finds a lexeme is
believed.  The first character alone tells which of them can find any (`Start.ofChar`):

* white space and the punctuation marks are left to `Punctuation.scanner`;
* an apostrophe is left to `Quotation.stringScanner`;
* a digit or a point is left to `Number.scanner`;
* a letter or a quotation mark is left to the two scanners for words;
* every other character is left to none.

So the cascade is a dispatch (`Scanner.firstMatch_eq_dispatch`), which looks at the first character
and asks one scanner, or the two for words.

It follows how far the order of the cascade matters.  No two of the last four scanners find
something at the same place (`Scanner.pairwise_excludes`), and what the first scanner that finds
something finds is then the same in every order of them (`Scanner.firstMatch_perm`).  The scanner
for reserved words is different: wherever it finds a word, the scanner for names finds the same
word (`Word.exists_name_of_keyword`), so behind that one it would never be heard
(`Scanner.firstMatch_of_names_first`).  It need not come before the others
(`Scanner.every_cascade_is_dispatch`).
-/

namespace ColumnarSql

/-! ## What begins with which character -/

/-- A letter is no separator, no delimiter, and begins no number. -/
theorem ne_of_isAlphabetic {c : Char} (h : Unicode.isAlphabetic c = true) :
    c ∉ separators ∧ c ≠ '\'' ∧ c ≠ '"' ∧ c.isDigit = false ∧ c ≠ '.' := by
  by_cases hc : c.toNat < 128
  · exact Unicode.forall_ascii
      (p := fun c => Unicode.isAlphabetic c = true →
        c ∉ separators ∧ c ≠ '\'' ∧ c ≠ '"' ∧ c.isDigit = false ∧ c ≠ '.')
      (by decide +kernel) hc h
  · have hall : ∀ d ∈ '\'' :: '"' :: '.' :: separators, d.toNat < 128 :=
      List.forall_iff_forall_mem.1 (by decide)
    have hother : ∀ d ∈ '\'' :: '"' :: '.' :: separators, c ≠ d := by
      rintro d hd rfl
      exact hc (hall c hd)
    refine ⟨fun hmem => hother c (by simp [hmem]) rfl, hother _ (by simp), hother _ (by simp), ?_,
      hother _ (by simp)⟩
    rw [Bool.eq_false_iff]
    intro hdigit
    have hrange := Char.isDigit_iff_toNat.1 hdigit
    have hnine : '9'.toNat = 57 := rfl
    omega

/-- A digit or a point is no letter, no separator and no delimiter. -/
theorem ne_of_isNumberStart {c : Char} (h : c.isDigit = true ∨ c = '.') :
    Unicode.isAlphabetic c = false ∧ c ∉ separators ∧ c ≠ '\'' := by
  have hascii : c.toNat < 128 := by
    rcases h with h | rfl
    · have hrange := Char.isDigit_iff_toNat.1 h
      have hnine : '9'.toNat = 57 := rfl
      omega
    · decide
  exact Unicode.forall_ascii
    (p := fun c => c.isDigit = true ∨ c = '.' →
      Unicode.isAlphabetic c = false ∧ c ∉ separators ∧ c ≠ '\'') (by decide +kernel) hascii h

namespace Lexeme

/-- What a lexeme may start with. -/
inductive Start where
  /-- White space or a punctuation mark. -/
  | separator
  | apostrophe
  /-- A digit or a point. -/
  | figure
  /-- A letter, or the quotation mark before a name. -/
  | letter
  deriving DecidableEq, Repr

namespace Start

/-- The characters that are such a start. -/
def Covers : Start → Char → Prop
  | .separator, c => c ∈ separators
  | .apostrophe, c => c = '\''
  | .figure, c => c.isDigit = true ∨ c = '.'
  | .letter, c => c = '"' ∨ Unicode.isAlphabetic c = true

/-- The start that a character is, if it is any. -/
def ofChar (c : Char) : Option Start :=
  if c ∈ separators then some .separator
  else if c = '\'' then some .apostrophe
  else if c.isDigit = true ∨ c = '.' then some .figure
  else if c = '"' ∨ Unicode.isAlphabetic c = true then some .letter
  else none

/-- The start that a text has, if it has any. -/
def ofText (source : List Char) : Option Start :=
  source.head?.bind ofChar

/-- A character is one start only. -/
theorem ofChar_eq_some_iff {c : Char} {start : Start} :
    ofChar c = some start ↔ start.Covers c := by
  constructor
  · unfold ofChar
    split_ifs with hseparator happostrophe hfigure hletter <;> rintro ⟨⟩ <;> assumption
  · cases start with
    | separator => exact fun h => if_pos h
    | apostrophe =>
      rintro rfl
      decide
    | figure =>
      intro h
      obtain ⟨-, hseparator, happostrophe⟩ := ne_of_isNumberStart h
      exact (if_neg hseparator).trans ((if_neg happostrophe).trans (if_pos h))
    | letter =>
      rintro (rfl | h)
      · decide
      · obtain ⟨hseparator, happostrophe, -, hdigit, hpoint⟩ := ne_of_isAlphabetic h
        rw [ofChar, if_neg hseparator, if_neg happostrophe, if_neg (by simp [hdigit, hpoint]),
          if_pos (.inr h)]

theorem ofChar_eq_none_iff {c : Char} : ofChar c = none ↔ ∀ start : Start, ¬ start.Covers c := by
  simp only [Option.eq_none_iff_forall_ne_some, ne_eq, ofChar_eq_some_iff]

theorem ofText_cons_eq_some_iff {c : Char} {rest : List Char} {start : Start} :
    ofText (c :: rest) = some start ↔ start.Covers c :=
  ofChar_eq_some_iff

end Start
end Lexeme

open Lexeme (Start)

/-- A word starts with a letter. -/
theorem Word.IsWord.ofText_eq {text : List Char} (h : Word.IsWord text) (rest : List Char) :
    Start.ofText (text ++ rest) = some .letter := by
  obtain ⟨c, others, rfl, hc, -⟩ := h
  exact Start.ofText_cons_eq_some_iff.2 (Or.inr hc)

/-- A number starts with a digit or a point. -/
theorem Number.IsNumber.ofText_eq {text : List Char} (h : Number.IsNumber text) (rest : List Char) :
    Start.ofText (text ++ rest) = some .figure := by
  obtain ⟨c, others, rfl, hc⟩ := h.head
  exact Start.ofText_cons_eq_some_iff.2 hc

theorem Symbol.ofText_eq (mark : Symbol) (rest : List Char) :
    Start.ofText (mark.spelling.toList ++ rest) = some .separator := by
  obtain ⟨c, hmem, hspelling⟩ := mark.exists_spelling
  rw [hspelling]
  exact Start.ofText_cons_eq_some_iff.2 hmem

/-! ## Where a scanner finds something -/

namespace Scanner

/-- There is nothing to find in an empty text. -/
theorem scan_nil (scanner : Scanner) : scanner.scan [] = none := by
  rw [Option.eq_none_iff_forall_ne_some]
  intro lexeme hfound
  exact scanner.text_ne_nil hfound (List.append_eq_nil_iff.1 (scanner.splits hfound)).1

/-- A scanner finds nothing but lexemes with a certain start. -/
def OnlyAt (scanner : Scanner) (start : Start) : Prop :=
  ∀ c rest, ¬ start.Covers c → scanner.scan (c :: rest) = none

theorem OnlyAt.scan_eq_none {scanner : Scanner} {start : Start} (h : OnlyAt scanner start)
    (source : List Char) (hstart : Start.ofText source ≠ some start) :
    scanner.scan source = none := by
  cases source with
  | nil => exact scanner.scan_nil
  | cons c rest => exact h c rest fun hcovers => hstart (Start.ofText_cons_eq_some_iff.2 hcovers)

/-- **Two scanners exclude each other**: nowhere do both of them find something. -/
def Excludes (first second : Scanner) : Prop :=
  ∀ source, first.scan source = none ∨ second.scan source = none

theorem Excludes.symm {first second : Scanner} (h : Excludes first second) :
    Excludes second first :=
  fun source => (h source).symm

/-- Scanners for lexemes with different starts exclude each other. -/
theorem OnlyAt.excludes {first second : Scanner} {start start' : Start}
    (hfirst : OnlyAt first start) (hsecond : OnlyAt second start') (hne : start ≠ start') :
    Excludes first second := by
  intro source
  by_cases hstart : Start.ofText source = some start
  · exact .inr (hsecond.scan_eq_none source (by rwa [hstart, Ne, Option.some_inj]))
  · exact .inl (hfirst.scan_eq_none source hstart)

end Scanner

theorem Punctuation.onlyAt_scanner : scanner.OnlyAt .separator :=
  fun _ rest h => scan_of_not_separator h rest

theorem Quotation.onlyAt_stringScanner : stringScanner.OnlyAt .apostrophe :=
  fun _ rest h => scan_of_ne h rest

theorem Number.onlyAt_scanner : scanner.OnlyAt .figure := by
  intro c rest h
  rw [Start.Covers, not_or, Bool.not_eq_true] at h
  exact scan_of_not_start h.1 h.2 rest

namespace Word

/-- A bare word is not found exactly if there is no letter. -/
theorem scanBare_eq_none_iff {c : Char} {rest : List Char} :
    scanBare (c :: rest) = none ↔ Unicode.isAlphabetic c = false := by
  rw [scanBare]
  cases Unicode.isAlphabetic c <;> simp

theorem onlyAt_keywordScanner : keywordScanner.OnlyAt .letter := by
  intro c rest h
  rw [Start.Covers, not_or, Bool.not_eq_true] at h
  exact scanKeyword_of_not_alphabetic h.2 rest

theorem onlyAt_identifierScanner : identifierScanner.OnlyAt .letter := by
  intro c rest h
  rw [Start.Covers, not_or, Bool.not_eq_true] at h
  exact Option.or_eq_none_iff.2 ⟨Quotation.scan_of_ne h.1 rest, scanBare_eq_none_iff.2 h.2⟩

end Word

/-! ## The dispatch -/

namespace Scanner

theorem firstMatch_nil (source : List Char) : firstMatch [] source = none :=
  rfl

theorem firstMatch_cons (scanner : Scanner) (others : List Scanner) (source : List Char) :
    firstMatch (scanner :: others) source =
      (scanner.scan source).or (firstMatch others source) := by
  rw [firstMatch, List.findSome?_cons, firstMatch]
  cases scanner.scan source <;> rfl

theorem firstMatch_append (first second : List Scanner) (source : List Char) :
    firstMatch (first ++ second) source =
      (firstMatch first source).or (firstMatch second source) :=
  List.findSome?_append

/-- The lexeme at the front of a text, found by the scanners that its start asks for. -/
def dispatch (source : List Char) : Option Lexeme :=
  match Start.ofText source with
  | some .separator => Punctuation.scan source
  | some .apostrophe => Quotation.scan '\'' .string source
  | some .figure => Number.scan source
  | some .letter => (Word.scanKeyword source).or (Word.scanIdentifier source)
  | none => none

/-- **The cascade of the scanners is a dispatch on the first character.** -/
theorem firstMatch_eq_dispatch (source : List Char) :
    firstMatch scanners source = dispatch source := by
  -- the scanners that the start does not ask for find nothing
  have hkeyword := Word.onlyAt_keywordScanner.scan_eq_none source
  have hpunctuation := Punctuation.onlyAt_scanner.scan_eq_none source
  have hstring := Quotation.onlyAt_stringScanner.scan_eq_none source
  have hnumber := Number.onlyAt_scanner.scan_eq_none source
  have hidentifier := Word.onlyAt_identifierScanner.scan_eq_none source
  simp only [scanners, firstMatch_cons, firstMatch_nil, Option.or_none, dispatch]
  generalize Start.ofText source = start at *
  cases start with
  | none =>
    rw [hkeyword nofun, hpunctuation nofun, hstring nofun, hnumber nofun, hidentifier nofun]
    rfl
  | some start =>
    cases start with
    | separator =>
      rw [hkeyword nofun, hstring nofun, hnumber nofun, hidentifier nofun, Option.none_or]
      exact Option.or_none
    | apostrophe =>
      rw [hkeyword nofun, hpunctuation nofun, hnumber nofun, hidentifier nofun]
      exact Option.or_none
    | figure =>
      rw [hkeyword nofun, hpunctuation nofun, hstring nofun, hidentifier nofun]
      exact Option.or_none
    | letter =>
      rw [hpunctuation nofun, hstring nofun, hnumber nofun]
      rfl

/-- A quotation mark begins nothing but a name between quotation marks. -/
theorem dispatch_quotationMark (rest : List Char) :
    dispatch ('"' :: rest) = Quotation.scan '"' .identifier ('"' :: rest) := by
  have hstart : Start.ofText ('"' :: rest) = some .letter :=
    Start.ofText_cons_eq_some_iff.2 (.inl rfl : Start.Covers .letter '"')
  have hletter : Unicode.isAlphabetic '"' = false := by
    decide +kernel
  rw [dispatch, hstart]
  simp only [Word.scanKeyword_of_not_alphabetic hletter, Word.scanIdentifier,
    Word.scanBare_eq_none_iff.2 hletter, Option.none_or, Option.or_none]

end Scanner

/-! ## The order of the scanners -/

/-- What begins with a word begins with no quotation mark. -/
theorem Word.IsWord.scanIdentifier_eq {text : List Char} (h : IsWord text) (rest : List Char) :
    scanIdentifier (text ++ rest) = scanBare (text ++ rest) := by
  obtain ⟨c, others, rfl, hc, -⟩ := h
  rw [scanIdentifier, List.cons_append, Quotation.scan_of_ne (ne_of_isAlphabetic hc).2.2.1,
    Option.none_or]

/-- **Where a reserved word is found, the same word is found as a name.** -/
theorem Word.exists_name_of_keyword {source : List Char} {lexeme : Lexeme}
    (h : keywordScanner.scan source = some lexeme) :
    ∃ name, identifierScanner.scan source = some name ∧ name.text = lexeme.text ∧
      name.rest = lexeme.rest := by
  obtain ⟨rfl, ⟨word, hspells, -⟩, hends⟩ := scanKeyword_eq_some_iff.1 h
  have hbare : scanBare (lexeme.text ++ lexeme.rest) =
      some ⟨lexeme.text, some (.identifier, String.ofList lexeme.text), lexeme.rest⟩ :=
    scanBare_eq_some_iff.2 ⟨rfl, hspells.isWord, rfl, hends⟩
  exact ⟨_, (hspells.isWord.scanIdentifier_eq _).trans hbare, rfl, rfl⟩

namespace Scanner

/-- The scanners but for the one for reserved words. -/
def exclusive : List Scanner :=
  [Punctuation.scanner, Quotation.stringScanner, Number.scanner, Word.identifierScanner]

/-- **No two of them find something at the same place.** -/
theorem pairwise_excludes : exclusive.Pairwise Excludes := by
  have hpunctuation := Punctuation.onlyAt_scanner
  have hstring := Quotation.onlyAt_stringScanner
  have hnumber := Number.onlyAt_scanner
  have hidentifier := Word.onlyAt_identifierScanner
  simp only [exclusive, List.pairwise_cons, List.mem_cons, List.not_mem_nil, or_false,
    forall_eq_or_imp, forall_eq, IsEmpty.forall_iff, implies_true, List.Pairwise.nil, and_true]
  exact ⟨⟨hpunctuation.excludes hstring nofun, hpunctuation.excludes hnumber nofun,
      hpunctuation.excludes hidentifier nofun⟩,
    ⟨hstring.excludes hnumber nofun, hstring.excludes hidentifier nofun⟩,
    hnumber.excludes hidentifier nofun⟩

/-- What is found first is whatever is found, if the scanners exclude each other. -/
theorem firstMatch_eq_some_iff_of_pairwise {scanners : List Scanner}
    (hpairwise : scanners.Pairwise Excludes) {source : List Char} {lexeme : Lexeme} :
    firstMatch scanners source = some lexeme ↔
      ∃ scanner ∈ scanners, scanner.scan source = some lexeme := by
  refine ⟨List.exists_of_findSome?_eq_some, ?_⟩
  rintro ⟨found, hmem, hfound⟩
  induction scanners with
  | nil => simp at hmem
  | cons scanner others ih =>
    obtain ⟨hscanner, hothers⟩ := List.pairwise_cons.1 hpairwise
    rw [firstMatch_cons]
    rcases List.mem_cons.1 hmem with rfl | hmem
    · rw [hfound, Option.some_or]
    · have hnone : scanner.scan source = none :=
        (hscanner found hmem source).resolve_right (by simp [hfound])
      rw [hnone, Option.none_or, ih hothers hmem]

/-- The order of scanners that exclude each other does not matter. -/
theorem firstMatch_perm {first second : List Scanner} (hpairwise : first.Pairwise Excludes)
    (hperm : first.Perm second) (source : List Char) :
    firstMatch first source = firstMatch second source := by
  have hpairwise' : second.Pairwise Excludes := hperm.pairwise hpairwise Excludes.symm
  ext lexeme
  rw [firstMatch_eq_some_iff_of_pairwise hpairwise, firstMatch_eq_some_iff_of_pairwise hpairwise']
  simp only [hperm.mem_iff]

/-- **The scanners in some order**, where the one for reserved words is tried before the one for
names. -/
def IsCascade (order : List Scanner) : Prop :=
  order.Perm scanners ∧ [Word.keywordScanner, Word.identifierScanner].Sublist order

/-- The scanner for reserved words stands somewhere among the others. -/
theorem IsCascade.exists_eq {order : List Scanner} (h : IsCascade order) :
    ∃ before behind, order = before ++ Word.keywordScanner :: behind ∧
      (before ++ behind).Perm exclusive ∧ Word.identifierScanner ∈ behind := by
  obtain ⟨hperm, hsublist⟩ := h
  obtain ⟨front, back, rfl, hkeyword, hidentifier⟩ := List.cons_sublist_iff.1 hsublist
  obtain ⟨before, between, rfl⟩ := List.append_of_mem hkeyword
  rw [List.append_assoc, List.cons_append] at hperm ⊢
  exact ⟨before, between ++ back, rfl, (List.perm_middle.symm.trans hperm).cons_inv,
    List.mem_append_right _ (List.singleton_sublist.1 hidentifier)⟩

/-- Every such order finds the same. -/
theorem IsCascade.firstMatch_eq {order : List Scanner} (h : IsCascade order)
    (source : List Char) : firstMatch order source = firstMatch scanners source := by
  obtain ⟨before, behind, rfl, hperm, hidentifier⟩ := h.exists_eq
  have hpairwise : (before ++ behind).Pairwise Excludes :=
    hperm.symm.pairwise pairwise_excludes Excludes.symm
  have hscanners : firstMatch scanners source =
      (Word.keywordScanner.scan source).or
        ((firstMatch before source).or (firstMatch behind source)) := by
    rw [← firstMatch_append, firstMatch_perm hpairwise hperm]
    exact firstMatch_cons _ _ _
  rw [hscanners, firstMatch_append, firstMatch_cons]
  cases hkeyword : Word.keywordScanner.scan source with
  | none => rw [Option.none_or, Option.none_or]
  | some lexeme =>
    -- a name is found as well, and excludes whatever is tried before
    obtain ⟨name, hname, -, -⟩ := Word.exists_name_of_keyword hkeyword
    have hbefore : firstMatch before source = none := by
      refine List.findSome?_eq_none_iff.2 fun scanner hmem => ?_
      have hexcludes := (List.pairwise_append.1 hpairwise).2.2 scanner hmem _ hidentifier
      exact (hexcludes source).resolve_right (by simp [hname])
    rw [hbefore, Option.none_or, Option.none_or]

/-- **The other way round no reserved word is ever found.**  If the scanner for names is tried
before the one for reserved words, this one might as well be left out. -/
theorem firstMatch_of_names_first {order : List Scanner} (hperm : order.Perm scanners)
    (hsublist : [Word.identifierScanner, Word.keywordScanner].Sublist order)
    (source : List Char) : firstMatch order source = firstMatch exclusive source := by
  obtain ⟨front, back, rfl, hidentifier, hkeyword⟩ := List.cons_sublist_iff.1 hsublist
  obtain ⟨between, behind, rfl⟩ := List.append_of_mem (List.singleton_sublist.1 hkeyword)
  rw [← List.append_assoc] at hperm ⊢
  have hothers : (front ++ between ++ behind).Perm exclusive :=
    (List.perm_middle.symm.trans hperm).cons_inv
  rw [firstMatch_perm pairwise_excludes hothers.symm, firstMatch_append (front ++ between) behind,
    firstMatch_append (front ++ between), firstMatch_cons]
  cases hfound : Word.keywordScanner.scan source with
  | none => rw [Option.none_or]
  | some lexeme =>
    -- a name is found as well, and so something is found before
    obtain ⟨name, hname, -, -⟩ := Word.exists_name_of_keyword hfound
    have hbefore : (firstMatch (front ++ between) source).isSome = true :=
      List.findSome?_isSome_iff.2 ⟨_, List.mem_append_left _ hidentifier, by rw [hname]; rfl⟩
    obtain ⟨first, hfirst⟩ := Option.isSome_iff_exists.1 hbefore
    rw [hfirst, Option.some_or, Option.some_or]

end Scanner

/-- The loop depends on nothing but what the scanners find. -/
theorem tokenizeWith_congr {first second : List Scanner}
    (h : ∀ source, Scanner.firstMatch first source = Scanner.firstMatch second source)
    (after : Option String) (location : Location) (source : List Char) :
    tokenizeWith first after location source = tokenizeWith second after location source := by
  fun_induction tokenizeWith first after location source with
  | case1 after location => exact tokenizeWith_nil.symm
  | case2 after location source hne hnone =>
    rw [tokenizeWith_of_none hne ((h source).symm.trans hnone)]
  | case3 after location source _ lexeme hfound htoken ih =>
    rw [tokenizeWith_of_blank ((h source).symm.trans hfound) htoken, ih]
  | case4 after location source _ lexeme hfound kind value htoken ih =>
    rw [tokenizeWith_of_token ((h source).symm.trans hfound) htoken, ih]

namespace Scanner

/-- **Every cascade is the same dispatch.**  Try the scanners in any order that has the one for
reserved words before the one for names.  Then at every place the first that finds something finds
what the dispatch on the first character finds, and a text has the same tokens, or is refused with
the same error.  The reasons are that no two of the scanners but for the one for reserved words find
something at the same place, and that this one finds nothing but what is found as a name too, up to
the same end. -/
theorem every_cascade_is_dispatch :
    (∀ order, IsCascade order →
      (∀ source, firstMatch order source = dispatch source) ∧
      ∀ source : String, tokenizeWith order none .start source.toList = tokenize source) ∧
    [Punctuation.scanner, Quotation.stringScanner, Number.scanner,
      Word.identifierScanner].Pairwise Excludes ∧
    ∀ source lexeme, Word.keywordScanner.scan source = some lexeme →
      ∃ name, Word.identifierScanner.scan source = some name ∧ name.text = lexeme.text ∧
        name.rest = lexeme.rest := by
  refine ⟨fun order h => ⟨fun source => ?_, fun source => ?_⟩, pairwise_excludes,
    fun source lexeme hfound => Word.exists_name_of_keyword hfound⟩
  · rw [h.firstMatch_eq, firstMatch_eq_dispatch]
  · exact tokenizeWith_congr h.firstMatch_eq none .start source.toList

/-- The scanners, and among them the first four in the opposite order. -/
def numbersFirst : List Scanner :=
  [Number.scanner, Quotation.stringScanner, Punctuation.scanner, Word.keywordScanner,
    Word.identifierScanner]

/-- With numbers first there are the same tokens, the same errors and the same reserved words. -/
theorem every_cascade_is_dispatch_numbersFirst :
    IsCascade numbersFirst ∧
      tokenizeWith numbersFirst none .start "INTO\na".toList =
        .ok [⟨.keyword, "into", ⟨0, 0⟩⟩, ⟨.identifier, "a", ⟨1, 0⟩⟩] ∧
      tokenizeWith numbersFirst none .start "a 1.2.3".toList = .error ⟨⟨0, 2⟩, some "a"⟩ ∧
      ∃ name, Word.identifierScanner.scan "INTO\na".toList = some name ∧
        name.text = "INTO".toList ∧ name.rest = "\na".toList := by
  have horder : IsCascade numbersFirst :=
    ⟨(List.reverse_perm [Word.keywordScanner, Punctuation.scanner, Quotation.stringScanner,
        Number.scanner]).append_right [Word.identifierScanner],
      List.sublist_append_right [Number.scanner, Quotation.stringScanner, Punctuation.scanner] _⟩
  obtain ⟨hcascade, -, hkeyword⟩ := every_cascade_is_dispatch
  have htokens := (hcascade numbersFirst horder).2
  refine ⟨horder, (htokens "INTO\na").trans ?_, (htokens "a 1.2.3").trans ?_,
    hkeyword _ ⟨"INTO".toList, some (.keyword, "into"), "\na".toList⟩ rfl⟩
  · decide +kernel
  · decide +kernel

end Scanner
end ColumnarSql
