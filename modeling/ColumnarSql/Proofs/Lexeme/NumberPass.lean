import ColumnarSql.Proofs.Lexeme.Offence
import ColumnarSql.Proofs.Location

/-!
# Numbers in one pass

`Number.scan` reads a mantissa and then an exponent.  The same can be done in one pass from
character to character, by a reader that remembers three things only: whether it has met a digit, a
point, an exponent.  `Number.pass` is this reader.  It does not know in which part of a number it
is, and it refuses a second point or a second `e` wherever it meets one.

That both read the same (`Number.pass_nothing`) rests on what is left of the grammar in each state.
Digits may come in every state, and they make the next character count, so a pass is looked at only
where no digit follows (`Number.pass_eq_digits`):

* behind an exponent nothing may follow that is a part of a number (`Number.pass_of_exponent`);
* behind a digit an exponent may follow, and behind this the same (`Number.pass_of_digit`);
* without a digit only a point may follow, and only if there was none (`Number.pass_of_no_digit`).

So `Number.numbers_are_read_exactly` holds of the pass as it does of the scanner: both find the
numbers of the grammar, and where the text goes on like a number but is none they find nothing.
-/

namespace ColumnarSql
namespace Number

/-! ## The pass -/

/-- What a pass over a number has met so far. -/
structure Seen where
  digit : Bool
  point : Bool
  /-- An `e` with digits behind it. -/
  exponent : Bool
  deriving DecidableEq, Repr

/-- Nothing has been met. -/
def Seen.nothing : Seen :=
  ⟨false, false, false⟩

/-- A text that has been read, with more in front of it. -/
def inFront (text : List Char) (found : List Char × List Char) : List Char × List Char :=
  (text ++ found.1, found.2)

/-- **One pass over a number**, from character to character.  A second point, a second `e` and an
`e` without digits spoil the whole. -/
def pass (seen : Seen) (source : List Char) : Option (List Char × List Char) :=
  match source with
  | [] => if seen.digit then some ([], []) else none
  | c :: rest =>
    if c.isDigit then
      (pass { seen with digit := true } rest).map (inFront [c])
    else if c = '.' then
      if seen.point || seen.exponent then
        none
      else
        (pass { seen with point := true } rest).map (inFront ['.'])
    else if c = 'e' ∧ seen.digit then
      if seen.exponent then
        none
      else if (scanSign rest).2.head?.any Char.isDigit then
        (pass { seen with exponent := true } (scanSign rest).2).map
          (inFront ('e' :: (scanSign rest).1))
      else
        none
    else if seen.digit then
      some ([], c :: rest)
    else
      none
termination_by source.length
decreasing_by
  · exact Nat.lt_succ_self _
  · exact Nat.lt_succ_self _
  · have hsplits := congrArg List.length (scanSign_splits rest)
    rw [List.length_append] at hsplits
    rw [List.length_cons]
    omega

@[simp] theorem inFront_nil : inFront [] = id :=
  rfl

theorem inFront_inFront (first second : List Char) (found : List Char × List Char) :
    inFront first (inFront second found) = inFront (first ++ second) found := by
  rw [inFront, inFront, inFront, List.append_assoc]

/-! ## Digits -/

theorem digits_cons {c : Char} (hc : c.isDigit = true) (rest : List Char) :
    digits (c :: rest) = c :: digits rest :=
  List.takeWhile_cons_of_pos hc

theorem afterDigits_cons {c : Char} (hc : c.isDigit = true) (rest : List Char) :
    afterDigits (c :: rest) = afterDigits rest :=
  List.dropWhile_cons_of_pos hc

theorem digits_of_ends {source : List Char} (h : Ends Char.isDigit source) :
    digits source = [] ∧ afterDigits source = source := by
  have hnil : AllDigits [] := by
    simp [AllDigits]
  exact ⟨digits_append hnil h, afterDigits_append hnil h⟩

/-- There is a digit in front exactly if there are digits. -/
theorem any_isDigit_head? (source : List Char) :
    source.head?.any Char.isDigit = decide (digits source ≠ []) := by
  cases source with
  | nil => rfl
  | cons c rest => cases hc : c.isDigit <;> simp [digits, hc]

/-- **Digits are read in every state**, and the pass goes on behind them. -/
theorem pass_eq_digits (seen : Seen) (source : List Char) :
    pass seen source =
      (pass { seen with digit := seen.digit || decide (digits source ≠ []) }
        (afterDigits source)).map (inFront (digits source)) := by
  induction source generalizing seen with
  | nil => cases hdigit : seen.digit <;> simp [pass, digits, afterDigits, hdigit]
  | cons c rest ih =>
    cases hc : c.isDigit with
    | true =>
      rw [pass, if_pos hc, ih, digits_cons hc, afterDigits_cons hc, Option.map_map]
      simp only [Bool.true_or, ne_eq, reduceCtorEq, not_false_eq_true, decide_true, Bool.or_true]
      refine congrArg (Option.map · _) (funext fun found => ?_)
      rw [Function.comp_apply, inFront_inFront]
      rfl
    | false =>
      obtain ⟨hnone, hall⟩ := digits_of_ends (ends_cons_iff.2 hc)
      rw [hnone, hall]
      simp

/-! ## Where no digit follows -/

section States

variable {seen : Seen} {source : List Char}

/-- What is read behind a mantissa: an exponent or nothing, if the number may end there. -/
def finish (source : List Char) : Option (List Char × List Char) :=
  (scanExponent source).bind fun found =>
    if found.2.head?.any isNumberChar then none else some found

/-- A number is a mantissa and what is read behind it. -/
theorem scan_eq_finish (source : List Char) :
    (scan source).map (fun lexeme => (lexeme.text, lexeme.rest)) =
      (scanMantissa source).bind fun found => (finish found.2).map (inFront found.1) := by
  rw [scan]
  cases scanMantissa source with
  | none => rfl
  | some found =>
    obtain ⟨mantissa, afterMantissa⟩ := found
    simp only [finish, Option.bind_some]
    cases scanExponent afterMantissa with
    | none => rfl
    | some found =>
      simp only [Option.bind_some]
      split <;> rfl

/-- Without an `e` there is no exponent. -/
theorem finish_of_ne {c : Char} {rest : List Char} (hc : c ≠ 'e') :
    finish (c :: rest) = if isNumberChar c then none else some ([], c :: rest) := by
  have hexponent : scanExponent (c :: rest) = some ([], c :: rest) := by
    unfold scanExponent
    split
    · next heq => exact absurd (List.cons.inj heq).1 hc
    · rfl
  rw [finish, hexponent]
  rfl

/-- **Behind an exponent** nothing may follow that is a part of a number. -/
theorem pass_of_exponent (hdigit : seen.digit = true) (hexponent : seen.exponent = true)
    (hends : Ends Char.isDigit source) :
    pass seen source = if source.head?.any isNumberChar then none else some ([], source) := by
  cases source with
  | nil => rw [pass, if_pos hdigit]; rfl
  | cons c rest =>
    have hc := ends_cons_iff.1 hends
    rw [pass, if_neg (by simp [hc])]
    by_cases hpoint : c = '.'
    · simp [hpoint, hexponent, isNumberChar]
    · by_cases he : c = 'e'
      · simp [he, hdigit, hexponent, isNumberChar]
      · simp [hpoint, he, hdigit, hc, isNumberChar]

/-- **Behind a digit** an exponent may follow, or nothing.  A point may not, unless it is the
first. -/
theorem pass_of_digit (hdigit : seen.digit = true) (hexponent : seen.exponent = false)
    (hends : Ends Char.isDigit source) (hpoint : seen.point = true ∨ Ends (· == '.') source) :
    pass seen source = finish source := by
  cases source with
  | nil => rw [pass, if_pos hdigit]; rfl
  | cons c rest =>
    have hc := ends_cons_iff.1 hends
    rw [pass, if_neg (by simp [hc])]
    by_cases hdot : c = '.'
    · have hseen : seen.point = true := hpoint.resolve_right (by simp [hdot, ends_cons_iff])
      rw [finish_of_ne (by simp [hdot])]
      simp [hdot, hseen, isNumberChar]
    · rw [if_neg hdot]
      by_cases he : c = 'e'
      · rw [if_pos ⟨he, hdigit⟩, he, hexponent, if_neg Bool.false_ne_true, any_isDigit_head?]
        by_cases hnone : digits (scanSign rest).2 = []
        · simp [finish, scanExponent, hnone]
        · have hexponentEnds : Ends Char.isDigit (afterDigits (scanSign rest).2) :=
            ends_dropWhile _ _
          rw [if_pos (by simpa using hnone), pass_eq_digits,
            pass_of_exponent (by simp [hdigit]) rfl hexponentEnds]
          simp only [finish, scanExponent, hnone, if_false, Option.bind_some]
          split <;> simp [inFront]
      · rw [if_neg (by simp [he]), if_pos hdigit, finish_of_ne he]
        simp [isNumberChar, hc, hdot, he]

/-- **Without a digit** there is no number, unless a first point follows. -/
theorem pass_of_no_digit (hdigit : seen.digit = false) (hends : Ends Char.isDigit source)
    (hpoint : seen.point = true ∨ Ends (· == '.') source) : pass seen source = none := by
  cases source with
  | nil => simp [pass, hdigit]
  | cons c rest =>
    have hc := ends_cons_iff.1 hends
    rw [pass, if_neg (by simp [hc])]
    by_cases hdot : c = '.'
    · have hseen : seen.point = true := hpoint.resolve_right (by simp [hdot, ends_cons_iff])
      simp [hdot, hseen]
    · simp [hdot, hdigit]

/-- A first point is passed over. -/
theorem pass_of_point (hpoint : seen.point = false) (hexponent : seen.exponent = false)
    (rest : List Char) :
    pass seen ('.' :: rest) = (pass { seen with point := true } rest).map (inFront ['.']) := by
  rw [pass]
  simp [hpoint, hexponent]

end States

/-- **One pass reads the same numbers** as the scanner that reads their parts one after another. -/
theorem pass_nothing (source : List Char) :
    pass .nothing source = (scan source).map fun lexeme => (lexeme.text, lexeme.rest) := by
  have hends : ∀ source, Ends Char.isDigit (afterDigits source) := ends_dropWhile _
  rw [scan_eq_finish, pass_eq_digits, scanMantissa]
  split
  · next rest hrest =>
    -- the digits in front of the point and those behind it count together
    rw [hrest, pass_of_point rfl rfl, pass_eq_digits]
    by_cases hnone : digits source = [] ∧ digits rest = []
    · rw [pass_of_no_digit (by simp [Seen.nothing, hnone]) (hends rest) (.inl rfl), if_pos hnone]
      rfl
    · have hdigit : (Seen.nothing.digit || decide (digits source ≠ []) ||
          decide (digits rest ≠ [])) = true := by
        simpa [Seen.nothing, imp_iff_not_or] using hnone
      rw [pass_of_digit hdigit rfl (hends rest) (.inl rfl), if_neg hnone]
      simp only [Option.map_map, Option.bind_some]
      refine congrArg (Option.map · _) (funext fun found => ?_)
      simp [inFront]
  · next hpoint =>
    have hdot : Ends (· == '.') (afterDigits source) := by
      intro c hc
      obtain ⟨rest, hrest⟩ := List.head?_eq_some_iff.1 hc
      rw [beq_eq_false_iff_ne]
      rintro rfl
      exact hpoint rest hrest
    by_cases hnone : digits source = []
    · rw [pass_of_no_digit (by simp [Seen.nothing, hnone]) (hends source) (.inr hdot), if_pos hnone]
      rfl
    · rw [pass_of_digit (by simp [Seen.nothing, hnone]) rfl (hends source) (.inr hdot),
        if_neg hnone]
      rfl

/-! ## Numbers in a text -/

/-- **A number stands at a position** of a text: a text of the grammar begins there, and behind it
is neither a digit nor a point nor an `e`. -/
def StandsAt (source : List Char) (p : Nat) (number : List Char) : Prop :=
  IsNumber number ∧ number ++ source.drop (p + number.length) = source.drop p ∧
    Ends isNumberChar (source.drop (p + number.length))

section Position

variable {source : List Char} {p : Nat}

/-- The scanner finds the number that stands at a position, and ends behind it. -/
theorem scan_drop_eq_some_iff {lexeme : Lexeme} :
    scan (source.drop p) = some lexeme ↔
      ∃ number, StandsAt source p number ∧ lexeme =
        ⟨number, some (.number, String.ofList number), source.drop (p + number.length)⟩ := by
  rw [scan_eq_some_iff]
  obtain ⟨text, token, rest⟩ := lexeme
  constructor
  · rintro ⟨hsource, hnumber, htoken, hends⟩
    obtain rfl : token = some (.number, String.ofList text) := htoken
    obtain rfl : source.drop (p + text.length) = rest := by
      rw [← List.drop_drop, ← hsource]
      exact List.drop_left
    exact ⟨text, ⟨hnumber, hsource, hends⟩, rfl⟩
  · rintro ⟨number, ⟨hnumber, hsource, hends⟩, hlexeme⟩
    obtain ⟨rfl, rfl, rfl⟩ := Lexeme.mk.inj hlexeme
    exact ⟨hsource, hnumber, rfl, hends⟩

/-- One number at most stands at a position. -/
theorem StandsAt.unique {number other : List Char} (h : StandsAt source p number)
    (hother : StandsAt source p other) : other = number := by
  have hfound := scan_drop_eq_some_iff.2 ⟨number, h, rfl⟩
  rw [scan_drop_eq_some_iff.2 ⟨other, hother, rfl⟩] at hfound
  exact congrArg Lexeme.text (Option.some.inj hfound)

/-- Where a text is cut up to a position, the loop has come to this position. -/
theorem tokenize_of_isCut_drop {pieces : List Piece} {gap : List Char} {text : String}
    (hcut : IsCut pieces (gap ++ text.toList.drop p)) (hgap : Blank gap)
    (htext : textOf pieces gap = text.toList.take p) :
    tokenize text =
      (tokenizeWith scanners (lastValue none pieces) (.behind (text.toList.take p))
        (text.toList.drop p)).map (tokensOf .start pieces ++ ·) := by
  have hsource : textOf pieces (gap ++ text.toList.drop p) = text.toList := by
    rw [textOf_append_tail, htext, List.take_append_drop]
  rw [tokenize, ← Location.after_start, ← htext]
  conv_lhs => rw [← hsource]
  rw [tokenizeWith_textOf hcut, tokenizeWith_gap hgap, ← Location.after_append]
  rfl

/-- Where a digit or a point begins no number, nothing is found. -/
theorem firstMatch_of_not_standsAt (hnone : ∀ number, ¬ StandsAt source p number) {c : Char}
    (hc : source[p]? = some c) (hstart : c.isDigit = true ∨ c = '.') :
    Scanner.firstMatch scanners (source.drop p) = none := by
  have hscan : scan (source.drop p) = none := by
    rw [Option.eq_none_iff_forall_ne_some]
    intro lexeme hlexeme
    obtain ⟨number, hnumber, -⟩ := scan_drop_eq_some_iff.1 hlexeme
    exact hnone number hnumber
  rw [List.drop_eq_getElem?_toList_append, hc] at hscan ⊢
  exact (Lexeme.Offends.malformed hstart (scan_eq_none_iff.1 hscan)).firstMatch

end Position

/-- **Numbers are read exactly.**  At every position of a text, the scanner finds the number that
stands there, if there is one, and then ends behind it; and there is one at most.  One pass from
character to character finds the same.  If a text is cut up to the position, then the number gives
a token with its characters as value and with the place of the position, and the loop goes on
behind it; and a digit or a point where no number stands ends the loop with an error at this
place. -/
theorem numbers_are_read_exactly (source : String) (p : Nat) :
    (∀ lexeme, scan (source.toList.drop p) = some lexeme ↔
      ∃ number, StandsAt source.toList p number ∧ lexeme =
        ⟨number, some (.number, String.ofList number),
          source.toList.drop (p + number.length)⟩) ∧
    (∀ number other, StandsAt source.toList p number → StandsAt source.toList p other →
      other = number) ∧
    pass .nothing (source.toList.drop p) =
      (scan (source.toList.drop p)).map (fun lexeme => (lexeme.text, lexeme.rest)) ∧
    ∀ pieces gap, IsCut pieces (gap ++ source.toList.drop p) → Blank gap →
      textOf pieces gap = source.toList.take p →
      (∀ number, StandsAt source.toList p number →
        tokenize source =
          (tokenizeWith scanners (some (String.ofList number))
            (.behind (source.toList.take (p + number.length)))
            (source.toList.drop (p + number.length))).map fun tokens =>
              tokensOf .start pieces ++
                ⟨.number, String.ofList number, .behind (source.toList.take p)⟩ :: tokens) ∧
      ((∀ number, ¬ StandsAt source.toList p number) → ∀ c, source.toList[p]? = some c →
        c.isDigit = true ∨ c = '.' →
        tokenize source = .error ⟨.behind (source.toList.take p),
          (tokensOf .start pieces).getLast?.map Token.value⟩) := by
  refine ⟨fun lexeme => scan_drop_eq_some_iff, fun number other h => h.unique, pass_nothing _,
    fun pieces gap hcut hgap htext => ⟨?_, ?_⟩⟩
  · rintro number ⟨hnumber, hsource, hends⟩
    have hplace : source.toList.take (p + number.length) = source.toList.take p ++ number := by
      rw [List.take_add, ← hsource]
      exact congrArg _ List.take_left
    rw [tokenize_of_isCut_drop hcut hgap htext]
    conv_lhs => rw [← hsource]
    rw [tokenizeWith_denoted (.number hnumber) hends, hplace, ← Location.after_start,
      ← Location.after_start, Location.after_append]
    cases tokenizeWith scanners (some (String.ofList number))
      ((Location.start.after (source.toList.take p)).after number)
      (source.toList.drop (p + number.length)) <;> rfl
  · intro hnone c hc hstart
    have hne : source.toList.drop p ≠ [] := by
      intro hnil
      rw [List.drop_eq_nil_iff] at hnil
      rw [List.getElem?_eq_none hnil] at hc
      simp at hc
    rw [tokenize_of_isCut_drop hcut hgap htext,
      tokenizeWith_of_none hne (firstMatch_of_not_standsAt hnone hc hstart),
      lastValue_eq pieces .start, Option.or_none]
    rfl

/-- A question up to its first item. -/
def questionPieces : List Piece :=
  [⟨[], "SELECT".toList, .keyword, "select"⟩]

/-- A fraction with an exponent ends before a comma.  A number with two exponents is refused as a
whole, although a number without the second one begins there. -/
theorem numbers_are_read_exactly_question :
    StandsAt "SELECT .5e+3,a".toList 7 ".5e+3".toList ∧
      pass .nothing ".5e+3,a".toList = some (".5e+3".toList, ",a".toList) ∧
      tokenize "SELECT .5e+3,a" =
        (tokenizeWith scanners (some ".5e+3") ⟨0, 12⟩ ",a".toList).map
          ([⟨.keyword, "select", ⟨0, 0⟩⟩, ⟨.number, ".5e+3", ⟨0, 7⟩⟩] ++ ·) ∧
      (∀ number, ¬ StandsAt "SELECT 1e5e6".toList 7 number) ∧
      tokenize "SELECT 1e5e6" = .error ⟨⟨0, 7⟩, some "select"⟩ := by
  have hcut : IsCut questionPieces ([' '] ++ "SELECT .5e+3,a".toList.drop 7) := by
    decide +kernel
  have hcut' : IsCut questionPieces ([' '] ++ "SELECT 1e5e6".toList.drop 7) := by
    decide +kernel
  have hfound : scan ("SELECT .5e+3,a".toList.drop 7) =
      some ⟨".5e+3".toList, some (.number, ".5e+3"), ",a".toList⟩ :=
    rfl
  have hnone : scan ("SELECT 1e5e6".toList.drop 7) = none := by
    decide +kernel
  obtain ⟨hscan, -, hpass, htokens⟩ := numbers_are_read_exactly "SELECT .5e+3,a" 7
  obtain ⟨hscan', -, -, htokens'⟩ := numbers_are_read_exactly "SELECT 1e5e6" 7
  obtain ⟨number, hnumber, hlexeme⟩ := (hscan _).1 hfound
  obtain rfl : ".5e+3".toList = number := congrArg Lexeme.text hlexeme
  have hnever : ∀ number, ¬ StandsAt "SELECT 1e5e6".toList 7 number := by
    intro number hnumber
    have hscanned := (hscan' _).2 ⟨number, hnumber, rfl⟩
    exact Option.some_ne_none _ (hscanned.symm.trans hnone)
  refine ⟨hnumber, ?_, ?_, hnever, ?_⟩
  · rw [hfound] at hpass
    exact hpass
  · exact (htokens questionPieces [' '] hcut (by decide) rfl).1 _ hnumber
  · exact (htokens' questionPieces [' '] hcut' (by decide) rfl).2 hnever '1' rfl (.inl rfl)

end Number
end ColumnarSql
