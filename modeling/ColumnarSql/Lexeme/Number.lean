import ColumnarSql.Lexeme.Scanner

/-!
# Numbers

A number is a mantissa and perhaps an exponent.  The mantissa is digits with at most one
decimal point among, before or after them, and at least one digit; the exponent is an
`e`, perhaps a sign, and digits.  Digits are those of ASCII, and the `e` is a small one.

A number must end where it ends: if a digit, a point or an `e` follows, or if what looks
like an exponent has no digits, there is no number here at all, so `1.2.3` and `1e5e6`
are refused as a whole and never cut into pieces.
-/

namespace ColumnarSql
namespace Number

/-- The digits at the front of a text. -/
def digits (source : List Char) : List Char :=
  source.takeWhile Char.isDigit

/-- What follows the digits at the front of a text. -/
def afterDigits (source : List Char) : List Char :=
  source.dropWhile Char.isDigit

/-- The mantissa at the front of a text, with what follows it. -/
def scanMantissa (source : List Char) : Option (List Char × List Char) :=
  match afterDigits source with
  | '.' :: rest =>
    if digits source = [] ∧ digits rest = [] then
      none
    else
      some (digits source ++ '.' :: digits rest, afterDigits rest)
  | rest => if digits source = [] then none else some (digits source, rest)

/-- The sign at the front of a text, or nothing, with what follows. -/
def scanSign (source : List Char) : List Char × List Char :=
  match source with
  | '+' :: rest => (['+'], rest)
  | '-' :: rest => (['-'], rest)
  | rest => ([], rest)

/-- The exponent at the front of a text, or nothing, with what follows.  An `e` that
digits do not follow spoils the number. -/
def scanExponent (source : List Char) : Option (List Char × List Char) :=
  match source with
  | 'e' :: rest =>
    if digits (scanSign rest).2 = [] then
      none
    else
      some ('e' :: ((scanSign rest).1 ++ digits (scanSign rest).2),
        afterDigits (scanSign rest).2)
  | rest => some ([], rest)

/-- Whether a character may not follow a number. -/
def isNumberChar (c : Char) : Bool :=
  c.isDigit || c == '.' || c == 'e'

/-- The number at the front of a text. -/
def scan (source : List Char) : Option Lexeme :=
  match scanMantissa source with
  | none => none
  | some (mantissa, afterMantissa) =>
    match scanExponent afterMantissa with
    | none => none
    | some (exponent, rest) =>
      if rest.head?.any isNumberChar then
        none
      else
        some ⟨mantissa ++ exponent, some (.number, String.ofList (mantissa ++ exponent)), rest⟩

/-- The digits and what follows them are the whole text. -/
theorem digits_append_afterDigits (source : List Char) :
    digits source ++ afterDigits source = source :=
  List.takeWhile_append_dropWhile

theorem scanMantissa_splits {source mantissa rest : List Char}
    (h : scanMantissa source = some (mantissa, rest)) : mantissa ++ rest = source := by
  have hsplit := digits_append_afterDigits source
  unfold scanMantissa at h
  split at h
  · next rest' hrest =>
    rw [hrest] at hsplit
    split at h
    · simp at h
    · obtain ⟨rfl, rfl⟩ := Prod.mk.inj (Option.some.inj h)
      simpa [digits_append_afterDigits] using hsplit
  · split at h
    · simp at h
    · obtain ⟨rfl, rfl⟩ := Prod.mk.inj (Option.some.inj h)
      exact hsplit

theorem scanMantissa_ne_nil {source mantissa rest : List Char}
    (h : scanMantissa source = some (mantissa, rest)) : mantissa ≠ [] := by
  unfold scanMantissa at h
  split at h
  · split at h
    · simp at h
    · obtain ⟨rfl, rfl⟩ := Prod.mk.inj (Option.some.inj h)
      simp
  · split at h
    · simp at h
    · next hdigits =>
      obtain ⟨rfl, rfl⟩ := Prod.mk.inj (Option.some.inj h)
      exact hdigits

theorem scanSign_splits (source : List Char) :
    (scanSign source).1 ++ (scanSign source).2 = source := by
  unfold scanSign
  split <;> rfl

theorem scanExponent_splits {source exponent rest : List Char}
    (h : scanExponent source = some (exponent, rest)) : exponent ++ rest = source := by
  unfold scanExponent at h
  split at h
  · next rest' =>
    split at h
    · simp at h
    · obtain ⟨rfl, rfl⟩ := Prod.mk.inj (Option.some.inj h)
      rw [List.cons_append, List.append_assoc, digits_append_afterDigits, scanSign_splits]
  · obtain ⟨rfl, rfl⟩ := Prod.mk.inj (Option.some.inj h)
    rfl

theorem scan_splits {source : List Char} {lexeme : Lexeme}
    (h : scan source = some lexeme) : lexeme.text ++ lexeme.rest = source := by
  unfold scan at h
  split at h
  · simp at h
  · next mantissa afterMantissa hmantissa =>
    split at h
    · simp at h
    · next exponent rest hexponent =>
      split at h
      · simp at h
      · obtain rfl := Option.some.inj h
        rw [List.append_assoc, scanExponent_splits hexponent, scanMantissa_splits hmantissa]

theorem scan_text_ne_nil {source : List Char} {lexeme : Lexeme}
    (h : scan source = some lexeme) : lexeme.text ≠ [] := by
  unfold scan at h
  split at h
  · simp at h
  · next mantissa afterMantissa hmantissa =>
    split at h
    · simp at h
    · split at h
      · simp at h
      · obtain rfl := Option.some.inj h
        simp [scanMantissa_ne_nil hmantissa]

/-- Finds numbers. -/
def scanner : Scanner where
  scan := scan
  splits := scan_splits
  text_ne_nil := scan_text_ne_nil

end Number
end ColumnarSql
