import ColumnarSql.Unicode.DefaultIgnorable
import ColumnarSql.Unicode.GraphemeExtend
import ColumnarSql.Unicode.Unprintable

/-!
# Quoted text in messages

A message shows a name or a value between quotation marks, so that its ends can be
seen and nothing in it can upset a terminal.  Four characters that matter to a line
of output have a short escape of their own, besides the quotation mark and the
backslash that introduce escapes; a character that could not be seen, or could not
be told from its neighbour, is shown by its number in hexadecimal; every other
character is shown as itself.

Which characters are shown by number is `isShownByNumber`, and
`isShownByNumber_ascii` says that inside ASCII they are the controls.
-/

namespace ColumnarSql
namespace Text
namespace Quoted

/-- Whether a message shows a character by its number: one without a visible shape,
one for which nothing is drawn, or one that is drawn over the character before it.
A halfwidth sound mark stands in a cell of its own, so it can be shown as itself. -/
def isShownByNumber (c : Char) : Bool :=
  Unicode.isUnprintable c || Unicode.isDefaultIgnorable c ||
    (Unicode.isGraphemeExtend c && !Unicode.isHalfwidthSoundMark c)

/-- The number of a character in lower-case hexadecimal, between braces. -/
def byNumber (c : Char) : List Char :=
  '\\' :: 'u' :: '{' :: (Nat.toDigits 16 c.toNat ++ ['}'])

/-- One character as a message shows it. -/
def escape (c : Char) : List Char :=
  match c with
  | '\x00' => ['\\', '0']
  | '\t' => ['\\', 't']
  | '\r' => ['\\', 'r']
  | '\n' => ['\\', 'n']
  | '"' => ['\\', '"']
  | '\\' => ['\\', '\\']
  | c =>
    if isShownByNumber c then
      byNumber c
    else
      [c]

/-- A text as a message shows it, between quotation marks. -/
def quote (text : String) : String :=
  String.ofList ('"' :: (text.toList.flatMap escape ++ ['"']))

/-- Inside ASCII the characters shown by number are those below the space, and
`DEL`. -/
theorem isShownByNumber_ascii {c : Char} (h : c.toNat < 128) :
    isShownByNumber c = (decide (c < ' ') || c == '\x7f') := by
  simp [isShownByNumber, Unicode.isUnprintable_ascii h,
    Unicode.isDefaultIgnorable_eq_false h, Unicode.isGraphemeExtend_eq_false h]

/-- A printable ASCII character other than the two that introduce escapes is shown
as itself. -/
theorem escape_printable_ascii {c : Char} (hlow : ' ' ≤ c) (hhigh : c < '\x7f')
    (hquote : c ≠ '"') (hbackslash : c ≠ '\\') : escape c = [c] := by
  have hcode : c.toNat < 127 := hhigh
  have hspace : 32 ≤ c.toNat := hlow
  have hshown : isShownByNumber c = false := by
    rw [isShownByNumber_ascii (by omega)]
    have hnot : ¬ c < ' ' := fun hlt => by
      have : c.toNat < 32 := hlt
      omega
    have hdel : c ≠ '\x7f' := by
      rintro rfl
      simp at hcode
    simp [hnot, hdel]
  unfold escape
  split <;> simp_all

end Quoted
end Text
end ColumnarSql
