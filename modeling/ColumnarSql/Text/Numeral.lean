/-!
# Decimal numerals

A number in a statement becomes an integer of sixty-four bits or nothing at all.
`toInt?` reads an optional sign and at least one digit, with any number of leading
zeros and no limit on the size; `toInt64?` then refuses what lies outside the range
of `Int64`, so that nothing is ever wrapped or cut.  `ofInt64` writes the canonical
numeral of an integer: no leading zero, and a sign only before a negative number.

`toInt64?_eq_some_iff` states the second step: the integer read is the one written,
and it is in range.
-/

namespace ColumnarSql
namespace Text
namespace Numeral

/-- Reads a numeral without a sign. -/
def toNat? (digits : List Char) : Option Nat :=
  if digits ≠ [] ∧ digits.all Char.isDigit then
    some (Nat.ofDigitChars 10 digits 0)
  else
    none

/-- Reads a numeral with an optional sign. -/
def toInt? (numeral : List Char) : Option Int :=
  match numeral with
  | '+' :: digits => (toNat? digits).map Int.ofNat
  | '-' :: digits => (toNat? digits).map fun n => -Int.ofNat n
  | digits => (toNat? digits).map Int.ofNat

/-- Reads a numeral whose value fits into sixty-four bits. -/
def toInt64? (numeral : List Char) : Option Int64 :=
  match toInt? numeral with
  | some n =>
    if -9223372036854775808 ≤ n ∧ n ≤ 9223372036854775807 then
      some (Int64.ofInt n)
    else
      none
  | none => none

/-- The canonical numeral of an integer. -/
def ofInt64 (n : Int64) : String :=
  n.toInt.repr

/-- A numeral reads as an integer of sixty-four bits exactly if it denotes it. -/
theorem toInt64?_eq_some_iff {numeral : List Char} {n : Int64} :
    toInt64? numeral = some n ↔ toInt? numeral = some n.toInt := by
  unfold toInt64?
  split
  · next m hm =>
    rw [hm]
    constructor
    · intro h
      split at h
      · next hrange =>
        obtain rfl : Int64.ofInt m = n := by simpa using h
        rw [Int64.toInt_ofInt_of_le (by omega) (by omega)]
      · simp at h
    · intro h
      obtain rfl : m = n.toInt := by simpa using h
      have hlow := n.le_toInt
      have hhigh := n.toInt_lt
      rw [if_pos (by omega), Int64.ofInt_toInt]
  · next hnone => simp [hnone]

end Numeral
end Text
end ColumnarSql
