/-!
# Sets of code points

A property of the Unicode standard is a set of code points that comes in runs.  A
`CodeSet` lists the places where membership changes, in ascending order: the first
number begins a run, the second is the first code point after it, the third begins
the next run, and so on.  A code point belongs to the set when an odd number of
boundaries lies at or below it, and a search from the front stops at the first
boundary above it, so that the characters of ASCII, which come first, are found
after a few steps.

The one statement here, `contains_eq_of_forall_ascii`, reduces a fact about all
ASCII characters to a check of the first 128 code points; most tables of properties
use it to say what the property is inside ASCII.
-/

namespace ColumnarSql
namespace Unicode

/-- A set of code points, given by the ascending places where membership changes. -/
structure CodeSet where
  /-- The first code point of a run, the first one after it, and so on in turn. -/
  boundaries : List Nat

namespace CodeSet

/-- Whether a code point lies inside a run: an odd number of boundaries is passed
on the way to it. -/
def containsCode (set : CodeSet) (code : Nat) : Bool :=
  (set.boundaries.takeWhile (· ≤ code)).length % 2 == 1

/-- Whether a character belongs to the set. -/
def contains (set : CodeSet) (c : Char) : Bool :=
  set.containsCode c.toNat

/-- A class of characters that agrees with the set on the first 128 code points
agrees with it on every ASCII character. -/
theorem contains_eq_of_forall_ascii (set : CodeSet) (p : Char → Bool)
    (check : ∀ code : Fin 128, set.containsCode code = p (Char.ofNat code))
    {c : Char} (h : c.toNat < 128) : set.contains c = p c := by
  have := check ⟨c.toNat, h⟩
  simpa [contains] using this

end CodeSet

end Unicode
end ColumnarSql
