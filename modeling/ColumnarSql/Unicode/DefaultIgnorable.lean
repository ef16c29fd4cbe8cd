import ColumnarSql.Unicode.CodeSet

/-!
# Characters that are drawn as nothing

The code points with the Unicode property `Default_Ignorable_Code_Point`: those
for which nothing is drawn, not even a blank of a known width, where their effect
is not supported.  Most are format characters or variation selectors; the four
fillers of Hangul are letters, so that a bare word can hold them, and some code
points are set aside for later use of the same kind.  No ASCII character is among
them, which is `isDefaultIgnorable_eq_false`.
-/

namespace ColumnarSql
namespace Unicode

/-- The code points with the property `Default_Ignorable_Code_Point`. -/
def defaultIgnorable : CodeSet where
  boundaries := [
    0xad, 0xae, 0x34f, 0x350, 0x61c, 0x61d, 0x115f, 0x1161, 0x17b4, 0x17b6, 0x180b, 0x1810,
    0x200b, 0x2010, 0x202a, 0x202f, 0x2060, 0x2070, 0x3164, 0x3165, 0xfe00, 0xfe10, 0xfeff,
    0xff00, 0xffa0, 0xffa1, 0xfff0, 0xfff9, 0x1bca0, 0x1bca4, 0x1d173, 0x1d17b, 0xe0000, 0xe1000]

/-- Whether nothing is drawn for a character. -/
def isDefaultIgnorable (c : Char) : Bool :=
  defaultIgnorable.contains c

/-- No ASCII character is one for which nothing is drawn. -/
theorem isDefaultIgnorable_eq_false {c : Char} (h : c.toNat < 128) :
    isDefaultIgnorable c = false :=
  CodeSet.contains_eq_of_forall_ascii defaultIgnorable (fun _ => false) (by decide +kernel) h

end Unicode
end ColumnarSql
