import ColumnarSql.Unicode.CodeSet

/-!
# White space

The code points with the Unicode property `White_Space`.  The shell passes over
a line made of nothing else.  The set is larger than the four characters that
separate the words of a script.
-/

namespace ColumnarSql
namespace Unicode

/-- The code points with the property `White_Space`. -/
def whiteSpace : CodeSet where
  boundaries := [
    0x9, 0xe, 0x20, 0x21, 0x85, 0x86, 0xa0, 0xa1, 0x1680, 0x1681, 0x2000, 0x200b, 0x2028,
    0x202a, 0x202f, 0x2030, 0x205f, 0x2060, 0x3000, 0x3001]

/-- Whether a character is white space, of any kind. -/
def isWhiteSpace (c : Char) : Bool :=
  whiteSpace.contains c

end Unicode
end ColumnarSql
