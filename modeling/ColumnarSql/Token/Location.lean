/-!
# Places in a source text

A place is a line and a column, both counted from zero; a column counts characters.
A line feed ends its line, so the place after it is the beginning of the next one.
`Location.after_append` says that passing over two texts in turn is passing over
their concatenation, which is what lets a place be computed piece by piece.
-/

namespace ColumnarSql

/-- A place in a source text, counted from zero. -/
structure Location where
  /-- How many lines end before this place. -/
  line : Nat
  /-- How many characters of its own line stand before this place. -/
  column : Nat
  deriving DecidableEq, Repr

namespace Location

/-- The beginning of a text. -/
def start : Location := ⟨0, 0⟩

/-- The place after one character. -/
def next (location : Location) (c : Char) : Location :=
  if c = '\n' then
    ⟨location.line + 1, 0⟩
  else
    ⟨location.line, location.column + 1⟩

/-- The place after a text that begins at the given place. -/
def after (location : Location) (text : List Char) : Location :=
  text.foldl next location

/-- A place as messages write it. -/
def display (location : Location) : String :=
  location.line.repr ++ ":" ++ location.column.repr

@[simp] theorem after_nil (location : Location) : location.after [] = location := rfl

@[simp] theorem after_cons (location : Location) (c : Char) (text : List Char) :
    location.after (c :: text) = (location.next c).after text := rfl

/-- The place after two texts is the place after the second, begun after the first. -/
theorem after_append (location : Location) (first second : List Char) :
    location.after (first ++ second) = (location.after first).after second := by
  simp [after, List.foldl_append]

end Location

end ColumnarSql
