/-!
# Text between delimiters

A literal of the language is a text between two delimiters: an apostrophe around the
text of a cell, a quotation mark around a name.  The delimiter may occur in the text
itself, and is then written twice.  So a reader that has passed the opening delimiter
ends at the first delimiter that stands alone, and fails if there is none.

`readBody_eq_some_iff` says that reading is exactly the inverse of writing: what was
read is the text whose written form stood there, and what follows does not begin with
one more delimiter.  A written text can therefore not be cut short from within, and
each text has one written form.
-/

namespace ColumnarSql
namespace Text
namespace Delimited

/-- The text with every delimiter in it written twice. -/
def double (delimiter : Char) : List Char → List Char
  | [] => []
  | c :: text =>
    if c = delimiter then
      delimiter :: delimiter :: double delimiter text
    else
      c :: double delimiter text

/-- The written form of a text: doubled inside, and between two delimiters. -/
def enclose (delimiter : Char) (text : List Char) : List Char :=
  delimiter :: (double delimiter text ++ [delimiter])

/-- Reads a text whose opening delimiter has been passed, and gives it with what
follows the closing delimiter.  There is none if the text is never closed. -/
def readBody (delimiter : Char) : List Char → Option (List Char × List Char)
  | [] => none
  | c :: rest =>
    if c = delimiter then
      match rest with
      | [] => some ([], [])
      | c' :: rest' =>
        if c' = delimiter then
          (readBody delimiter rest').map fun (text, after) => (delimiter :: text, after)
        else
          some ([], c' :: rest')
    else
      (readBody delimiter rest).map fun (text, after) => (c :: text, after)

/-- Reads a text in its written form, and gives it with what follows. -/
def read (delimiter : Char) : List Char → Option (List Char × List Char)
  | [] => none
  | c :: rest => if c = delimiter then readBody delimiter rest else none

/-! ## Reading is the inverse of writing -/

/-- A written text reads back, if no further delimiter follows it. -/
theorem readBody_double (delimiter : Char) (text after : List Char)
    (h : after.head? ≠ some delimiter) :
    readBody delimiter (double delimiter text ++ delimiter :: after) = some (text, after) := by
  induction text with
  | nil =>
    cases after with
    | nil => simp [double, readBody]
    | cons c after =>
      have hc : c ≠ delimiter := by simpa using h
      simp [double, readBody, hc]
  | cons c text ih =>
    by_cases hc : c = delimiter
    · subst hc
      simp [double, readBody, ih]
    · simp only [double, hc, if_false, List.cons_append]
      rw [readBody.eq_def]
      simp [hc, ih]

/-- Whatever reads as a text is its written form, and no further delimiter follows. -/
theorem eq_double_of_readBody {delimiter : Char} {source text after : List Char}
    (h : readBody delimiter source = some (text, after)) :
    source = double delimiter text ++ delimiter :: after ∧ after.head? ≠ some delimiter := by
  fun_induction readBody delimiter source generalizing text after with
  | case1 => simp at h
  | case2 =>
    obtain ⟨rfl, rfl⟩ : [] = text ∧ [] = after := by simpa using h
    simp [double]
  | case3 rest' ih =>
    obtain ⟨⟨text', after'⟩, hread, heq⟩ := Option.map_eq_some_iff.1 h
    obtain ⟨rfl, rfl⟩ : delimiter :: text' = text ∧ after' = after := by simpa using heq
    obtain ⟨hsource, hafter⟩ := ih hread
    exact ⟨by simp [double, hsource], hafter⟩
  | case4 c' rest' hc' =>
    obtain ⟨rfl, rfl⟩ : [] = text ∧ c' :: rest' = after := by simpa using h
    simp [double, hc']
  | case5 c rest hc ih =>
    obtain ⟨⟨text', after'⟩, hread, heq⟩ := Option.map_eq_some_iff.1 h
    obtain ⟨rfl, rfl⟩ : c :: text' = text ∧ after' = after := by simpa using heq
    obtain ⟨hsource, hafter⟩ := ih hread
    exact ⟨by simp [double, hc, hsource], hafter⟩

/-- Reading accepts exactly the written forms that no further delimiter follows. -/
theorem readBody_eq_some_iff {delimiter : Char} {source text after : List Char} :
    readBody delimiter source = some (text, after) ↔
      source = double delimiter text ++ delimiter :: after ∧
        after.head? ≠ some delimiter :=
  ⟨eq_double_of_readBody, fun ⟨hsource, hafter⟩ =>
    hsource ▸ readBody_double delimiter text after hafter⟩

/-- A text that is never closed is doubled up to its end. -/
theorem readBody_eq_none_iff {delimiter : Char} {source : List Char} :
    readBody delimiter source = none ↔ ∃ text, source = double delimiter text := by
  constructor
  · intro h
    fun_induction readBody delimiter source with
    | case1 => exact ⟨[], rfl⟩
    | case2 => simp at h
    | case3 rest' ih =>
      obtain ⟨text, rfl⟩ := ih (Option.map_eq_none_iff.1 h)
      exact ⟨delimiter :: text, by simp [double]⟩
    | case4 c' rest' hc' => simp at h
    | case5 c rest hc ih =>
      obtain ⟨text, rfl⟩ := ih (Option.map_eq_none_iff.1 h)
      exact ⟨c :: text, by simp [double, hc]⟩
  · rintro ⟨text, rfl⟩
    induction text with
    | nil => rfl
    | cons c text ih =>
      by_cases hc : c = delimiter
      · subst hc
        simp [double, readBody, ih]
      · simp only [double, hc, if_false]
        rw [readBody.eq_def]
        simp [hc, ih]

/-- The same with the opening delimiter. -/
theorem read_eq_some_iff {delimiter : Char} {source text after : List Char} :
    read delimiter source = some (text, after) ↔
      source = enclose delimiter text ++ after ∧ after.head? ≠ some delimiter := by
  cases source with
  | nil => simp [read, enclose]
  | cons c rest =>
    by_cases hc : c = delimiter
    · subst hc
      simp [read, enclose, readBody_eq_some_iff]
    · simp [read, enclose, hc]

end Delimited
end Text
end ColumnarSql
