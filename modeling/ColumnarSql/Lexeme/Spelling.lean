import ColumnarSql.Unicode.LowerCase

/-!
# Matching a text against spellings

Which of several spellings does a text begin with, when letter case does not matter?
The lower case of the text is taken one character at a time.  A candidate stays as long
as what it still lacks begins with that lower case; a candidate that lacks nothing more
is a match; and the longest match is wanted, the first of equals.  The search stops when
no candidate is left that lacks anything.

A character may have more than one character of lower case, and then it is used as a
whole or not at all: a candidate that ends in the middle of it does not match.

The statements here keep track of where a match comes from: `narrow_mem` and
`longestMatch_mem` say that what is found is one of the candidates, with the length of
its own spelling.
-/

namespace ColumnarSql
namespace Spelling

variable {α : Type}

/-- A spelling that the text may turn out to begin with. -/
structure Candidate (α : Type) where
  item : α
  spelling : List Char
  /-- The part of it that has not been seen yet. -/
  pending : List Char

namespace Candidate

/-- A candidate of which nothing has been seen yet. -/
def start (entry : α × String) : Candidate α :=
  ⟨entry.1, entry.2.toList, entry.2.toList⟩

/-- The candidate after one more character of the text, unless the character is not
the one that the spelling goes on with. -/
def advance? (c : Char) (candidate : Candidate α) : Option (Candidate α) :=
  ((Unicode.lower c).isPrefixOf? candidate.pending).map fun pending =>
    ⟨candidate.item, candidate.spelling, pending⟩

/-- Whether the whole spelling has been seen. -/
def isComplete (candidate : Candidate α) : Bool :=
  candidate.pending.isEmpty

end Candidate

/-- The candidate that a text spells at its front, the longest there is, and of equally
long ones the first. -/
def narrow (candidates : List (Candidate α)) : List Char → Option (Candidate α)
  | [] => none
  | c :: rest =>
    let next := candidates.filterMap (·.advance? c)
    let alive := next.filter (!·.isComplete)
    let longer := if alive.isEmpty then none else narrow alive rest
    longer.or (next.find? (·.isComplete))

/-- The item whose spelling stands at the front of a text in any letter case, with the
length of the spelling.  The longest spelling wins, and the first of equally long
ones. -/
def longestMatch (entries : List (α × String)) (source : List Char) : Option (α × Nat) :=
  (narrow (entries.map Candidate.start) source).map fun candidate =>
    (candidate.item, candidate.spelling.length)

/-! ## Where a match comes from -/

/-- A candidate that moves on keeps its item and its spelling. -/
theorem eq_of_advance? {c : Char} {candidate moved : Candidate α}
    (h : candidate.advance? c = some moved) :
    moved.item = candidate.item ∧ moved.spelling = candidate.spelling := by
  obtain ⟨pending, -, rfl⟩ := Option.map_eq_some_iff.1 h
  exact ⟨rfl, rfl⟩

/-- What is found was among the candidates. -/
theorem narrow_mem {candidates : List (Candidate α)} {source : List Char}
    {found : Candidate α} (h : narrow candidates source = some found) :
    ∃ candidate ∈ candidates,
      candidate.item = found.item ∧ candidate.spelling = found.spelling := by
  induction source generalizing candidates with
  | nil => simp [narrow] at h
  | cons c rest ih =>
    have fromNext : ∀ moved ∈ candidates.filterMap (·.advance? c),
        ∃ candidate ∈ candidates,
          candidate.item = moved.item ∧ candidate.spelling = moved.spelling := by
      intro moved hmoved
      obtain ⟨candidate, hmem, hadvance⟩ := List.mem_filterMap.1 hmoved
      obtain ⟨hitem, hspelling⟩ := eq_of_advance? hadvance
      exact ⟨candidate, hmem, hitem.symm, hspelling.symm⟩
    simp only [narrow, Option.or_eq_some_iff] at h
    rcases h with h | ⟨-, h⟩
    · split at h
      · simp at h
      · obtain ⟨moved, hmem, hitem, hspelling⟩ := ih h
        obtain ⟨candidate, hcandidate, hitem', hspelling'⟩ :=
          fromNext moved (List.mem_filter.1 hmem).1
        exact ⟨candidate, hcandidate, hitem'.trans hitem, hspelling'.trans hspelling⟩
    · exact fromNext found (List.mem_of_find?_eq_some h)

/-- A match is an entry of the list, with the length of its own spelling. -/
theorem longestMatch_mem {entries : List (α × String)} {source : List Char} {item : α}
    {length : Nat} (h : longestMatch entries source = some (item, length)) :
    ∃ spelling, (item, spelling) ∈ entries ∧ spelling.toList.length = length := by
  obtain ⟨found, hfound, heq⟩ := Option.map_eq_some_iff.1 h
  obtain ⟨rfl, rfl⟩ : found.item = item ∧ found.spelling.length = length := by simpa using heq
  obtain ⟨candidate, hmem, hitem, hspelling⟩ := narrow_mem hfound
  obtain ⟨entry, hentry, rfl⟩ := List.mem_map.1 hmem
  exact ⟨entry.2, by rw [← hitem]; exact hentry, by rw [← hspelling]; rfl⟩

/-- An empty text begins with no spelling. -/
theorem longestMatch_nil (entries : List (α × String)) : longestMatch entries [] = none :=
  rfl

end Spelling
end ColumnarSql
