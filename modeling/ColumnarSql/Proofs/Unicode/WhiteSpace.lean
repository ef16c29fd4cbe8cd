import ColumnarSql.Unicode.WhiteSpace
import Mathlib.Data.List.Basic

/-!
# The characters of white space

A set of code points is given by the places where membership changes, and whether a code point
belongs to it is found out by counting.  To say something about all members, one needs them one by
one.  `CodeSet.codes` lists them run by run, and a set with an even number of boundaries has no
other members (`CodeSet.mem_codes`).

White space has twenty-five members, few enough to go through: `forall_isWhiteSpace` reduces a fact
about all of them to a check of this list.
-/

namespace ColumnarSql
namespace Unicode

/-! ## The members of a set -/

/-- The code points of the runs between boundaries, taken two at a time. -/
def codesBetween : List Nat → List Nat
  | first :: next :: boundaries => List.range' first (next - first) ++ codesBetween boundaries
  | _ => []

/-- The code points of a set. -/
def CodeSet.codes (set : CodeSet) : List Nat :=
  codesBetween set.boundaries

/-- What is passed on the way to a code point in a run is an odd number of boundaries. -/
theorem mem_codesBetween {boundaries : List Nat} {code : Nat} (heven : boundaries.length % 2 = 0)
    (hpassed : (boundaries.takeWhile (· ≤ code)).length % 2 = 1) :
    code ∈ codesBetween boundaries := by
  induction boundaries using codesBetween.induct with
  | case1 first next boundaries ih =>
    rw [List.length_cons, List.length_cons] at heven
    rw [codesBetween, List.mem_append, List.mem_range'_1]
    by_cases hfirst : first ≤ code
    · by_cases hnext : next ≤ code
      · refine .inr (ih (by omega) ?_)
        simpa [hfirst, hnext, Nat.add_assoc] using hpassed
      · exact .inl (by omega)
    · simp [hfirst] at hpassed
  | case2 boundaries hshort =>
    rcases boundaries with _ | ⟨first, _ | ⟨next, boundaries⟩⟩
    · simp at hpassed
    · simp at heven
    · exact absurd rfl (hshort first next boundaries)

/-- Between an even number of boundaries there are no other members. -/
theorem CodeSet.mem_codes {set : CodeSet} (heven : set.boundaries.length % 2 = 0) {code : Nat}
    (h : set.containsCode code = true) : code ∈ set.codes :=
  mem_codesBetween heven (by simpa [containsCode] using h)

/-! ## White space -/

/-- What holds of the members of the table holds of all white space. -/
theorem forall_isWhiteSpace {p : Char → Prop} (h : ∀ code ∈ whiteSpace.codes, p (Char.ofNat code))
    {c : Char} (hc : isWhiteSpace c = true) : p c := by
  rw [← Char.ofNat_toNat c]
  exact h c.toNat (CodeSet.mem_codes rfl hc)

end Unicode
end ColumnarSql
