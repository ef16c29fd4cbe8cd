import Mathlib.Data.List.Basic
import Mathlib.Data.Option.Basic

/-!
# Traversals that may fail

A list is often taken element by element through a step that may have no result: the
literals of a row, the columns of a declaration, the cells at one position.  The whole has
a result exactly if every step has one, and then the results stand in the order of the
list.  Both statements below say so as an equation between lists, which is the form in which a
traversal is read backwards:

* `Traversal.mapM_eq_some_iff`: for steps that give nothing when they fail;
* `Traversal.mapM_eq_ok_iff`: for steps that give an error.

`Traversal.map_some_filterMap` is the same for a traversal that leaves out what has no
result: if every step has one, nothing is left out.  `Traversal.exists_append_of_map_some` cuts
such a list of results in two.
-/

namespace ColumnarSql
namespace Traversal

variable {α β ε : Type}

/-- A traversal gives the results of its steps, if all have one. -/
theorem mapM_eq_some_iff {f : α → Option β} {list : List α} {results : List β} :
    list.mapM f = some results ↔ list.map f = results.map some := by
  induction list generalizing results with
  | nil => cases results <;> simp
  | cons a list ih =>
    rw [List.mapM_cons]
    simp only [Option.bind_eq_bind, Option.bind_eq_some_iff, Option.pure_def, ih,
      Option.some.injEq, List.map_cons]
    constructor
    · rintro ⟨b, hb, rest, hrest, rfl⟩
      rw [hb, hrest, List.map_cons]
    · intro h
      cases results with
      | nil => simp at h
      | cons b rest =>
        obtain ⟨hb, hrest⟩ := List.cons.inj h
        exact ⟨b, hb, rest, hrest, rfl⟩

/-- A step of a traversal with errors succeeds exactly if both halves do. -/
theorem bind_eq_ok_iff {result : Except ε α} {next : α → Except ε β} {b : β} :
    result >>= next = .ok b ↔ ∃ a, result = .ok a ∧ next a = .ok b := by
  cases result <;> simp [bind, Except.bind]

/-- The same with errors: no step fails, and the results stand in order. -/
theorem mapM_eq_ok_iff {f : α → Except ε β} {list : List α} {results : List β} :
    list.mapM f = .ok results ↔ list.map f = results.map .ok := by
  induction list generalizing results with
  | nil => cases results <;> simp [pure, Except.pure]
  | cons a list ih =>
    rw [List.mapM_cons]
    simp only [bind_eq_ok_iff, ih, pure, Except.pure, Except.ok.injEq, List.map_cons]
    constructor
    · rintro ⟨b, hb, rest, hrest, rfl⟩
      rw [hb, hrest, List.map_cons]
    · intro h
      cases results with
      | nil => simp at h
      | cons b rest =>
        obtain ⟨hb, hrest⟩ := List.cons.inj h
        exact ⟨b, hb, rest, hrest, rfl⟩

/-- Where every step has a result, leaving out failures leaves out nothing. -/
theorem map_some_filterMap {f : α → Option β} {list : List α}
    (h : ∀ a ∈ list, ∃ b, f a = some b) : (list.filterMap f).map some = list.map f := by
  induction list with
  | nil => rfl
  | cons a list ih =>
    obtain ⟨b, hb⟩ := h a List.mem_cons_self
    rw [List.filterMap_cons_some hb, List.map_cons, List.map_cons, hb,
      ih fun a' ha' => h a' (List.mem_cons_of_mem _ ha')]

/-- A traversal has a result if every step has one. -/
theorem exists_mapM_eq_some {f : α → Option β} {list : List α}
    (h : ∀ a ∈ list, ∃ b, f a = some b) : ∃ results, list.mapM f = some results :=
  ⟨list.filterMap f, mapM_eq_some_iff.2 (map_some_filterMap h).symm⟩

/-- A list that begins with the results of another one is that of more results. -/
theorem exists_append_of_map_some {front whole : List α} {behind : List (Option α)}
    (h : whole.map some = front.map some ++ behind) :
    ∃ more, whole = front ++ more ∧ more.map some = behind := by
  obtain ⟨front', more, rfl, hfront, hmore⟩ := List.map_eq_append_iff.1 h
  obtain rfl := List.map_injective_iff.2 (Option.some_injective α) hfront
  exact ⟨more, rfl, hmore⟩

end Traversal
end ColumnarSql
