import ColumnarSql.Proofs.Traversal
import Mathlib.Data.Nat.Find

/-!
# First faults

What a statement brings along is checked position by position, and the first thing that is wrong
is reported.  A function from positions to faults says what is wrong where, each position by
itself; `FirstFault` takes the least position with a fault.

* `FirstFault.unique`, `exists_firstFault_iff`: there is one first fault as soon as there is a
  fault anywhere.
* `firstFault_iff`: seen from the front of a list, the first fault is the one of the first element
  or else the first one of the others.  This is the form in which a loop finds it.
* `Traversal.mapM_eq_error_iff`: a traversal fails with the first fault of its steps.
-/

namespace ColumnarSql

variable {α β ε : Type}

/-- **The first fault**: there is one at some position, and none at any earlier position. -/
def FirstFault (fault : Nat → Option ε) (error : ε) : Prop :=
  ∃ i, fault i = some error ∧ ∀ j < i, fault j = none

section FirstFault

variable {fault : Nat → Option ε} {error error' : ε}

theorem FirstFault.unique (h : FirstFault fault error) (h' : FirstFault fault error') :
    error = error' := by
  obtain ⟨i, hi, hbefore⟩ := h
  obtain ⟨i', hi', hbefore'⟩ := h'
  rcases Nat.lt_trichotomy i i' with hlt | rfl | hlt
  · simp [hbefore' i hlt] at hi
  · exact Option.some.inj (hi.symm.trans hi')
  · simp [hbefore i' hlt] at hi'

/-- Where there is a fault, there is a first one. -/
theorem exists_firstFault_iff : (∃ error, FirstFault fault error) ↔ ¬ ∀ i, fault i = none := by
  constructor
  · rintro ⟨error, i, hi, -⟩ hnone
    simp [hnone i] at hi
  · intro hfault
    have hexists : ∃ i, fault i ≠ none := not_forall.1 hfault
    obtain ⟨error, herror⟩ := Option.ne_none_iff_exists'.1 (Nat.find_spec hexists)
    exact ⟨error, Nat.find hexists, herror, fun j hj => not_not.1 (Nat.find_min hexists hj)⟩

/-- No fault is the first one exactly if there is none. -/
theorem forall_not_firstFault_iff : (∀ error, ¬ FirstFault fault error) ↔ ∀ i, fault i = none := by
  rw [← not_exists, exists_firstFault_iff, not_not]

theorem not_firstFault (h : ∀ i, fault i = none) : ¬ FirstFault fault error :=
  forall_not_firstFault_iff.2 h error

/-- A fault at the front is the first one, and otherwise the first one is behind. -/
theorem firstFault_iff :
    FirstFault fault error ↔
      fault 0 = some error ∨ fault 0 = none ∧ FirstFault (fun i => fault (i + 1)) error := by
  constructor
  · rintro ⟨i, hi, hbefore⟩
    cases i with
    | zero => exact .inl hi
    | succ i =>
      exact .inr ⟨hbefore 0 (Nat.succ_pos i), i, hi,
        fun j hj => hbefore (j + 1) (Nat.succ_lt_succ hj)⟩
  · rintro (hzero | ⟨hzero, i, hi, hbefore⟩)
    · exact ⟨0, hzero, fun j hj => absurd hj (Nat.not_lt_zero j)⟩
    · refine ⟨i + 1, hi, fun j hj => ?_⟩
      cases j with
      | zero => exact hzero
      | succ j => exact hbefore j (Nat.lt_of_succ_lt_succ hj)

/-- Without a fault at the front the first one is behind. -/
theorem firstFault_of_none (h : fault 0 = none) :
    FirstFault fault error ↔ FirstFault (fun i => fault (i + 1)) error := by
  rw [firstFault_iff]
  simp [h]

/-- A fault at the front is the first one. -/
theorem firstFault_of_some (h : fault 0 = some error') :
    FirstFault fault error ↔ error' = error := by
  rw [firstFault_iff]
  simp [h]

end FirstFault

/-- **A traversal fails with the first fault** of its steps. -/
theorem Traversal.mapM_eq_error_iff {f : α → Except ε β} {fault : α → Option ε}
    (hfault : ∀ a error, f a = .error error ↔ fault a = some error) {list : List α} {error : ε} :
    list.mapM f = .error error ↔ FirstFault (fun i => list[i]?.bind fault) error := by
  induction list with
  | nil =>
    simp only [List.mapM_nil, List.getElem?_nil, Option.bind_none]
    exact iff_of_false (by simp [pure, Except.pure]) (not_firstFault fun _ => rfl)
  | cons a list ih =>
    rw [List.mapM_cons]
    cases hstep : f a with
    | error error' =>
      have hfront : (fun i => (a :: list)[i]?.bind fault) 0 = some error' :=
        (hfault a error').1 hstep
      rw [firstFault_of_some hfront]
      simp [bind, Except.bind]
    | ok b =>
      have hnone : fault a = none := by
        rw [Option.eq_none_iff_forall_ne_some]
        intro error' herror'
        simp [(hfault a error').2 herror'] at hstep
      rw [firstFault_of_none (by simpa using hnone)]
      simp only [List.getElem?_cons_succ, ← ih]
      cases list.mapM f <;> simp [bind, Except.bind, pure, Except.pure]

end ColumnarSql
