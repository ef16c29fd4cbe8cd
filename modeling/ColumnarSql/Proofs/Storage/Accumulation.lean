import ColumnarSql.Storage.Column
import Mathlib.Data.List.Basic

/-!
# What a column accumulates

A column knows its type twice: the one it was declared with, and the kind of its cells.  Nothing
forces the two to agree, and so a value is tried twice, first against the declaration and then
against the cells.  Both refusals are worded alike, and neither touches anything.  Hence a push is
described by one condition on the value, `Column.Takes`, and a column that disagrees with itself
takes nothing at all (`Column.afterPushes_of_ne`).

The view of a column is the list of its values:

* `Column.GrownBy`: a column has grown by some values if these stand behind the ones it had, and
  nothing else has changed.  There is only one such column (`Column.GrownBy.unique`);
* `Column.push_eq_ok_iff`, `Column.push_eq_error_iff`: everything that a push can do;
* `Column.ReadsAs`: how a column with given values is read, and `Column.readsAs_toList` says that
  every column is read in this way.

## Pushes one after another

Which values are accepted is told by the answers alone, `Column.trace`, in which neither types nor
cells occur.  `Column.grownBy_afterPushes` is the induction over the pushes: a column grows by what
its trace says.  It goes through because growing changes neither the declaration nor the kind of the
cells, so that a column takes later what it has taken before (`Column.GrownBy.takes_iff`).

The statement for pushes of any values onto any column is `Column.accumulates_accepted_values`.
-/

namespace ColumnarSql

/-- Cells of one type with the same values are the same. -/
theorem Cells.ext_toList {cells cells' : Cells} (htype : cells.type = cells'.type)
    (htoList : cells.toList = cells'.toList) : cells = cells' := by
  cases cells with
  | ints entries =>
    cases cells' with
    | ints entries' =>
      have hinjective : Function.Injective Value.int := fun _ _ => Value.int.inj
      rw [Array.toList_inj.1 (List.map_injective_iff.2 hinjective htoList)]
    | texts entries' => cases htype
  | texts entries =>
    cases cells' with
    | ints entries' => cases htype
    | texts entries' =>
      have hinjective : Function.Injective Value.text := fun _ _ => Value.text.inj
      rw [Array.toList_inj.1 (List.map_injective_iff.2 hinjective htoList)]

namespace Column

variable {column later last : Column} {value : Value} {added more : List Value}

/-! ## Reading a column -/

theorem get?_eq_getElem?_toList (column : Column) (row : Nat) :
    column.get? row = column.toList[row]? :=
  column.cells.get?_eq_getElem?_toList row

theorem size_eq_length_toList (column : Column) : column.size = column.toList.length :=
  column.cells.size_eq_length_toList

/-- **A column reads as a list of values**, whichever way it is read. -/
structure ReadsAs (column : Column) (values : List Value) : Prop where
  size : column.size = values.length
  isEmpty_iff : column.isEmpty = true ↔ values.length = 0
  get?_of_lt : ∀ row (hrow : row < values.length), column.get? row = some values[row]
  get?_of_le : ∀ row, values.length ≤ row → column.get? row = none

/-- **Every column reads as the list of its values.** -/
theorem readsAs_toList (column : Column) : column.ReadsAs column.toList where
  size := column.size_eq_length_toList
  isEmpty_iff := by
    rw [isEmpty, beq_iff_eq, size_eq_length_toList]
  get?_of_lt row hrow := by
    rw [get?_eq_getElem?_toList, List.getElem?_eq_getElem hrow]
  get?_of_le row hrow := by
    rw [get?_eq_getElem?_toList, List.getElem?_eq_none hrow]

/-! ## Columns with more values -/

/-- **A column that has grown** by some values: they stand behind the values it had, and nothing
else has changed. -/
structure GrownBy (column : Column) (added : List Value) (later : Column) : Prop where
  name : later.name = column.name
  type : later.type = column.type
  kind : later.cells.type = column.cells.type
  toList : later.toList = column.toList ++ added

theorem GrownBy.refl (column : Column) : column.GrownBy [] column :=
  ⟨rfl, rfl, rfl, (List.append_nil _).symm⟩

theorem GrownBy.trans (h : column.GrownBy added later) (h' : later.GrownBy more last) :
    column.GrownBy (added ++ more) last where
  name := h'.name.trans h.name
  type := h'.type.trans h.type
  kind := h'.kind.trans h.kind
  toList := by
    rw [h'.toList, h.toList, List.append_assoc]

/-- There is one way only to grow by given values. -/
theorem GrownBy.unique (h : column.GrownBy added later) (h' : column.GrownBy added last) :
    later = last := by
  have hcells : later.cells = last.cells :=
    Cells.ext_toList (h.kind.trans h'.kind.symm) (h.toList.trans h'.toList.symm)
  calc later
      = ⟨later.name, later.type, later.cells⟩ := rfl
    _ = ⟨last.name, last.type, last.cells⟩ := by
        rw [h.name, h.type, hcells, h'.name, h'.type]

/-- The values that were there are read as before. -/
theorem GrownBy.get?_of_lt (h : column.GrownBy added later) {row : Nat} (hrow : row < column.size) :
    later.get? row = column.get? row := by
  rw [size_eq_length_toList] at hrow
  rw [get?_eq_getElem?_toList, get?_eq_getElem?_toList, h.toList, List.getElem?_append_left hrow]

/-- A single value that has been added is the last one. -/
theorem GrownBy.get?_size (h : column.GrownBy [value] later) :
    later.get? column.size = some value := by
  rw [get?_eq_getElem?_toList, h.toList, size_eq_length_toList, List.getElem?_concat_length]

theorem GrownBy.size_eq (h : column.GrownBy added later) :
    later.size = column.size + added.length := by
  rw [size_eq_length_toList, size_eq_length_toList, h.toList, List.length_append]

/-! ## One push -/

/-- **A column takes a value** of the type that it was declared with, if its cells have this type
too. -/
def Takes (column : Column) (value : Value) : Prop :=
  value.type = column.type ∧ value.type = column.cells.type

instance (column : Column) (value : Value) : Decidable (column.Takes value) :=
  inferInstanceAs (Decidable (_ ∧ _))

/-- Growing does not change what a column takes. -/
theorem GrownBy.takes_iff (h : column.GrownBy added later) (value : Value) :
    later.Takes value ↔ column.Takes value := by
  rw [Takes, Takes, h.type, h.kind]

/-- Nor how it words a refusal. -/
theorem GrownBy.mismatch_eq (h : column.GrownBy added later) (value : Value) :
    later.mismatch value = column.mismatch value := by
  rw [mismatch, mismatch, h.name, h.type]

/-- The check passes exactly the values of the declared type. -/
theorem check_eq_ok_iff : column.check value = .ok () ↔ value.type = column.type := by
  unfold check
  split <;> simp_all

/-- A value of another type than the declared one fails the check. -/
theorem check_of_ne (h : value.type ≠ column.type) :
    column.check value = .error (column.mismatch value) :=
  if_neg h

/-- A value that is taken stands behind the others. -/
theorem push_of_takes (h : column.Takes value) :
    ∃ pushed, push value column = .ok () pushed ∧ column.GrownBy [value] pushed := by
  obtain ⟨hdeclared, hkind⟩ := h
  obtain ⟨cells, hcells⟩ := Option.isSome_iff_exists.1 (Cells.push?_isSome_iff.2 hkind)
  obtain ⟨htoList, htype⟩ := Cells.toList_of_push? hcells
  refine ⟨⟨column.name, column.type, cells⟩, ?_, rfl, rfl, htype, htoList⟩
  simp only [push, check_eq_ok_iff.2 hdeclared, hcells]

/-- Any other value is refused, by the declaration or else by the cells, and the column is as it
was. -/
theorem push_of_not_takes (h : ¬ column.Takes value) :
    push value column = .error (column.mismatch value) column := by
  by_cases hdeclared : value.type = column.type
  · -- The value passes the check, and the cells refuse it.
    have hkind : column.cells.push? value = none := by
      rw [← Option.not_isSome_iff_eq_none, Cells.push?_isSome_iff]
      exact fun hkind => h ⟨hdeclared, hkind⟩
    simp only [push, check_eq_ok_iff.2 hdeclared, hkind]
  · simp only [push, check_of_ne hdeclared]

/-- **Which values are accepted**, and what becomes of the column. -/
theorem push_eq_ok_iff :
    push value column = .ok () later ↔ column.Takes value ∧ column.GrownBy [value] later := by
  by_cases h : column.Takes value
  · obtain ⟨pushed, hpush, hgrown⟩ := push_of_takes h
    rw [hpush]
    constructor
    · rintro ⟨⟩
      exact ⟨h, hgrown⟩
    · rintro ⟨-, hgrown'⟩
      rw [hgrown.unique hgrown']
  · simp [push_of_not_takes h, h]

/-- **Which values are refused**, with which error.  A refusal leaves the column as it was. -/
theorem push_eq_error_iff {error : ExecutionError} :
    push value column = .error error later ↔
      ¬ column.Takes value ∧ error = column.mismatch value ∧ later = column := by
  by_cases h : column.Takes value
  · obtain ⟨pushed, hpush, -⟩ := push_of_takes h
    simp [hpush, h]
  · simp [push_of_not_takes h, h, eq_comm]

/-! ## Pushes one after another -/

/-- The answer to a push. -/
def reply (column : Column) (value : Value) : Except ExecutionError Unit :=
  match push value column with
  | .ok () _ => .ok ()
  | .error error _ => .error error

/-- The column that a push leaves behind, whether the value is accepted or not. -/
def afterPush (column : Column) (value : Value) : Column :=
  match push value column with
  | .ok () pushed => pushed
  | .error _ left => left

/-- The column that pushes leave behind, one after another. -/
def afterPushes (column : Column) (attempts : List Value) : Column :=
  attempts.foldl afterPush column

/-- The values that are pushed one after another, each with the answer to it. -/
def trace (column : Column) : List Value → List (Value × Except ExecutionError Unit)
  | [] => []
  | value :: attempts => (value, column.reply value) :: (column.afterPush value).trace attempts

/-- The values that are answered without an error, in order. -/
def accepted (column : Column) (attempts : List Value) : List Value :=
  ((column.trace attempts).filter (·.2.isOk)).map Prod.fst

/-- The answer that a column gives to a value: no error, or the only one there is. -/
theorem reply_eq (column : Column) (value : Value) :
    column.reply value = if column.Takes value then .ok () else .error (column.mismatch value) := by
  unfold reply
  by_cases h : column.Takes value
  · obtain ⟨pushed, hpush, -⟩ := push_of_takes h
    rw [hpush, if_pos h]
  · rw [push_of_not_takes h, if_neg h]

/-- A push grows the column by the value, if it is taken, and otherwise by nothing. -/
theorem grownBy_afterPush (column : Column) (value : Value) :
    column.GrownBy ([value].filter column.Takes) (column.afterPush value) := by
  unfold afterPush
  by_cases h : column.Takes value
  · obtain ⟨pushed, hpush, hgrown⟩ := push_of_takes h
    rw [hpush, List.filter_singleton, decide_eq_true h]
    exact hgrown
  · rw [push_of_not_takes h, List.filter_singleton, decide_eq_false h]
    exact .refl column

/-- **The trace of pushes is known beforehand**: no push changes the answer to a later one. -/
theorem trace_eq (column : Column) (attempts : List Value) :
    column.trace attempts = attempts.map fun value => (value, column.reply value) := by
  induction attempts generalizing column with
  | nil => rfl
  | cons value attempts ih =>
    have hgrown := column.grownBy_afterPush value
    rw [trace, ih, List.map_cons]
    congr 1
    refine List.map_congr_left fun other _ => ?_
    simp only [reply_eq, hgrown.takes_iff, hgrown.mismatch_eq]

/-- A value is answered without an error exactly if the column takes it. -/
theorem isOk_reply (column : Column) (value : Value) :
    (column.reply value).isOk = decide (column.Takes value) := by
  rw [reply_eq]
  by_cases h : column.Takes value
  · rw [if_pos h, decide_eq_true h]
    rfl
  · rw [if_neg h, decide_eq_false h]
    rfl

/-- The accepted values are those that the column takes. -/
theorem accepted_eq_filter (column : Column) (attempts : List Value) :
    column.accepted attempts = attempts.filter column.Takes := by
  have hanswered : (fun attempt : Value × Except ExecutionError Unit => attempt.2.isOk) ∘
      (fun value => (value, column.reply value)) = fun value => decide (column.Takes value) :=
    funext fun value => column.isOk_reply value
  have hvalue : Prod.fst ∘ (fun value => (value, column.reply value)) = id := rfl
  rw [accepted, trace_eq, List.filter_map, List.map_map, hanswered, hvalue, List.map_id]

/-- **A column grows by what is accepted**, in the order in which it comes. -/
theorem grownBy_afterPushes (column : Column) (attempts : List Value) :
    column.GrownBy (column.accepted attempts) (column.afterPushes attempts) := by
  rw [accepted_eq_filter]
  induction attempts generalizing column with
  | nil => exact .refl column
  | cons value attempts ih =>
    have hgrown := column.grownBy_afterPush value
    have hrest := ih (column.afterPush value)
    simp only [hgrown.takes_iff] at hrest
    have hall := hgrown.trans hrest
    rwa [← List.filter_append, List.singleton_append] at hall

/-- A column that disagrees with itself takes nothing, and stays as it is. -/
theorem afterPushes_of_ne (h : column.type ≠ column.cells.type) (attempts : List Value) :
    column.afterPushes attempts = column := by
  have hnone : column.accepted attempts = [] := by
    rw [accepted_eq_filter, List.filter_eq_nil_iff]
    intro value _
    rw [decide_eq_true_iff]
    rintro ⟨hdeclared, hkind⟩
    exact h (hdeclared.symm.trans hkind)
  have hgrown := column.grownBy_afterPushes attempts
  rw [hnone] at hgrown
  exact hgrown.unique (.refl column)

/-- **A column accumulates the values that it accepts.**  Push any values onto any column, which may
hold anything and may disagree with itself.  The column has grown by those that were accepted, in
the order in which they came, and reads as its first values and these.  The next value is accepted
exactly if it has the declared type and that of the cells; otherwise it is refused as a value of
another type, and nothing changes.  As the pushes before it are any, this is said of every push. -/
theorem accumulates_accepted_values (column : Column) (attempts : List Value) :
    let last := column.afterPushes attempts
    column.GrownBy (column.accepted attempts) last ∧
      last.ReadsAs (column.toList ++ column.accepted attempts) ∧
      (∀ value pushed, push value last = .ok () pushed ↔
        (value.type = column.type ∧ value.type = column.cells.type) ∧
          last.GrownBy [value] pushed) ∧
      ∀ value error left, push value last = .error error left ↔
        ¬ (value.type = column.type ∧ value.type = column.cells.type) ∧
          error = .typeMismatch column.name column.type value.type ∧ left = last := by
  intro last
  have hgrown : column.GrownBy (column.accepted attempts) last :=
    column.grownBy_afterPushes attempts
  have hreads := last.readsAs_toList
  rw [hgrown.toList] at hreads
  refine ⟨hgrown, hreads, fun value pushed => ?_, fun value error left => ?_⟩
  · rw [push_eq_ok_iff, hgrown.takes_iff, Takes]
  · rw [push_eq_error_iff, hgrown.takes_iff, hgrown.mismatch_eq, Takes, mismatch]

/-- A column of texts that holds one already. -/
def filledColumn : Column :=
  ⟨"a", .text, .texts #["x"]⟩

/-- A column that was declared for integers and has cells for texts. -/
def disagreeingColumn : Column :=
  ⟨"b", .int, .texts #["x"]⟩

/-- Values of both types. -/
def mixedAttempts : List Value :=
  [.int 1, .text "y", .int 2, .text "z"]

/-- The texts are accepted behind the one that was there, and an integer is refused.  The other
column accepts neither, and refuses an integer as something that is no integer. -/
theorem accumulates_accepted_values_mixedAttempts :
    (∃ last, last = filledColumn.afterPushes mixedAttempts ∧
      last.toList = [.text "x", .text "y", .text "z"] ∧ last.size = 3 ∧
      last.get? 2 = some (.text "z") ∧ last.get? 3 = none ∧
      push (.int 3) last = .error (.typeMismatch "a" .text .int) last) ∧
    ∃ last, last = disagreeingColumn.afterPushes mixedAttempts ∧
      last.toList = [.text "x"] ∧ last.isEmpty ≠ true ∧
      push (.int 3) last = .error (.typeMismatch "b" .int .int) last ∧
      push (.text "y") last = .error (.typeMismatch "b" .int .text) last := by
  obtain ⟨hgrown, hreads, -, herror⟩ := accumulates_accepted_values filledColumn mixedAttempts
  obtain ⟨hgrown', hreads', -, herror'⟩ :=
    accumulates_accepted_values disagreeingColumn mixedAttempts
  refine ⟨⟨_, rfl, hgrown.toList, hreads.size, ?_, ?_, ?_⟩, _, rfl, hgrown'.toList, ?_, ?_, ?_⟩
  · exact hreads.get?_of_lt 2 (by decide)
  · exact hreads.get?_of_le 3 (by decide)
  · exact (herror _ _ _).2 ⟨by decide, rfl, rfl⟩
  · exact fun hempty => absurd (hreads'.isEmpty_iff.1 hempty) (by decide)
  · exact (herror' _ _ _).2 ⟨by decide, rfl, rfl⟩
  · exact (herror' _ _ _).2 ⟨by decide, rfl, rfl⟩

end Column
end ColumnarSql
