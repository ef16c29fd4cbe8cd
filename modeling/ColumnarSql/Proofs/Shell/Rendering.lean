import ColumnarSql.Proofs.Lexeme.Boundary
import ColumnarSql.Proofs.Storage.Alignment
import ColumnarSql.Shell.Rendering
import Mathlib.Algebra.BigOperators.Group.List.Lemmas
import Mathlib.Algebra.GroupWithZero.Nat
import Mathlib.Data.List.Forall2
import Mathlib.Order.Bounds.Basic

/-!
# Tables are aligned, and can be read back

A result is shown as a table: a line of names, a line for each row, and the number of the rows.
Every line is a bar and the entries, each moved to the right end of its column and followed by a
bar.  Three things are said about such a table.

**It is aligned.**  The width of a column is a maximum over all rows, taken before any line is
made, and a line takes its entries from another list than its widths.  So what has to be known is
that these fit: every column is at least as wide as each of its entries (`isGreatest_columnWidth`,
`fits_of_mem`).  Then each line has the shape that `AlignedLine` describes, which names
places by the widths alone (`alignedLine_lineText`), and so they are the same in all lines.

**It can be read back.**  A line is cut at its bars, and the blanks at the front of a piece are left
out (`tableEntries`).  This is the inverse of the layout if there is no bar and no end of a line in
the entries and none starts with a blank (`tableEntries_renderResult`).  Otherwise two results can
look the same.

**It cannot always be printed.**  The table of a rectangular result can, exactly if no name and no
value is longer than a column can be wide (`isPrintable_selected_iff`).  For a single column the
characters at the end are written out (`exists_renderResult_concat`).

A width is only there if every row has an entry in the column.  The tables above pass over a row
that is too short; `renderResult?` does not, and `renderResult?_eq_some_iff` says that this makes
no difference for a rectangular result.  What a question answers with is one
(`Database.rectangular_of_select`).
-/

namespace ColumnarSql

/-! ## Rectangular results -/

namespace ResultSet

/-- The names of the columns. -/
def names (result : ResultSet) : List String :=
  result.columns.map ColumnHeader.name

/-- The values as they are shown, row by row. -/
def cells (result : ResultSet) : List (List String) :=
  result.rows.map (List.map Value.display)

/-- Every row has one value for each column. -/
def Rectangular (result : ResultSet) : Prop :=
  ∀ row ∈ result.rows, row.length = result.columns.length

instance (result : ResultSet) : Decidable result.Rectangular :=
  inferInstanceAs (Decidable (∀ _ ∈ _, _))

/-- No bar and no end of a line is in a text, and it does not start with a blank. -/
def PlainText (text : String) : Prop :=
  '|' ∉ text.toList ∧ '\n' ∉ text.toList ∧ Ends (· == ' ') text.toList

instance (text : String) : Decidable (PlainText text) :=
  inferInstanceAs (Decidable (_ ∧ _ ∧ _))

/-- All names and all shown values are plain. -/
def Plain (result : ResultSet) : Prop :=
  ∀ entries ∈ result.names :: result.cells, ∀ entry ∈ entries, PlainText entry

instance (result : ResultSet) : Decidable result.Plain :=
  inferInstanceAs (Decidable (∀ _ ∈ _, _))

theorem length_names (result : ResultSet) : result.names.length = result.columns.length := by
  rw [names, List.length_map]

theorem length_cells (result : ResultSet) : result.cells.length = result.rows.length := by
  rw [cells, List.length_map]

/-- The shown values are rectangular as well. -/
theorem Rectangular.length_of_mem_cells {result : ResultSet} (h : result.Rectangular)
    {entries : List String} (hentries : entries ∈ result.cells) :
    entries.length = result.columns.length := by
  obtain ⟨row, hrow, rfl⟩ := List.mem_map.1 hentries
  rw [List.length_map, h row hrow]

end ResultSet

/-- A row of a projection has a value for each position. -/
theorem Table.length_of_mem_project? {table : Table} {positions : List Nat} {rows : List Row}
    (h : table.project? positions = some rows) {row : Row} (hrow : row ∈ rows) :
    row.length = positions.length := by
  obtain ⟨columns, hpick, rfl⟩ := Option.map_eq_some_iff.1 h
  obtain ⟨index, -, hcells⟩ := List.mem_filterMap.1 hrow
  have hcolumns := congrArg List.length (Traversal.mapM_eq_some_iff.1 hpick)
  have hlength := congrArg List.length (Traversal.mapM_eq_some_iff.1 hcells)
  rw [List.length_map, List.length_map] at hcolumns hlength
  rw [hcolumns, hlength]

/-- **What a question answers with is rectangular**, whatever the table is like. -/
theorem Database.rectangular_of_select {database : Database} {name : String} {items : List Token}
    {result : ResultSet} (h : database.select name items = .ok result) : result.Rectangular := by
  rw [select] at h
  split at h
  · simp at h
  · rename_i table htable
    split at h
    · simp at h
    · rename_i found hfound
      obtain rfl := Except.ok.inj h
      intro row hrow
      rw [List.length_map]
      cases hproject : table.project? (found.map (·.1)) with
      | none => simp [hproject] at hrow
      | some rows =>
        rw [hproject, Option.getD_some] at hrow
        rw [Table.length_of_mem_project? hproject hrow, List.length_map]

namespace Shell

open ResultSet

/-! ## The widths of columns -/

/-- The maximum of some numbers is one of them, and none is larger. -/
theorem isGreatest_foldl_max (start : Nat) (numbers : List Nat) :
    IsGreatest {number | number ∈ start :: numbers} (numbers.foldl max start) :=
  List.max?_eq_some_iff.1 List.max?_cons'

/-- **The width of a column**: the longest entry, if it is longer than the name and ten
characters. -/
theorem isGreatest_columnWidth (rows : List (List String)) (position : Nat) (name : String) :
    IsGreatest ({minimalWidth, name.length} ∪
        {length | ∃ row ∈ rows, ∃ entry, row[position]? = some entry ∧ entry.length = length})
      (columnWidth rows position name) := by
  have hset : {length | length ∈ minimalWidth :: name.length ::
        rows.filterMap fun row => row[position]?.map String.length} =
      {minimalWidth, name.length} ∪
        {length | ∃ row ∈ rows, ∃ entry, row[position]? = some entry ∧ entry.length = length} := by
    ext length
    simp only [Set.mem_ofPred_eq, List.mem_cons, List.mem_filterMap, Option.map_eq_some_iff,
      Set.mem_union, Set.mem_insert_iff, Set.mem_singleton_iff, or_assoc]
  rw [← hset]
  exact isGreatest_foldl_max minimalWidth (name.length :: _)

/-- A column is at least as wide as each of its entries. -/
theorem length_le_columnWidth {rows : List (List String)} {row : List String} (hrow : row ∈ rows)
    {position : Nat} {entry : String} (hentry : row[position]? = some entry) (name : String) :
    entry.length ≤ columnWidth rows position name :=
  (isGreatest_columnWidth rows position name).2 (.inr ⟨row, hrow, entry, hentry, rfl⟩)

theorem getElem?_resultWidths (result : ResultSet) (position : Nat) :
    (resultWidths result)[position]? = result.columns[position]?.map fun header =>
      columnWidth result.cells position header.name := by
  rw [resultWidths, columnWidths, List.getElem?_mapIdx, List.getElem?_map, Option.map_map]
  rfl

theorem length_resultWidths (result : ResultSet) :
    (resultWidths result).length = result.columns.length := by
  rw [resultWidths, columnWidths, List.length_mapIdx, List.length_map]

/-! ## Lines -/

/-- No entry is longer than its column is wide. -/
def Fits (widths : List Nat) (entries : List String) : Prop :=
  List.Forall₂ (fun width entry => entry.length ≤ width) widths entries

/-- Where the entry at a position stands, counted from the first bar. -/
def columnStart (widths : List Nat) (position : Nat) : Nat :=
  1 + ((widths.take position).map (· + 1)).sum

/-- **A line of a table**: at the place of each column stand blanks, the whole entry and a bar. -/
structure AlignedLine (widths : List Nat) (entries : List String) (line : List Char) : Prop where
  length : line.length = 1 + (widths.map (· + 1)).sum
  bar : line.head? = some '|'
  entry : ∀ position width entry, widths[position]? = some width →
    entries[position]? = some entry → entry.length ≤ width ∧
      (line.drop (columnStart widths position)).take (width + 1) =
        List.replicate (width - entry.length) ' ' ++ entry.toList ++ ['|']

/-- An entry with the blanks in front of it. -/
def piece (width : Nat) (entry : String) : List Char :=
  List.replicate (width - entry.length) ' ' ++ entry.toList

/-- The characters of a line without its end. -/
def lineText (widths : List Nat) (entries : List String) : List Char :=
  '|' :: ((List.zipWith piece widths entries).map (· ++ ['|'])).flatten

theorem toList_renderLine (widths : List Nat) (entries : List String) :
    (renderLine widths entries).toList = lineText widths entries ++ ['\n'] := by
  have hpiece (width : Nat) (entry : String) :
      (alignRight width entry ++ "|").toList = piece width entry ++ ['|'] := by
    simp [alignRight, piece]
  simp [renderLine, lineText, List.flatMap, List.map_zipWith, hpiece]

theorem length_piece {width : Nat} {entry : String} (h : entry.length ≤ width) :
    (piece width entry).length = width := by
  rw [piece, List.length_append, List.length_replicate, String.length_toList]
  omega

/-- The lengths of the pieces of a line, with the bars behind them, are given by the widths. -/
theorem Fits.map_length {widths : List Nat} {entries : List String} (h : Fits widths entries) :
    ((List.zipWith piece widths entries).map (· ++ ['|'])).map List.length =
      widths.map (· + 1) := by
  induction h with
  | nil => rfl
  | cons hle _ ih =>
    rw [List.zipWith_cons_cons, List.map_cons, List.map_cons, ih, List.map_cons,
      List.length_append, length_piece hle, List.length_singleton]

theorem Fits.length_eq {widths : List Nat} {entries : List String} (h : Fits widths entries) :
    widths.length = entries.length :=
  List.Forall₂.length_eq h

theorem Fits.of_getElem? {widths : List Nat} {entries : List String}
    (hlength : widths.length = entries.length)
    (h : ∀ (position width : Nat) (entry : String), widths[position]? = some width →
      entries[position]? = some entry → entry.length ≤ width) : Fits widths entries := by
  refine List.forall₂_iff_get.2 ⟨hlength, fun position hwidth hentry => ?_⟩
  exact h position _ _ (List.getElem?_eq_getElem hwidth) (List.getElem?_eq_getElem hentry)

theorem Fits.getElem? {widths : List Nat} {entries : List String} (h : Fits widths entries)
    {position width : Nat} {entry : String} (hwidth : widths[position]? = some width)
    (hentry : entries[position]? = some entry) : entry.length ≤ width := by
  obtain ⟨hlt, rfl⟩ := List.getElem?_eq_some_iff.1 hwidth
  obtain ⟨hlt', rfl⟩ := List.getElem?_eq_some_iff.1 hentry
  exact (List.forall₂_iff_get.1 h).2 position hlt hlt'

/-- **Lines whose entries fit are aligned.** -/
theorem alignedLine_lineText {widths : List Nat} {entries : List String} (h : Fits widths entries) :
    AlignedLine widths entries (lineText widths entries) where
  length := by
    rw [lineText, List.length_cons, List.length_flatten, h.map_length, Nat.add_comm]
  bar := rfl
  entry := by
    intro position width entry hwidth hentry
    refine ⟨h.getElem? hwidth hentry, ?_⟩
    have hpiece : ((List.zipWith piece widths entries).map (· ++ ['|']))[position]? =
        some (piece width entry ++ ['|']) := by
      rw [List.getElem?_map, List.getElem?_zipWith_eq_some.2 ⟨width, entry, hwidth, hentry, rfl⟩,
        Option.map_some]
    obtain ⟨hlt, hget⟩ := List.getElem?_eq_some_iff.1 hpiece
    obtain ⟨hlt', hget'⟩ := List.getElem?_eq_some_iff.1 hwidth
    -- The pieces before the position are as long as the widths say, and so is the piece itself.
    have hslice := List.drop_take_succ_flatten_eq_getElem _ position hlt
    rw [hget, h.map_length, List.drop_take,
      List.sum_take_succ _ position (by rwa [List.length_map]), List.getElem_map, hget',
      Nat.add_sub_cancel_left] at hslice
    rw [columnStart, List.map_take, lineText, Nat.add_comm 1, List.drop_succ_cons, hslice, piece]

/-! ## The whole table -/

/-- The names of the columns fit. -/
theorem fits_names (result : ResultSet) : Fits (resultWidths result) result.names := by
  refine Fits.of_getElem? ?_ fun position width entry hwidth hentry => ?_
  · rw [length_resultWidths, result.length_names]
  · rw [getElem?_resultWidths] at hwidth
    obtain ⟨header, hheader, rfl⟩ := Option.map_eq_some_iff.1 hwidth
    rw [ResultSet.names, List.getElem?_map, hheader, Option.map_some] at hentry
    obtain rfl := Option.some.inj hentry
    exact (isGreatest_columnWidth result.cells position header.name).2 (.inl (.inr rfl))

/-- The values of a row fit. -/
theorem fits_cells {result : ResultSet} (h : result.Rectangular) {entries : List String}
    (hentries : entries ∈ result.cells) : Fits (resultWidths result) entries := by
  refine Fits.of_getElem? ?_ fun position width entry hwidth hentry => ?_
  · rw [length_resultWidths, h.length_of_mem_cells hentries]
  · rw [getElem?_resultWidths] at hwidth
    obtain ⟨header, -, rfl⟩ := Option.map_eq_some_iff.1 hwidth
    exact length_le_columnWidth hentries hentry header.name

/-- **All entries of a rectangular result fit.** -/
theorem fits_of_mem {result : ResultSet} (h : result.Rectangular) {entries : List String}
    (hentries : entries ∈ result.names :: result.cells) : Fits (resultWidths result) entries := by
  rcases List.mem_cons.1 hentries with rfl | hcells
  · exact fits_names result
  · exact fits_cells h hcells

/-- **A rectangular result can be shown** exactly if no name and no value is longer than a column
can be wide. -/
theorem isPrintable_selected_iff {result : ResultSet} (h : result.Rectangular) :
    isPrintable (.selected result) = true ↔
      ∀ entries ∈ result.names :: result.cells, ∀ entry ∈ entries,
        entry.length ≤ maximalWidth := by
  simp only [isPrintable, List.all_eq_true, decide_eq_true_eq]
  constructor
  · intro hwidths entries hentries entry hentry
    obtain ⟨position, hposition⟩ := List.mem_iff_getElem?.1 hentry
    have hfits := fits_of_mem h hentries
    have hlt : position < (resultWidths result).length := by
      rw [hfits.length_eq]
      exact (List.getElem?_eq_some_iff.1 hposition).1
    calc entry.length
        ≤ (resultWidths result)[position] :=
          hfits.getElem? (List.getElem?_eq_getElem hlt) hposition
      _ ≤ maximalWidth := hwidths _ (List.getElem_mem hlt)
  · intro hentries width hwidth
    obtain ⟨position, hposition⟩ := List.mem_iff_getElem?.1 hwidth
    rw [getElem?_resultWidths] at hposition
    obtain ⟨header, hheader, rfl⟩ := Option.map_eq_some_iff.1 hposition
    -- A width is ten, or the length of a name or of a value.
    rcases (isGreatest_columnWidth result.cells position header.name).1 with
      (hten | hname) | ⟨row, hrow, entry, hentry, hlength⟩
    · rw [hten]
      decide
    · rw [hname]
      exact hentries result.names List.mem_cons_self _
        (List.mem_map_of_mem (List.mem_of_getElem? hheader))
    · rw [← hlength]
      exact hentries row (List.mem_cons_of_mem _ hrow) entry (List.mem_of_getElem? hentry)

theorem renderResult_eq (result : ResultSet) :
    renderResult result = renderLine (resultWidths result) result.names ++
      String.join (result.cells.map (renderLine (resultWidths result))) ++
        renderCount result.cells.length := rfl

/-- A line ends with the end of a line, and so does what is made of lines. -/
theorem exists_lines_eq_append (widths : List Nat) (names : List String)
    (rows : List (List String)) :
    ∃ text, renderLine widths names ++ String.join (rows.map (renderLine widths)) =
      text ++ "\n" := by
  have hline (entries : List String) : ∃ text, renderLine widths entries = text ++ "\n" :=
    ⟨_, rfl⟩
  rcases List.eq_nil_or_concat rows with rfl | ⟨front, last, rfl⟩
  · obtain ⟨text, htext⟩ := hline names
    exact ⟨text, by rw [List.map_nil, String.join_nil, String.append_empty, htext]⟩
  · obtain ⟨text, htext⟩ := hline last
    refine ⟨renderLine widths names ++ String.join (front.map (renderLine widths)) ++ text, ?_⟩
    simp [htext, String.append_assoc]

/-- **The end of a table with one column**: blanks and the value of the last row between bars, and
the number of the rows. -/
theorem exists_renderResult_concat (header : ColumnHeader) (rows : List Row) (value : Value) :
    ∃ before blanks, renderResult ⟨[header], rows ++ [[value]]⟩ =
      before ++ "\n|" ++ String.ofList (List.replicate blanks ' ') ++ value.display ++ "|\n" ++
        renderCount (rows.length + 1) := by
  have hcells : cells ⟨[header], rows ++ [[value]]⟩ =
      cells ⟨[header], rows⟩ ++ [[value.display]] := List.map_append
  obtain ⟨width, hwidths⟩ : ∃ width, resultWidths ⟨[header], rows ++ [[value]]⟩ = [width] :=
    ⟨_, rfl⟩
  have hlast : renderLine [width] [value.display] =
      "|" ++ String.ofList (List.replicate (width - value.display.length) ' ') ++ value.display ++
        "|\n" := by
    simp [renderLine, alignRight, String.append_assoc]
  obtain ⟨before, hbefore⟩ := exists_lines_eq_append [width] [header.name] (cells ⟨[header], rows⟩)
  refine ⟨before, width - value.display.length, ?_⟩
  calc renderResult ⟨[header], rows ++ [[value]]⟩
      = renderLine [width] [header.name] ++
          String.join ((cells ⟨[header], rows⟩).map (renderLine [width])) ++
          renderLine [width] [value.display] ++ renderCount (rows.length + 1) := by
        rw [renderResult_eq, length_cells, hwidths, hcells]
        simp [names, String.append_assoc]
    _ = before ++ "\n|" ++ String.ofList (List.replicate (width - value.display.length) ' ') ++
          value.display ++ "|\n" ++ renderCount (rows.length + 1) := by
        have hbar : "\n|" = "\n" ++ "|" := rfl
        rw [hbefore, hlast, hbar]
        simp only [String.append_assoc]

/-- The characters of a table: the lines with their ends, and the number of the rows. -/
theorem toList_renderResult (result : ResultSet) :
    (renderResult result).toList =
      (((result.names :: result.cells).map (lineText (resultWidths result))).map
        (· ++ ['\n'])).flatten ++ (renderCount result.rows.length).toList := by
  simp [renderResult_eq, toList_renderLine, List.flatMap, result.length_cells,
    Function.comp_def]

/-! ## Rows that are too short -/

/-- The width of a column, if every row has an entry in it. -/
def columnWidth? (rows : List (List String)) (position : Nat) (name : String) : Option Nat :=
  (rows.mapM fun row => row[position]?.map String.length).map
    (·.foldl max (max minimalWidth name.length))

/-- The widths of all columns, if every row has an entry in each. -/
def columnWidths? (names : List String) (rows : List (List String)) : Option (List Nat) :=
  (names.mapIdx (columnWidth? rows)).mapM id

/-- The table of a result, if every row has an entry in each column. -/
def renderResult? (result : ResultSet) : Option String :=
  (columnWidths? result.names result.cells).map fun widths =>
    renderLine widths result.names ++ String.join (result.cells.map (renderLine widths)) ++
      renderCount result.cells.length

theorem columnWidth?_eq_some_iff {rows : List (List String)} {position : Nat} {name : String}
    {width : Nat} :
    columnWidth? rows position name = some width ↔
      (∀ row ∈ rows, position < row.length) ∧ columnWidth rows position name = width := by
  rw [columnWidth?, Option.map_eq_some_iff]
  constructor
  · rintro ⟨lengths, hlengths, rfl⟩
    rw [Traversal.mapM_eq_some_iff] at hlengths
    refine ⟨fun row hrow => ?_, ?_⟩
    · have hmem : row[position]?.map String.length ∈ lengths.map some :=
        hlengths ▸ List.mem_map_of_mem hrow
      obtain ⟨length, -, hlength⟩ := List.mem_map.1 hmem
      obtain ⟨entry, hentry, -⟩ := Option.map_eq_some_iff.1 hlength.symm
      exact (List.getElem?_eq_some_iff.1 hentry).1
    · have hfilter := congrArg (List.filterMap id) hlengths
      rw [List.filterMap_map, List.filterMap_map, Function.id_comp, Function.id_comp,
        List.filterMap_some] at hfilter
      rw [columnWidth, hfilter]
  · rintro ⟨hrows, rfl⟩
    refine ⟨_, Traversal.mapM_eq_some_iff.2 (Traversal.map_some_filterMap ?_).symm, rfl⟩
    intro row hrow
    exact ⟨_, by rw [List.getElem?_eq_getElem (hrows row hrow), Option.map_some]⟩

/-- Where no row is too short, every column has a width. -/
theorem mapIdx_columnWidth? {names : List String} {rows : List (List String)}
    (hrows : ∀ row ∈ rows, names.length ≤ row.length) :
    names.mapIdx (columnWidth? rows) = (columnWidths names rows).map some := by
  refine List.ext_getElem? fun position => ?_
  rw [columnWidths, List.getElem?_mapIdx, List.getElem?_map, List.getElem?_mapIdx]
  cases hname : names[position]? with
  | none => rfl
  | some name =>
    have hlt := (List.getElem?_eq_some_iff.1 hname).1
    exact congrArg some
      (columnWidth?_eq_some_iff.2 ⟨fun row hrow => hlt.trans_le (hrows row hrow), rfl⟩)

theorem columnWidths?_eq_some_iff {names : List String} {rows : List (List String)}
    {widths : List Nat} :
    columnWidths? names rows = some widths ↔
      (∀ row ∈ rows, names.length ≤ row.length) ∧ columnWidths names rows = widths := by
  rw [columnWidths?, Traversal.mapM_eq_some_iff, List.map_id]
  constructor
  · intro h
    have hrows : ∀ row ∈ rows, names.length ≤ row.length := by
      intro row hrow
      refine le_of_forall_lt fun position hlt => ?_
      have hmem : columnWidth? rows position names[position] ∈ widths.map some := by
        rw [← h]
        exact List.mem_mapIdx.2 ⟨position, hlt, rfl⟩
      obtain ⟨width, -, hwidth⟩ := List.mem_map.1 hmem
      exact (columnWidth?_eq_some_iff.1 hwidth.symm).1 row hrow
    rw [mapIdx_columnWidth? hrows] at h
    exact ⟨hrows, List.map_injective_iff.2 (Option.some_injective Nat) h⟩
  · rintro ⟨hrows, rfl⟩
    exact mapIdx_columnWidth? hrows

/-- **No row is passed over** exactly if none is too short, and then the table is the same. -/
theorem renderResult?_eq_some_iff {result : ResultSet} {text : String} :
    renderResult? result = some text ↔
      (∀ row ∈ result.rows, result.columns.length ≤ row.length) ∧ renderResult result = text := by
  have hrows : (∀ entries ∈ result.cells, result.names.length ≤ entries.length) ↔
      ∀ row ∈ result.rows, result.columns.length ≤ row.length := by
    simp [ResultSet.cells, result.length_names]
  rw [renderResult?, Option.map_eq_some_iff, ← hrows]
  constructor
  · rintro ⟨widths, hwidths, rfl⟩
    obtain ⟨hlength, rfl⟩ := columnWidths?_eq_some_iff.1 hwidths
    exact ⟨hlength, rfl⟩
  · rintro ⟨hlength, rfl⟩
    exact ⟨_, columnWidths?_eq_some_iff.2 ⟨hlength, rfl⟩, rfl⟩

/-! ## Reading a table back -/

/-- The entries of a line: what stands between the bars, without the blanks in front. -/
def lineEntries (line : List Char) : List String :=
  ((line.splitOn '|').tail.dropLast).map fun entry => String.ofList (entry.dropWhile (· == ' '))

/-- The entries of a table, line by line. -/
def tableEntries (text : String) : List (List String) :=
  ((text.toList.splitOn '\n').dropLast.dropLast).map lineEntries

/-- A text is cut at each of the separators behind its parts. -/
theorem splitOn_flatten {separator : Char} {parts : List (List Char)}
    (h : ∀ part ∈ parts, separator ∉ part) (rest : List Char) :
    ((parts.map (· ++ [separator])).flatten ++ rest).splitOn separator =
      parts ++ rest.splitOn separator := by
  induction parts with
  | nil => rfl
  | cons part parts ih =>
    rw [List.map_cons, List.flatten_cons, List.append_assoc, List.append_assoc,
      List.singleton_append, List.splitOn_append_cons_self_of_not_mem (h part List.mem_cons_self),
      ih fun other hother => h other (List.mem_cons_of_mem _ hother), List.cons_append]

/-- A character of a piece is a blank or one of the entry. -/
theorem eq_or_mem_of_mem_piece {width : Nat} {entry : String} {c : Char}
    (h : c ∈ piece width entry) : c = ' ' ∨ c ∈ entry.toList :=
  (List.mem_append.1 h).imp_left List.eq_of_mem_replicate

theorem dropWhile_piece (width : Nat) {entry : String} (h : PlainText entry) :
    String.ofList ((piece width entry).dropWhile (· == ' ')) = entry := by
  have hblanks : ∀ c ∈ List.replicate (width - entry.length) ' ', (c == ' ') = true := by
    intro c hc
    rw [List.eq_of_mem_replicate hc, beq_self_eq_true]
  rw [piece, dropWhile_append_of_ends hblanks h.2.2, String.ofList_toList]

theorem exists_of_mem_zipWith_piece {widths : List Nat} {entries : List String}
    {text : List Char} (h : text ∈ List.zipWith piece widths entries) :
    ∃ width, ∃ entry ∈ entries, text = piece width entry := by
  obtain ⟨position, hposition⟩ := List.mem_iff_getElem?.1 h
  obtain ⟨width, entry, -, hentry, rfl⟩ := List.getElem?_zipWith_eq_some.1 hposition
  exact ⟨width, entry, List.mem_of_getElem? hentry, rfl⟩

/-- A line has no end inside. -/
theorem notMem_lineText (widths : List Nat) {entries : List String}
    (h : ∀ entry ∈ entries, PlainText entry) : '\n' ∉ lineText widths entries := by
  intro hmem
  rw [lineText, List.mem_cons, List.mem_flatten] at hmem
  rcases hmem with hbar | ⟨text, htext, hmem⟩
  · exact absurd hbar (by decide)
  · obtain ⟨text, hpiece, rfl⟩ := List.mem_map.1 htext
    obtain ⟨width, entry, hentry, rfl⟩ := exists_of_mem_zipWith_piece hpiece
    rcases List.mem_append.1 hmem with hmem | hmem
    · rcases eq_or_mem_of_mem_piece hmem with hblank | hmem
      · exact absurd hblank (by decide)
      · exact (h entry hentry).2.1 hmem
    · exact absurd (List.mem_singleton.1 hmem) (by decide)

/-- **A line is read back.** -/
theorem lineEntries_lineText {widths : List Nat} {entries : List String}
    (hlength : widths.length = entries.length) (h : ∀ entry ∈ entries, PlainText entry) :
    lineEntries (lineText widths entries) = entries := by
  have hparts : ∀ part ∈ List.zipWith piece widths entries, '|' ∉ part := by
    intro part hpart hmem
    obtain ⟨width, entry, hentry, rfl⟩ := exists_of_mem_zipWith_piece hpart
    rcases eq_or_mem_of_mem_piece hmem with hblank | hmem
    · exact absurd hblank (by decide)
    · exact (h entry hentry).1 hmem
  have hsplit : (lineText widths entries).splitOn '|' =
      [] :: (List.zipWith piece widths entries ++ [[]]) := by
    have hflatten := splitOn_flatten hparts []
    rw [List.append_nil, List.splitOn_nil] at hflatten
    rw [lineText, ← hflatten]
    exact List.splitOn_append_cons_self_of_not_mem List.not_mem_nil _
  have hread : ∀ pair ∈ widths.zip entries,
      String.ofList ((piece pair.1 pair.2).dropWhile (· == ' ')) = pair.2 :=
    fun pair hpair => dropWhile_piece pair.1 (h pair.2 (List.of_mem_zip hpair).2)
  rw [lineEntries, hsplit, List.tail_cons, List.dropLast_concat, List.map_zipWith,
    ← List.map_uncurry_zip_eq_zipWith]
  exact (List.map_congr_left hread).trans (List.map_snd_zip hlength.ge)

/-- The number of the rows stands in one line. -/
theorem exists_toList_renderCount (count : Nat) :
    ∃ line, (renderCount count).toList = line ++ ['\n'] ∧ '\n' ∉ line := by
  have hdigits : '\n' ∉ Nat.toDigits 10 count := fun hmem =>
    absurd (Nat.isDigit_of_mem_toDigits (by decide) (by decide) hmem) (by decide)
  by_cases hcount : count = 1
  · refine ⟨'(' :: (count.repr.toList ++ " row)".toList), ?_, ?_⟩
    · simp [renderCount, if_pos hcount]
    · simp [hdigits]
  · refine ⟨'(' :: (count.repr.toList ++ " rows)".toList), ?_, ?_⟩
    · simp [renderCount, if_neg hcount]
    · simp [hdigits]

/-- **A table is read back.** -/
theorem tableEntries_renderResult {result : ResultSet} (hrectangular : result.Rectangular)
    (hplain : result.Plain) : tableEntries (renderResult result) = result.names :: result.cells := by
  obtain ⟨count, hcount, hend⟩ := exists_toList_renderCount result.rows.length
  have hlines : ∀ line ∈ (result.names :: result.cells).map (lineText (resultWidths result)),
      '\n' ∉ line := by
    intro line hline
    obtain ⟨entries, hentries, rfl⟩ := List.mem_map.1 hline
    exact notMem_lineText _ (hplain entries hentries)
  have hread : ∀ entries ∈ result.names :: result.cells,
      lineEntries (lineText (resultWidths result) entries) = entries := by
    intro entries hentries
    exact lineEntries_lineText (fits_of_mem hrectangular hentries).length_eq
      (hplain entries hentries)
  have hlast (lines : List (List Char)) : (lines ++ [count, []]).dropLast.dropLast = lines := by
    rw [List.append_cons, List.dropLast_concat, List.dropLast_concat]
  rw [tableEntries, toList_renderResult, hcount, splitOn_flatten hlines,
    List.splitOn_append_cons_self_of_not_mem hend, List.splitOn_nil, hlast, List.map_map]
  exact (List.map_congr_left hread).trans (List.map_id _)

/-- Without the condition on the texts two results can look the same. -/
example : renderResult ⟨[⟨"aaaaaaaaaa", .int⟩, ⟨"bbbbbbbbbb", .int⟩], []⟩ =
    renderResult ⟨[⟨"aaaaaaaaaa|bbbbbbbbbb", .int⟩], []⟩ := by decide +kernel

/-! ## Tables -/

/-- **Tables are aligned, and can be read back.**  No row is passed over.  There is a line for the
names, one for each row, and the number of the rows.  The width of a column is the greatest of ten
and the lengths of its name and of its shown values, and every line has the shape that the widths
say.  What a question answers with is rectangular, and two rectangular results without bars, ends of
lines and leading blanks look the same only if they are the same. -/
theorem tables_are_aligned_and_faithful {result : ResultSet} (hresult : result.Rectangular) :
    (renderResult? result = some (renderResult result) ∧
      renderResult result = renderLine (resultWidths result) result.names ++
        String.join (result.cells.map (renderLine (resultWidths result))) ++
          renderCount result.rows.length) ∧
    (∀ (position : Nat) (header : ColumnHeader), result.columns[position]? = some header →
      ∃ width, (resultWidths result)[position]? = some width ∧
        IsGreatest ({10, header.name.length} ∪ {length | ∃ row ∈ result.rows, ∃ value : Value,
          row[position]? = some value ∧ value.display.length = length}) width) ∧
    (∀ entries ∈ result.names :: result.cells, ∃ line,
      (renderLine (resultWidths result) entries).toList = line ++ ['\n'] ∧
        entries.length = (resultWidths result).length ∧
        AlignedLine (resultWidths result) entries line) ∧
    (∀ (database : Database) (name : String) (items : List Token) (found : ResultSet),
      database.select name items = .ok found → found.Rectangular) ∧
    (∀ other : ResultSet, other.Rectangular → result.Plain → other.Plain →
      renderResult result = renderResult other →
        result.names = other.names ∧ result.rows.length = other.rows.length ∧
          result.cells = other.cells) := by
  refine ⟨⟨?_, ?_⟩, ?_, ?_, ?_, ?_⟩
  · exact renderResult?_eq_some_iff.2 ⟨fun row hrow => (hresult row hrow).ge, rfl⟩
  · rw [renderResult_eq, result.length_cells]
  · intro position header hheader
    refine ⟨columnWidth result.cells position header.name, ?_, ?_⟩
    · rw [getElem?_resultWidths, hheader, Option.map_some]
    · have hgreatest := isGreatest_columnWidth result.cells position header.name
      simpa [cells, minimalWidth] using hgreatest
  · intro entries hentries
    have hfits := fits_of_mem hresult hentries
    exact ⟨_, toList_renderLine _ _, hfits.length_eq.symm, alignedLine_lineText hfits⟩
  · intro database name items found hselect
    exact Database.rectangular_of_select hselect
  · intro other hother hplain hplain' hequal
    have hread := congrArg tableEntries hequal
    rw [tableEntries_renderResult hresult hplain, tableEntries_renderResult hother hplain'] at hread
    obtain ⟨hnames, hcells⟩ := List.cons.inj hread
    refine ⟨hnames, ?_, hcells⟩
    rw [← result.length_cells, hcells, other.length_cells]

/-- Two rows, with a name and a value that are longer than ten characters. -/
def sampleResult : ResultSet :=
  ⟨[⟨"id", .int⟩, ⟨"description", .text⟩], [[.int 7, .text "é"], [.int 12, .text "a longer text"]]⟩

theorem tables_are_aligned_and_faithful_sampleResult :
    sampleResult.Rectangular ∧ sampleResult.Plain ∧
      renderResult? sampleResult = some
        ("|        id|  description|\n|         7|            é|\n" ++
          "|        12|a longer text|\n(2 rows)\n") ∧
      ∀ other : ResultSet, other.Rectangular → other.Plain →
        renderResult sampleResult = renderResult other → other.rows.length = 2 := by
  have hrectangular : sampleResult.Rectangular := by decide +kernel
  have hplain : sampleResult.Plain := by decide +kernel
  refine ⟨hrectangular, hplain, ?_, fun other hother hplain' hequal => ?_⟩
  · rw [(tables_are_aligned_and_faithful hrectangular).1.1]
    decide +kernel
  · exact ((tables_are_aligned_and_faithful hrectangular).2.2.2.2 other hother hplain hplain'
      hequal).2.1.symm

end Shell
end ColumnarSql
