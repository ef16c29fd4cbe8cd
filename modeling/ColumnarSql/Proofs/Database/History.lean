import ColumnarSql.Proofs.Database.Effect

/-!
# Tables as the history of their rows

A run that goes on after failures leaves a trace: each statement with its answer.  The
trace alone tells what every table must contain.  Its columns are those of the one
statement that created it, and its rows are the literals of the statements that were
answered with `inserted`, in their order.  No column, no position and no typed cell occurs
in this reading: it is a plain row store.

`History.Agrees` says that a database is what the trace tells.  One statement keeps it
(`History.agrees_after`), so every run from the empty database does
(`History.agrees_executeEach`), and a question in the middle of a run is answered from the
trace before it (`select_answers_additions`).

The empty list of items is no exception: it asks for nothing of every row, and gets one
empty row for each.  Nor is a table without columns, which only a statement made by hand
can create.
-/

namespace ColumnarSql

/-- A statement with the answer to it. -/
abbrev Event := Statement × Except ExecutionError Outcome

namespace History

/-! ## Reading a trace -/

/-- The headers that columns are declared with, if every type is one. -/
def headers? (columns : List ColumnDeclaration) : Option Schema :=
  columns.mapM fun column =>
    (DataType.ofToken? column.type).map fun type => ⟨column.name.value, type⟩

/-- The headers of a table, if an event created it. -/
def declaration? (name : String) : Event → Option Schema
  | (.createTable table columns, .ok .created) =>
    if table.value = name then headers? columns else none
  | _ => none

/-- The literals of a row, if an event added it to a table. -/
def addition? (name : String) : Event → Option (List Token)
  | (.insert table values, .ok .inserted) => if table.value = name then some values else none
  | _ => none

/-- The headers that a table was created with. -/
def schema? (name : String) (past : List Event) : Option Schema :=
  past.findSome? (declaration? name)

/-- The literals of the rows that were added to a table, in order. -/
def additions (name : String) (past : List Event) : List (List Token) :=
  past.filterMap (addition? name)

/-- The values of literals. -/
def values? (literals : List Token) : Option Row :=
  literals.mapM fun literal => (Value.ofLiteral literal).toOption

/-- What some items ask of the row of some literals: the value under each name. -/
def reduced? (schema : Schema) (items literals : List Token) : Option Row :=
  (values? literals).bind fun row => items.mapM fun item => schema.cell? row item.value

/-- The trace of a run that goes on after failures. -/
def events (database : Database) (statements : List Statement) : List Event :=
  statements.zip (database.executeEach statements).1

theorem declaration?_created (name : String) (table : Token)
    (columns : List ColumnDeclaration) :
    declaration? name (.createTable table columns, .ok .created) =
      if table.value = name then headers? columns else none := rfl

theorem declaration?_inserted (name : String) (table : Token) (values : List Token) :
    declaration? name (.insert table values, .ok .inserted) = none := rfl

theorem addition?_created (name : String) (table : Token) (columns : List ColumnDeclaration) :
    addition? name (.createTable table columns, .ok .created) = none := rfl

theorem addition?_inserted (name : String) (table : Token) (values : List Token) :
    addition? name (.insert table values, .ok .inserted) =
      if table.value = name then some values else none := rfl

@[simp] theorem schema?_nil (name : String) : schema? name [] = none := rfl

@[simp] theorem additions_nil (name : String) : additions name [] = [] := rfl

theorem schema?_append (name : String) (past more : List Event) :
    schema? name (past ++ more) = (schema? name past).or (schema? name more) :=
  List.findSome?_append

theorem additions_append (name : String) (past more : List Event) :
    additions name (past ++ more) = additions name past ++ additions name more :=
  List.filterMap_append

theorem schema?_concat (name : String) (past : List Event) (event : Event) :
    schema? name (past ++ [event]) = (schema? name past).or (declaration? name event) := by
  rw [schema?_append, schema?, schema?, List.findSome?_singleton]

theorem additions_concat (name : String) (past : List Event) (event : Event) :
    additions name (past ++ [event]) = additions name past ++ (addition? name event).toList := by
  rw [additions_append, additions, additions]
  cases h : addition? name event <;> simp [h]

theorem events_cons (database : Database) (statement : Statement)
    (statements : List Statement) :
    events database (statement :: statements) =
      (statement, database.reply statement) :: events (database.after statement) statements := by
  rw [events, Database.executeEach_cons, List.zip_cons_cons, events]

/-- The headers of a declaration that is accepted. -/
theorem headers?_of_schemaOf {columns : List ColumnDeclaration} {seen : List String}
    {schema : Schema} (h : Database.schemaOf seen columns = .ok schema) :
    headers? columns = some schema := by
  induction columns generalizing seen schema with
  | nil =>
    obtain rfl : [] = schema := Except.ok.inj h
    rfl
  | cons column columns ih =>
    unfold Database.schemaOf at h
    split at h
    · simp at h
    · cases htype : DataType.ofToken? column.type with
      | none => simp [htype] at h
      | some type =>
        cases hrest : Database.schemaOf (column.name.value :: seen) columns with
        | error error => simp [htype, hrest, Except.map] at h
        | ok rest =>
          obtain rfl : ⟨column.name.value, type⟩ :: rest = schema := by
            simpa [htype, hrest, Except.map] using h
          have hmap := ih hrest
          rw [headers?, Traversal.mapM_eq_some_iff] at hmap ⊢
          rw [List.map_cons, hmap, htype]
          rfl

/-- The values of literals that are accepted. -/
theorem values?_of_mapM {literals : List Token} {row : Row}
    (h : literals.mapM Value.ofLiteral = .ok row) : values? literals = some row := by
  rw [Traversal.mapM_eq_ok_iff] at h
  rw [values?, Traversal.mapM_eq_some_iff]
  have := congrArg (List.map Except.toOption) h
  rw [List.map_map, List.map_map] at this
  exact this

/-! ## Agreement -/

/-- **A database is what a trace tells.**  Exactly the tables that were created are there,
with the columns they were created with, and their rows are the rows that were added. -/
structure Agrees (database : Database) (past : List Event) : Prop where
  aligned : database.Aligned
  schema : ∀ name, (database.table? name).map Table.schema = schema? name past
  /-- The rows; to a table that is not there, none were added. -/
  rows : ∀ name, ((database.table? name).elim [] Table.rows).map some =
    (additions name past).map values?

theorem agrees_empty : Agrees .empty [] where
  aligned := Database.aligned_empty
  schema name := by rw [Database.table?_empty, Option.map_none, schema?_nil]
  rows name := by rw [Database.table?_empty, Option.elim_none, additions_nil, List.map_nil,
    List.map_nil]

/-- An event that declares nothing and adds nothing leaves the reading of a trace as it
is. -/
theorem Agrees.concat_silent {database : Database} {past : List Event} {event : Event}
    (h : Agrees database past) (hdeclaration : ∀ name, declaration? name event = none)
    (haddition : ∀ name, addition? name event = none) :
    Agrees database (past ++ [event]) where
  aligned := h.aligned
  schema name := by rw [schema?_concat, hdeclaration, Option.or_none, h.schema]
  rows name := by
    rw [additions_concat, haddition, Option.toList_none, List.append_nil, h.rows]

/-- **One statement keeps the agreement.** -/
theorem agrees_after {database : Database} {past : List Event} (h : Agrees database past)
    (statement : Statement) :
    Agrees (database.after statement) (past ++ [(statement, database.reply statement)]) := by
  have heffect := Database.effect h.aligned statement
  have haligned := h.aligned.after statement
  generalize database.reply statement = answer, database.after statement = left
    at heffect haligned
  cases heffect with
  | refused =>
    refine h.concat_silent (fun name => ?_) (fun name => ?_)
    · cases statement <;> rfl
    · cases statement <;> rfl
  | selected answer => exact h.concat_silent (fun _ => rfl) (fun _ => rfl)
  | @created table columns schema free declared =>
    refine ⟨haligned, fun name => ?_, fun name => ?_⟩
    · rw [Database.table?_file, schema?_concat, ← h.schema, declaration?_created]
      by_cases hname : table.value = name
      · rw [if_pos hname, if_pos hname, ← hname, free, headers?_of_schemaOf declared]
        rfl
      · rw [if_neg hname, if_neg hname, Option.or_none]
    · rw [Database.table?_file, additions_concat, addition?_created, Option.toList_none,
        List.append_nil, ← h.rows]
      by_cases hname : table.value = name
      · rw [if_pos hname, ← hname, free]
        rfl
      · rw [if_neg hname]
  | @inserted table values stored grown row there literals aligned name schema rows =>
    refine ⟨haligned, fun name => ?_, fun name => ?_⟩
    · rw [Database.table?_file, schema?_concat, ← h.schema, declaration?_inserted, Option.or_none]
      by_cases hname : table.value = name
      · rw [if_pos hname, ← hname, there, Option.map_some, Option.map_some, schema]
      · rw [if_neg hname]
    · rw [Database.table?_file, additions_concat, List.map_append, ← h.rows, addition?_inserted]
      by_cases hname : table.value = name
      · rw [if_pos hname, if_pos hname, ← hname, there, Option.elim_some, Option.elim_some,
          rows, List.map_append, Option.toList_some, List.map_singleton, List.map_singleton,
          values?_of_mapM literals]
      · rw [if_neg hname, if_neg hname, Option.toList_none, List.map_nil, List.append_nil]

/-- **A run keeps the agreement.** -/
theorem agrees_executeEach {database : Database} {past : List Event}
    (h : Agrees database past) (statements : List Statement) :
    Agrees (database.executeEach statements).2 (past ++ events database statements) := by
  induction statements generalizing database past with
  | nil =>
    show Agrees database (past ++ [])
    rw [List.append_nil]
    exact h
  | cons statement statements ih =>
    rw [Database.executeEach_cons, events_cons, List.append_cons]
    exact ih (agrees_after h statement)

/-- In the middle of a run, a statement is executed on a database that agrees with the
trace before it. -/
theorem exists_agrees_take {database : Database} {past : List Event} (h : Agrees database past)
    {statements : List Statement} {position : Nat} {event : Event}
    (hevent : (events database statements)[position]? = some event) :
    ∃ reached, Agrees reached (past ++ (events database statements).take position) ∧
      event.2 = reached.reply event.1 := by
  induction statements generalizing database past position with
  | nil => simp [events] at hevent
  | cons statement statements ih =>
    rw [events_cons] at hevent ⊢
    cases position with
    | zero =>
      obtain rfl : (statement, database.reply statement) = event := by simpa using hevent
      refine ⟨database, ?_, rfl⟩
      rw [List.take_zero, List.append_nil]
      exact h
    | succ position =>
      rw [List.take_succ_cons, List.append_cons]
      exact ih (agrees_after h statement) (by simpa using hevent)

/-- A question to a database that agrees with a trace is answered from the trace. -/
theorem Agrees.select {database : Database} {past : List Event} (h : Agrees database past)
    {items : List Token} {name : String} {result : ResultSet}
    (hselect : database.select name items = .ok result) :
    ∃ schema, schema? name past = some schema ∧
      result.columns.map some = items.map (fun item => schema.header? item.value) ∧
      result.rows.map some = (additions name past).map (reduced? schema items) := by
  cases htable : database.table? name with
  | none => simp [Database.select, htable] at hselect
  | some table =>
    obtain ⟨hcolumns, hrows⟩ := (Database.select_eq_ok_iff h.aligned htable).1 hselect
    refine ⟨table.schema, ?_, hcolumns, ?_⟩
    · rw [← h.schema, htable, Option.map_some]
    · have hadditions := h.rows name
      rw [htable, Option.elim_some] at hadditions
      calc result.rows.map some
          = (table.rows.map some).map fun row? =>
              row?.bind fun row => items.mapM fun item => table.schema.cell? row item.value := by
            rw [hrows, List.map_map]
            rfl
        _ = (additions name past).map (reduced? table.schema items) := by
            rw [hadditions, List.map_map]
            rfl

/-- A table of a database that agrees with a trace counts the rows that were added. -/
theorem Agrees.rowCount {database : Database} {past : List Event} (h : Agrees database past)
    {name : String} {table : Table} (htable : database.table? name = some table) :
    table.rowCount = (additions name past).length := by
  have hrows := congrArg List.length (h.rows name)
  rw [htable, Option.elim_some, List.length_map, List.length_map] at hrows
  rw [← Table.length_rows (h.aligned name table htable), hrows]

/-- **The columnar store is a plain row store.**  Let statements be executed one after
another on the empty database, whether they fail or not.  Then each is answered.  A
question that is answered gets the headers under the names it asks for, as the table was
created with them, and for each row that was added to the table before, in the same order,
the values under these names.  And every table counts the rows that were added to it. -/
theorem select_answers_additions (statements : List Statement) :
    (events .empty statements).length = statements.length ∧
      (∀ (position : Nat) (items : List Token) (table : Token) (result : ResultSet),
        (events .empty statements)[position]? =
            some (.select items table, .ok (.selected result)) →
          ∃ schema, schema? table.value ((events .empty statements).take position) = some schema ∧
            result.columns.map some = items.map (fun item => schema.header? item.value) ∧
            result.rows.map some =
              (additions table.value ((events .empty statements).take position)).map
                (reduced? schema items)) ∧
      ∀ (name : String) (table : Table),
        (Database.empty.executeEach statements).2.table? name = some table →
          table.rowCount = (additions name (events .empty statements)).length := by
  refine ⟨?_, ?_, ?_⟩
  · rw [events, List.length_zip, Database.length_executeEach, Nat.min_self]
  · intro position items table result hevent
    obtain ⟨reached, hagrees, hreply⟩ := exists_agrees_take agrees_empty hevent
    rw [List.nil_append] at hagrees
    have heffect := Database.effect hagrees.aligned (.select items table)
    rw [← hreply] at heffect
    generalize reached.after (.select items table) = left at heffect
    cases heffect with
    | selected answer => exact hagrees.select answer
  · intro name table htable
    have hagrees := agrees_executeEach agrees_empty statements
    rw [List.nil_append] at hagrees
    exact hagrees.rowCount htable

/-- A table with two columns, two rows, and between them a row that is refused because a
text stands where an integer belongs; then a question that names one column twice. -/
def sampleRun : List Statement :=
  let name (value : String) : Token := ⟨.identifier, value, .start⟩
  [.createTable (name "t")
      [⟨name "a", ⟨.keyword, "int", .start⟩⟩, ⟨name "b", ⟨.keyword, "text", .start⟩⟩],
    .insert (name "t") [⟨.number, "1", .start⟩, ⟨.string, "x", .start⟩],
    .insert (name "t") [⟨.string, "1", .start⟩, ⟨.string, "x", .start⟩],
    .insert (name "t") [⟨.number, "2", .start⟩, ⟨.string, "y", .start⟩],
    .select [name "b", name "a", name "b"] (name "t")]

/-- In the sample run the question is answered, and what is said of answered questions and
of stored tables applies to it. -/
theorem select_answers_additions_sampleRun :
    (events .empty sampleRun)[4]? =
        some (.select [⟨.identifier, "b", .start⟩, ⟨.identifier, "a", .start⟩,
            ⟨.identifier, "b", .start⟩] ⟨.identifier, "t", .start⟩,
          .ok (.selected ⟨[⟨"b", .text⟩, ⟨"a", .int⟩, ⟨"b", .text⟩],
            [[.text "x", .int 1, .text "x"], [.text "y", .int 2, .text "y"]]⟩)) ∧
      (∃ schema, schema? "t" ((events .empty sampleRun).take 4) = some schema ∧
        [⟨"b", .text⟩, ⟨"a", .int⟩, ⟨"b", .text⟩].map some =
          ["b", "a", "b"].map (fun name => schema.header? name) ∧
        [[.text "x", .int 1, .text "x"], [.text "y", .int 2, .text "y"]].map some =
          (additions "t" ((events .empty sampleRun).take 4)).map
            (reduced? schema [⟨.identifier, "b", .start⟩, ⟨.identifier, "a", .start⟩,
              ⟨.identifier, "b", .start⟩])) ∧
      (Database.empty.executeEach sampleRun).2.table? "t" =
        some ⟨"t", [⟨"a", .int⟩, ⟨"b", .text⟩],
          [⟨"a", .int, .ints #[1, 2]⟩, ⟨"b", .text, .texts #["x", "y"]⟩], 2⟩ ∧
      2 = (additions "t" (events .empty sampleRun)).length := by
  have hquestion : (events .empty sampleRun)[4]? =
        some (.select [⟨.identifier, "b", .start⟩, ⟨.identifier, "a", .start⟩,
            ⟨.identifier, "b", .start⟩] ⟨.identifier, "t", .start⟩,
          .ok (.selected ⟨[⟨"b", .text⟩, ⟨"a", .int⟩, ⟨"b", .text⟩],
            [[.text "x", .int 1, .text "x"], [.text "y", .int 2, .text "y"]]⟩)) := by
    decide +kernel
  have hstored : (Database.empty.executeEach sampleRun).2.table? "t" =
      some ⟨"t", [⟨"a", .int⟩, ⟨"b", .text⟩],
        [⟨"a", .int, .ints #[1, 2]⟩, ⟨"b", .text, .texts #["x", "y"]⟩], 2⟩ := by
    decide +kernel
  obtain ⟨-, hanswers, hcounts⟩ := select_answers_additions sampleRun
  exact ⟨hquestion, hanswers 4 _ _ _ hquestion, hstored, hcounts "t" _ hstored⟩

end History
end ColumnarSql
