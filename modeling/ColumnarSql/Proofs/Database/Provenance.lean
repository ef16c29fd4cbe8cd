import ColumnarSql.Proofs.Database.Dump
import ColumnarSql.Proofs.Database.Representation
import ColumnarSql.Proofs.Grammar.Spelling
import ColumnarSql.Proofs.Lexeme.Canonical

/-!
# What texts can store

A column of integers has room for negative ones, and a table may have no columns at all: statements
put together by hand store both.  No text does.  The reason is spread over all stages of a script,
and each of them contributes one fact:

* the tokens of a text are those that `Lexeme.Expressible` allows, so a number is a text of the
  grammar of numbers.  A sign may occur in it, but only behind an `e`, while the numeral of an
  integer has its sign in front.  So what is both has no sign (`Number.IsNumber.allDigits`), and its
  value is not negative (`Value.isLiteral_of_expressible`);
* a statement keeps the tokens it is spelled with, and a list between parentheses is not empty
  (`Statement.isWritten_of_statementsOf`);
* a call runs the beginning of what its text says (`Database.mem_statementsOf_of_mem_trace`);
* a statement that is written in a text keeps what is said of the tables
  (`Database.IsWritten.after`).

The invariant speaks of rows.  What is stored are columns, and in an aligned table every cell of a
column belongs to a row (`Table.exists_mem_rows_of_mem_toList`).
-/

namespace ColumnarSql

open Lexeme (Expressible)

/-! ## Literals -/

/-- **A number that is the numeral of an integer has digits only.** -/
theorem Number.IsNumber.allDigits {text : List Char} {n : Int} (h : IsNumber text)
    (hn : Text.Numeral.toInt? text = some n) :
    AllDigits text ∧ n = (Nat.ofDigitChars 10 text 0 : Nat) := by
  obtain ⟨c, rest, rfl, hc⟩ := h.head
  have hplus : c ≠ '+' := by
    rintro rfl
    simp at hc
  have hminus : c ≠ '-' := by
    rintro rfl
    simp at hc
  unfold Text.Numeral.toInt? at hn
  split at hn
  · next heq => exact absurd (List.cons.inj heq).1 hplus
  · next heq => exact absurd (List.cons.inj heq).1 hminus
  · obtain ⟨value, hvalue, rfl⟩ := Option.map_eq_some_iff.1 hn
    unfold Text.Numeral.toNat? at hvalue
    split at hvalue
    · next hdigits =>
      exact ⟨fun c hc => List.all_eq_true.1 hdigits.2 c hc,
        congrArg Int.ofNat (Option.some.inj hvalue).symm⟩
    · simp at hvalue

/-- A token of the class of numbers is one. -/
theorem Lexeme.Expressible.isNumber {value : String} (h : Expressible .number value) :
    Number.IsNumber value.toList := by
  cases h with
  | number hnumber => rwa [String.toList_ofList]

/-- **The value of a token that a text can have** is a text, or an integer that is not negative. -/
theorem Value.isLiteral_of_expressible {token : Token} {value : Value}
    (h : Expressible token.kind token.value) (hvalue : ofLiteral token = .ok value) :
    value.IsLiteral := by
  obtain ⟨kind, text, place⟩ := token
  cases kind with
  | number =>
    simp only [ofLiteral] at hvalue
    cases hn : Text.Numeral.toInt64? text.toList with
    | none => simp [hn] at hvalue
    | some n =>
      obtain rfl : .int n = value := by simpa [hn] using hvalue
      obtain ⟨-, hnonneg⟩ := h.isNumber.allDigits (Text.Numeral.toInt64?_eq_some_iff.1 hn)
      show 0 ≤ n
      rw [Int64.le_iff_toInt_le, hnonneg]
      exact Int.natCast_nonneg _
  | string =>
    obtain rfl : .text text = value := Except.ok.inj hvalue
    trivial
  | keyword => simp [ofLiteral] at hvalue
  | symbol => simp [ofLiteral] at hvalue
  | identifier => simp [ofLiteral] at hvalue

/-! ## Statements of a text -/

/-- **A statement that a text can have**, as far as it stores something: its values are those of
tokens, and it declares a column. -/
def Statement.IsWritten : Statement → Prop
  | .select _ _ => True
  | .insert _ values => ∀ value ∈ values, Expressible value.kind value.value
  | .createTable _ columns => columns ≠ []

namespace Grammar

/-- Items between commas are among the tokens that spell them. -/
theorem CommaSeparated.subset {items block : List Token}
    (h : CommaSeparated SpellsExpression items block) : items ⊆ block := by
  induction h with
  | single hspells =>
    obtain ⟨-, rfl⟩ := hspells
    exact List.Subset.refl _
  | cons hspells _ _ ih =>
    obtain ⟨-, rfl⟩ := hspells
    exact List.cons_subset_cons _ (List.subset_cons_of_subset _ ih)

/-- A list with commas is not empty. -/
theorem CommaSeparated.ne_nil {α : Type} {spells : α → List Token → Prop} {items : List α}
    {block : List Token} (h : CommaSeparated spells items block) : items ≠ [] := by
  cases h <;> simp

/-- What is spelled with tokens of a text can be written in one. -/
theorem Spells.isWritten {statement : Statement} {block : List Token} (h : Spells statement block)
    (htokens : ∀ token ∈ block, Expressible token.kind token.value) : statement.IsWritten := by
  cases h with
  | select => trivial
  | insert _ _ _ _ _ hvalues _ =>
    intro value hvalue
    exact htokens value (by simp [hvalues.subset hvalue])
  | createTable _ _ _ _ hcolumns _ => exact hcolumns.ne_nil

/-- Every statement of a script is spelled by some of its tokens. -/
theorem SpellsScript.exists_spells {statements : List Statement} {blocks : List (List Token)}
    {tokens : List Token} (h : SpellsScript statements blocks tokens) {statement : Statement}
    (hstatement : statement ∈ statements) :
    ∃ block, Spells statement block ∧ block ⊆ tokens := by
  obtain ⟨-, hblocks, rfl⟩ := h
  induction hblocks with
  | nil => simp at hstatement
  | cons hblock _ ih =>
    rw [List.flatten_cons]
    rcases List.mem_cons.1 hstatement with rfl | hstatement
    · obtain ⟨spelling, marks, hspelling, -, -, rfl⟩ := hblock
      exact ⟨spelling, hspelling, fun token htoken => by simp [htoken]⟩
    · obtain ⟨block, hspells, hsubset⟩ := ih hstatement
      exact ⟨block, hspells, List.subset_append_of_subset_right _ hsubset⟩

end Grammar

/-- **The statements of a text** can be written. -/
theorem Statement.isWritten_of_statementsOf {source : String} {statements : List Statement}
    (h : statementsOf source = .ok statements) : ∀ statement ∈ statements, statement.IsWritten := by
  intro statement hstatement
  obtain ⟨tokens, htokens, hparse⟩ := Database.statementsOf_eq_ok_iff.1 h
  obtain ⟨blocks, hblocks⟩ := Grammar.parse_eq_ok_iff_spells.1 hparse
  obtain ⟨block, hspells, hsubset⟩ := hblocks.exists_spells hstatement
  exact hspells.isWritten fun token htoken =>
    expressible_of_tokenize htokens _ (List.mem_map_of_mem (hsubset htoken))

/-! ## Tables -/

namespace Table

/-- **A table that texts can make** has a column, and no negative integers. -/
structure IsWritten (table : Table) : Prop where
  schema_ne_nil : table.schema ≠ []
  literals : ∀ row ∈ table.rows, ∀ value ∈ row, value.IsLiteral

/-- In an aligned table every value of a column belongs to a row. -/
theorem exists_mem_rows_of_mem_toList {table : Table} (h : table.Aligned) {column : Column}
    (hcolumn : column ∈ table.columns) {value : Value} (hvalue : value ∈ column.toList) :
    ∃ row ∈ table.rows, value ∈ row := by
  obtain ⟨position, hposition⟩ := List.mem_iff_getElem?.1 hvalue
  obtain ⟨index, hindex⟩ := List.mem_iff_getElem?.1 hcolumn
  have hlt : position < table.rowCount := by
    rw [← h.size column hcolumn, column.size_eq_length_toList]
    exact (List.getElem?_eq_some_iff.1 hposition).1
  obtain ⟨row, hrow⟩ := exists_cellsAt hlt h.size
  refine ⟨row, ?_, ?_⟩
  · rw [← row?_of_lt hlt, row?_eq_getElem?_rows h] at hrow
    exact List.mem_of_getElem? hrow
  · have hcell : row[index]? = _ := getElem?_of_cellsAt hrow
    rw [hindex, Option.bind_some, column.get?_eq_getElem?_toList, hposition] at hcell
    exact List.mem_of_getElem? hcell

end Table

namespace Database

variable {database : Database}

/-- All tables can be made by texts. -/
def IsWritten (database : Database) : Prop :=
  ∀ name table, database.table? name = some table → table.IsWritten

theorem isWritten_empty : IsWritten empty := by
  intro name table h
  simp at h

/-- A declaration of some columns is not that of none. -/
theorem schema_ne_nil_of_schemaOf {columns : List ColumnDeclaration} {seen : List String}
    {schema : Schema} (h : schemaOf seen columns = .ok schema) (hne : columns ≠ []) :
    schema ≠ [] := by
  rintro rfl
  have hheaders := History.headers?_of_schemaOf h
  rw [History.headers?, Traversal.mapM_eq_some_iff] at hheaders
  exact hne (List.map_eq_nil_iff.1 hheaders)

/-- **A statement that texts can have** makes only tables that texts can make. -/
theorem IsWritten.after (h : database.IsWritten) (haligned : database.Aligned)
    {statement : Statement} (hstatement : statement.IsWritten) :
    (database.after statement).IsWritten := by
  have heffect := effect haligned statement
  generalize database.reply statement = answer, database.after statement = left at heffect
  cases heffect with
  | refused => exact h
  | selected => exact h
  | created free declared =>
    refine forall_table?_file h ⟨schema_ne_nil_of_schemaOf declared hstatement, ?_⟩
    simp [Table.rows_new]
  | @inserted table values stored grown row there literals aligned name schema rows =>
    obtain ⟨hschema, hliterals⟩ := h _ _ there
    refine forall_table?_file h ⟨schema ▸ hschema, fun row' hrow' value hvalue => ?_⟩
    rw [rows, List.mem_append, List.mem_singleton] at hrow'
    rcases hrow' with hrow' | rfl
    · exact hliterals row' hrow' value hvalue
    · have hmem : .ok value ∈ values.map Value.ofLiteral := by
        rw [Traversal.mapM_eq_ok_iff.1 literals]
        exact List.mem_map_of_mem hvalue
      obtain ⟨token, htoken, hvalue⟩ := List.mem_map.1 hmem
      exact Value.isLiteral_of_expressible (hstatement token htoken) hvalue

/-! ## Runs -/

/-- What is executed when texts are run is said by one of them. -/
theorem mem_statementsOf_of_mem_trace {sources : List String} {event : Event}
    (h : event ∈ database.trace (sources.map .run)) :
    ∃ source ∈ sources, ∃ statements, statementsOf source = .ok statements ∧
      event.1 ∈ statements := by
  induction sources generalizing database with
  | nil => simp [trace] at h
  | cons source sources ih =>
    rw [List.map_cons, trace, List.mem_append] at h
    rcases h with h | h
    · refine ⟨source, List.mem_cons_self, ?_⟩
      cases hstatements : statementsOf source with
      | error error => simp [eventsOf, hstatements] at h
      | ok statements =>
        simp only [eventsOf, hstatements] at h
        exact ⟨statements, rfl,
          (executed_isPrefix database statements).subset (List.mem_map_of_mem h)⟩
    · obtain ⟨source', hsource', hevent⟩ := ih h
      exact ⟨source', List.mem_cons_of_mem _ hsource', hevent⟩

/-- **Texts make only tables that texts can make.** -/
theorem isWritten_afterCalls (sources : List String) :
    (empty.afterCalls (sources.map .run)).IsWritten := by
  have hkept : (empty.afterCalls (sources.map .run)).Aligned ∧
      (empty.afterCalls (sources.map .run)).IsWritten := by
    rw [afterCalls_eq_foldl]
    refine foldl_after_induction (motive := fun database => database.Aligned ∧ database.IsWritten)
      _ ?_ ⟨aligned_empty, isWritten_empty⟩
    rintro database statement hmem ⟨haligned, hwritten⟩
    obtain ⟨event, hevent, rfl⟩ := List.mem_map.1 hmem
    obtain ⟨source, -, statements, hstatements, hstatement⟩ :=
      mem_statementsOf_of_mem_trace hevent
    exact ⟨haligned.after event.1, hwritten.after haligned
      (Statement.isWritten_of_statementsOf hstatements event.1 hstatement)⟩
  exact hkept.2

/-- A negative integer, in a statement that no text has. -/
def negativeInsertion : Statement :=
  .insert (.name "t") [⟨.number, "-1", .start⟩]

/-- A table without columns, in a statement that no text has. -/
def emptyCreation : Statement :=
  .createTable (.name "u") []

/-- **What texts can store.**  Let any texts be run on the empty database, one after another.  Then
every table has a column, and every integer that is stored lies between zero and the largest integer
of sixty-four bits.  Statements that come from no text do store a negative integer, and make a table
without columns. -/
theorem texts_store_no_negative_integer (sources : List String) :
    (∀ name table, (empty.afterCalls (sources.map .run)).table? name = some table →
      table.schema ≠ [] ∧ table.columns ≠ [] ∧
        ∀ column ∈ table.columns, ∀ n, .int n ∈ column.toList →
          0 ≤ n.toInt ∧ n.toInt ≤ 9223372036854775807) ∧
    (∃ table column, (empty.afterCalls
          [.run "CREATE TABLE t (a INT);", .execute negativeInsertion]).table? "t" = some table ∧
        column ∈ table.columns ∧ .int (-1) ∈ column.toList) ∧
    ∃ table, (empty.afterCalls [.execute emptyCreation]).table? "u" = some table ∧
      table.columns = [] := by
  refine ⟨?_, ?_, ?_⟩
  · intro name table htable
    have hreachable : Reachable (empty.afterCalls (sources.map .run)) := ⟨_, rfl⟩
    have haligned := hreachable.aligned name table htable
    obtain ⟨hschema, hliterals⟩ := isWritten_afterCalls sources name table htable
    refine ⟨hschema, ?_, ?_⟩
    · intro hcolumns
      rw [← haligned.header, hcolumns] at hschema
      exact hschema rfl
    · intro column hcolumn n hn
      obtain ⟨row, hrow, hvalue⟩ := Table.exists_mem_rows_of_mem_toList haligned hcolumn hn
      have hnonneg : 0 ≤ n := hliterals row hrow (.int n) hvalue
      have hlt := n.toInt_lt
      exact ⟨Int64.le_iff_toInt_le.1 hnonneg, by omega⟩
  · exact ⟨⟨"t", [⟨"a", .int⟩], [⟨"a", .int, .ints #[-1]⟩], 1⟩, ⟨"a", .int, .ints #[-1]⟩,
      by decide +kernel, List.mem_singleton_self _, by decide +kernel⟩
  · exact ⟨⟨"u", [], [], 0⟩, by decide +kernel, rfl⟩

/-- The largest integer, leading zeros, and numbers that are no numerals of integers. -/
def numberTexts : List String :=
  ["CREATE TABLE t (a INT);", "INSERT INTO t VALUES (9223372036854775807);",
    "INSERT INTO t VALUES (007); INSERT INTO t VALUES (9223372036854775808);",
    "INSERT INTO t VALUES (1e+2);", "INSERT INTO t VALUES (-1);"]

/-- The last of these texts has no tokens, the one before is refused, and so is an integer that is
too large. -/
theorem texts_store_no_negative_integer_numberTexts :
    ∃ column, (empty.afterCalls (numberTexts.map .run)).table? "t" =
        some ⟨"t", [⟨"a", .int⟩], [column], 2⟩ ∧
      column.toList = [.int 9223372036854775807, .int 7] ∧
      ∀ n, .int n ∈ column.toList → 0 ≤ n.toInt ∧ n.toInt ≤ 9223372036854775807 := by
  have htable : (empty.afterCalls (numberTexts.map .run)).table? "t" =
      some ⟨"t", [⟨"a", .int⟩], [⟨"a", .int, .ints #[9223372036854775807, 7]⟩], 2⟩ := by
    decide +kernel
  obtain ⟨-, -, hintegers⟩ := (texts_store_no_negative_integer numberTexts).1 "t" _ htable
  exact ⟨_, htable, rfl, hintegers _ (List.mem_singleton_self _)⟩

end Database
end ColumnarSql
