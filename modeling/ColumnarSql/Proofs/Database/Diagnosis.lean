import ColumnarSql.Proofs.Database.Reachable
import ColumnarSql.Proofs.Storage.Rows

/-!
# Which error a statement gives

A statement can be wrong in several ways at once, and it gives one error.  Which one it is, is
decided in stages: first the table that it names, then for a row the number of values, then the
columns, values or items from left to right, and for a row their types after that.  In a stage the
leftmost fault counts.  `Statement.Refuses` lists the errors with the stage that each belongs to,
and `Statement.Accepts` says when all stages are passed.

Both look at a database only through the schemas of its tables, `Database.declared?`.  Rows that are
stored already, and how many there are, do not matter to any of the stages.

* `Database.schemaOf_eq_error_iff`, `Traversal.mapM_eq_error_iff`, `Table.checkEach_eq_error_iff`:
  each stage finds its first fault;
* `Database.reply_eq_error_iff_refuses`: the error of a statement is the one that is listed;
* `Statement.accepts_iff`: what is not refused is accepted.

A row is checked twice, against the schema for its length and against the columns of the table for
its types.  That the columns are those of the schema is part of the alignment of reachable
databases, and without it the second check could find what the first one has passed.
-/

namespace ColumnarSql

/-! ## Faults of a declaration -/

/-- **A token names a type**: it is one of two reserved words, in any letter case. -/
def Token.NamesType (token : Token) : Prop :=
  token.kind = .keyword ∧
    (token.value.map Char.toLower = "int" ∨ token.value.map Char.toLower = "text")

instance (token : Token) : Decidable token.NamesType :=
  inferInstanceAs (Decidable (_ ∧ _))

theorem DataType.ofToken?_eq_none_iff {token : Token} :
    DataType.ofToken? token = none ↔ ¬ token.NamesType := by
  unfold DataType.ofToken? Token.NamesType
  split <;> rename_i hkind
  · split <;> rename_i hint
    · simp_all [Keyword.spelling]
    · split <;> simp_all [Keyword.spelling]
  · simp [hkind]

namespace Statement

/-- The names of the columns in front of a position. -/
def namesBefore (columns : List ColumnDeclaration) (i : Nat) : List String :=
  (columns.take i).map fun column => column.name.value

/-- What is wrong with the column at a position of a declaration, if anything.  A name that is
declared before is looked for first. -/
def columnFault (columns : List ColumnDeclaration) (i : Nat) : Option ExecutionError :=
  columns[i]?.bind fun column =>
    if column.name.value ∈ namesBefore columns i then
      some (.duplicateColumn column.name.value)
    else if column.type.NamesType then
      none
    else
      some (.invalidDataType column.type.value)

/-- What is wrong with a literal, if anything. -/
def literalFault (token : Token) : Option ExecutionError :=
  match token.kind with
  | .string => none
  | .number =>
    if (Text.Numeral.toInt64? token.value.toList).isSome then
      none
    else
      some (.invalidNumber token.value)
  | _ => some (.unsupportedValue token.value)

/-- What is wrong with an item of a question, if anything. -/
def itemFault (schema : Schema) (item : Token) : Option ExecutionError :=
  if item.value ∈ schema.map ColumnHeader.name then
    none
  else
    some (.columnDoesNotExist item.value)

/-! ## Refused and accepted statements -/

/-- **Why a statement is refused** where tables of certain schemas are declared. -/
inductive Refuses (declared : String → Option Schema) : Statement → ExecutionError → Prop
  | taken {name : Token} {columns : List ColumnDeclaration} {schema : Schema}
      (hdeclared : declared name.value = some schema) :
      Refuses declared (.createTable name columns) (.tableAlreadyExists name.value)
  | repeated {name : Token} {columns : List ColumnDeclaration} {i : Nat}
      {column : ColumnDeclaration} (hfree : declared name.value = none)
      (hcolumn : columns[i]? = some column) (hname : column.name.value ∈ namesBefore columns i)
      (hbefore : ∀ j < i, columnFault columns j = none) :
      Refuses declared (.createTable name columns) (.duplicateColumn column.name.value)
  | untyped {name : Token} {columns : List ColumnDeclaration} {i : Nat}
      {column : ColumnDeclaration} (hfree : declared name.value = none)
      (hcolumn : columns[i]? = some column) (hname : column.name.value ∉ namesBefore columns i)
      (htype : ¬ column.type.NamesType) (hbefore : ∀ j < i, columnFault columns j = none) :
      Refuses declared (.createTable name columns) (.invalidDataType column.type.value)
  | insertMissing {table : Token} {values : List Token} (hnone : declared table.value = none) :
      Refuses declared (.insert table values) (.tableDoesNotExist table.value)
  | arity {table : Token} {values : List Token} {schema : Schema}
      (hdeclared : declared table.value = some schema) (hlength : values.length ≠ schema.length) :
      Refuses declared (.insert table values) (.missingValues schema.length values.length)
  /-- The first value that is none, whatever the types of those before it. -/
  | literal {table : Token} {values : List Token} {schema : Schema} {i : Nat} {token : Token}
      {error : ExecutionError} (hdeclared : declared table.value = some schema)
      (hlength : values.length = schema.length) (htoken : values[i]? = some token)
      (hfault : literalFault token = some error)
      (hbefore : ∀ j < i, values[j]?.bind literalFault = none) :
      Refuses declared (.insert table values) error
  /-- All values are some, and the first of them that has another type than its column. -/
  | type {table : Token} {values : List Token} {schema : Schema} {row : Row} {i : Nat}
      {header : ColumnHeader} {value : Value} (hdeclared : declared table.value = some schema)
      (hlength : values.length = schema.length) (hrow : values.mapM Value.ofLiteral = .ok row)
      (hheader : schema[i]? = some header) (hvalue : row[i]? = some value)
      (htype : value.type ≠ header.type) (hbefore : ∀ j < i, schema.typeFault row j = none) :
      Refuses declared (.insert table values)
        (.typeMismatch header.name header.type value.type)
  | selectMissing {items : List Token} {table : Token} (hnone : declared table.value = none) :
      Refuses declared (.select items table) (.tableDoesNotExist table.value)
  | item {items : List Token} {table : Token} {schema : Schema} {i : Nat} {item : Token}
      (hdeclared : declared table.value = some schema) (hitem : items[i]? = some item)
      (hname : item.value ∉ schema.map ColumnHeader.name)
      (hbefore : ∀ j < i, items[j]?.bind (itemFault schema) = none) :
      Refuses declared (.select items table) (.columnDoesNotExist item.value)

/-- **When a statement is accepted** where tables of certain schemas are declared. -/
inductive Accepts (declared : String → Option Schema) : Statement → Prop
  | created {name : Token} {columns : List ColumnDeclaration}
      (hfree : declared name.value = none) (hcolumns : ∀ i, columnFault columns i = none) :
      Accepts declared (.createTable name columns)
  | inserted {table : Token} {values : List Token} {schema : Schema} {row : Row}
      (hdeclared : declared table.value = some schema) (hlength : values.length = schema.length)
      (hrow : values.mapM Value.ofLiteral = .ok row)
      (htypes : ∀ i, schema.typeFault row i = none) :
      Accepts declared (.insert table values)
  | selected {items : List Token} {table : Token} {schema : Schema}
      (hdeclared : declared table.value = some schema)
      (hitems : ∀ i : Nat, items[i]?.bind (itemFault schema) = none) :
      Accepts declared (.select items table)

/-! ## The stages -/

theorem literalFault_eq_some_iff {token : Token} {error : ExecutionError} :
    Value.ofLiteral token = .error error ↔ literalFault token = some error := by
  unfold Value.ofLiteral literalFault
  split <;> rename_i hkind <;> simp only [hkind]
  · cases Text.Numeral.toInt64? token.value.toList <;> simp
  · simp
  · simp

theorem columnFault_append (before columns : List ColumnDeclaration)
    (column : ColumnDeclaration) :
    columnFault (before ++ column :: columns) before.length =
      if column.name.value ∈ before.map (fun column => column.name.value) then
        some (.duplicateColumn column.name.value)
      else if column.type.NamesType then
        none
      else
        some (.invalidDataType column.type.value) := by
  simp [columnFault, namesBefore]

section Declared

variable {declared : String → Option Schema} {error : ExecutionError}

theorem refuses_createTable_iff {name : Token} {columns : List ColumnDeclaration}
    (hfree : declared name.value = none) :
    Refuses declared (.createTable name columns) error ↔
      FirstFault (columnFault columns) error := by
  constructor
  · intro h
    cases h with
    | taken hdeclared => simp [hfree] at hdeclared
    | repeated _ hcolumn hname hbefore =>
      exact ⟨_, by simp [columnFault, hcolumn, hname], hbefore⟩
    | untyped _ hcolumn hname htype hbefore =>
      exact ⟨_, by simp [columnFault, hcolumn, hname, htype], hbefore⟩
  · rintro ⟨i, hfault, hbefore⟩
    obtain ⟨column, hcolumn, hfault⟩ := Option.bind_eq_some_iff.1 hfault
    split at hfault
    · next hname =>
      obtain rfl := Option.some.inj hfault
      exact .repeated hfree hcolumn hname hbefore
    · next hname =>
      split at hfault
      · simp at hfault
      · next htype =>
        obtain rfl := Option.some.inj hfault
        exact .untyped hfree hcolumn hname htype hbefore

theorem refuses_insert_iff_literal {table : Token} {values : List Token} {schema : Schema}
    {error' : ExecutionError} (hdeclared : declared table.value = some schema)
    (hlength : values.length = schema.length)
    (hrow : values.mapM Value.ofLiteral = .error error') :
    Refuses declared (.insert table values) error ↔ error' = error := by
  rw [Traversal.mapM_eq_error_iff fun _ _ => literalFault_eq_some_iff] at hrow
  constructor
  · intro h
    cases h with
    | insertMissing hnone => simp [hdeclared] at hnone
    | arity hdeclared' hne =>
      obtain rfl := Option.some.inj (hdeclared.symm.trans hdeclared')
      exact absurd hlength hne
    | literal _ _ htoken hfault hbefore =>
      exact hrow.unique ⟨_, by simp [htoken, hfault], hbefore⟩
    | type _ _ hrow' =>
      rw [← Traversal.mapM_eq_error_iff fun _ _ => literalFault_eq_some_iff, hrow'] at hrow
      simp at hrow
  · rintro rfl
    obtain ⟨i, hfault, hbefore⟩ := hrow
    obtain ⟨token, htoken, hfault⟩ := Option.bind_eq_some_iff.1 hfault
    exact .literal hdeclared hlength htoken hfault hbefore

theorem refuses_insert_iff_type {table : Token} {values : List Token} {schema : Schema}
    {row : Row} (hdeclared : declared table.value = some schema)
    (hlength : values.length = schema.length) (hrow : values.mapM Value.ofLiteral = .ok row) :
    Refuses declared (.insert table values) error ↔
      FirstFault (schema.typeFault row) error := by
  constructor
  · intro h
    cases h with
    | insertMissing hnone => simp [hdeclared] at hnone
    | arity hdeclared' hne =>
      obtain rfl := Option.some.inj (hdeclared.symm.trans hdeclared')
      exact absurd hlength hne
    | literal _ _ htoken hfault hbefore =>
      have herror : values.mapM Value.ofLiteral = .error error :=
        (Traversal.mapM_eq_error_iff fun _ _ => literalFault_eq_some_iff).2
          ⟨_, by simp [htoken, hfault], hbefore⟩
      simp [hrow] at herror
    | type hdeclared' _ hrow' hheader hvalue htype hbefore =>
      obtain rfl := Option.some.inj (hdeclared.symm.trans hdeclared')
      obtain rfl := Except.ok.inj (hrow.symm.trans hrow')
      exact ⟨_, Schema.typeFault_eq_some_iff.2 ⟨_, _, hheader, hvalue, htype, rfl⟩, hbefore⟩
  · rintro ⟨i, hfault, hbefore⟩
    obtain ⟨header, value, hheader, hvalue, htype, rfl⟩ := Schema.typeFault_eq_some_iff.1 hfault
    exact .type hdeclared hlength hrow hheader hvalue htype hbefore

theorem refuses_select_iff {items : List Token} {table : Token} {schema : Schema}
    (hdeclared : declared table.value = some schema) :
    Refuses declared (.select items table) error ↔
      FirstFault (fun i => items[i]?.bind (itemFault schema)) error := by
  constructor
  · intro h
    cases h with
    | selectMissing hnone => simp [hdeclared] at hnone
    | item hdeclared' hitem hname hbefore =>
      obtain rfl := Option.some.inj (hdeclared.symm.trans hdeclared')
      exact ⟨_, by simp [hitem, itemFault, hname], hbefore⟩
  · rintro ⟨i, hfault, hbefore⟩
    obtain ⟨item, hitem, hfault⟩ := Option.bind_eq_some_iff.1 hfault
    unfold itemFault at hfault
    split at hfault
    · simp at hfault
    · next hname =>
      obtain rfl := Option.some.inj hfault
      exact .item hdeclared hitem hname hbefore

/-- A table whose name is taken is refused for this alone. -/
theorem refuses_createTable_iff_taken {name : Token} {columns : List ColumnDeclaration}
    {schema : Schema} (hdeclared : declared name.value = some schema) :
    Refuses declared (.createTable name columns) error ↔
      .tableAlreadyExists name.value = error := by
  constructor
  · intro h
    cases h with
    | taken => rfl
    | repeated hfree => simp [hfree] at hdeclared
    | untyped hfree => simp [hfree] at hdeclared
  · rintro rfl
    exact .taken hdeclared

/-- A row is refused for its length before anything else. -/
theorem refuses_insert_iff_arity {table : Token} {values : List Token} {schema : Schema}
    (hdeclared : declared table.value = some schema) (hne : values.length ≠ schema.length) :
    Refuses declared (.insert table values) error ↔
      .missingValues schema.length values.length = error := by
  constructor
  · intro h
    cases h with
    | insertMissing hnone => simp [hdeclared] at hnone
    | arity hdeclared' =>
      obtain rfl := Option.some.inj (hdeclared.symm.trans hdeclared')
      rfl
    | literal hdeclared' hlength | type hdeclared' hlength =>
      obtain rfl := Option.some.inj (hdeclared.symm.trans hdeclared')
      exact absurd hlength hne
  · rintro rfl
    exact .arity hdeclared hne

/-- A row or a question without a table is refused for this alone. -/
theorem refuses_iff_missing {table : Token} (hnone : declared table.value = none) :
    (∀ values, Refuses declared (.insert table values) error ↔
      .tableDoesNotExist table.value = error) ∧
    ∀ items, Refuses declared (.select items table) error ↔
      .tableDoesNotExist table.value = error := by
  refine ⟨fun values => ⟨fun h => ?_, ?_⟩, fun items => ⟨fun h => ?_, ?_⟩⟩
  · cases h with
    | insertMissing => rfl
    | arity hdeclared | literal hdeclared | type hdeclared => simp [hnone] at hdeclared
  · rintro rfl
    exact .insertMissing hnone
  · cases h with
    | selectMissing => rfl
    | item hdeclared => simp [hnone] at hdeclared
  · rintro rfl
    exact .selectMissing hnone

/-- **What is not refused is accepted**, and nothing else is. -/
theorem accepts_iff {statement : Statement} :
    Accepts declared statement ↔ ∀ error, ¬ Refuses declared statement error := by
  constructor
  · intro haccepts error
    cases haccepts with
    | created hfree hcolumns =>
      rw [refuses_createTable_iff hfree]
      exact not_firstFault hcolumns
    | inserted hdeclared hlength hrow htypes =>
      rw [refuses_insert_iff_type hdeclared hlength hrow]
      exact not_firstFault htypes
    | selected hdeclared hitems =>
      rw [refuses_select_iff hdeclared]
      exact not_firstFault hitems
  · intro hnever
    -- What is refused for its first fault has none.
    have hfaultless : ∀ {fault : Nat → Option ExecutionError},
        (∀ error, FirstFault fault error → Refuses declared statement error) →
          ∀ i, fault i = none :=
      fun hrefuses => forall_not_firstFault_iff.1 fun error hfirst =>
        hnever error (hrefuses error hfirst)
    cases statement with
    | createTable name columns =>
      cases hdeclared : declared name.value with
      | some schema => exact absurd (.taken hdeclared) (hnever _)
      | none =>
        exact .created hdeclared (hfaultless fun _ => (refuses_createTable_iff hdeclared).2)
    | insert table values =>
      cases hdeclared : declared table.value with
      | none => exact absurd (.insertMissing hdeclared) (hnever _)
      | some schema =>
        by_cases hlength : values.length = schema.length
        · cases hrow : values.mapM Value.ofLiteral with
          | error error =>
            exact absurd ((refuses_insert_iff_literal hdeclared hlength hrow).2 rfl) (hnever _)
          | ok row =>
            exact .inserted hdeclared hlength hrow
              (hfaultless fun _ => (refuses_insert_iff_type hdeclared hlength hrow).2)
        · exact absurd (.arity hdeclared hlength) (hnever _)
    | select items table =>
      cases hdeclared : declared table.value with
      | none => exact absurd (.selectMissing hdeclared) (hnever _)
      | some schema =>
        exact .selected hdeclared (hfaultless fun _ => (refuses_select_iff hdeclared).2)

end Declared
end Statement

/-- A name finds no column exactly if no column has it. -/
theorem Schema.resolve?_eq_none_iff {schema : Schema} {name : String} :
    schema.resolve? name = none ↔ name ∉ schema.map ColumnHeader.name := by
  rw [← Option.map_eq_none_iff (f := Prod.snd), map_snd_resolve?, header?, List.find?_eq_none]
  simp

namespace Database

open Statement (Refuses Accepts columnFault literalFault itemFault)

variable {database : Database} {error : ExecutionError}

/-- The schemas of the tables, under the names of these. -/
def declared? (database : Database) (name : String) : Option Schema :=
  (database.table? name).map Table.schema

theorem declared?_of_table? {name : String} {found : Option Table}
    (h : database.table? name = found) : database.declared? name = found.map Table.schema :=
  congrArg _ h

/-! ## The stages of an execution -/

/-- Behind columns that have been seen, the first fault is found. -/
theorem schemaOf_eq_error_iff_behind {before columns : List ColumnDeclaration}
    {seen : List String}
    (hseen : ∀ name, name ∈ seen ↔ name ∈ before.map fun column => column.name.value) :
    schemaOf seen columns = .error error ↔
      FirstFault (fun i => columnFault (before ++ columns) (before.length + i)) error := by
  induction columns generalizing before seen with
  | nil =>
    refine iff_of_false (by simp [schemaOf]) (not_firstFault fun i => ?_)
    simp [columnFault]
  | cons column columns ih =>
    have hfront := Statement.columnFault_append before columns column
    have hothers : schemaOf (column.name.value :: seen) columns = .error error ↔
        FirstFault (fun i =>
          columnFault (before ++ column :: columns) (before.length + (i + 1))) error := by
      have hbehind := @ih (before ++ [column]) (column.name.value :: seen)
        (by simp [hseen, or_comm])
      simpa [Nat.add_assoc, Nat.add_comm 1] using hbehind
    rw [schemaOf]
    by_cases hname : column.name.value ∈ seen
    · rw [if_pos ((hseen _).1 hname)] at hfront
      rw [if_pos hname, firstFault_of_some hfront]
      exact ⟨Except.error.inj, congrArg Except.error⟩
    · rw [if_neg (mt (hseen _).2 hname)] at hfront
      rw [if_neg hname]
      cases htype : DataType.ofToken? column.type with
      | none =>
        rw [if_neg (DataType.ofToken?_eq_none_iff.1 htype)] at hfront
        rw [firstFault_of_some hfront]
        exact ⟨Except.error.inj, congrArg Except.error⟩
      | some type =>
        have hnames : column.type.NamesType := by
          by_contra hnot
          simp [DataType.ofToken?_eq_none_iff.2 hnot] at htype
        rw [if_pos hnames] at hfront
        rw [firstFault_of_none hfront, ← hothers]
        cases schemaOf (column.name.value :: seen) columns <;> simp [Except.map]

/-- **A declaration fails with its first fault.** -/
theorem schemaOf_eq_error_iff {columns : List ColumnDeclaration} :
    schemaOf [] columns = .error error ↔ FirstFault (columnFault columns) error := by
  simpa using @schemaOf_eq_error_iff_behind error [] columns [] (by simp)

/-- **Items fail with their first fault.** -/
theorem resolve_eq_error_iff {schema : Schema} {items : List Token} :
    resolve schema items = .error error ↔
      FirstFault (fun i => items[i]?.bind (itemFault schema)) error := by
  refine Traversal.mapM_eq_error_iff fun item error => ?_
  rw [itemFault]
  cases hfound : schema.resolve? item.value with
  | none => simp [Schema.resolve?_eq_none_iff.1 hfound]
  | some found =>
    have hname : item.value ∈ schema.map ColumnHeader.name := by
      by_contra hnot
      simp [Schema.resolve?_eq_none_iff.2 hnot] at hfound
    simp [hname]

/-! ## Answers -/

/-- A creation is refused for the name of its table or else for its columns. -/
theorem reply_createTable_eq_error_iff {name : Token} {columns : List ColumnDeclaration} :
    database.reply (.createTable name columns) = .error error ↔
      Refuses database.declared? (.createTable name columns) error := by
  cases htable : database.table? name.value with
  | some table =>
    have hdeclared : database.declared? name.value = some table.schema :=
      declared?_of_table? htable
    rw [Statement.refuses_createTable_iff_taken hdeclared]
    simp [reply, execute, createTable, htable]
  | none =>
    have hfree : database.declared? name.value = none := declared?_of_table? htable
    rw [Statement.refuses_createTable_iff hfree, ← schemaOf_eq_error_iff]
    simp only [reply, execute, createTable, htable]
    cases schemaOf [] columns <;> simp

/-- An insertion whose literals are in order is refused for the types of its row.  These are
checked against the columns, and in an aligned table the columns are those of the schema. -/
theorem reply_insert_eq_error_iff_type {table : Token} {values : List Token} {stored : Table}
    {row : Row} (haligned : stored.Aligned) (htable : database.table? table.value = some stored)
    (hlength : values.length = stored.schema.length)
    (hrow : values.mapM Value.ofLiteral = .ok row) :
    database.reply (.insert table values) = .error error ↔
      Refuses database.declared? (.insert table values) error := by
  have hdeclared : database.declared? table.value = some stored.schema :=
    declared?_of_table? htable
  have hrowLength : row.length = stored.schema.length := by
    rw [← hlength]
    simpa using congrArg List.length (Traversal.mapM_eq_ok_iff.1 hrow).symm
  have hinsert := @Table.insert_eq_error_iff stored stored row error haligned
  rw [Statement.refuses_insert_iff_type hdeclared hlength hrow,
    ← Schema.refusesRow_iff hrowLength]
  simp only [reply, execute, insert, htable, if_pos hlength, hrow]
  cases hstored : Table.insert row stored with
  | error error' left =>
    obtain ⟨rfl, -⟩ := (Table.insert_eq_error_iff haligned).1 hstored
    simpa [hstored] using hinsert
  | ok _ inserted => simpa [hstored] using hinsert

/-- An insertion is refused for its table, its length, a literal or a type, in this order. -/
theorem reply_insert_eq_error_iff (h : database.Aligned) {table : Token} {values : List Token} :
    database.reply (.insert table values) = .error error ↔
      Refuses database.declared? (.insert table values) error := by
  cases htable : database.table? table.value with
  | none =>
    have hnone : database.declared? table.value = none := declared?_of_table? htable
    rw [(Statement.refuses_iff_missing hnone).1]
    simp [reply, execute, insert, htable]
  | some stored =>
    have hdeclared : database.declared? table.value = some stored.schema :=
      declared?_of_table? htable
    by_cases hlength : values.length = stored.schema.length
    · cases hrow : values.mapM Value.ofLiteral with
      | error error' =>
        rw [Statement.refuses_insert_iff_literal hdeclared hlength hrow]
        simp [reply, execute, insert, htable, hlength, hrow]
      | ok row => exact reply_insert_eq_error_iff_type (h _ _ htable) htable hlength hrow
    · rw [Statement.refuses_insert_iff_arity hdeclared hlength]
      simp [reply, execute, insert, htable, hlength]

/-- A question is refused for its table or else for its items. -/
theorem reply_select_eq_error_iff {items : List Token} {table : Token} :
    database.reply (.select items table) = .error error ↔
      Refuses database.declared? (.select items table) error := by
  cases htable : database.table? table.value with
  | none =>
    have hnone : database.declared? table.value = none := declared?_of_table? htable
    rw [(Statement.refuses_iff_missing hnone).2]
    simp [reply, execute, select, htable]
  | some stored =>
    have hdeclared : database.declared? table.value = some stored.schema :=
      declared?_of_table? htable
    rw [Statement.refuses_select_iff hdeclared, ← resolve_eq_error_iff]
    simp only [reply, execute, select, htable]
    cases resolve stored.schema items <;> simp

/-- **The error of a statement** about a database with aligned tables. -/
theorem reply_eq_error_iff_refuses (h : database.Aligned) (statement : Statement) :
    database.reply statement = .error error ↔
      Refuses database.declared? statement error := by
  cases statement with
  | createTable name columns => exact reply_createTable_eq_error_iff
  | insert table values => exact reply_insert_eq_error_iff h
  | select items table => exact reply_select_eq_error_iff

/-- A row changes no schema, whether it is stored or refused. -/
theorem declared?_after_insert (h : database.Aligned) (table : Token) (values : List Token)
    (name : String) :
    (database.after (.insert table values)).declared? name = database.declared? name := by
  have heffect := effect h (.insert table values)
  generalize database.reply (.insert table values) = answer,
    database.after (.insert table values) = left at heffect
  cases heffect with
  | refused => rfl
  | inserted there _ _ _ schema =>
    rw [declared?, declared?, table?_file]
    split
    · next heq => rw [← heq, there, Option.map_some, Option.map_some, schema]
    · rfl

/-- **Errors follow schemas.**  In a reachable database every statement is refused with the error
that the declared schemas give, and accepted exactly if they give none.  So in two reachable
databases with the same schemas under the same names, whatever their rows, every statement gives
the same error or none in both. -/
theorem errors_follow_schemas (h : Reachable database) :
    (∀ statement error, database.reply statement = .error error ↔
      Refuses database.declared? statement error) ∧
    (∀ statement, (∃ outcome, database.reply statement = .ok outcome) ↔
      Accepts database.declared? statement) ∧
    ∀ other, Reachable other → (∀ name, other.declared? name = database.declared? name) →
      ∀ statement error, other.reply statement = .error error ↔
        database.reply statement = .error error := by
  refine ⟨fun statement error => reply_eq_error_iff_refuses h.aligned statement,
    fun statement => ?_, fun other hother hsame statement error => ?_⟩
  · simp only [Statement.accepts_iff, ← reply_eq_error_iff_refuses h.aligned]
    cases database.reply statement <;> simp
  · rw [reply_eq_error_iff_refuses h.aligned, reply_eq_error_iff_refuses hother.aligned,
      funext hsame]

/-- A text, where a number belongs, in front of a number that is no integer. -/
def wrongValues : List Token :=
  [⟨.string, "x", .start⟩, ⟨.number, "1.5", .start⟩]

/-- A column whose type is none in front of one whose name is declared before. -/
def wrongColumns : List ColumnDeclaration :=
  [⟨.name "a", .word .INT⟩, ⟨.name "b", .word .WHERE⟩, ⟨.name "a", .word .TEXT⟩]

/-- The number counts and not the type of the text in front of it, also when there is one more
row; and the type counts that is in front of the repeated name. -/
theorem errors_follow_schemas_wrongValues :
    Reachable (empty.afterCalls sampleCalls) ∧
      (empty.afterCalls sampleCalls).declared? "t" = some [⟨"a", .int⟩, ⟨"b", .text⟩] ∧
      (empty.afterCalls sampleCalls).reply (.insert (.name "t") wrongValues) =
        .error (.invalidNumber "1.5") ∧
      (empty.afterCalls (sampleCalls ++ [.execute (.insert (.name "t")
        [⟨.number, "2", .start⟩, ⟨.string, "y", .start⟩])])).reply
          (.insert (.name "t") wrongValues) = .error (.invalidNumber "1.5") ∧
      (empty.afterCalls sampleCalls).reply (.createTable (.name "u") wrongColumns) =
        .error (.invalidDataType "where") ∧
      ∃ outcome, (empty.afterCalls sampleCalls).reply
        (.createTable (.name "u") (wrongColumns.take 1)) = .ok outcome := by
  have hreachable : Reachable (empty.afterCalls sampleCalls) := ⟨sampleCalls, rfl⟩
  have hdeclared : (empty.afterCalls sampleCalls).declared? "t" =
      some [⟨"a", .int⟩, ⟨"b", .text⟩] := by
    decide +kernel
  have hfree : (empty.afterCalls sampleCalls).declared? "u" = none := by
    decide +kernel
  obtain ⟨herror, hok, hother⟩ := errors_follow_schemas hreachable
  have hnumber : (empty.afterCalls sampleCalls).reply (.insert (.name "t") wrongValues) =
      .error (.invalidNumber "1.5") :=
    (herror _ _).2 (@Refuses.literal _ _ _ _ 1 _ _ hdeclared rfl rfl (by decide) (by decide))
  refine ⟨hreachable, hdeclared, hnumber, ?_, ?_, ?_⟩
  · refine (hother _ ⟨_, rfl⟩ (fun name => ?_) _ _).2 hnumber
    rw [afterCalls, List.foldl_append, List.foldl_cons, List.foldl_nil, afterCall, leftBy_execute]
    exact declared?_after_insert hreachable.aligned _ _ name
  · exact (herror _ _).2 (@Refuses.untyped _ _ _ 1 ⟨.name "b", .word .WHERE⟩ hfree rfl
      (by decide) (by decide +kernel) (by decide +kernel))
  · refine (hok _).2 (.created hfree fun i => ?_)
    cases i with
    | zero => decide +kernel
    | succ i => simp [columnFault, wrongColumns]

end Database
end ColumnarSql
