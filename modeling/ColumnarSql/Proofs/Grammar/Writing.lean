import ColumnarSql.Proofs.Grammar.Spelling
import ColumnarSql.Proofs.Lexeme.Reading

/-!
# Writing statements

A statement is written with its reserved words in capitals, its names between quotation
marks, its texts between apostrophes and its numbers as they are; a `Layout` says which
white space stands behind a comma and behind a statement.

What is written is read again.  `lexes_written` is the statement about tokens: the text of a
statement is cut into the tokens that spell it, and no name or text can end early, whatever
it contains.  `Grammar.spells_spelled` says that these tokens spell the statement, and
`Layout.lexes_script` and `Grammar.parse_blocks` say both of a whole script.

Not every statement can be written: `Token.Writable` and `Statement.Writable` leave out
numbers with a sign, which no script contains, and lists without entries.

What is said of the parts of a statement is said with `Yields`: a text yields some tokens if
it is cut into them before any separator.
-/

namespace ColumnarSql

/-! ## Texts -/

/-- A text between delimiters, with the delimiters in it doubled. -/
def Text.quoted (delimiter : Char) (text : String) : String :=
  String.ofList (Text.Delimited.enclose delimiter text.toList)

/-- The text of a token. -/
def Token.written (token : Token) : String :=
  match token.kind with
  | .identifier => Text.quoted '"' token.value
  | .string => Text.quoted '\'' token.value
  | .keyword => token.value.map Char.toUpper
  | _ => token.value

/-- The text of a column. -/
def ColumnDeclaration.written (column : ColumnDeclaration) : String :=
  column.name.written ++ " " ++ column.type.written

/-- The white space of a script. -/
structure Layout where
  /-- What stands behind a comma. -/
  comma : String
  /-- What stands behind a statement. -/
  line : String
  comma_blank : ∀ c ∈ comma.toList, Punctuation.isBlank c = true
  line_blank : ∀ c ∈ line.toList, Punctuation.isBlank c = true

namespace Layout

/-- A space behind a comma and a new line behind a statement. -/
def plain : Layout :=
  ⟨" ", "\n", by simp [Punctuation.isBlank], by simp [Punctuation.isBlank]⟩

/-- Texts with commas between them. -/
def list (layout : Layout) (parts : List String) : String :=
  ("," ++ layout.comma).intercalate parts

/-- The text of a statement. -/
def statement (layout : Layout) : Statement → String
  | .select items table =>
    "SELECT " ++ layout.list (items.map Token.written) ++ " FROM " ++ table.written ++ ";"
  | .insert table values =>
    "INSERT INTO " ++ table.written ++ " VALUES (" ++ layout.list (values.map Token.written) ++
      ");"
  | .createTable name columns =>
    "CREATE TABLE " ++ name.written ++ " (" ++
      layout.list (columns.map ColumnDeclaration.written) ++ ");"

/-- The text of a script. -/
def script (layout : Layout) (statements : List Statement) : String :=
  String.join (statements.map fun statement => layout.statement statement ++ layout.line)

end Layout

/-! ## What can be written -/

/-- A token that can be written where a name or a value stands. -/
inductive Token.Writable : Token → Prop
  | name (value : String) : Writable (.name value)
  | text (value : String) : Writable ⟨.string, value, .start⟩
  | numeral {digits : List Char} (hne : digits ≠ []) (hdigits : ∀ c ∈ digits, c.isDigit = true) :
      Writable ⟨.number, String.ofList digits, .start⟩

/-- A column that can be written: it has any name, and a reserved word for its type. -/
inductive ColumnDeclaration.Writable : ColumnDeclaration → Prop
  | column (name : String) (type : Keyword) : Writable ⟨.name name, .word type⟩

/-- A statement that can be written: its parts can, and its list has entries. -/
inductive Statement.Writable : Statement → Prop
  | select {items : List Token} {table : String} (hne : items ≠ [])
      (hitems : ∀ item ∈ items, item.Writable) : Writable (.select items (.name table))
  | insert {table : String} {values : List Token} (hne : values ≠ [])
      (hvalues : ∀ value ∈ values, value.Writable) : Writable (.insert (.name table) values)
  | createTable {name : String} {columns : List ColumnDeclaration} (hne : columns ≠ [])
      (hcolumns : ∀ column ∈ columns, column.Writable) :
      Writable (.createTable (.name name) columns)

/-- Tokens with commas between them. -/
def commas (blocks : List (List Token)) : List Token :=
  [Token.mark .comma].intercalate blocks

/-- The tokens that a column is written with. -/
def ColumnDeclaration.spelled (column : ColumnDeclaration) : List Token :=
  [column.name, column.type]

/-- The tokens that a statement is written with, up to the semicolon. -/
def Statement.spelled : Statement → List Token
  | select items table =>
    .word .SELECT :: commas (items.map ([·])) ++ [.word .FROM, table]
  | insert table values =>
    .word .INSERT :: .word .INTO :: table :: .word .VALUES :: .mark .leftParen ::
      commas (values.map ([·])) ++ [.mark .rightParen]
  | createTable name columns =>
    .word .CREATE :: .word .TABLE :: name :: .mark .leftParen ::
      commas (columns.map ColumnDeclaration.spelled) ++ [.mark .rightParen]

/-- The tokens of a statement and its semicolon. -/
def Statement.block (statement : Statement) : List Token :=
  statement.spelled ++ [.mark .semicolon]

/-! ## The text is cut into the tokens -/

section Lexemes

variable {α : Type} {rest : List Char} {tokens : List Token}

/-- **A text yields tokens**: it is cut into them before any separator. -/
def Yields (text : String) (block : List Token) : Prop :=
  ∀ ⦃rest : List Char⦄ ⦃tokens : List Token⦄, Separated rest → Lexes rest tokens →
    Lexes (text.toList ++ rest) (block ++ tokens)

theorem toList_quoted (delimiter : Char) (text : String) :
    (Text.quoted delimiter text).toList = Text.Delimited.enclose delimiter text.toList :=
  String.toList_ofList

theorem toList_written_word (word : Keyword) :
    (Token.word word).written.toList = Word.capitals word := by
  show (word.spelling.map Char.toUpper).toList = _
  rw [String.toList_map]
  rfl

/-- The text of a token yields the token. -/
theorem yields_token {token : Token} (h : token.Writable) : Yields token.written [token] := by
  intro rest tokens hrest htokens
  cases h with
  | name value =>
    have := lexes_name value.toList hrest htokens
    rw [String.ofList_toList] at this
    show Lexes ((Text.quoted '"' value).toList ++ rest) _
    rw [toList_quoted]
    exact this
  | text value =>
    have := lexes_text value.toList hrest htokens
    rw [String.ofList_toList] at this
    show Lexes ((Text.quoted '\'' value).toList ++ rest) _
    rw [toList_quoted]
    exact this
  | @numeral digits hne hdigits =>
    show Lexes ((String.ofList digits).toList ++ rest) _
    rw [String.toList_ofList]
    exact lexes_numeral hne hdigits hrest htokens

/-- A phrase that begins with a separator ends every lexeme before it. -/
theorem separated_phrase {phrase : String} {c : Char} (hphrase : phrase.toList.head? = some c)
    (hc : c ∈ separators) (rest : List Char) : Separated (phrase.toList ++ rest) := by
  intro c' hc'
  rw [List.head?_append, hphrase, Option.some_or] at hc'
  obtain rfl := Option.some.inj hc'
  exact hc

/-- A phrase is white space and then reserved words with a space behind each. -/
theorem lexes_phrase (phrase : String) (before : List Char) (words : List Keyword)
    (hphrase : phrase.toList = before ++ words.flatMap fun word => Word.capitals word ++ [' '])
    (hbefore : before.all Punctuation.isBlank = true) (htokens : Lexes rest tokens) :
    Lexes (phrase.toList ++ rest) (words.map Token.word ++ tokens) := by
  rw [hphrase, List.append_assoc]
  refine lexes_blanks (List.all_eq_true.1 hbefore) ?_
  clear hphrase
  induction words with
  | nil => exact htokens
  | cons word words ih =>
    rw [List.flatMap_cons, List.append_assoc, List.append_assoc]
    exact lexes_capitals word (separated_cons (by decide) _) (lexes_blank (c := ' ') rfl ih)

/-- The text of a column yields its name and its type. -/
theorem yields_column {column : ColumnDeclaration} (h : column.Writable) :
    Yields column.written column.spelled := by
  intro rest tokens hrest htokens
  obtain ⟨name, type⟩ := h
  have htype : Lexes (" ".toList ++ (Word.capitals type ++ rest)) (.word type :: tokens) :=
    lexes_blank (c := ' ') rfl (lexes_capitals type hrest htokens)
  rw [ColumnDeclaration.written, String.toList_append, String.toList_append, toList_written_word,
    List.append_assoc, List.append_assoc]
  exact yields_token (.name name) (separated_phrase (c := ' ') rfl (by decide) _) htype

/-- The text of a list yields the tokens of its entries with commas between them. -/
theorem yields_list (layout : Layout) {text : α → String} {block : α → List Token}
    {list : List α} (h : ∀ a ∈ list, Yields (text a) (block a)) :
    Yields (layout.list (list.map text)) (commas (list.map block)) := by
  intro rest tokens hrest htokens
  have hcomma : ∀ source : List Char, ("," ++ layout.comma).toList ++ source =
      ",".toList ++ (layout.comma.toList ++ source) := by
    intro source
    rw [String.toList_append, List.append_assoc]
  rw [Layout.list, String.toList_intercalate, List.map_map, commas]
  induction list with
  | nil => exact htokens
  | cons a list ih =>
    have ha := h a List.mem_cons_self
    have hothers := ih fun other hother => h other (List.mem_cons_of_mem _ hother)
    rw [List.map_cons, List.map_cons]
    by_cases hnil : list = []
    · rw [hnil, List.map_nil, List.map_nil, List.intercalate_singleton,
        List.intercalate_singleton]
      exact ha hrest htokens
    · rw [List.intercalate_cons_of_ne_nil (by simpa using hnil),
        List.intercalate_cons_of_ne_nil (by simpa using hnil), List.append_assoc,
        List.append_assoc, List.append_assoc, List.append_assoc, hcomma]
      refine ha (separated_phrase (c := ',') rfl (by decide) _) ?_
      exact lexes_mark .comma (lexes_blanks layout.comma_blank hothers)

/-- A list in parentheses and a semicolon. -/
theorem lexes_enclosed (layout : Layout) {text : α → String} {block : α → List Token}
    {list : List α} (h : ∀ a ∈ list, Yields (text a) (block a)) (htokens : Lexes rest tokens) :
    Lexes ('(' :: ((layout.list (list.map text)).toList ++ (");".toList ++ rest)))
      (.mark .leftParen :: (commas (list.map block) ++
        (.mark .rightParen :: .mark .semicolon :: tokens))) := by
  have hclosing : Lexes (");".toList ++ rest)
      (.mark .rightParen :: .mark .semicolon :: tokens) :=
    lexes_mark .rightParen (lexes_mark .semicolon htokens)
  have hlist := yields_list layout h (separated_phrase (c := ')') rfl (by decide) rest) hclosing
  exact lexes_mark .leftParen hlist

/-- **The text of a statement** is cut into the tokens that spell it. -/
theorem lexes_written (layout : Layout) {statement : Statement} (h : statement.Writable)
    (htokens : Lexes rest tokens) :
    Lexes ((layout.statement statement).toList ++ rest) (statement.block ++ tokens) := by
  cases h with
  | @select items table hne hitems =>
    have hend : Lexes (";".toList ++ rest) (.mark .semicolon :: tokens) :=
      lexes_mark .semicolon htokens
    have htable := yields_token (.name table)
      (separated_phrase (c := ';') rfl (by decide) rest) hend
    have hfrom := lexes_phrase " FROM " [' '] [.FROM] rfl rfl htable
    have hlist := yields_list layout (fun item hitem => yields_token (hitems item hitem))
      (separated_phrase (c := ' ') rfl (by decide) _) hfrom
    have hall := lexes_phrase "SELECT " [] [.SELECT] rfl rfl hlist
    show Lexes (("SELECT " ++ layout.list (items.map Token.written) ++ " FROM " ++
      (Token.name table).written ++ ";").toList ++ rest) _
    simp only [String.toList_append, List.append_assoc]
    simp only [Statement.block, Statement.spelled, List.cons_append, List.append_assoc,
      List.nil_append]
    exact hall
  | @insert table values hne hvalues =>
    have hlist := lexes_enclosed layout
      (fun value hvalue => yields_token (hvalues value hvalue)) htokens
    have hword := lexes_phrase " VALUES " [' '] [.VALUES] rfl rfl hlist
    have htable := yields_token (.name table)
      (separated_phrase (c := ' ') rfl (by decide) _) hword
    have hall := lexes_phrase "INSERT INTO " [] [.INSERT, .INTO] rfl rfl htable
    show Lexes (("INSERT INTO " ++ (Token.name table).written ++ " VALUES (" ++
      layout.list (values.map Token.written) ++ ");").toList ++ rest) _
    simp only [String.toList_append, List.append_assoc]
    simp only [Statement.block, Statement.spelled, List.cons_append, List.append_assoc,
      List.nil_append]
    exact hall
  | @createTable name columns hne hcolumns =>
    have hlist := lexes_enclosed layout
      (fun column hcolumn => yields_column (hcolumns column hcolumn)) htokens
    have hopening := lexes_phrase " " [' '] [] rfl rfl hlist
    have hname := yields_token (.name name)
      (separated_phrase (c := ' ') rfl (by decide) _) hopening
    have hall := lexes_phrase "CREATE TABLE " [] [.CREATE, .TABLE] rfl rfl hname
    show Lexes (("CREATE TABLE " ++ (Token.name name).written ++ " (" ++
      layout.list (columns.map ColumnDeclaration.written) ++ ");").toList ++ rest) _
    simp only [String.toList_append, List.append_assoc]
    simp only [Statement.block, Statement.spelled, List.cons_append, List.append_assoc,
      List.nil_append]
    exact hall

end Lexemes

/-- **The text of a script** is cut into the blocks of its statements. -/
theorem Layout.lexes_script (layout : Layout) {statements : List Statement}
    (h : ∀ statement ∈ statements, statement.Writable) :
    Lexes (layout.script statements).toList (statements.map Statement.block).flatten := by
  induction statements with
  | nil => exact lexes_nil
  | cons statement statements ih =>
    have hothers := ih fun other hother => h other (List.mem_cons_of_mem _ hother)
    have htext : (layout.script (statement :: statements)).toList =
        (layout.statement statement).toList ++
          (layout.line.toList ++ (layout.script statements).toList) := by
      rw [script, List.map_cons, String.join_cons, String.toList_append, String.toList_append,
        List.append_assoc, script]
    rw [htext, List.map_cons, List.flatten_cons]
    exact lexes_written layout (h statement List.mem_cons_self)
      (lexes_blanks layout.line_blank hothers)

/-! ## The tokens spell the statement -/

namespace Grammar

variable {α : Type}

theorem commaSeparated_commas {spells : α → List Token → Prop} {block : α → List Token}
    {list : List α} (hne : list ≠ []) (h : ∀ a ∈ list, spells a (block a)) :
    CommaSeparated spells list (commas (list.map block)) := by
  induction list with
  | nil => exact absurd rfl hne
  | cons a list ih =>
    have ha := h a List.mem_cons_self
    rw [commas, List.map_cons]
    by_cases hnil : list = []
    · rw [hnil, List.map_nil, List.intercalate_singleton]
      exact .single ha
    · rw [List.intercalate_cons_of_ne_nil (by simpa using hnil), List.append_assoc,
        List.singleton_append]
      exact .cons ha (Token.isSymbol_mark .comma)
        (ih hnil fun other hother => h other (List.mem_cons_of_mem _ hother))

theorem spellsExpression_of_writable {token : Token} (h : token.Writable) :
    SpellsExpression token [token] := by
  refine ⟨?_, rfl⟩
  cases h with
  | name value => exact .inr (.inr rfl)
  | text value => exact .inr (.inl rfl)
  | numeral hne hdigits => exact .inl rfl

theorem spellsColumn_of_writable {column : ColumnDeclaration} (h : column.Writable) :
    SpellsColumn column column.spelled := by
  obtain ⟨name, type⟩ := h
  exact ⟨rfl, rfl, rfl⟩

/-- **The tokens of a statement spell it.** -/
theorem spells_spelled {statement : Statement} (h : statement.Writable) :
    Spells statement statement.spelled := by
  cases h with
  | select hne hitems =>
    exact .select (Token.isKeyword_word .SELECT)
      (commaSeparated_commas hne fun item hitem => spellsExpression_of_writable (hitems item hitem))
      (Token.isKeyword_word .FROM) rfl
  | insert hne hvalues =>
    exact .insert (Token.isKeyword_word .INSERT) (Token.isKeyword_word .INTO) rfl
      (Token.isKeyword_word .VALUES) (Token.isSymbol_mark .leftParen)
      (commaSeparated_commas hne fun value hvalue =>
        spellsExpression_of_writable (hvalues value hvalue))
      (Token.isSymbol_mark .rightParen)
  | createTable hne hcolumns =>
    exact .createTable (Token.isKeyword_word .CREATE) (Token.isKeyword_word .TABLE) rfl
      (Token.isSymbol_mark .leftParen)
      (commaSeparated_commas hne fun column hcolumn =>
        spellsColumn_of_writable (hcolumns column hcolumn))
      (Token.isSymbol_mark .rightParen)

/-- The blocks of statements that their tokens spell are read as the statements. -/
theorem parse_blocks_of_spells {statements : List Statement} (hne : statements ≠ [])
    (h : ∀ statement ∈ statements, Spells statement statement.spelled) :
    parse (statements.map Statement.block).flatten = .ok statements := by
  refine parse_eq_ok_iff_spells.2 ⟨statements.map Statement.block, hne, ?_, rfl⟩
  rw [List.forall₂_map_right_iff, List.forall₂_same]
  intro statement hstatement
  refine ⟨statement.spelled, [.mark .semicolon], h statement hstatement, by simp, ?_, rfl⟩
  intro mark hmark
  obtain rfl := List.mem_singleton.1 hmark
  exact Token.isSymbol_mark .semicolon

/-- **The blocks of statements are read as the statements.** -/
theorem parse_blocks {statements : List Statement} (hne : statements ≠ [])
    (h : ∀ statement ∈ statements, statement.Writable) :
    parse (statements.map Statement.block).flatten = .ok statements :=
  parse_blocks_of_spells hne fun statement hstatement => spells_spelled (h statement hstatement)

end Grammar
end ColumnarSql
