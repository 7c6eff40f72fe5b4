import SchemaDdl.Dialect.Builtin
import SchemaDdl.Proofs.Request.Rendering
import SchemaDdl.Proofs.Statement.Wording

/-!
# What each column adds to the block of its table

A block is written in passes over the columns, one for each kind of statement, and foreign keys are
resolved in the pass that writes them.  Told column by column, each has one line, stands in the
primary key or not, and adds at most one statement to each group (`Statement.Adds`).  A table whose
columns all have types has a block that holds the shares of its columns, group by group and in
column order, and nothing else but what the dialect puts around them
(`Statement.createTable_eq_block`).  Shares do not depend on whether the table may exist already,
so under a built-in dialect that flag sets the guard and changes nothing more
(`Statement.createTable_complete`).
-/

namespace SchemaDdl

open SchemaDdl.Text (literal nonBlank)

namespace Statement

/-! ## Shares -/

/-- What a column adds to the block of its table. -/
structure Share where
  line : String
  /-- Its name in the primary key. -/
  key : Option String
  foreignKey : Option String
  unique : Option String
  default : Option String
  index : Option String

/-- The foreign key statement of a column that has a foreign key, and the resolver that resolving
its target leaves. -/
inductive Refers (d : Dialect) (t : Table) (c : Column) (r : Resolver) :
    Option String → Resolver → Prop
  | none (h : c.foreignKey = none) : Refers d t c r none r
  | some {key : ForeignKey} {target : ReferencedColumn} {r' : Resolver}
      (h : c.foreignKey = some key) (htarget : r.resolveReference key = (target, r')) :
      Refers d t c r (some (referring d t c target)) r'

/-- The column has a line and adds the rest of the share, each statement if it is asked for; its
foreign key is resolved on the first resolver and leaves the second. -/
structure Adds (d : Dialect) (t : Table) (r : Resolver) (c : Column) (s : Share) (r' : Resolver) :
    Prop where
  line : Line d c s.line
  key : s.key = if c.primaryKey then some c.name else none
  foreignKey : Refers d t c r s.foreignKey r'
  unique : s.unique =
    if c.unique then
      some ("ALTER TABLE " ++ (t.schema ++ "." ++ t.name) ++ " ADD CONSTRAINT "
        ++ d.uniqueName t.name c.name ++ " UNIQUE (" ++ c.name ++ ");")
    else none
  default : s.default =
    (nonBlank c.defaultValue).map fun value => d.defaultValueSql t c.name (literal value)
  index : s.index =
    if c.index then
      some ("CREATE " ++ (if c.indexUnique then "UNIQUE " else "") ++ "INDEX "
        ++ d.indexName t.name c.name ++ " ON " ++ (t.schema ++ "." ++ t.name) ++ " (" ++ c.name
        ++ ");")
    else none

/-- The columns add one share each, in turn. -/
inductive AddAll (d : Dialect) (t : Table) : Resolver → List Column → List Share → Resolver → Prop
  | nil (r : Resolver) : AddAll d t r [] [] r
  | cons {r r₁ r' : Resolver} {c : Column} {s : Share} {rest : List Column} {shares : List Share}
      (head : Adds d t r c s r₁) (tail : AddAll d t r₁ rest shares r') :
      AddAll d t r (c :: rest) (s :: shares) r'

/-- The statement of a primary key over some columns, if there are any. -/
def keyStatement (d : Dialect) (t : Table) (names : List String) : List String :=
  if names.isEmpty then []
  else
    ["ALTER TABLE " ++ (t.schema ++ "." ++ t.name) ++ " ADD CONSTRAINT "
      ++ d.primaryKeyName t.name ++ " PRIMARY KEY (" ++ ", ".intercalate names ++ ");"]

/-- The statements that some shares amount to, between what the dialect puts around them: the lines
of the columns in one CREATE TABLE, and the rest in groups. -/
def block (d : Dialect) (t : Table) (ifNotExists : Bool) (shares : List Share) : List String :=
  (d.beforeCreateTable t ifNotExists).toList
    ++ ("CREATE TABLE " ++ (if ifNotExists && d.inlineIfNotExists then "IF NOT EXISTS " else "")
      ++ (t.schema ++ "." ++ t.name) ++ " (\n" ++ ",\n".intercalate (shares.map Share.line)
      ++ "\n);")
    :: keyStatement d t (shares.filterMap Share.key)
    ++ shares.filterMap Share.foreignKey ++ shares.filterMap Share.unique
    ++ shares.filterMap Share.default ++ shares.filterMap Share.index
    ++ (d.afterCreateTable t ifNotExists).toList

section Passes

variable {d : Dialect} {t : Table} {r r' : Resolver} {columns : List Column} {shares : List Share}

theorem exists_line {c : Column} (h : ∃ type, Typed d c type) : ∃ line, Line d c line := by
  obtain ⟨type, htype⟩ := h
  cases hcomputed : nonBlank c.computed with
  | none => exact ⟨_, .plain htype hcomputed⟩
  | some expression => exact ⟨_, .computed htype hcomputed⟩

theorem exists_typed {lines : List String} (h : columnLines d columns = .ok lines) :
    ∀ c ∈ columns, ∃ type, Typed d c type := by
  induction columns generalizing lines with
  | nil => exact fun _ hc => (by cases hc)
  | cons c rest ih =>
    rw [columnLines] at h
    cases hline : columnLine d c with
    | error e =>
      rw [hline] at h
      cases h
    | ok line =>
      cases hrest : columnLines d rest with
      | error e =>
        rw [hline, hrest] at h
        cases h
      | ok tail =>
        refine List.forall_mem_cons.2 ⟨?_, ih hrest⟩
        cases columnLine_eq_ok_iff.1 hline with
        | plain htype => exact ⟨_, htype⟩
        | computed htype => exact ⟨_, htype⟩

theorem exists_refers (d : Dialect) (t : Table) (c : Column) (r : Resolver) :
    ∃ statement r', Refers d t c r statement r' := by
  cases hkey : c.foreignKey with
  | none => exact ⟨none, r, .none hkey⟩
  | some key => exact ⟨_, _, .some hkey rfl⟩

/-- Columns with types have shares. -/
theorem exists_addAll (r : Resolver) (h : ∀ c ∈ columns, ∃ type, Typed d c type) :
    ∃ shares r', AddAll d t r columns shares r' := by
  induction columns generalizing r with
  | nil => exact ⟨[], r, .nil r⟩
  | cons c rest ih =>
    obtain ⟨line, hline⟩ := exists_line (h c List.mem_cons_self)
    obtain ⟨reference, r₁, hreference⟩ := exists_refers d t c r
    obtain ⟨shares, r', htail⟩ := ih r₁ fun x hx => h x (List.mem_cons_of_mem _ hx)
    have hhead : Adds d t r c ⟨line, _, reference, _, _, _⟩ r₁ :=
      ⟨hline, rfl, hreference, rfl, rfl, rfl⟩
    exact ⟨_, r', .cons hhead htail⟩

/-! ## Passes over the columns -/

namespace AddAll

theorem lines (h : AddAll d t r columns shares r') :
    columnLines d columns = .ok (shares.map Share.line) := by
  induction h with
  | nil => rfl
  | cons head _ ih => rw [columnLines, columnLine_eq_ok_iff.2 head.line, ih, List.map_cons]

theorem foreignKeys (h : AddAll d t r columns shares r') :
    foreignKeys d t r columns = (shares.filterMap Share.foreignKey, r') := by
  induction h with
  | nil => rfl
  | cons head _ ih =>
    have hrefers := head.foreignKey
    unfold Statement.foreignKeys
    generalize hreference : Share.foreignKey _ = reference at hrefers
    cases hrefers with
    | none hkey => rw [hkey, List.filterMap_cons_none hreference, ih]
    | some hkey htarget =>
      simp only [hkey, htarget, List.filterMap_cons_some hreference, ih, foreignKey_eq_referring]

/-- A pass over the columns that keeps some of them finds what their shares have of its kind. -/
theorem filterMap_eq {α : Type} (h : AddAll d t r columns shares r') {p : Column → Bool}
    {write : Column → α} {read : Share → Option α}
    (hread : ∀ {r₀ c s r₁}, Adds d t r₀ c s r₁ → read s = if p c then some (write c) else none) :
    (columns.filter p).map write = shares.filterMap read := by
  induction h with
  | nil => rfl
  | @cons _ _ _ c s rest shares head _ ih =>
    have hs := hread head
    by_cases hp : p c = true
    · rw [if_pos hp] at hs
      rw [List.filter_cons_of_pos hp, List.map_cons, List.filterMap_cons_some hs, ih]
    · rw [if_neg hp] at hs
      rw [List.filter_cons_of_neg hp, List.filterMap_cons_none hs, ih]

theorem defaults (h : AddAll d t r columns shares r') :
    (columns.filterMap fun c =>
        c.defaultLiteral.map fun value => d.defaultValueSql t c.name (literal value))
      = shares.filterMap Share.default := by
  induction h with
  | nil => rfl
  | cons head _ ih => rw [List.filterMap_cons, List.filterMap_cons, head.default, ih]; rfl

theorem primaryKey (h : AddAll d t r t.columns shares r') :
    primaryKey d t = keyStatement d t (shares.filterMap Share.key) := by
  rw [← h.filterMap_eq fun head => head.key]
  simp only [Statement.primaryKey, keyStatement, List.isEmpty_map]
  rfl

end AddAll

/-- The block of a table holds the shares of its columns. -/
theorem createTable_eq_block (h : AddAll d t r t.columns shares r') (ifNotExists : Bool) :
    createTable d r t ifNotExists
      = (.ok ("\n".intercalate (block d t ifNotExists shares)), r') := by
  have huniques : uniques d t = shares.filterMap Share.unique :=
    h.filterMap_eq fun head => head.unique
  have hindexes : indexes d t = shares.filterMap Share.index :=
    h.filterMap_eq fun head => head.index
  have hdefaults : defaults d t = shares.filterMap Share.default := h.defaults
  unfold createTable createTableParts
  simp only [h.lines, h.foreignKeys, h.primaryKey, huniques, hdefaults, hindexes]
  rfl

end Passes

/-! ## The guard -/

/-- The second text is the first with the guard of the dialect: around it as a whole, or in its
first statement. -/
def Guards (t : Table) (text guarded : String) : Builtin → Prop
  | .mssql => guarded =
      "IF OBJECT_ID(N'" ++ (t.schema ++ "." ++ t.name) ++ "', N'U') IS NULL\nBEGIN\n" ++ text
        ++ "\nEND;"
  | .postgres => ∃ rest,
      text = "CREATE TABLE " ++ rest ∧ guarded = "CREATE TABLE IF NOT EXISTS " ++ rest

variable {t : Table} {shares : List Share}

theorem guards_mssql :
    Guards t ("\n".intercalate (block .mssql t false shares))
      ("\n".intercalate (block .mssql t true shares)) .mssql := by
  have hsplit : block .mssql t true shares
      = Dialect.objectGuard t.qualified :: (block .mssql t false shares ++ ["END;"]) := by
    unfold block
    simp [Dialect.mssql]
  have hne : block .mssql t false shares ≠ [] := by simp [block, Dialect.mssql]
  rw [hsplit, String.intercalate_cons_of_ne_nil (by simp),
    String.intercalate_append_of_ne_nil hne (by simp), String.intercalate_singleton]
  unfold Guards Dialect.objectGuard Table.qualified
  simp only [String.append_assoc]
  rfl

theorem guards_postgres :
    Guards t ("\n".intercalate (block .postgres t false shares))
      ("\n".intercalate (block .postgres t true shares)) .postgres := by
  -- without a hook the block starts with its CREATE TABLE, and all that follows it is the same
  obtain ⟨name, others, hblock⟩ : ∃ name others, ∀ ifNotExists,
      block .postgres t ifNotExists shares
        = ("CREATE TABLE " ++ ((if ifNotExists then "IF NOT EXISTS " else "") ++ name))
          :: others := by
    refine ⟨(t.schema ++ "." ++ t.name) ++ (" (\n" ++ (",\n".intercalate (shares.map Share.line)
        ++ "\n);")),
      keyStatement .postgres t (shares.filterMap Share.key)
        ++ shares.filterMap Share.foreignKey ++ shares.filterMap Share.unique
        ++ shares.filterMap Share.default ++ shares.filterMap Share.index,
      fun ifNotExists => ?_⟩
    unfold block
    simp [Dialect.postgres, String.append_assoc]
  refine ⟨"\n".intercalate (name :: others), ?_, ?_⟩
  · rw [hblock, String.intercalate_cons_append, if_neg (by simp), String.empty_append]
  · rw [hblock, String.intercalate_cons_append, if_pos rfl, String.intercalate_cons_append,
      ← String.append_assoc]
    rfl

theorem guards_block (b : Builtin) :
    Guards t ("\n".intercalate (block b.dialect t false shares))
      ("\n".intercalate (block b.dialect t true shares)) b := by
  cases b with
  | mssql => exact guards_mssql
  | postgres => exact guards_postgres

/-- A block is complete, in order and guarded as a whole.  Where all columns of a table have types,
its block under any dialect is made of one share for each column, and the shares do not depend on
whether the table may exist already.  Under a built-in dialect that flag decides nothing but the
guard: it changes neither whether the table has a block, nor the failure, nor the resolver that is
left. -/
theorem createTable_complete (r : Resolver) (t : Table) :
    (∀ d : Dialect, (∀ c ∈ t.columns, ∃ type, Typed d c type) →
      ∃ shares r', AddAll d t r t.columns shares r' ∧
        ∀ ifNotExists, createTable d r t ifNotExists
          = (.ok ("\n".intercalate (block d t ifNotExists shares)), r')) ∧
    ∀ b : Builtin,
      (∃ e, ∀ ifNotExists, createTable b.dialect r t ifNotExists = (.error e, r)) ∨
        ∃ text guarded r', createTable b.dialect r t false = (.ok text, r') ∧
          createTable b.dialect r t true = (.ok guarded, r') ∧ Guards t text guarded b := by
  refine ⟨fun d htypes => ?_, fun b => ?_⟩
  · obtain ⟨shares, r', hshares⟩ := exists_addAll (t := t) r htypes
    exact ⟨shares, r', hshares, createTable_eq_block hshares⟩
  · cases hlines : columnLines b.dialect t.columns with
    | error e => exact .inl ⟨e, fun _ => createTable_of_error hlines⟩
    | ok lines =>
      obtain ⟨shares, r', hshares⟩ := exists_addAll (t := t) r (exists_typed hlines)
      exact .inr ⟨_, _, r', createTable_eq_block hshares false, createTable_eq_block hshares true,
        guards_block b⟩

end Statement

/-! ## A table with every kind of statement -/

namespace Lending

def idColumn : Column :=
  Column.ofMember "id" (({ ident := "id", type := .scalar .i32 } : Member).key.required)

/-- A column that adds a statement to each group but the primary key. -/
def bookColumn : Column :=
  Column.ofMember "book_id" ((({ ident := "book", type := .scalar .i32 } : Member).references
    "Book" "id").unique.index.defaultValue "0")

def table : Table where
  model := ⟨"Loan"⟩
  name := "loans"
  schema := "dbo"
  columns := [idColumn, bookColumn]

theorem columns_typed :
    ∀ c ∈ table.columns, ∃ type, Statement.Typed Builtin.mssql.dialect c type := by
  have hint : ∀ c ∈ table.columns, Statement.columnType Builtin.mssql.dialect c = .ok "int" := by
    decide
  exact fun c hc => ⟨"int", Statement.columnType_eq_ok_iff.1 (hint c hc)⟩

/-- The block of the table where it may exist already. -/
def text : String :=
  "IF OBJECT_ID(N'dbo.loans', N'U') IS NULL\nBEGIN\n"
    ++ "CREATE TABLE dbo.loans (\n    id int NOT NULL,\n    book_id int NULL\n);\n"
    ++ "ALTER TABLE dbo.loans ADD CONSTRAINT PK_loans PRIMARY KEY (id);\n"
    ++ "ALTER TABLE dbo.loans ADD CONSTRAINT FK_loansbook_id_TO_Bookid FOREIGN KEY (book_id)"
    ++ " REFERENCES dbo.Book (id);\n"
    ++ "ALTER TABLE dbo.loans ADD CONSTRAINT UC_loansbook_id UNIQUE (book_id);\n"
    ++ "ALTER TABLE dbo.loans ADD DEFAULT '0' FOR book_id;\n"
    ++ "CREATE INDEX INX_loansbook_id ON dbo.loans (book_id);\nEND;"

theorem createTable_complete_lending :
    (∀ c ∈ table.columns, ∃ type, Statement.Typed Builtin.mssql.dialect c type) ∧
      ∃ shares r',
        Statement.AddAll Builtin.mssql.dialect table (.new .ofId) table.columns shares r' ∧
          (∀ ifNotExists, Statement.createTable Builtin.mssql.dialect (.new .ofId) table ifNotExists
            = (.ok ("\n".intercalate
                (Statement.block Builtin.mssql.dialect table ifNotExists shares)), r')) ∧
          "\n".intercalate (Statement.block Builtin.mssql.dialect table true shares) = text := by
  obtain ⟨shares, r', hshares, hblock⟩ :=
    (Statement.createTable_complete (.new .ofId) table).1 Builtin.mssql.dialect columns_typed
  have htext : (Statement.createTable Builtin.mssql.dialect (.new .ofId) table true).1
      = .ok text := by
    decide +kernel
  rw [hblock] at htext
  exact ⟨columns_typed, shares, r', hshares, hblock, Except.ok.inj htext⟩

end Lending
end SchemaDdl
