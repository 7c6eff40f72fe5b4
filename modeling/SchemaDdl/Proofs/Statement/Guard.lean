import SchemaDdl.Proofs.Statement.Literals
import SchemaDdl.Proofs.Statement.Shares

/-!
# The table that a guard tests

On SQL Server a table that may exist already is guarded by a test of its object id.  The test has
the qualified name of the table as a literal, and the name is put between the quotes as it stands.
A reader of SQL gets back a text that was put so if and only if it holds no quote
(`Text.exists_scanLiteral_raw_iff`); a quote in it is taken for the end, or for half of a doubled
one.  So the guard tests the table that it guards if and only if neither its schema nor its name
holds a quote (`Statement.guard_tests_table_iff`).
-/

namespace SchemaDdl

/-! ## Text between quotes as it stands -/

namespace Text

/-- What was read of a literal is the text with its quotes doubled, and the closing quote. -/
theorem eq_of_scanInside {l text left : List Char} (h : scanInside l = some (text, left)) :
    l = doubleQuotes text ++ '\'' :: left := by
  fun_induction scanInside l generalizing text left with
  | case1 => cases h
  | case2 rest ih =>
    obtain ⟨⟨inner, left'⟩, hrest, heq⟩ := Option.map_eq_some_iff.1 h
    cases heq
    rw [ih hrest, doubleQuotes, if_pos rfl, List.cons_append, List.cons_append]
  | case3 rest =>
    cases h
    rfl
  | case4 c rest _ hc ih =>
    obtain ⟨⟨inner, left'⟩, hrest, heq⟩ := Option.map_eq_some_iff.1 h
    cases heq
    rw [ih hrest, doubleQuotes, if_neg hc, List.cons_append]

theorem doubleQuotes_of_not_mem {text : List Char} (h : '\'' ∉ text) : doubleQuotes text = text := by
  induction text with
  | nil => rfl
  | cons c rest ih =>
    rw [List.mem_cons, not_or] at h
    rw [doubleQuotes, if_neg (Ne.symm h.1), ih h.2]

/-- A text in front of a quote never is what more quotes and its own doubled form begin with: the
quotes would have to go on to where the text has ended. -/
theorem ne_quotes_append (n : Nat) (text : List Char) {left left' : List Char}
    (h : left.head? ≠ some '\'') :
    text ++ '\'' :: left ≠ List.replicate (n + 1) '\'' ++ (doubleQuotes text ++ '\'' :: left') := by
  induction text generalizing n with
  | nil =>
    intro heq
    simp only [List.nil_append, doubleQuotes, List.replicate_succ, List.cons_append,
      List.cons.injEq, true_and] at heq
    rw [heq] at h
    cases n with
    | zero => exact h rfl
    | succ n => exact h rfl
  | cons c rest ih =>
    intro heq
    rw [List.replicate_succ, List.cons_append, List.cons_append, List.cons.injEq] at heq
    obtain ⟨rfl, heq⟩ := heq
    -- the text starts with a quote, which is doubled: one quote is matched and two join the run
    refine ih (n + 1) ?_
    rw [heq, doubleQuotes, if_pos rfl, List.replicate_succ', List.replicate_succ']
    simp only [List.append_assoc, List.cons_append, List.nil_append]

theorem not_mem_of_append_eq {text left left' : List Char} (h : left.head? ≠ some '\'')
    (heq : text ++ '\'' :: left = doubleQuotes text ++ '\'' :: left') : '\'' ∉ text := by
  induction text with
  | nil => exact List.not_mem_nil
  | cons c rest ih =>
    by_cases hc : c = '\''
    · rw [doubleQuotes, if_pos hc, hc, List.cons_append, List.cons_append, List.cons.injEq] at heq
      exact absurd heq.2 (ne_quotes_append 0 rest h)
    · rw [doubleQuotes, if_neg hc, List.cons_append, List.cons_append, List.cons.injEq] at heq
      rw [List.mem_cons, not_or]
      exact ⟨Ne.symm hc, ih heq.2⟩

theorem scanLiteral_raw {text left : List Char} (h : left.head? ≠ some '\'') (htext : '\'' ∉ text) :
    scanLiteral ('\'' :: (text ++ '\'' :: left)) = some (text, left) := by
  have hread := scanInside_doubleQuotes text h
  rw [doubleQuotes_of_not_mem htext] at hread
  rw [scanLiteral, if_pos rfl, hread]

/-- A text that stands between quotes as it is, is read back if and only if it holds no quote. -/
theorem exists_scanLiteral_raw_iff {text left : List Char} (h : left.head? ≠ some '\'') :
    (∃ left', scanLiteral ('\'' :: (text ++ '\'' :: left)) = some (text, left')) ↔
      '\'' ∉ text := by
  constructor
  · rintro ⟨left', hread⟩
    rw [scanLiteral, if_pos rfl] at hread
    exact not_mem_of_append_eq h (eq_of_scanInside hread)
  · intro htext
    exact ⟨left, scanLiteral_raw h htext⟩

end Text

theorem Table.quote_not_mem_qualified_iff (t : Table) :
    '\'' ∉ t.qualified.toList ↔ '\'' ∉ t.schema.toList ∧ '\'' ∉ t.name.toList := by
  simp [qualified, String.toList_append, not_or]

/-! ## The guard -/

namespace Statement

open Text (scanLiteral)

/-- What the guard holds in front of its literal. -/
def beforeObject : String := "IF OBJECT_ID(N"

/-- What the guard holds behind its literal. -/
def afterObject : String := ", N'U') IS NULL"

theorem objectGuard_eq (qualified : String) :
    Dialect.objectGuard qualified
      = beforeObject ++ ("'" ++ (qualified ++ ("'" ++ (afterObject ++ "\nBEGIN")))) := by
  have hfront : "IF OBJECT_ID(N'" = beforeObject ++ "'" := by decide
  have hback : "', N'U') IS NULL\nBEGIN" = "'" ++ (afterObject ++ "\nBEGIN") := by decide
  unfold Dialect.objectGuard
  rw [hfront, hback, String.append_assoc, String.append_assoc]

/-- The block of a table that may exist already starts with the guard and the name it creates. -/
theorem exists_guarded (r : Resolver) {t : Table}
    (h : ∀ c ∈ t.columns, ∃ type, columnType .mssql c = .ok type) :
    ∃ rest r', createTable .mssql r t true
      = (.ok (Dialect.objectGuard t.qualified
          ++ ("\nCREATE TABLE " ++ t.qualified ++ " (\n" ++ rest)), r') := by
  have htyped : ∀ c ∈ t.columns, ∃ type, Typed .mssql c type := by
    simpa only [columnType_eq_ok_iff] using h
  obtain ⟨shares, r', hshares⟩ := exists_addAll (t := t) r htyped
  obtain ⟨others, hblock⟩ : ∃ others, block .mssql t true shares
      = Dialect.objectGuard t.qualified
        :: ("CREATE TABLE " ++ "" ++ t.qualified ++ " (\n"
          ++ ",\n".intercalate (shares.map Share.line) ++ "\n);") :: others := ⟨_, rfl⟩
  have hstatement : "CREATE TABLE " ++ "" ++ t.qualified ++ " (\n"
      ++ ",\n".intercalate (shares.map Share.line) ++ "\n);"
        = "CREATE TABLE " ++ t.qualified ++ " (\n"
          ++ (",\n".intercalate (shares.map Share.line) ++ "\n);") := by
    rw [String.append_empty, ← String.append_assoc]
  have hline : "\n" ++ "CREATE TABLE " = "\nCREATE TABLE " := by decide
  refine ⟨"\n".intercalate ((",\n".intercalate (shares.map Share.line) ++ "\n);") :: others), r', ?_⟩
  rw [createTable_eq_block hshares, hblock, hstatement, String.intercalate_cons_cons,
    String.intercalate_cons_append, ← hline]
  simp only [String.append_assoc]

/-- Reading the literal of a guard gives the name put there if and only if the name holds no
quote. -/
theorem scan_objectGuard_iff (qualified more : String) :
    (∃ left, scanLiteral ((Dialect.objectGuard qualified ++ more).toList.drop beforeObject.length)
      = some (qualified.toList, afterObject.toList ++ left)) ↔ '\'' ∉ qualified.toList := by
  have hdrop : (Dialect.objectGuard qualified ++ more).toList.drop beforeObject.length
      = '\'' :: (qualified.toList ++ '\'' :: (afterObject.toList
          ++ ("\nBEGIN".toList ++ more.toList))) := by
    have hlen : beforeObject.toList.length = beforeObject.length := String.length_toList
    have hquote : "'".toList = ['\''] := by decide
    rw [objectGuard_eq, String.append_assoc, String.toList_append, List.drop_left' hlen]
    simp only [String.toList_append, hquote, List.append_assoc, List.cons_append, List.nil_append]
  have hhead : (afterObject.toList ++ ("\nBEGIN".toList ++ more.toList)).head? ≠ some '\'' := by
    simp [afterObject]
  rw [hdrop]
  constructor
  · rintro ⟨left, hread⟩
    exact (Text.exists_scanLiteral_raw_iff hhead).1 ⟨_, hread⟩
  · intro hquote
    exact ⟨_, Text.scanLiteral_raw hhead hquote⟩

/-- Under SQL Server the block of a table that may exist already has a guard around a CREATE TABLE.
The literal of the guard, read as SQL reads it, is the qualified name that the CREATE TABLE uses, and
what follows is the rest of the test, if and only if neither the schema nor the name of the table
holds a quote. -/
theorem guard_tests_table_iff (r : Resolver) (t : Table)
    (h : ∀ c ∈ t.columns, ∃ type, columnType .mssql c = .ok type) :
    ∃ text rest r', createTable .mssql r t true = (.ok text, r') ∧
      text = "IF OBJECT_ID(N'" ++ t.qualified ++ "', N'U') IS NULL\nBEGIN"
        ++ ("\nCREATE TABLE " ++ t.qualified ++ " (\n" ++ rest) ∧
      ((∃ left, scanLiteral (text.toList.drop "IF OBJECT_ID(N".length)
          = some (t.qualified.toList, ", N'U') IS NULL".toList ++ left)) ↔
        '\'' ∉ t.schema.toList ∧ '\'' ∉ t.name.toList) := by
  obtain ⟨rest, r', hblock⟩ := exists_guarded r h
  rw [← t.quote_not_mem_qualified_iff]
  exact ⟨_, rest, r', hblock, rfl, scan_objectGuard_iff _ _⟩

end Statement

/-! ## Names in brackets, with a quote and without -/

namespace Pub

/-- A table of public houses. -/
def table (name : String) : Table where
  model := ⟨"Pub"⟩
  name
  schema := "dbo"
  columns := [Column.ofMember "id" { ident := "id", type := .scalar .i32 }]

theorem columns_typed (name : String) : ∀ c ∈ (table name).columns, ∃ type,
    Statement.columnType .mssql c = .ok type :=
  List.forall_mem_singleton.2 ⟨"int", by decide⟩

theorem guard_tests_table_pubs :
    (∀ c ∈ (table "[public houses]").columns, ∃ type,
        Statement.columnType .mssql c = .ok type) ∧
      ∃ text r', Statement.createTable .mssql (.new .ofId) (table "[public houses]") true
          = (.ok text, r') ∧
        ∃ left, Text.scanLiteral (text.toList.drop "IF OBJECT_ID(N".length)
          = some ("dbo.[public houses]".toList, ", N'U') IS NULL".toList ++ left) := by
  obtain ⟨text, -, r', hblock, -, hread⟩ := Statement.guard_tests_table_iff (.new .ofId)
    (table "[public houses]") (columns_typed _)
  exact ⟨columns_typed _, text, r', hblock, hread.2 (by decide)⟩

/-- The guard of a table whose name holds a quote does not test that table. -/
theorem not_guard_tests_table :
    ¬ ∀ (r : Resolver) (t : Table) (text : String) (r' : Resolver),
      Statement.createTable .mssql r t true = (.ok text, r') →
        ∃ left, Text.scanLiteral (text.toList.drop "IF OBJECT_ID(N".length)
          = some (t.qualified.toList, ", N'U') IS NULL".toList ++ left) := by
  intro h
  obtain ⟨rest, r', hblock⟩ := Statement.exists_guarded (.new .ofId) (columns_typed "[o'brien]")
  have hquote := (Statement.scan_objectGuard_iff _ _).1 (h _ _ _ r' hblock)
  revert hquote
  decide

end Pub
end SchemaDdl
