import SchemaDdl.Proofs.Request.Rendering

/-!
# The wording of statements

What the statements about a table say, spelled out: the type and the line of a column as relations
between the column and a text, the rest as text over the schema and the name of the table.  The
lines that the columns of a block can have are the spelled ones (`Statement.columnLine_eq_ok_iff`),
a block starts with its heading (`Statement.exists_heading`), and its foreign keys are spelled with
the schema that stands for a blank one (`Statement.foreignKey_eq_referring`).
-/

namespace SchemaDdl

open SchemaDdl.Text (isBlank nonBlank)

/-! ## Types -/

/-- The text of an SQL type.  One that takes a length has the given length or, without one, what
the dialect writes for the longest, if it writes anything. -/
inductive SqlType.Sized (t : SqlType) (maxLength : Option Nat) (maxSpelling : Option String) :
    String → Prop
  | fixed (h : t.variableLength = false) : Sized t maxLength maxSpelling t.name
  | length {n : Nat} (h : t.variableLength = true) (hlength : maxLength = some n) :
      Sized t maxLength maxSpelling (t.name ++ "(" ++ toString n ++ ")")
  | longest {spelling : String} (h : t.variableLength = true) (hlength : maxLength = none)
      (hspelling : maxSpelling = some spelling) :
      Sized t maxLength maxSpelling (t.name ++ "(" ++ spelling ++ ")")
  | bare (h : t.variableLength = true) (hlength : maxLength = none)
      (hspelling : maxSpelling = none) : Sized t maxLength maxSpelling t.name

theorem SqlType.sized_eq_iff {t : SqlType} {maxLength : Option Nat} {maxSpelling : Option String}
    {text : String} : t.sized maxLength maxSpelling = text ↔ t.Sized maxLength maxSpelling text := by
  constructor
  · rintro rfl
    unfold sized
    cases hvariable : t.variableLength with
    | false => exact .fixed hvariable
    | true =>
      rw [if_pos rfl]
      cases hlength : maxLength with
      | some n => exact .length hvariable rfl
      | none =>
        cases hspelling : maxSpelling with
        | some spelling => exact .longest hvariable rfl rfl
        | none => exact .bare hvariable rfl rfl
  · intro h
    unfold sized
    cases h with
    | fixed hvariable => rw [hvariable]; rfl
    | length hvariable hlength => rw [hvariable, hlength]; rfl
    | longest hvariable hlength hspelling => rw [hvariable, hlength, hspelling]; rfl
    | bare hvariable hlength hspelling => rw [hvariable, hlength, hspelling]; rfl

namespace Statement

/-- The SQL type of a column: the one that is written on it unless that is blank, else the
dialect's own for an autoincrement column that is not nullable, if it has one, else what the
dialect maps the type of the column to. -/
inductive Typed (d : Dialect) (c : Column) : String → Prop
  | written {text : String} (h : nonBlank c.typeName = some text) : Typed d c text
  | serial {text : String} (hwritten : nonBlank c.typeName = none)
      (hautoIncrement : c.autoIncrement = true) (hnullable : c.type.isNullable = false)
      (h : d.autoIncrementType c.type.lookupKey = some text) : Typed d c text
  | mapped {t : SqlType} {text : String} (hwritten : nonBlank c.typeName = none)
      (hserial : c.autoIncrement = true → c.type.isNullable = false →
        d.autoIncrementType c.type.lookupKey = none)
      (h : d.mapType c.type.lookupKey = some t) (hsized : t.Sized c.maxLength d.maxSpelling text) :
      Typed d c text

variable {d : Dialect} {c : Column} {text : String}

/-- What the dialect has of its own for an autoincrement column that is not nullable. -/
theorem serial_eq_some_iff :
    (if c.autoIncrement && !c.type.isNullable then d.autoIncrementType c.type.lookupKey
        else none) = some text ↔
      c.autoIncrement = true ∧ c.type.isNullable = false ∧
        d.autoIncrementType c.type.lookupKey = some text := by
  cases c.autoIncrement <;> cases c.type.isNullable <;> simp

theorem serial_eq_none_iff :
    (if c.autoIncrement && !c.type.isNullable then d.autoIncrementType c.type.lookupKey
        else none) = none ↔
      (c.autoIncrement = true → c.type.isNullable = false →
        d.autoIncrementType c.type.lookupKey = none) := by
  cases c.autoIncrement <;> cases c.type.isNullable <;> simp

/-- The types that a column can have in SQL. -/
theorem columnType_eq_ok_iff : columnType d c = .ok text ↔ Typed d c text := by
  unfold columnType
  constructor
  · intro h
    split at h
    · next written hwritten =>
      cases h
      exact .written hwritten
    · next hwritten =>
      simp only at h
      split at h
      · next name hserial =>
        cases h
        obtain ⟨hautoIncrement, hnullable, hserial⟩ := serial_eq_some_iff.1 hserial
        exact .serial hwritten hautoIncrement hnullable hserial
      · next hserial =>
        split at h
        · next t hmapped =>
          cases h
          exact .mapped hwritten (serial_eq_none_iff.1 hserial) hmapped (SqlType.sized_eq_iff.1 rfl)
        · cases h
  · intro h
    cases h with
    | written hwritten => simp only [hwritten]
    | serial hwritten hautoIncrement hnullable hserial =>
      simp only [hwritten, serial_eq_some_iff.2 ⟨hautoIncrement, hnullable, hserial⟩]
    | mapped hwritten hserial hmapped hsized =>
      simp only [hwritten, serial_eq_none_iff.2 hserial, hmapped, SqlType.sized_eq_iff.2 hsized]

/-! ## Lines -/

/-- The line of a column: its name, its type and what the dialect adds to an autoincrement column,
and whether it may be null; or what the dialect writes for a computed one. -/
inductive Line (d : Dialect) (c : Column) : String → Prop
  | plain {type : String} (htype : Typed d c type) (h : nonBlank c.computed = none) :
      Line d c ("    " ++ c.name ++ " " ++ type
        ++ (if c.autoIncrement then (d.autoIncrementModifier.map (" " ++ ·)).getD "" else "")
        ++ (if c.required then " NOT NULL" else " NULL"))
  | computed {type expression : String} (htype : Typed d c type)
      (h : nonBlank c.computed = some expression) :
      Line d c ("    " ++ d.computedColumnSql c.name type expression)

theorem modifier_eq (d : Dialect) (c : Column) :
    modifier d c
      = if c.autoIncrement then (d.autoIncrementModifier.map (" " ++ ·)).getD "" else "" := by
  unfold modifier
  cases d.autoIncrementModifier with
  | none => cases c.autoIncrement <;> rfl
  | some text => rfl

/-- The lines that a column can have in a block. -/
theorem columnLine_eq_ok_iff : columnLine d c = .ok text ↔ Line d c text := by
  unfold columnLine
  constructor
  · intro h
    split at h
    · cases h
    · next type htype =>
      have htyped := columnType_eq_ok_iff.1 htype
      split at h
      · next expression hcomputed =>
        cases h
        exact .computed htyped hcomputed
      · next hplain =>
        cases h
        rw [modifier_eq]
        exact .plain htyped hplain
  · intro h
    cases h with
    | plain htype hplain =>
      simp only [columnType_eq_ok_iff.2 htype, Column.computedExpression, hplain, modifier_eq]
    | computed htype hcomputed =>
      simp only [columnType_eq_ok_iff.2 htype, Column.computedExpression, hcomputed]

/-! ## Blocks -/

/-- What a block that creates a table starts with: what the dialect puts before it, and a CREATE
TABLE of the table by its schema and its name. -/
def heading (d : Dialect) (t : Table) (ifNotExists : Bool) : String :=
  ((d.beforeCreateTable t ifNotExists).map (· ++ "\n")).getD ""
    ++ ("CREATE TABLE " ++ (if ifNotExists && d.inlineIfNotExists then "IF NOT EXISTS " else "")
      ++ (t.schema ++ "." ++ t.name) ++ " (\n")

theorem exists_heading {r : Resolver} {t : Table} {ifNotExists : Bool} {block : String}
    (h : (createTable d r t ifNotExists).1 = .ok block) :
    ∃ rest, block = heading d t ifNotExists ++ rest := by
  obtain ⟨lines, -, rfl, -⟩ := createTable_eq_ok (Prod.ext h rfl)
  obtain ⟨more, hparts⟩ : ∃ more, tableText d t ifNotExists lines
      (r.resolveAll (Column.keys t.columns)).1
        = "\n".intercalate ((d.beforeCreateTable t ifNotExists).toList
          ++ tableStatement d t ifNotExists lines :: more) := by
    unfold tableText tableParts
    simp only [List.append_assoc, List.cons_append]
    exact ⟨_, rfl⟩
  have hstatement : tableStatement d t ifNotExists lines
      = "CREATE TABLE " ++ (if ifNotExists && d.inlineIfNotExists then "IF NOT EXISTS " else "")
        ++ (t.schema ++ "." ++ t.name) ++ " (\n" ++ (",\n".intercalate lines ++ "\n);") :=
    String.append_assoc
  refine ⟨"\n".intercalate ((",\n".intercalate lines ++ "\n);") :: more), ?_⟩
  rw [hparts, hstatement, heading]
  cases d.beforeCreateTable t ifNotExists with
  | none =>
    rw [Option.map_none, Option.getD_none, String.empty_append, Option.toList_none, List.nil_append,
      String.intercalate_cons_append]
  | some text =>
    rw [Option.map_some, Option.getD_some, Option.toList_some, List.cons_append, List.nil_append,
      String.intercalate_cons_cons, String.intercalate_cons_append, ← String.append_assoc]

/-! ## Foreign keys -/

/-- The statement of a foreign key.  It refers to the table of the target in its schema, for which
the default of the dialect stands if it is blank. -/
def referring (d : Dialect) (t : Table) (c : Column) (target : ReferencedColumn) : String :=
  "ALTER TABLE " ++ (t.schema ++ "." ++ t.name) ++ " ADD CONSTRAINT "
    ++ d.foreignKeyName t.name c.name target.table.name target.column
    ++ " FOREIGN KEY (" ++ c.name ++ ") REFERENCES "
    ++ (if isBlank target.table.schema then d.defaultSchema else target.table.schema)
    ++ "." ++ target.table.name ++ " (" ++ target.column ++ ");"

theorem foreignKey_eq_referring (d : Dialect) (t : Table) (c : Column)
    (target : ReferencedColumn) : foreignKey d t c target = referring d t c target := rfl

end Statement
end SchemaDdl
