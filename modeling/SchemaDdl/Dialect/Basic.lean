import SchemaDdl.Number.Digits
import SchemaDdl.Table

/-!
# Dialects

A dialect is what one database contributes to rendering: its types, its autoincrement syntax, the
names of constraints and indexes, and the shape of a few statements.  Everything else is the same
for all.
-/

namespace SchemaDdl

structure SqlType where
  name : String
  /-- Takes a length in parentheses. -/
  variableLength : Bool
  deriving DecidableEq, Repr, Inhabited

namespace SqlType

def fixed (name : String) : SqlType := ⟨name, false⟩

def varying (name : String) : SqlType := ⟨name, true⟩

/-- The type name with its length: the given one, else the spelling of "maximum" if there is
one. -/
def sized (t : SqlType) (maxLength : Option Nat) (maxSpelling : Option String) : String :=
  if t.variableLength then
    match maxLength, maxSpelling with
    | some n, _ => t.name ++ "(" ++ Number.decimal n ++ ")"
    | none, some spelling => t.name ++ "(" ++ spelling ++ ")"
    | none, none => t.name
  else t.name

end SqlType

/-- What a database contributes to rendering. -/
structure Dialect where
  name : String
  /-- The schema of tables and sequences that declare none. -/
  defaultSchema : String
  /-- The table of SQL types by lookup key. -/
  types : List (FieldType × SqlType)
  /-- The SQL type of a lookup key: that of its first entry in the table, unless a dialect maps it
  in a way of its own. -/
  mapType : FieldType → Option SqlType := fun key => types.lookup key
  /-- The length of variable-length types without one. -/
  maxSpelling : Option String := none
  /-- A type that replaces the mapping for autoincrement columns, by lookup key. -/
  autoIncrementType : FieldType → Option String := fun _ => none
  /-- What follows the type of an autoincrement column. -/
  autoIncrementModifier : Option String := none
  primaryKeyName : (table : String) → String
  foreignKeyName : (table column refTable refColumn : String) → String
  uniqueName : (table column : String) → String
  indexName : (table column : String) → String
  /-- The statement that gives a column a default, the literal being quoted already. -/
  defaultValueSql : Table → (column literal : String) → String := fun table column literal =>
    "ALTER TABLE " ++ table.qualified ++ " ALTER COLUMN " ++ column ++ " SET DEFAULT " ++ literal
      ++ ";"
  computedColumnSql : (column type expression : String) → String := fun column type expression =>
    column ++ " " ++ type ++ " GENERATED ALWAYS AS (" ++ expression ++ ") STORED"
  inlineIfNotExists : Bool := true
  /-- What comes before the statements of a table, by whether it may exist already. -/
  beforeCreateTable : Table → (ifNotExists : Bool) → Option String := fun _ _ => none
  afterCreateTable : Table → (ifNotExists : Bool) → Option String := fun _ _ => none

end SchemaDdl
