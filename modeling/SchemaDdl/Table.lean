import SchemaDdl.Column.Basic

/-!
# Tables

A table has its name and schema resolved against a default schema.  Its columns are filled in
only where a table is created or described.
-/

namespace SchemaDdl

structure Table where
  model : ModelId
  name : String
  schema : String
  columns : List Column := []
  deriving DecidableEq, Repr, Inhabited

namespace Table

def qualified (t : Table) : String :=
  t.schema ++ "." ++ t.name

/-- The table of a model, without columns. -/
def resolve (r : Resolver) (m : Model) (defaultSchema : String) : Table × Resolver :=
  let (name, r) := r.resolveTable m
  ({ model := m.id, name := name.name, schema := name.schemaOr defaultSchema }, r)

/-- The table of a model with its columns in order. -/
def describe (r : Resolver) (m : Model) (defaultSchema : String) : Table × Resolver :=
  let (columns, r) := Column.extract r m
  let (table, r) := resolve r m defaultSchema
  ({ table with columns }, r)

end Table
end SchemaDdl
