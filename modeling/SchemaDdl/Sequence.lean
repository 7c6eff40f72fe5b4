import SchemaDdl.Text.Blank

/-!
# Sequences

A sequence has a name, an optional schema and clauses that are all optional.
-/

namespace SchemaDdl

structure SequenceName where
  name : String
  schema : Option String := none
  deriving DecidableEq, Repr, Inhabited

/-- The declared schema, or the default one when none or a blank one is declared. -/
def SequenceName.schemaOr (s : SequenceName) (defaultSchema : String) : String :=
  (Text.nonBlank s.schema).getD defaultSchema

def SequenceName.qualified (s : SequenceName) (defaultSchema : String) : String :=
  s.schemaOr defaultSchema ++ "." ++ s.name

structure Sequence where
  name : SequenceName
  dbType : Option String := none
  start : Option Int := none
  increment : Option Int := none
  minValue : Option Int := none
  maxValue : Option Int := none
  cycle : Option Bool := none
  deriving DecidableEq, Repr, Inhabited

end SchemaDdl
