import SchemaDdl.Dialect.Builtin
import SchemaDdl.Sequence
import SchemaDdl.Toml.Value

/-!
# Schema files

A schema file declares enumerations and models, and may hold a script of operations over the
models.
-/

namespace SchemaDdl

inductive IndexKind
  | plain
  | unique
  deriving DecidableEq, Repr, Inhabited

structure FieldDecl where
  name : String
  type : String
  key : Bool := false
  autoIncrement : Bool := false
  required : Bool := false
  unique : Bool := false
  notMapped : Bool := false
  column : Option String := none
  order : Option Nat := none
  typeName : Option String := none
  index : Option IndexKind := none
  maxLength : Option Nat := none
  stringLength : Option Nat := none
  default : Option Toml.Value := none
  computed : Option String := none
  /-- The model and the member that the field refers to. -/
  foreignKey : Option (String × String) := none
  deriving Repr, Inhabited

structure ModelDecl where
  name : String
  table : Option String := none
  schema : Option String := none
  fields : List FieldDecl := []
  deriving Repr, Inhabited

/-- One operation of a script, with models by name. -/
inductive Operation
  | createSchema (name : String)
  | dropSchema (name : String)
  | createTable (model : String) (ifNotExists : Bool)
  | dropTable (model : String) (ifExists : Bool)
  | truncateTable (model : String)
  | createSequence (sequence : Sequence)
  | dropSequence (name : SequenceName)
  | sql (text : String)
  deriving DecidableEq, Repr, Inhabited

structure SchemaFile where
  dialect : Option Builtin := none
  /-- Enumerations with the text of the type each is stored as, under distinct names.  They form a
  map; the order of the list stands for the order in which the map is gone through, which is not
  fixed, and it decides which of several faulty texts is reported. -/
  enums : List (String × String) := []
  models : List ModelDecl := []
  script : List Operation := []
  deriving Repr, Inhabited

end SchemaDdl
