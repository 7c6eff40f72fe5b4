import SchemaDdl.Number.Digits
import SchemaDdl.FieldType.Basic
import SchemaDdl.Text.Quoted

/-!
# What can go wrong

Every failure is a cause with the data that its message shows; `DdlError.message` is the only
place that words them.
-/

namespace SchemaDdl

inductive ParseFault
  /-- A type was read and text is left over. -/
  | trailing (rest : List Char)
  /-- No type starts here. -/
  | noType (rest : List Char)
  /-- The type of an enumeration is no integer type. -/
  | notInteger (type : FieldType)
  deriving DecidableEq, Repr, Inhabited

inductive SchemaFault
  /-- Another definition is held under the identity. -/
  | redefined (id : String)
  | declaredTwice (name : String)
  | unknownModel (name : String)
  | defaultNotScalar (model field : String)
  deriving DecidableEq, Repr, Inhabited

inductive ConfigFault
  /-- The dialect name, trimmed and in lower case. -/
  | unknownDialect (name : String)
  | notFound (path : String)
  deriving DecidableEq, Repr, Inhabited

inductive DdlError
  /-- The dialect maps no type for a column. -/
  | unsupportedType (type : FieldType) (column : String)
  /-- A field type text is refused at a byte position. -/
  | parse (position : Nat) (fault : ParseFault)
  | schema (fault : SchemaFault)
  | config (fault : ConfigFault)
  /-- The text is not TOML, or does not fit the expected structure. -/
  | toml
  | file (reason : String)
  deriving DecidableEq, Repr, Inhabited

def ParseFault.message : ParseFault → String
  | trailing rest => "Unexpected trailing content: '" ++ String.ofList rest ++ "'"
  | noType rest =>
    "Parse failed: Error(Error \x7b input: " ++ Text.quoted rest ++ ", code: TakeWhile1 \x7d)"
  | notInteger type => "'" ++ type.display ++ "' is not an integer type"

def SchemaFault.message : SchemaFault → String
  | redefined id => "model '" ++ id ++ "' is already defined differently"
  | declaredTwice name => "model '" ++ name ++ "' is declared twice"
  | unknownModel name => "unknown model '" ++ name ++ "' in script"
  | defaultNotScalar model field => "default of " ++ model ++ "." ++ field ++ " must be a scalar"

def ConfigFault.message : ConfigFault → String
  | unknownDialect name => "unknown dialect '" ++ name ++ "', expected mssql or postgres"
  | notFound path => path ++ " not found"

/-- The message of a failure.  What is wrong with a TOML text is not told. -/
def DdlError.message : DdlError → String
  | unsupportedType type column =>
    "Database does not support type '" ++ type.display ++ "' [" ++ column ++ "]"
  | parse position fault =>
    "Parse error at position " ++ Number.decimal position ++ ": " ++ fault.message
  | schema fault => "Schema error: " ++ fault.message
  | config fault => "Configuration error: " ++ fault.message
  | toml => "TOML error"
  | file reason => "IO error: " ++ reason

end SchemaDdl
