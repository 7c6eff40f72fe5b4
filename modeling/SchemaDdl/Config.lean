import SchemaDdl.SchemaFile.Reader

/-!
# Configuration

A configuration may name a dialect and a header line for generated text.  The dialect used is the
one asked for, else the one of the schema file, else the configured one, else the default.
-/

namespace SchemaDdl

structure Config where
  dialect : Option Builtin := none
  header : Option String := none
  deriving DecidableEq, Repr, Inhabited

namespace Config

def ofValue? (v : Toml.Value) : Option Config := do
  let f ← v.record? ["dialect", "header"]
  let dialect ← f.optional "dialect" Builtin.ofValue?
  let header ← f.optional "header" Toml.Value.text?
  some { dialect, header }

def parse (text : String) : Except DdlError Config :=
  match (Toml.parse text).bind ofValue? with
  | some c => .ok c
  | none => .error .toml

/-- The dialect to use. -/
def resolveDialect (c : Config) (asked file : Option Builtin) : Builtin :=
  ((asked.or file).or c.dialect).getD .mssql

end Config
end SchemaDdl
