import SchemaDdl.SchemaFile.Basic
import SchemaDdl.Toml.Reader
import SchemaDdl.Toml.Record

/-!
# Reading schema files

The structure of a schema file as TOML records.  A text that is not TOML, or that does not fit
the structure, is refused as a whole.
-/

namespace SchemaDdl

open SchemaDdl.Toml (Value Fields)

/-- A dialect by a name that files may use. -/
def Builtin.ofValue? (v : Value) : Option Builtin :=
  v.name?.bind ofFileName?

def IndexKind.ofValue? (v : Value) : Option IndexKind :=
  v.name?.bind fun name =>
    if name = "plain" then some plain else if name = "unique" then some unique else none

def foreignKeyOfValue? (v : Value) : Option (String × String) := do
  let f ← v.record? ["model", "field"]
  let model ← f.required "model" Value.text?
  let field ← f.required "field" Value.text?
  some (model, field)

def FieldDecl.fieldNames : List String :=
  ["name", "type", "key", "auto_increment", "required", "unique", "not_mapped", "column", "order",
   "type_name", "index", "max_length", "string_length", "default", "computed", "foreign_key"]

def FieldDecl.ofValue? (v : Value) : Option FieldDecl := do
  let f ← v.record? fieldNames
  let name ← f.required "name" Value.text?
  let type ← f.required "type" Value.text?
  let key ← f.withDefault "key" false Value.boolean?
  let autoIncrement ← f.withDefault "auto_increment" false Value.boolean?
  let required ← f.withDefault "required" false Value.boolean?
  let unique ← f.withDefault "unique" false Value.boolean?
  let notMapped ← f.withDefault "not_mapped" false Value.boolean?
  let column ← f.optional "column" Value.text?
  let order ← f.optional "order" Value.natural?
  let typeName ← f.optional "type_name" Value.text?
  let index ← f.optional "index" IndexKind.ofValue?
  let maxLength ← f.optional "max_length" Value.natural?
  let stringLength ← f.optional "string_length" Value.natural?
  let default ← f.optional "default" Value.any?
  let computed ← f.optional "computed" Value.text?
  let foreignKey ← f.optional "foreign_key" foreignKeyOfValue?
  some
    { name, type, key, autoIncrement, required, unique, notMapped, column, order, typeName, index,
      maxLength, stringLength, default, computed, foreignKey }

def ModelDecl.ofValue? (v : Value) : Option ModelDecl := do
  let f ← v.record? ["name", "table", "schema", "field"]
  let name ← f.required "name" Value.text?
  let table ← f.optional "table" Value.text?
  let schema ← f.optional "schema" Value.text?
  let fields ← f.withDefault "field" [] (Value.list? FieldDecl.ofValue?)
  some { name, table, schema, fields }

namespace Operation

def readSchemaName (f : Fields) : Option String :=
  f.required "name" Value.text?

def readSequenceName (f : Fields) : Option SequenceName := do
  let name ← f.required "name" Value.text?
  let schema ← f.optional "schema" Value.text?
  some { name, schema }

def readSequence (f : Fields) : Option Sequence := do
  let name ← readSequenceName f
  let dbType ← f.optional "db_type" Value.text?
  let start ← f.optional "start" Value.integer?
  let increment ← f.optional "increment_by" Value.integer?
  let minValue ← f.optional "min_value" Value.integer?
  let maxValue ← f.optional "max_value" Value.integer?
  let cycle ← f.optional "cycle" Value.boolean?
  some { name, dbType, start, increment, minValue, maxValue, cycle }

def readTable (flag : String) (f : Fields) : Option (String × Bool) := do
  let model ← f.required "model" Value.text?
  let set ← f.withDefault flag false Value.boolean?
  some (model, set)

/-- The operations by name, each with the names of its fields and how to read them. -/
def forms : List (String × List String × (Fields → Option Operation)) :=
  [("create_schema", ["name"], fun f => (readSchemaName f).map createSchema),
   ("drop_schema", ["name"], fun f => (readSchemaName f).map dropSchema),
   ("create_table", ["model", "if_not_exists"],
    fun f => (readTable "if_not_exists" f).map fun (m, b) => createTable m b),
   ("drop_table", ["model", "if_exists"],
    fun f => (readTable "if_exists" f).map fun (m, b) => dropTable m b),
   ("truncate_table", ["model"], fun f => (f.required "model" Value.text?).map truncateTable),
   ("create_sequence",
    ["name", "schema", "db_type", "start", "increment_by", "min_value", "max_value", "cycle"],
    fun f => (readSequence f).map createSequence),
   ("drop_sequence", ["name", "schema"], fun f => (readSequenceName f).map dropSequence),
   ("sql", ["text"], fun f => (f.required "text" Value.text?).map sql)]

/-- The name of an operation and what else its entry holds: a table without the name, or the
elements after it. -/
def splitName (v : Value) : Option (String × Value) :=
  match v.entries? with
  | some entries =>
    ((entries.lookup "op").bind Value.text?).map fun name =>
      (name, .table .braces (entries.filter fun e => e.1 ≠ "op"))
  | none =>
    match v.items? with
    | some (first :: items) => first.text?.map fun name => (name, .array items)
    | _ => none

/-- Whether an entry in array form has no more elements than the operation has fields. -/
def fitsFields (names : List String) (v : Value) : Bool :=
  match v.items? with
  | some items => items.length ≤ names.length
  | none => true

def ofValue? (v : Value) : Option Operation := do
  let (name, content) ← splitName v
  let (names, read) ← forms.lookup name
  if fitsFields names content then
    let f ← content.record? names
    read f
  else none

end Operation

namespace SchemaFile

def readEnums (v : Value) : Option (List (String × String)) :=
  v.entries?.bind fun entries => entries.mapM fun (name, v) => v.text?.map fun t => (name, t)

def ofValue? (v : Value) : Option SchemaFile := do
  let f ← v.record? ["dialect", "enums", "model", "script"]
  let dialect ← f.optional "dialect" Builtin.ofValue?
  let enums ← f.withDefault "enums" [] readEnums
  let models ← f.withDefault "model" [] (Value.list? ModelDecl.ofValue?)
  let script ← f.withDefault "script" [] (Value.list? Operation.ofValue?)
  some { dialect, enums, models, script }

def parse (text : String) : Except DdlError SchemaFile :=
  match (Toml.parse text).bind ofValue? with
  | some file => .ok file
  | none => .error .toml

end SchemaFile
end SchemaDdl
