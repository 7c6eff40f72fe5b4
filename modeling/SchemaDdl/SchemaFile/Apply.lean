import SchemaDdl.Builder
import SchemaDdl.SchemaFile.Basic
import SchemaDdl.FieldType.Parser

/-!
# Applying schema files

The models of a file are claimed on the resolver, so that foreign keys between them resolve by
name whatever their order, and then the script is queued: its operations in order, or one
create-table per model when there is none.
-/

namespace SchemaDdl

/-- The default of a field as text; only scalars have one. -/
def Toml.Value.scalarText? : Toml.Value → Option String
  | .scalar s => some s.display
  | _ => none

def Member.applyOptional {α : Type} (edit : Member → α → Member) (value : Option α) (m : Member) :
    Member :=
  match value with
  | some v => edit m v
  | none => m

def Member.applyFlag (edit : Member → Member) (flag : Bool) (m : Member) : Member :=
  if flag then edit m else m

namespace FieldDecl

/-- The annotations of a field before its default. -/
def annotateColumn (f : FieldDecl) (m : Member) : Member :=
  m |> Member.applyOptional Member.column f.column
    |> Member.applyOptional Member.order f.order
    |> Member.applyOptional Member.typeName f.typeName
    |> Member.applyFlag Member.key f.key
    |> Member.applyFlag Member.autoIncrement f.autoIncrement
    |> Member.applyFlag Member.required f.required
    |> Member.applyFlag Member.unique f.unique
    |> Member.applyOptional (fun m kind => m.annotate (.index (kind = .unique))) f.index
    |> Member.applyOptional Member.maxLength f.maxLength
    |> Member.applyOptional Member.stringLength f.stringLength

/-- The annotations of a field after its default. -/
def annotateRest (f : FieldDecl) (m : Member) : Member :=
  m |> Member.applyOptional Member.computed f.computed
    |> Member.applyOptional (fun m target => m.references target.1 target.2) f.foreignKey
    |> Member.applyFlag Member.notMapped f.notMapped

/-- The text of the default, if there is one; it must be a scalar. -/
def defaultText (f : FieldDecl) (model : String) : Except DdlError (Option String) :=
  match f.default with
  | none => .ok none
  | some value =>
    match value.scalarText? with
    | some text => .ok (some text)
    | none => .error (.schema (.defaultNotScalar model f.name))

def toMember (f : FieldDecl) (model : String) (enums : EnumTable) : Except DdlError Member :=
  match FieldType.parse enums f.type with
  | .error e => .error e
  | .ok type =>
    match f.defaultText model with
    | .error e => .error e
    | .ok text =>
      let m := f.annotateColumn { ident := f.name, type }
      .ok (f.annotateRest (m.applyOptional Member.defaultValue text))

end FieldDecl

namespace ModelDecl

/-- The members of some fields, or the failure of the first field that has one. -/
def members (model : String) (enums : EnumTable) :
    List FieldDecl → Except DdlError (List Member)
  | [] => .ok []
  | f :: rest =>
    match f.toMember model enums with
    | .error e => .error e
    | .ok m =>
      match members model enums rest with
      | .error e => .error e
      | .ok ms => .ok (m :: ms)

/-- The table annotation: a schema alone goes with the model's own name. -/
def tableSettings (d : ModelDecl) : Option TableSettings :=
  match d.table, d.schema with
  | some name, schema => some { name, schema }
  | none, some schema => some { name := d.name, schema := some schema }
  | none, none => none

def toModel (d : ModelDecl) (enums : EnumTable) : Except DdlError Model :=
  match members d.name enums d.fields with
  | .error e => .error e
  | .ok members => .ok { Model.named d.name with table := d.tableSettings, members }

end ModelDecl

namespace SchemaFile

/-- The enumerations with the types they are stored as.  Of several texts that are no integer types
the first in the order of the list is reported. -/
def readEnumTable : List (String × String) → Except DdlError EnumTable
  | [] => .ok []
  | (name, text) :: rest =>
    match FieldType.parseRepr text with
    | .error e => .error e
    | .ok repr =>
      match readEnumTable rest with
      | .error e => .error e
      | .ok table => .ok ((name, repr) :: table)

def enumTable (f : SchemaFile) : Except DdlError EnumTable :=
  readEnumTable f.enums

/-- The models of some declarations that come after others of the names `seen`. -/
def readModels (enums : EnumTable) (seen : List String) :
    List ModelDecl → Except DdlError (List Model)
  | [] => .ok []
  | d :: rest =>
    if d.name ∈ seen then .error (.schema (.declaredTwice d.name))
    else
      match d.toModel enums with
      | .error e => .error e
      | .ok m =>
        match readModels enums (d.name :: seen) rest with
        | .error e => .error e
        | .ok ms => .ok (m :: ms)

def toModels (f : SchemaFile) : Except DdlError (List Model) :=
  match f.enumTable with
  | .error e => .error e
  | .ok enums => readModels enums [] f.models

/-- Claims models in order, and gives the definitions held. -/
def claimAll (r : Resolver) : List Model → Except DdlError (List Model) × Resolver
  | [] => (.ok [], r)
  | m :: rest =>
    match r.claim m with
    | (.error e, r) => (.error e, r)
    | (.ok held, r) =>
      match claimAll r rest with
      | (.error e, r) => (.error e, r)
      | (.ok ms, r) => (.ok (held :: ms), r)

/-- The model that a name stands for, of those that a file declares: they are kept under their
identifiers, and the names of a file are distinct. -/
def modelNamed? (models : List Model) (name : String) : Option Model :=
  models.find? fun m => m.ident = name

def findModel (models : List Model) (name : String) : Except DdlError Model :=
  match modelNamed? models name with
  | some m => .ok m
  | none => .error (.schema (.unknownModel name))

def request (models : List Model) : Operation → Except DdlError Request
  | .createSchema name => .ok (.createSchema name)
  | .dropSchema name => .ok (.dropSchema name)
  | .createTable model flag => (findModel models model).map (.createTable · flag)
  | .dropTable model flag => (findModel models model).map (.dropTable · flag)
  | .truncateTable model => (findModel models model).map .truncateTable
  | .createSequence s => .ok (.createSequence s)
  | .dropSequence name => .ok (.dropSequence name)
  | .sql text => .ok (.customSql text)

/-- The requests of a script, or the failure of its first operation that has one. -/
def requests (models : List Model) : List Operation → Except DdlError (List Request)
  | [] => .ok []
  | op :: rest =>
    match request models op with
    | .error e => .error e
    | .ok q =>
      match requests models rest with
      | .error e => .error e
      | .ok qs => .ok (q :: qs)

/-- A table to create for each declaration, its model looked up by name.  A declaration without a
model is passed over. -/
def creates (models : List Model) : List ModelDecl → List Request
  | [] => []
  | d :: rest =>
    match modelNamed? models d.name with
    | some m => .createTable m false :: creates models rest
    | none => creates models rest

/-- What a file queues, its models being held. -/
def queue (f : SchemaFile) (models : List Model) : Except DdlError (List Request) :=
  if f.script.isEmpty then .ok (creates models f.models) else requests models f.script

/-- Claims the models of a file and adds its requests to a builder. -/
def apply (f : SchemaFile) (b : Builder) (r : Resolver) : Except DdlError Builder × Resolver :=
  match f.toModels with
  | .error e => (.error e, r)
  | .ok models =>
    match claimAll r models with
    | (.error e, r) => (.error e, r)
    | (.ok held, r) =>
      match f.queue held with
      | .error e => (.error e, r)
      | .ok queue => (.ok { b with queue := b.queue ++ queue }, r)

end SchemaFile
end SchemaDdl
