import SchemaDdl.Cache
import SchemaDdl.Error
import SchemaDdl.Model
import SchemaDdl.Text.Blank

/-!
# Resolving names

A resolver answers which table and column names belong to a model, and which model stands under
an identity.  Names follow from the annotations alone; they are cached per identity, and a cache
entry is never replaced.  `claim` refuses a second, different definition under an identity, so
the cached names keep matching the definition held.

Every operation returns its answer together with the resolver after it.
-/

namespace SchemaDdl

open SchemaDdl.Text (isBlank nonBlank)

/-- A resolved table name; the schema is empty when none was declared. -/
structure TableName where
  name : String
  schema : String := ""
  deriving DecidableEq, Repr, Inhabited

/-- The schema, or the default one when it is blank. -/
def TableName.schemaOr (t : TableName) (defaultSchema : String) : String :=
  if isBlank t.schema then defaultSchema else t.schema

structure ReferencedColumn where
  table : TableName
  column : String
  deriving DecidableEq, Repr, Inhabited

/-- The definitions that typed references stand for, one for each identity.  That two types never
share an identity while describing different models is an assumption. -/
abbrev Catalog := ModelId → Model

/-- The table name that a model declares: its annotation, else its identifier. -/
def Model.tableName (m : Model) : TableName :=
  match m.table with
  | some t => { name := t.name, schema := t.schema.getD "" }
  | none => { name := m.ident }

/-- The column name that a member declares: its settings unless blank, else its identifier. -/
def Member.columnName (m : Member) : String :=
  (nonBlank (m.columnSettings.bind ColumnSettings.name)).getD m.ident

/-- Cached names and held definitions. -/
structure Resolver where
  catalog : Catalog
  tables : Cache ModelId TableName := {}
  columns : Cache (ModelId × String) String := {}
  models : Cache ModelId Model := {}

namespace Resolver

def new (catalog : Catalog) : Resolver := { catalog }

def resolveTable (r : Resolver) (m : Model) : TableName × Resolver :=
  let (name, tables) := r.tables.hold m.id m.tableName
  (name, { r with tables })

def resolveColumn (r : Resolver) (m : Model) (member : Member) : String × Resolver :=
  let (name, columns) := r.columns.hold (m.id, member.ident) member.columnName
  (name, { r with columns })

/-- Makes a model known under its identity; the first one stays. -/
def register (r : Resolver) (m : Model) : Model × Resolver :=
  let (held, models) := r.models.hold m.id m
  (held, { r with models })

/-- Registers a model, or confirms that the definition held is equal to it. -/
def claim (r : Resolver) (m : Model) : Except DdlError Model × Resolver :=
  let (held, r) := r.register m
  if held.Same m then (.ok held, r)
  else (.error (.schema (.redefined m.id.text)), r)

/-- The model of the catalog under an identity, described on first use. -/
def entity (r : Resolver) (id : ModelId) : Model × Resolver :=
  match r.models.get? id with
  | some held => (held, r)
  | none => r.register (r.catalog id)

/-- The target of a reference: what is held, else what the catalog says of a typed one. -/
def lookup (r : Resolver) (ref : ModelRef) : Option Model × Resolver :=
  match r.models.get? ref.id with
  | some held => (some held, r)
  | none =>
    if ref.typed then
      let (held, r) := r.register (r.catalog ref.id)
      (some held, r)
    else (none, r)

/-- The table and column of a foreign key.  An unknown model or member is used as it is
written. -/
def resolveReference (r : Resolver) (key : ForeignKey) : ReferencedColumn × Resolver :=
  match r.lookup key.model with
  | (some target, r) =>
    let (column, r) :=
      match target.findMember key.member with
      | some member => r.resolveColumn target member
      | none => (key.member, r)
    let (table, r) := r.resolveTable target
    ({ table, column }, r)
  | (none, r) => ({ table := { name := key.model.id.shortName }, column := key.member }, r)

end Resolver
end SchemaDdl
