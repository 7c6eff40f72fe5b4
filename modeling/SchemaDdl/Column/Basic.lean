import SchemaDdl.Column.Order
import SchemaDdl.Resolver

/-!
# Columns

A column is what the annotations of a mapped member say of it, with its name resolved.
-/

namespace SchemaDdl

open SchemaDdl.Text (nonBlank)

structure Column where
  name : String
  member : String
  type : FieldType
  order : Option Nat
  typeName : Option String
  primaryKey : Bool
  autoIncrement : Bool
  foreignKey : Option ForeignKey
  index : Bool
  indexUnique : Bool
  required : Bool
  unique : Bool
  maxLength : Option Nat
  defaultValue : Option String
  computed : Option String
  deriving DecidableEq, Repr, Inhabited

namespace Column

/-- The column of a member under a name.  Of several annotations of a kind the first counts, and
a maximal length goes before a string length. -/
def ofMember (name : String) (m : Member) : Column :=
  let settings := m.columnSettings
  let index := m.annotations.findSome? Annotation.index?
  { name
    member := m.ident
    type := m.type
    order := settings.bind ColumnSettings.order
    typeName := settings.bind ColumnSettings.typeName
    primaryKey := m.annotations.contains .key
    autoIncrement := m.annotations.contains .autoIncrement
    foreignKey := m.annotations.findSome? Annotation.foreignKey?
    index := index.isSome
    indexUnique := index.getD false
    required := m.annotations.contains .required
    unique := m.annotations.contains .unique
    maxLength :=
      (m.annotations.findSome? Annotation.maxLength?).or
        (m.annotations.findSome? Annotation.stringLength?)
    defaultValue := m.annotations.findSome? Annotation.defaultValue?
    computed := m.annotations.findSome? Annotation.computed? }

def defaultLiteral (c : Column) : Option String :=
  nonBlank c.defaultValue

def computedExpression (c : Column) : Option String :=
  nonBlank c.computed

/-- The column of a member of a model, whether it is mapped or not. -/
def describe (r : Resolver) (m : Model) (member : Member) : Column × Resolver :=
  let (name, r) := r.resolveColumn m member
  (ofMember name member, r)

/-- The columns of some members of a model, in declaration order. -/
def ofMembers (r : Resolver) (m : Model) : List Member → List Column × Resolver
  | [] => ([], r)
  | member :: rest =>
    let (column, r) := describe r m member
    let (columns, r) := ofMembers r m rest
    (column :: columns, r)

/-- The columns of a model, in column order. -/
def extract (r : Resolver) (m : Model) : List Column × Resolver :=
  let (columns, r) := ofMembers r m m.mappedMembers
  (arrange Column.order columns, r)

end Column
end SchemaDdl
