import SchemaDdl.FieldType.Basic

/-!
# Models

A model describes one table: its identity, its identifier, an optional table annotation and its
members, each with a type and annotations.  Value annotations are appended and the first of a
kind counts; the column settings are edited in place on the first column annotation, so the last
edit counts.

A foreign key names its target by identity.  A typed reference also stands for a known
definition, which the resolver looks up in its catalog; by equality of models two references are
the same when their identities are.
-/

namespace SchemaDdl

structure ModelId where
  text : String
  deriving DecidableEq, Repr, Inhabited

/-- What comes before the first `::` of a text. -/
def beforeColons : List Char → List Char
  | [] => []
  | [c] => [c]
  | c :: d :: rest => if c = ':' ∧ d = ':' then [] else c :: beforeColons (d :: rest)

/-- The last path segment of an identity, without generic arguments. -/
def ModelId.shortName (id : ModelId) : String :=
  let base := id.text.toList.takeWhile (· ≠ '<')
  String.ofList (beforeColons base.reverse).reverse

/-- A reference to a model.  A typed one can be described by the catalog, which knows one model for
each identity: typed references of one identity are taken to share one description. -/
structure ModelRef where
  id : ModelId
  typed : Bool
  deriving DecidableEq, Repr, Inhabited

structure ForeignKey where
  model : ModelRef
  member : String
  deriving DecidableEq, Repr, Inhabited

structure ColumnSettings where
  name : Option String := none
  order : Option Nat := none
  typeName : Option String := none
  deriving DecidableEq, Repr, Inhabited

inductive Annotation
  | column (settings : ColumnSettings)
  | key
  | foreignKey (target : ForeignKey)
  | index (unique : Bool)
  | autoIncrement
  | required
  | unique
  | maxLength (length : Nat)
  | stringLength (length : Nat)
  | defaultValue (text : String)
  | computed (expression : String)
  | notMapped
  deriving DecidableEq, Repr, Inhabited

namespace Annotation

def column? : Annotation → Option ColumnSettings
  | column s => some s
  | _ => none

def foreignKey? : Annotation → Option ForeignKey
  | foreignKey t => some t
  | _ => none

def index? : Annotation → Option Bool
  | index u => some u
  | _ => none

def maxLength? : Annotation → Option Nat
  | maxLength n => some n
  | _ => none

def stringLength? : Annotation → Option Nat
  | stringLength n => some n
  | _ => none

def defaultValue? : Annotation → Option String
  | defaultValue t => some t
  | _ => none

def computed? : Annotation → Option String
  | computed e => some e
  | _ => none

/-- The annotation with its reference by identity only. -/
def untyped : Annotation → Annotation
  | foreignKey t => foreignKey { t with model := { t.model with typed := false } }
  | a => a

/-- Edits the first column annotation, or appends one. -/
def editColumn (edit : ColumnSettings → ColumnSettings) : List Annotation → List Annotation
  | [] => [column (edit {})]
  | column s :: rest => column (edit s) :: rest
  | a :: rest => a :: editColumn edit rest

end Annotation

structure Member where
  ident : String
  type : FieldType
  annotations : List Annotation := []
  deriving DecidableEq, Repr, Inhabited

namespace Member

def annotate (m : Member) (a : Annotation) : Member :=
  { m with annotations := m.annotations ++ [a] }

def editColumn (m : Member) (edit : ColumnSettings → ColumnSettings) : Member :=
  { m with annotations := Annotation.editColumn edit m.annotations }

def column (m : Member) (name : String) : Member :=
  m.editColumn fun s => { s with name := some name }

def order (m : Member) (n : Nat) : Member :=
  m.editColumn fun s => { s with order := some n }

def typeName (m : Member) (name : String) : Member :=
  m.editColumn fun s => { s with typeName := some name }

def key (m : Member) : Member := m.annotate .key

def autoIncrement (m : Member) : Member := m.annotate .autoIncrement

def required (m : Member) : Member := m.annotate .required

def unique (m : Member) : Member := m.annotate .unique

def index (m : Member) : Member := m.annotate (.index false)

def uniqueIndex (m : Member) : Member := m.annotate (.index true)

/-- A foreign key to a model of the catalog. -/
def foreignKey (m : Member) (id : ModelId) (member : String) : Member :=
  m.annotate (.foreignKey ⟨⟨id, true⟩, member⟩)

/-- A foreign key to a model known only by name. -/
def references (m : Member) (model member : String) : Member :=
  m.annotate (.foreignKey ⟨⟨⟨model⟩, false⟩, member⟩)

def maxLength (m : Member) (n : Nat) : Member := m.annotate (.maxLength n)

def stringLength (m : Member) (n : Nat) : Member := m.annotate (.stringLength n)

def defaultValue (m : Member) (text : String) : Member := m.annotate (.defaultValue text)

def computed (m : Member) (expression : String) : Member := m.annotate (.computed expression)

def notMapped (m : Member) : Member := m.annotate .notMapped

/-- The settings that count: those of the first column annotation. -/
def columnSettings (m : Member) : Option ColumnSettings :=
  m.annotations.findSome? Annotation.column?

def isMapped (m : Member) : Bool :=
  !m.annotations.contains .notMapped

/-- The member with its references by identity only. -/
def untyped (m : Member) : Member :=
  { m with annotations := m.annotations.map Annotation.untyped }

end Member

structure TableSettings where
  name : String
  schema : Option String := none
  deriving DecidableEq, Repr, Inhabited

structure Model where
  id : ModelId
  ident : String
  table : Option TableSettings := none
  members : List Member := []
  deriving DecidableEq, Repr, Inhabited

namespace Model

/-- A model whose identity is its name. -/
def named (name : String) : Model :=
  { id := ⟨name⟩, ident := name }

/-- A model whose identifier is the short form of its identity. -/
def ofId (id : ModelId) : Model :=
  { id, ident := id.shortName }

def withTable (m : Model) (name : String) : Model :=
  { m with table := some { name } }

def withTableIn (m : Model) (name schema : String) : Model :=
  { m with table := some { name, schema := some schema } }

def withMember (m : Model) (member : Member) : Model :=
  { m with members := m.members ++ [member] }

def findMember (m : Model) (ident : String) : Option Member :=
  m.members.find? fun member => member.ident = ident

/-- The members that become columns. -/
def mappedMembers (m : Model) : List Member :=
  m.members.filter Member.isMapped

/-- The model with its references by identity only. -/
def untyped (m : Model) : Model :=
  { m with members := m.members.map Member.untyped }

/-- Equality of definitions: references count by their identity. -/
def Same (a b : Model) : Prop :=
  a.untyped = b.untyped

instance (a b : Model) : Decidable (a.Same b) :=
  inferInstanceAs (Decidable (a.untyped = b.untyped))

theorem Same.untyped_eq {a b : Model} (h : a.Same b) : a.untyped = b.untyped := h

theorem Same.refl (a : Model) : a.Same a := rfl

theorem Same.symm {a b : Model} (h : a.Same b) : b.Same a := Eq.symm h

theorem Same.trans {a b c : Model} (h : a.Same b) (h' : b.Same c) : a.Same c := Eq.trans h h'

/-- Equal definitions agree on identity and identifier. -/
theorem Same.id_eq {a b : Model} (h : a.Same b) : a.id = b.id := by
  have := congrArg Model.id h.untyped_eq
  exact this

theorem Same.ident_eq {a b : Model} (h : a.Same b) : a.ident = b.ident := by
  have := congrArg Model.ident h.untyped_eq
  exact this

theorem Same.table_eq {a b : Model} (h : a.Same b) : a.table = b.table := by
  have := congrArg Model.table h.untyped_eq
  exact this

end Model
end SchemaDdl
