/-!
# Field types

The type of a model member before any dialect maps it to SQL: a scalar, an enumeration stored as
another type, an optional value, or a type that no dialect knows.  A dialect looks a type up
under its key, in which options are stripped and enumerations replaced by what they are stored
as; only the outermost layer decides whether a type counts as nullable.
-/

namespace SchemaDdl

inductive Scalar
  | i16 | i32 | i64 | u8 | bool | f32 | f64 | decimal | string | chars | bytes | uuid
  | dateTime | time | xml
  deriving DecidableEq, Repr, Inhabited

def Scalar.display : Scalar → String
  | i16 => "i16"
  | i32 => "i32"
  | i64 => "i64"
  | u8 => "u8"
  | bool => "bool"
  | f32 => "f32"
  | f64 => "f64"
  | decimal => "Decimal"
  | string => "String"
  | chars => "Vec<char>"
  | bytes => "Vec<u8>"
  | uuid => "Uuid"
  | dateTime => "NaiveDateTime"
  | time => "NaiveTime"
  | xml => "Xml"

inductive FieldType
  | scalar (s : Scalar)
  /-- An enumeration stored as `repr`. -/
  | enumeration (name : String) (repr : FieldType)
  | nullable (inner : FieldType)
  /-- A type that no dialect knows. -/
  | custom (name : String)
  deriving DecidableEq, Repr, Inhabited

namespace FieldType

/-- The type that dialects look up: without options, enumerations replaced by their
representation. -/
def lookupKey : FieldType → FieldType
  | nullable inner => inner.lookupKey
  | enumeration _ repr => repr.lookupKey
  | scalar s => scalar s
  | custom name => custom name

def isNullable : FieldType → Bool
  | nullable _ => true
  | _ => false

/-- How a type is written; an enumeration shows its name only. -/
def display : FieldType → String
  | scalar s => s.display
  | enumeration name _ => name
  | nullable inner => "Option<" ++ inner.display ++ ">"
  | custom name => name

/-- The integer types, which may represent an enumeration. -/
def isInteger : FieldType → Bool
  | scalar .i16 | scalar .i32 | scalar .i64 | scalar .u8 => true
  | _ => false

@[simp] theorem lookupKey_nullable (t : FieldType) : (nullable t).lookupKey = t.lookupKey := rfl

@[simp] theorem lookupKey_enumeration (n : String) (t : FieldType) :
    (enumeration n t).lookupKey = t.lookupKey := rfl

@[simp] theorem lookupKey_lookupKey (t : FieldType) : t.lookupKey.lookupKey = t.lookupKey := by
  induction t with
  | scalar | custom => rfl
  | enumeration _ _ ih => exact ih
  | nullable _ ih => exact ih

theorem lookupKey_cases (t : FieldType) :
    (∃ s, t.lookupKey = scalar s) ∨ ∃ n, t.lookupKey = custom n := by
  induction t with
  | scalar s => exact .inl ⟨s, rfl⟩
  | custom n => exact .inr ⟨n, rfl⟩
  | enumeration _ _ ih => exact ih
  | nullable _ ih => exact ih

end FieldType

/-- Declared enumerations by name, with the type each is stored as. -/
abbrev EnumTable := List (String × FieldType)

end SchemaDdl
