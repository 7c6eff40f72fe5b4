import Mathlib.Data.List.TakeWhile
import SchemaDdl.FieldType.Parser

/-!
# The grammar of field types

What a text denotes, as a relation and without a reading order.  A name means a scalar, else a
declared enumeration, else a custom type (`Names`); a name with an argument means what the two
make together (`Applies`); and a text denotes a type when it is spelled by one of the rules of
`Denotes`.  The rules leave open where a path, a gap or an argument ends.
-/

namespace SchemaDdl.FieldType

open SchemaDdl.Text (isAlphanumeric)

/-! ## What names mean -/

/-- The names that mean a scalar by themselves. -/
inductive Primitive : String → Scalar → Prop
  | i16 : Primitive "i16" .i16
  | i32 : Primitive "i32" .i32
  | i64 : Primitive "i64" .i64
  | u8 : Primitive "u8" .u8
  | bool : Primitive "bool" .bool
  | f32 : Primitive "f32" .f32
  | f64 : Primitive "f64" .f64
  | decimal : Primitive "Decimal" .decimal
  | string : Primitive "String" .string
  | str : Primitive "str" .string
  | uuid : Primitive "Uuid" .uuid
  | naiveDateTime : Primitive "NaiveDateTime" .dateTime
  | dateTime : Primitive "DateTime" .dateTime
  | naiveTime : Primitive "NaiveTime" .time
  | xml : Primitive "Xml" .xml

/-- What a name means without an argument. -/
inductive Names (enums : EnumTable) (name : String) : FieldType → Prop
  | primitive {s : Scalar} (h : Primitive name s) : Names enums name (scalar s)
  | enumeration {repr : FieldType} (h : ∀ s, ¬ Primitive name s)
      (hrepr : enums.lookup name = some repr) : Names enums name (enumeration name repr)
  | custom (h : ∀ s, ¬ Primitive name s) (hnone : enums.lookup name = none) :
      Names enums name (custom name)

/-- What a name means with an argument. -/
inductive Applies : String → FieldType → FieldType → Prop
  | option (t : FieldType) : Applies "Option" t (nullable t)
  | bytes : Applies "Vec" (scalar .u8) (scalar .bytes)
  | chars : Applies "Vec" (custom "char") (scalar .chars)
  | dateTime (t : FieldType) : Applies "DateTime" t (scalar .dateTime)
  | other {name : String} {t : FieldType} (hoption : name ≠ "Option") (hdate : name ≠ "DateTime")
      (hvec : name = "Vec" → t ≠ scalar .u8 ∧ t ≠ custom "char") :
      Applies name t (custom (name ++ "<" ++ t.display ++ ">"))

theorem lookup_plainNames_eq_some_iff {name : String} {s : Scalar} :
    plainNames.lookup name = some s ↔ Primitive name s := by
  constructor
  · intro h
    obtain ⟨before, after, heq, -⟩ := List.lookup_eq_some_iff.1 h
    have hmem : (name, s) ∈ plainNames := by
      rw [heq]
      simp
    simp only [plainNames, List.mem_cons, Prod.mk.injEq, List.not_mem_nil, or_false] at hmem
    rcases hmem with ⟨rfl, rfl⟩ | ⟨rfl, rfl⟩ | ⟨rfl, rfl⟩ | ⟨rfl, rfl⟩ | ⟨rfl, rfl⟩ | ⟨rfl, rfl⟩ |
      ⟨rfl, rfl⟩ | ⟨rfl, rfl⟩ | ⟨rfl, rfl⟩ | ⟨rfl, rfl⟩ | ⟨rfl, rfl⟩ | ⟨rfl, rfl⟩ | ⟨rfl, rfl⟩ |
      ⟨rfl, rfl⟩ | ⟨rfl, rfl⟩ <;> constructor
  · intro h
    cases h <;> decide

theorem lookup_plainNames_eq_none_iff {name : String} :
    plainNames.lookup name = none ↔ ∀ s, ¬ Primitive name s := by
  simp only [← lookup_plainNames_eq_some_iff, Option.eq_none_iff_forall_ne_some, ne_eq]

theorem names_iff {enums : EnumTable} {name : String} {t : FieldType} :
    Names enums name t ↔ ofName enums name = t := by
  unfold ofName
  constructor
  · intro h
    cases h with
    | primitive h => rw [lookup_plainNames_eq_some_iff.2 h]
    | enumeration h hrepr => rw [lookup_plainNames_eq_none_iff.2 h, hrepr]
    | custom h hnone => rw [lookup_plainNames_eq_none_iff.2 h, hnone]
  · rintro rfl
    cases hplain : plainNames.lookup name with
    | some s => exact .primitive (lookup_plainNames_eq_some_iff.1 hplain)
    | none =>
      have hnot := lookup_plainNames_eq_none_iff.1 hplain
      cases hrepr : enums.lookup name with
      | some repr => exact .enumeration hnot hrepr
      | none => exact .custom hnot hrepr

theorem applies_iff {name : String} {argument t : FieldType} :
    Applies name argument t ↔ ofGeneric name argument = t := by
  unfold ofGeneric
  constructor
  · intro h
    cases h with
    | option | bytes | chars | dateTime => rfl
    | other hoption hdate hvec =>
      rw [if_neg hoption, if_neg fun h => (hvec h.1).1 h.2, if_neg fun h => (hvec h.1).2 h.2,
        if_neg hdate]
  · rintro rfl
    by_cases hoption : name = "Option"
    · subst hoption
      exact .option argument
    · rw [if_neg hoption]
      by_cases hbytes : name = "Vec" ∧ argument = scalar .u8
      · obtain ⟨rfl, rfl⟩ := hbytes
        exact .bytes
      · rw [if_neg hbytes]
        by_cases hchars : name = "Vec" ∧ argument = custom "char"
        · obtain ⟨rfl, rfl⟩ := hchars
          exact .chars
        · rw [if_neg hchars]
          by_cases hdate : name = "DateTime"
          · subst hdate
            exact .dateTime argument
          · rw [if_neg hdate]
            exact .other hoption hdate fun hvec =>
              ⟨fun h => hbytes ⟨hvec, h⟩, fun h => hchars ⟨hvec, h⟩⟩

/-! ## What texts denote -/

/-- Spaces, tabs and line ends only. -/
def Gap (s : List Char) : Prop :=
  ∀ c ∈ s, c = ' ' ∨ c = '\t' ∨ c = '\r' ∨ c = '\n'

/-- A run of alphanumeric characters and underscores. -/
def Ident (s : List Char) : Prop :=
  s ≠ [] ∧ ∀ c ∈ s, isAlphanumeric c = true ∨ c = '_'

/-- A gap and at most one `&`. -/
def Opening (s : List Char) : Prop :=
  ∃ gap, Gap gap ∧ (s = gap ∨ s = gap ++ ['&'])

/-- A path and its last segment. -/
inductive Path : List Char → List Char → Prop
  | one {name : List Char} (h : Ident name) : Path name name
  | more {name path last : List Char} (h : Ident name) (hpath : Path path last) :
      Path (name ++ ':' :: ':' :: path) last

/-- The elements of a bracketed type, with what the type means. -/
inductive Element : List Char → FieldType → Prop
  | char : Element ['c', 'h', 'a', 'r'] (scalar .chars)
  | u8 : Element ['u', '8'] (scalar .bytes)
  | byte : Element ['b', 'y', 't', 'e'] (scalar .bytes)

/-- The text spells the type. -/
inductive Denotes (enums : EnumTable) : List Char → FieldType → Prop
  | array {opening element gap inner : List Char} {t : FieldType} (hopening : Opening opening)
      (helement : Element element t) (hgap : Gap gap) (hinner : Gap inner) :
      Denotes enums (opening ++ (element ++ gap ++ '[' :: inner ++ [']'])) t
  | name {opening path last : List Char} {t : FieldType} (hopening : Opening opening)
      (hpath : Path path last) (hmeaning : Names enums (String.ofList last) t) :
      Denotes enums (opening ++ path) t
  | generic {opening path last gap argument inner : List Char} {a t : FieldType}
      (hopening : Opening opening) (hpath : Path path last) (hgap : Gap gap)
      (hargument : Denotes enums argument a) (hinner : Gap inner)
      (hmeaning : Applies (String.ofList last) a t) :
      Denotes enums (opening ++ (path ++ gap ++ '<' :: argument ++ inner ++ ['>'])) t

end SchemaDdl.FieldType
