import SchemaDdl.Proofs.Column.Extraction

/-!
# Forgetting which references are typed

Equal definitions differ at most in which of their references are typed.  To forget this is a
function on models, on columns, and on resolvers with all that they hold and all that their
catalog describes; and the operations of a resolver commute with it, whatever reference they are
about (`Resolver.resolveReference_untyped`).  So the same columns come of equal definitions, up to
their references, and the resolvers left are one (`Table.describe_untyped`).
-/

namespace SchemaDdl

/-! ## Caches -/

namespace Cache

variable {κ α β : Type} [DecidableEq κ]

/-- The cache with its values mapped. -/
def map (f : α → β) (c : Cache κ α) : Cache κ β :=
  { entries := c.entries.map fun e => (e.1, f e.2) }

theorem get?_map (f : α → β) (c : Cache κ α) (k : κ) : (c.map f).get? k = (c.get? k).map f := by
  obtain ⟨entries⟩ := c
  change (entries.map fun e => (e.1, f e.2)).lookup k = (entries.lookup k).map f
  induction entries with
  | nil => rfl
  | cons e rest ih =>
    rw [List.map_cons, List.lookup_cons, List.lookup_cons, ih]
    cases k == e.1 <;> rfl

theorem hold_map (f : α → β) (c : Cache κ α) (k : κ) (v : α) :
    (c.map f).hold k (f v) = (f (c.hold k v).1, (c.hold k v).2.map f) := by
  cases h : c.get? k with
  | some held =>
    rw [hold_of_some h, hold_of_some (by rw [get?_map, h]; rfl)]
  | none =>
    rw [hold_of_none h, hold_of_none (by rw [get?_map, h]; rfl)]
    rfl

end Cache

/-! ## Members and models -/

/-- The foreign key with its reference by identity only. -/
def ForeignKey.untyped (key : ForeignKey) : ForeignKey :=
  { key with model := { key.model with typed := false } }

namespace Annotation

theorem foreignKey?_untyped (a : Annotation) :
    a.untyped.foreignKey? = a.foreignKey?.map ForeignKey.untyped := by
  cases a <;> rfl

theorem untyped_eq_iff {a b : Annotation} (h : a.foreignKey? = none) : b.untyped = a ↔ b = a := by
  cases b with
  | foreignKey t => constructor <;> (rintro rfl; cases h)
  | _ => exact Iff.rfl

end Annotation

namespace Member

theorem foreignKey?_untyped (m : Member) :
    m.untyped.annotations.findSome? Annotation.foreignKey?
      = (m.annotations.findSome? Annotation.foreignKey?).map ForeignKey.untyped := by
  rw [untyped, List.findSome?_map, List.map_findSome?]
  congr 1
  exact funext Annotation.foreignKey?_untyped

/-- An annotation that is no reference stays. -/
theorem contains_untyped {a : Annotation} (h : a.foreignKey? = none) (m : Member) :
    m.untyped.annotations.contains a = m.annotations.contains a := by
  rw [Bool.eq_iff_iff, List.contains_iff_mem, List.contains_iff_mem, untyped, List.mem_map]
  simp only [ Annotation.untyped_eq_iff h, exists_eq_right]

theorem isMapped_untyped (m : Member) : m.untyped.isMapped = m.isMapped := by
  rw [isMapped, isMapped, contains_untyped rfl]

end Member

namespace Model

theorem mappedMembers_untyped (m : Model) :
    m.untyped.mappedMembers = m.mappedMembers.map Member.untyped := by
  rw [mappedMembers, untyped, List.filter_map]
  congr 2
  exact funext Member.isMapped_untyped

theorem findMember_untyped (m : Model) (ident : String) :
    m.untyped.findMember ident = (m.findMember ident).map Member.untyped := by
  rw [findMember, untyped, List.find?_map]
  rfl

end Model

/-! ## Resolvers -/

namespace Resolver

/-- The resolver with the references of all definitions by identity only. -/
def untyped (r : Resolver) : Resolver :=
  { r with
    catalog := fun id => (r.catalog id).untyped
    models := r.models.map Model.untyped }

variable (r : Resolver) (m : Model)

theorem models_untyped (id : ModelId) :
    r.untyped.models.get? id = (r.models.get? id).map Model.untyped :=
  Cache.get?_map ..

theorem resolveColumn_untyped (member : Member) :
    r.untyped.resolveColumn m.untyped member.untyped
      = ((r.resolveColumn m member).1, (r.resolveColumn m member).2.untyped) := by
  rw [resolveColumn, member.columnName_untyped]
  rfl

theorem register_untyped :
    r.untyped.register m.untyped = ((r.register m).1.untyped, (r.register m).2.untyped) := by
  have hhold := Cache.hold_map Model.untyped r.models m.id m
  change ((r.untyped.models.hold m.id m.untyped).1,
    { r.untyped with models := (r.untyped.models.hold m.id m.untyped).2 }) = _
  rw [show r.untyped.models = r.models.map Model.untyped from rfl, hhold]
  rfl

theorem lookup_untyped (ref : ModelRef) :
    r.untyped.lookup ref = ((r.lookup ref).1.map Model.untyped, (r.lookup ref).2.untyped) := by
  rw [lookup, lookup, models_untyped]
  cases r.models.get? ref.id with
  | some held => rfl
  | none =>
    by_cases ht : ref.typed = true
    · simp only [Option.map_none, if_pos ht]
      rw [show r.untyped.catalog ref.id = (r.catalog ref.id).untyped from rfl, register_untyped]
      rfl
    · simp only [Option.map_none, if_neg ht]

theorem referencedName_untyped (member : String) :
    r.untyped.referencedName m.untyped member
      = ((r.referencedName m member).1, (r.referencedName m member).2.untyped) := by
  rw [referencedName, referencedName, m.findMember_untyped]
  cases m.findMember member with
  | none => rfl
  | some found => exact resolveColumn_untyped r m found

theorem referTo_untyped (member : String) :
    r.untyped.referTo m.untyped member
      = ((r.referTo m member).1, (r.referTo m member).2.untyped) := by
  rw [referTo, referencedName_untyped]
  rfl

/-- Which references of the definitions are typed makes no difference to what a foreign key
resolves to. -/
theorem resolveReference_untyped (key : ForeignKey) :
    r.untyped.resolveReference key
      = ((r.resolveReference key).1, (r.resolveReference key).2.untyped) := by
  have hlookup := lookup_untyped r key.model
  rcases hfound : r.lookup key.model with ⟨_ | target, r'⟩ <;> rw [hfound] at hlookup
  · rw [resolveReference_of_none hfound, resolveReference_of_none hlookup]
  · rw [resolveReference_of_some hfound, resolveReference_of_some hlookup]
    exact referTo_untyped r' target key.member

end Resolver

/-! ## Columns and tables -/

namespace Column

/-- The column with its reference by identity only. -/
def untyped (c : Column) : Column :=
  { c with foreignKey := c.foreignKey.map ForeignKey.untyped }

theorem ofMember_untyped (name : String) (m : Member) :
    ofMember name m.untyped = (ofMember name m).untyped := by
  have hindex := m.findSome?_untyped (f := Annotation.index?) fun a => by cases a <;> rfl
  have hmax := m.findSome?_untyped (f := Annotation.maxLength?) fun a => by cases a <;> rfl
  have hlength := m.findSome?_untyped (f := Annotation.stringLength?) fun a => by cases a <;> rfl
  have hdefault := m.findSome?_untyped (f := Annotation.defaultValue?) fun a => by cases a <;> rfl
  have hcomputed := m.findSome?_untyped (f := Annotation.computed?) fun a => by cases a <;> rfl
  simp only [ofMember, m.columnSettings_untyped, m.foreignKey?_untyped, hindex, hmax, hlength,
    hdefault, hcomputed, m.contains_untyped (a := .key) rfl,
    m.contains_untyped (a := .autoIncrement) rfl, m.contains_untyped (a := .required) rfl,
    m.contains_untyped (a := .unique) rfl]
  rfl

theorem ofMembers_untyped (r : Resolver) (m : Model) (members : List Member) :
    ofMembers r.untyped m.untyped (members.map Member.untyped)
      = ((ofMembers r m members).1.map untyped, (ofMembers r m members).2.untyped) := by
  induction members generalizing r with
  | nil => rfl
  | cons member rest ih =>
    rw [List.map_cons, ofMembers_cons, ofMembers_cons, Resolver.resolveColumn_untyped]
    simp only [ih, ofMember_untyped, List.map_cons]

theorem extract_untyped (r : Resolver) (m : Model) :
    extract r.untyped m.untyped = ((extract r m).1.map untyped, (extract r m).2.untyped) := by
  rw [extract_eq, extract_eq, m.mappedMembers_untyped, ofMembers_untyped, arrange_map]
  rfl

end Column

namespace Table

/-- The table with the references of its columns by identity only. -/
def untyped (t : Table) : Table :=
  { t with columns := t.columns.map Column.untyped }

theorem describe_untyped (r : Resolver) (m : Model) (defaultSchema : String) :
    describe r.untyped m.untyped defaultSchema
      = ((describe r m defaultSchema).1.untyped, (describe r m defaultSchema).2.untyped) := by
  rw [describe_eq, describe_eq, Column.extract_untyped]
  rfl

end Table
end SchemaDdl
