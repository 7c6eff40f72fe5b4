import Mathlib.Data.List.TakeWhile
import SchemaDdl.Proofs.Model.Declared

/-!
# References to models that are not known yet

A reference by name whose model is not held names the table by the short form of the identity; once
the model is registered it names the table by what the model declares.  For a model that declares
nothing that is its whole identifier.  The column is the identifier of the member either way.  So
registering such a model changes what the reference means if and only if the name is a path or
generic, and then it does change it (`Resolver.reference_verbatim_iff`).
-/

namespace SchemaDdl

/-! ## Names that are their own short form -/

theorem beforeColons_isPrefix (l : List Char) : beforeColons l <+: l := by
  fun_induction beforeColons l with
  | case1 => exact List.prefix_rfl
  | case2 c => exact List.prefix_rfl
  | case3 c d rest h => exact List.nil_prefix
  | case4 c d rest h ih => exact List.cons_prefix_cons.2 ⟨rfl, ih⟩

theorem beforeColons_eq_self_iff {l : List Char} : beforeColons l = l ↔ ¬ [':', ':'] <:+: l := by
  fun_induction beforeColons l with
  | case1 => simp
  | case2 c => simp [List.infix_cons_iff]
  | case3 c d rest h =>
    obtain ⟨rfl, rfl⟩ := h
    simp [List.infix_cons_iff]
  | case4 c d rest h ih =>
    have hstart : ¬ [':', ':'] <+: c :: d :: rest := by
      intro hstarts
      simp only [List.cons_prefix_cons] at hstarts
      exact h ⟨hstarts.1.symm, hstarts.2.1.symm⟩
    rw [List.cons.injEq, List.infix_cons_iff, ih]
    simp [hstart]

theorem beforeColons_reverse_eq_iff {l : List Char} :
    (beforeColons l.reverse).reverse = l ↔ ¬ [':', ':'] <:+: l := by
  have hcolons : [':', ':'] <:+: l.reverse ↔ [':', ':'] <:+: l :=
    @List.reverse_infix _ [':', ':'] l
  rw [List.reverse_eq_iff, beforeColons_eq_self_iff, hcolons]

/-- An identity is its own short form unless it is generic or a path. -/
theorem ModelId.shortName_eq_text_iff (id : ModelId) :
    id.shortName = id.text ↔ '<' ∉ id.text.toList ∧ ¬ [':', ':'] <:+: id.text.toList := by
  have hbase : id.text.toList.takeWhile (· ≠ '<') <+: id.text.toList := List.takeWhile_prefix _
  have hself : id.text.toList.takeWhile (· ≠ '<') = id.text.toList ↔ '<' ∉ id.text.toList := by
    simp only [List.takeWhile_eq_self_iff, ne_eq, decide_eq_true_eq, List.forall_mem_ne']
  rw [shortName, ← String.toList_inj, String.toList_ofList, ← hself]
  generalize id.text.toList.takeWhile (· ≠ '<') = base at hbase
  constructor
  · intro h
    have hshort := (beforeColons_isPrefix base.reverse).length_le
    have hlen := congrArg List.length h
    rw [List.length_reverse] at hshort hlen
    -- what stands behind the colons is no longer than the base, so the base is the whole text
    obtain rfl : base = id.text.toList := hbase.eq_of_length_le (by omega)
    exact ⟨rfl, beforeColons_reverse_eq_iff.1 h⟩
  · rintro ⟨hangle, hcolons⟩
    rw [hangle]
    exact beforeColons_reverse_eq_iff.2 hcolons

/-! ## Before and after a model is registered -/

/-- The model of a name, with members and without a table annotation. -/
def Model.ofMembers (name : String) (members : List Member) : Model :=
  { Model.named name with members }

/-- A model that leaves its names to its identifiers: it has no table annotation and its members
have no column annotation. -/
structure Model.Unnamed (m : Model) : Prop where
  table : m.table = none
  columns : ∀ member ∈ m.members, member.columnSettings = none

theorem Model.Unnamed.tableName_eq {m : Model} (h : m.Unnamed) :
    m.tableName = { name := m.ident } := by
  rw [tableName, h.table]

theorem Model.Unnamed.declaredName_eq {m : Model} (h : m.Unnamed) (member : String) :
    m.declaredName member = member := by
  rw [declaredName]
  cases hfound : m.findMember member with
  | none => rfl
  | some found =>
    have hident : found.ident = member := by simpa using List.find?_some hfound
    have hsettings := h.columns found (List.mem_of_find?_eq_some hfound)
    rw [Option.map_some, Option.getD_some, Member.columnName, hsettings, ← hident]
    rfl

namespace Resolver

variable {r : Resolver}

/-- No model is held under the identity, and no names are cached for it. -/
structure Ignores (r : Resolver) (id : ModelId) : Prop where
  model : r.models.get? id = none
  table : r.tables.get? id = none
  columns : ∀ ident, r.columns.get? (id, ident) = none

theorem register_of_none {m : Model} (h : r.models.get? m.id = none) : (r.register m).1 = m := by
  rw [register_fst, h, Option.getD_none]

/-- A reference by name to a model that is not held changes nothing and names the table by the
short form of the identity. -/
theorem resolveReference_of_not_held {id : ModelId} (h : r.models.get? id = none)
    (member : String) : r.resolveReference ⟨⟨id, false⟩, member⟩
      = ({ table := { name := id.shortName }, column := member }, r) := by
  refine resolveReference_of_none ?_
  simp [lookup, h]

theorem lookup_register {m : Model} (h : r.models.get? m.id = none) (typed : Bool) :
    (r.register m).2.lookup ⟨m.id, typed⟩ = (some m, (r.register m).2) := by
  have hheld := register_get? r m
  rw [register_of_none h] at hheld
  simp only [lookup, hheld]

/-- Where no names are cached for a model, a reference to it names what the model declares. -/
theorem referTo_fst_of_not_cached {m : Model} (htable : r.tables.get? m.id = none)
    (hcolumns : ∀ ident, r.columns.get? (m.id, ident) = none) (member : String) :
    (r.referTo m member).1 = { table := m.tableName, column := m.declaredName member } := by
  have hname : (r.referencedName m member).1 = m.declaredName member := by
    unfold referencedName Model.declaredName
    cases m.findMember member with
    | none => rfl
    | some found =>
      simp only [resolveColumn_fst, hcolumns, Option.getD_none, Option.map_some, Option.getD_some]
  have htables : (r.referencedName m member).2.tables = r.tables := by
    unfold referencedName
    cases m.findMember member <;> rfl
  unfold referTo
  simp only [resolveTable_fst, hname, htables, htable, Option.getD_none]

/-- Once a model without names of its own is registered, a reference to it names the table by its
identifier and the column by the identifier of the member, whether it has the member or not. -/
theorem resolveReference_register {m : Model} (h : r.Ignores m.id) (hm : m.Unnamed) (typed : Bool)
    (member : String) : ((r.register m).2.resolveReference ⟨⟨m.id, typed⟩, member⟩).1
      = { table := { name := m.ident }, column := member } := by
  rw [resolveReference_of_some (lookup_register h.model typed),
    referTo_fst_of_not_cached (r := (r.register m).2) h.table h.columns, hm.tableName_eq,
    hm.declaredName_eq]

/-- Whether a reference by name means the same before and after its target is registered, when the
resolver knows nothing of the name and the target has no table or column annotations.  Before, it
names the table by the short form of the name, afterwards by the name, and both times the column by
the identifier of the member.  So it means the same if and only if the name is neither generic nor a
path. -/
theorem reference_verbatim_iff (r : Resolver) (name member : String) (members : List Member)
    (hr : r.Ignores ⟨name⟩) (hm : ∀ member ∈ members, member.columnSettings = none) :
    let key : ForeignKey := { model := { id := ⟨name⟩, typed := false }, member }
    let registered := (r.register (.ofMembers name members)).2
    (r.resolveReference key).1
        = { table := { name := (ModelId.mk name).shortName }, column := member } ∧
      (registered.resolveReference key).1 = { table := { name }, column := member } ∧
      ((r.resolveReference key).1 = (registered.resolveReference key).1 ↔
        '<' ∉ name.toList ∧ ¬ [':', ':'] <:+: name.toList) := by
  intro key registered
  have hbefore : (r.resolveReference key).1
      = { table := { name := (ModelId.mk name).shortName }, column := member } := by
    rw [resolveReference_of_not_held hr.model]
  have hafter : (registered.resolveReference key).1 = { table := { name }, column := member } :=
    resolveReference_register (m := .ofMembers name members) hr ⟨rfl, hm⟩ false member
  refine ⟨hbefore, hafter, ?_⟩
  rw [hbefore, hafter, ← ModelId.shortName_eq_text_iff ⟨name⟩]
  simp

end Resolver

/-! ## A plain name and a path -/

namespace Shipping

/-- A new resolver, with models that go by the short form of their identities. -/
def resolver : Resolver := .new .ofId

theorem ignores (id : ModelId) : resolver.Ignores id :=
  ⟨rfl, rfl, fun _ => rfl⟩

/-- Members without column annotations. -/
def members : List Member :=
  [(({ ident := "id", type := .scalar .i32 } : Member).key.required)]

theorem unnamed : ∀ member ∈ members, member.columnSettings = none :=
  List.forall_mem_singleton.2 rfl

theorem reference_verbatim_parcel :
    resolver.Ignores ⟨"Parcel"⟩ ∧ (∀ member ∈ members, member.columnSettings = none) ∧
      (resolver.resolveReference ⟨⟨⟨"Parcel"⟩, false⟩, "id"⟩).1
        = ((resolver.register (.ofMembers "Parcel" members)).2.resolveReference
            ⟨⟨⟨"Parcel"⟩, false⟩, "id"⟩).1 := by
  have hpath : ¬ [':', ':'] <:+: "Parcel".toList := by
    intro h
    exact absurd (h.subset List.mem_cons_self) (by decide)
  have hverbatim := Resolver.reference_verbatim_iff resolver "Parcel" "id" members (ignores _)
    unnamed
  exact ⟨ignores _, unnamed, hverbatim.2.2.2 ⟨by decide, hpath⟩⟩

/-- A reference to a path means another table once its target is registered. -/
theorem not_reference_verbatim :
    ¬ ∀ (r : Resolver) (name member : String) (members : List Member),
      r.Ignores ⟨name⟩ → (∀ member ∈ members, member.columnSettings = none) →
        (r.resolveReference ⟨⟨⟨name⟩, false⟩, member⟩).1
          = ((r.register (.ofMembers name members)).2.resolveReference
              ⟨⟨⟨name⟩, false⟩, member⟩).1 := by
  intro h
  have hsame := h resolver "depot::Parcel" "id" members (ignores _) unnamed
  have hafter := Resolver.resolveReference_register (r := resolver)
    (m := .ofMembers "depot::Parcel" members) (ignores _) ⟨rfl, unnamed⟩ false "id"
  rw [Resolver.resolveReference_of_not_held (ignores _).model] at hsame
  have hshort : (ModelId.mk "depot::Parcel").shortName = "depot::Parcel" :=
    congrArg (fun target => target.table.name) (hsame.trans hafter)
  exact absurd hshort (by decide)

end Shipping
end SchemaDdl
