import Mathlib.Data.List.Nodup
import SchemaDdl.Proofs.Model.Declared

/-!
# Resolvers whose caches are invisible

Over a family of models with one definition for each identity and typed references only, a
resolver is settled when all that it holds about the family is what the models declare.  Growth
over the family keeps that (`Settled.grows`), and every answer of a settled resolver is the
declared one, so it does not tell what has been cached.
-/

namespace SchemaDdl

/-- Models with one definition for each identity, distinct members, and references that the
catalog describes by models of the family. -/
structure Family (catalog : Catalog) (family : Model → Prop) : Prop where
  unique : ∀ a b, family a → family b → a.id = b.id → a = b
  distinct : ∀ m, family m → (m.members.map Member.ident).Nodup
  typed : ∀ m, family m → ∀ key ∈ m.foreignKeys, key.model.typed = true
  closed : ∀ m, family m → ∀ key ∈ m.foreignKeys, family (catalog key.model.id)
  keyed : ∀ m, family m → ∀ key ∈ m.foreignKeys, (catalog key.model.id).id = key.model.id

/-- One definition for each identity, with distinct members, however its references are written. -/
structure Coherent (family : Model → Prop) : Prop where
  unique : ∀ a b, family a → family b → a.id = b.id → a = b
  distinct : ∀ m, family m → (m.members.map Member.ident).Nodup

theorem Family.coherent {catalog : Catalog} {family : Model → Prop} (h : Family catalog family) :
    Coherent family :=
  ⟨h.unique, h.distinct⟩

/-- The entry is about a model of the family. -/
def Entry.Of (family : Model → Prop) : Entry → Prop
  | .table m => family m
  | .column m member => family m ∧ member ∈ m.members
  | .model m => family m

/-- Requests about models of a family. -/
def Request.Over (family : Model → Prop) (request : Request) : Prop :=
  ∀ m, request.model? = some m → family m

theorem Request.Over.within {catalog : Catalog} {family : Model → Prop} {request : Request}
    (h : request.Over family) (hfam : Family catalog family) :
    request.Within catalog (Entry.Of family) := by
  intro m hm
  exact ⟨h m hm, fun key hkey _ => hfam.closed m (h m hm) key hkey⟩

namespace Resolver

variable {catalog : Catalog} {family : Model → Prop} {r r' : Resolver} {m : Model}

/-- What is held about models of the family is what they declare. -/
structure Settled (catalog : Catalog) (family : Model → Prop) (r : Resolver) : Prop where
  catalog : r.catalog = catalog
  table : ∀ m, family m → ∀ t, r.tables.get? m.id = some t → t = m.tableName
  column : ∀ m, family m → ∀ member ∈ m.members, ∀ name,
    r.columns.get? (m.id, member.ident) = some name → name = member.columnName
  model : ∀ {id m}, r.models.get? id = some m → family m ∧ m.id = id

theorem settled_new (catalog : Catalog) (family : Model → Prop) :
    Settled catalog family (.new catalog) := by
  refine ⟨rfl, ?_, ?_, ?_⟩
  · intro m _ t h
    cases h
  · intro m _ member _ name h
    cases h
  · intro id m h
    cases h

theorem Settled.keyed (h : Settled catalog family r) : r.Keyed :=
  ⟨fun hget => (h.model hget).2⟩

/-- What is held for a model of the family is that model. -/
theorem Settled.eq_of_get? (h : Settled catalog family r) (hfam : Coherent family)
    (hm : family m) {held : Model} (hget : r.models.get? m.id = some held) : held = m :=
  hfam.unique held m (h.model hget).1 hm (h.model hget).2

theorem Settled.exists_of_holds (h : Settled catalog family r) (hm : r.Holds m) :
    ∃ x, family x ∧ x.Same m := by
  obtain ⟨held, hget, hsame⟩ := hm
  exact ⟨held, (h.model hget).1, hsame⟩

/-- A table entry about the family, or about what is held, is declared by a model of the
family. -/
theorem Settled.table_entry (h : Settled catalog family r)
    (he : Entry.Of family (.table m) ∨ r.Own (.table m)) :
    ∃ x, family x ∧ x.id = m.id ∧ x.tableName = m.tableName := by
  rcases he with hm | hm
  · exact ⟨m, hm, rfl, rfl⟩
  · obtain ⟨x, hx, hsame⟩ := h.exists_of_holds hm
    exact ⟨x, hx, hsame.id_eq, hsame.tableName_eq⟩

theorem Settled.column_entry (h : Settled catalog family r) {member : Member}
    (he : Entry.Of family (.column m member) ∨ r.Own (.column m member)) :
    ∃ x, family x ∧ x.id = m.id ∧ ∃ y ∈ x.members,
      y.ident = member.ident ∧ y.columnName = member.columnName := by
  rcases he with ⟨hm, hmem⟩ | ⟨hm, hmem⟩
  · exact ⟨m, hm, rfl, member, hmem, rfl, rfl⟩
  · obtain ⟨x, hx, hsame⟩ := h.exists_of_holds hm
    exact ⟨x, hx, hsame.id_eq, hsame.exists_member hmem⟩

theorem Settled.add (h : Settled catalog family r) (hfam : Coherent family) {e : Entry}
    (he : Entry.Of family e ∨ r.Own e) : Settled catalog family (r.add e) := by
  refine ⟨(add_catalog r e).trans h.catalog, ?_, ?_, ?_⟩
  · intro m hm t hget
    cases e with
    | column | model => exact h.table m hm t hget
    | table x =>
      rcases add_table_eq_some_iff.1 hget with hget | ⟨hid, -, rfl⟩
      · exact h.table m hm t hget
      · obtain ⟨y, hy, hyid, hname⟩ := h.table_entry he
        rw [← hname, hfam.unique m y hm hy (hid.trans hyid.symm)]
  · intro m hm member hmem name hget
    cases e with
    | table | model => exact h.column m hm member hmem name hget
    | column x other =>
      rcases add_column_eq_some_iff.1 hget with hget | ⟨hkey, -, rfl⟩
      · exact h.column m hm member hmem name hget
      · obtain ⟨hid, hident⟩ := Prod.mk.inj hkey
        obtain ⟨y, hy, hyid, counterpart, hcounterpart, hcident, hcname⟩ := h.column_entry he
        obtain rfl := hfam.unique m y hm hy (hid.trans hyid.symm)
        rw [← hcname, List.inj_on_of_nodup_map (hfam.distinct m hm) hcounterpart hmem
          (hcident.trans hident.symm)]
  · intro id held hget
    cases e with
    | table | column => exact h.model hget
    | model x =>
      rcases add_model_eq_some_iff.1 hget with hget | ⟨rfl, -, rfl⟩
      · exact h.model hget
      · rcases he with hm | hm
        · exact ⟨hm, rfl⟩
        · cases hm

theorem Settled.grows (h : Settled catalog family r) (hfam : Coherent family)
    (hgrows : Grows (Entry.Of family) r r') : Settled catalog family r' :=
  hgrows.keeps (fun h he => h.add hfam he) h

/-! ## Answers -/

theorem Settled.resolveTable_fst (h : Settled catalog family r) (hm : family m) :
    (r.resolveTable m).1 = m.tableName := by
  rw [Resolver.resolveTable_fst]
  cases hget : r.tables.get? m.id with
  | none => rfl
  | some t => exact h.table m hm t hget

theorem Settled.resolveColumn_fst (h : Settled catalog family r) (hm : family m)
    {member : Member} (hmem : member ∈ m.members) :
    (r.resolveColumn m member).1 = member.columnName := by
  rw [Resolver.resolveColumn_fst]
  cases hget : r.columns.get? (m.id, member.ident) with
  | none => rfl
  | some name => exact h.column m hm member hmem name hget

theorem Settled.claim_fst (h : Settled catalog family r) (hfam : Coherent family)
    (hm : family m) : (r.claim m).1 = .ok m := by
  have hheld : (r.register m).1 = m := by
    rw [register_fst]
    cases hget : r.models.get? m.id with
    | none => rfl
    | some held => exact h.eq_of_get? hfam hm hget
  rw [claim_eq, hheld, if_pos (.refl m)]

theorem Settled.lookup_fst (h : Settled catalog family r) (hfam : Coherent family)
    {ref : ModelRef} (ht : ref.typed = true) (htarget : family (catalog ref.id))
    (hid : (catalog ref.id).id = ref.id) : (r.lookup ref).1 = some (catalog ref.id) := by
  rw [lookup]
  cases hget : r.models.get? ref.id with
  | some held =>
    rw [← hid] at hget
    exact congrArg some (h.eq_of_get? hfam htarget hget)
  | none =>
    have hnone : r.models.get? (catalog ref.id).id = none := by
      rw [hid]
      exact hget
    rw [if_pos ht, h.catalog]
    simp only [register_fst, hnone, Option.getD_none]

theorem Settled.nameable (hm : family m) : Nameable (Entry.Of family) r m :=
  .inr ⟨hm, fun _ hmem => ⟨hm, hmem⟩⟩

theorem Settled.referencedName_fst (h : Settled catalog family r) (hm : family m)
    (member : String) : (r.referencedName m member).1 = m.declaredName member := by
  rw [referencedName, Model.declaredName]
  cases hfound : m.findMember member with
  | none => rfl
  | some found => exact h.resolveColumn_fst hm (List.mem_of_find?_eq_some hfound)

theorem Settled.referTo_fst (h : Settled catalog family r) (hfam : Coherent family)
    (hm : family m) (member : String) :
    (r.referTo m member).1 = { table := m.tableName, column := m.declaredName member } := by
  have hcolumn : Settled catalog family (r.referencedName m member).2 :=
    h.grows hfam ((nameable hm).grows_referencedName member)
  rw [referTo]
  simp only [hcolumn.resolveTable_fst hm, h.referencedName_fst hm]

/-- A reference that a model of the family declares resolves to what the catalog declares. -/
theorem Settled.resolveReference_fst (h : Settled catalog family r)
    (hfam : Family catalog family) (hm : family m) {key : ForeignKey}
    (hkey : key ∈ m.foreignKeys) : (r.resolveReference key).1 = key.declared catalog := by
  have htarget := hfam.closed m hm key hkey
  have hfound :=
    h.lookup_fst hfam.coherent (hfam.typed m hm key hkey) htarget (hfam.keyed m hm key hkey)
  have hlookup : Settled catalog family (r.lookup key.model).2 :=
    h.grows hfam.coherent (grows_lookup fun _ => by rw [h.catalog]; exact htarget)
  rcases hres : r.lookup key.model with ⟨found, r₁⟩
  rw [hres] at hfound hlookup
  obtain rfl : found = some (catalog key.model.id) := hfound
  rw [resolveReference_of_some hres, hlookup.referTo_fst hfam.coherent htarget, ForeignKey.declared]

theorem Settled.resolveAll_fst (h : Settled catalog family r) (hfam : Family catalog family)
    (hm : family m) {keys : List ForeignKey} (hkeys : ∀ key ∈ keys, key ∈ m.foreignKeys) :
    (r.resolveAll keys).1 = keys.map (·.declared catalog) := by
  induction keys generalizing r with
  | nil => rfl
  | cons key rest ih =>
    have hkey := hkeys key List.mem_cons_self
    have hnext : Settled catalog family (r.resolveReference key).2 := by
      refine h.grows hfam.coherent (grows_resolveReference h.keyed fun _ => ?_)
      rw [h.catalog]
      exact hfam.closed m hm key hkey
    rw [resolveAll_cons, List.map_cons, h.resolveReference_fst hfam hm hkey,
      ih hnext fun k hk => hkeys k (List.mem_cons_of_mem _ hk)]

theorem Settled.ofMembers_fst (h : Settled catalog family r) (hfam : Coherent family)
    (hm : family m) {members : List Member} (hsub : ∀ member ∈ members, member ∈ m.members) :
    (Column.ofMembers r m members).1 = members.map Member.declaredColumn := by
  induction members generalizing r with
  | nil => rfl
  | cons member rest ih =>
    have hmem := hsub member List.mem_cons_self
    have hnext : Settled catalog family (r.resolveColumn m member).2 :=
      h.grows hfam ((Settled.nameable hm).grows_resolveColumn hmem)
    rw [Column.ofMembers_cons, List.map_cons, h.resolveColumn_fst hm hmem, Member.declaredColumn,
      ih hnext fun x hx => hsub x (List.mem_cons_of_mem _ hx)]

theorem Settled.extract_fst (h : Settled catalog family r) (hfam : Coherent family)
    (hm : family m) : (Column.extract r m).1 = m.declaredColumns := by
  have hmapped : ∀ member ∈ m.mappedMembers, member ∈ m.members :=
    fun _ hmem => (List.mem_filter.1 hmem).1
  rw [Column.extract_eq, Model.declaredColumns, h.ofMembers_fst hfam hm hmapped]

theorem Settled.resolve_fst (h : Settled catalog family r) (hm : family m)
    (defaultSchema : String) :
    (Table.resolve r m defaultSchema).1 = m.declaredTable defaultSchema := by
  rw [Table.resolve_eq, h.resolveTable_fst hm, Model.declaredTable_eq]
  rfl

theorem Settled.describe_fst (h : Settled catalog family r) (hfam : Coherent family)
    (hm : family m) (defaultSchema : String) :
    (Table.describe r m defaultSchema).1 = m.declaration defaultSchema := by
  have hnext := h.grows hfam (Settled.nameable hm).grows_extract
  rw [Table.describe_eq, hnext.resolve_fst hm, h.extract_fst hfam hm, Model.declaration]

end Resolver
end SchemaDdl
