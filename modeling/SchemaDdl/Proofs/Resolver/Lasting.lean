import SchemaDdl.Proofs.Model.Declared
import SchemaDdl.Proofs.Request.Rendering

/-!
# Answers that last

Claims and names last: asked again of any resolver that has kept what they left, they answer the
same and leave it alone (`Lasting`).  A reference need not, since its target may become known
later; but once it adds no definition, it answers the same on every resolver that holds the same
definitions and agrees on the names in force (`Alike.resolveReference`), and it leads to such a
resolver (`alike_resolveReference`).
-/

namespace SchemaDdl.Resolver

variable {α β : Type} {r s : Resolver} {m : Model}

/-! ## Operations whose answers last -/

/-- Done again on what extends its result, the operation answers the same and changes nothing. -/
def Lasting (f : Resolver → α × Resolver) : Prop :=
  ∀ r s, (f r).2.Extends s → f s = ((f r).1, s)

theorem lasting_resolveTable (m : Model) : Lasting fun r => r.resolveTable m := by
  intro r s h
  have hself := h.table (resolveTable_get? r m)
  change s.resolveTable m = _
  simp only [resolveTable, Cache.hold_of_some hself]

theorem lasting_resolveColumn (m : Model) (member : Member) :
    Lasting fun r => r.resolveColumn m member := by
  intro r s h
  have hself := h.column (resolveColumn_get? r m member)
  change s.resolveColumn m member = _
  simp only [resolveColumn, Cache.hold_of_some hself]

theorem lasting_register (m : Model) : Lasting fun r => r.register m := by
  intro r s h
  have hself := h.model (register_get? r m)
  change s.register m = _
  simp only [register, Cache.hold_of_some hself]

theorem lasting_claim (m : Model) : Lasting fun r => r.claim m := by
  intro r s h
  simp only [claim_eq] at h ⊢
  have hagain : s.register m = ((r.register m).1, s) := lasting_register m r s h
  rw [hagain]

/-- An operation that goes on with the answer of another lasts when both do. -/
theorem Lasting.bind {f : Resolver → α × Resolver} {g : α → Resolver → β × Resolver}
    (hf : Lasting f) (hg : ∀ a, Lasting (g a))
    (hext : ∀ (a : α) (r : Resolver), r.Extends (g a r).2) :
    Lasting fun r => g (f r).1 (f r).2 := by
  intro r s h
  have hfirst : f s = ((f r).1, s) := hf r s ((hext _ _).trans h)
  simp only [hfirst]
  exact hg _ _ _ h

theorem Lasting.map {f : Resolver → α × Resolver} (hf : Lasting f) (k : α → β) :
    Lasting fun r => (k (f r).1, (f r).2) := by
  intro r s h
  have hagain : f s = ((f r).1, s) := hf r s h
  simp only [hagain]

theorem extends_ofMembers (r : Resolver) (m : Model) (members : List Member) :
    r.Extends (Column.ofMembers r m members).2 := by
  induction members generalizing r with
  | nil => exact .refl r
  | cons member rest ih => exact (extends_add r (.column m member)).trans (ih _)

theorem lasting_ofMembers (m : Model) (members : List Member) :
    Lasting fun r => Column.ofMembers r m members := by
  induction members with
  | nil => exact fun _ _ _ => rfl
  | cons member rest ih =>
    exact (lasting_resolveColumn m member).bind
      (g := fun name r =>
        (Column.ofMember name member :: (Column.ofMembers r m rest).1, (Column.ofMembers r m rest).2))
      (fun name => ih.map (Column.ofMember name member :: ·))
      fun _ r => extends_ofMembers r m rest

theorem lasting_resolve (m : Model) (defaultSchema : String) :
    Lasting fun r => Table.resolve r m defaultSchema :=
  (lasting_resolveTable m).map (·.table m.id defaultSchema)

theorem lasting_describe (m : Model) (defaultSchema : String) :
    Lasting fun r => Table.describe r m defaultSchema :=
  ((lasting_ofMembers m m.mappedMembers).map (Column.arrange Column.order)).bind
    (g := fun columns r => ({ (Table.resolve r m defaultSchema).1 with columns },
      (Table.resolve r m defaultSchema).2))
    (fun columns => (lasting_resolve m defaultSchema).map fun table => { table with columns })
    fun _ r => extends_add r (.table m)

theorem extends_referencedName (r : Resolver) (m : Model) (member : String) :
    r.Extends (r.referencedName m member).2 := by
  rw [referencedName]
  cases m.findMember member with
  | none => exact .refl r
  | some found => exact extends_add r (.column m found)

theorem lasting_referencedName (m : Model) (member : String) :
    Lasting fun r => r.referencedName m member := by
  unfold referencedName
  cases m.findMember member with
  | none => exact fun _ _ _ => rfl
  | some found => exact lasting_resolveColumn m found

theorem lasting_referTo (m : Model) (member : String) : Lasting fun r => r.referTo m member :=
  (lasting_referencedName m member).bind
    (g := fun column r =>
      (({ table := (r.resolveTable m).1, column } : ReferencedColumn), (r.resolveTable m).2))
    (fun column => (lasting_resolveTable m).map
      fun table => ({ table, column } : ReferencedColumn))
    fun _ r => extends_add r (.table m)

/-! ## References extend -/

theorem extends_lookup (r : Resolver) (ref : ModelRef) : r.Extends (r.lookup ref).2 := by
  rw [lookup]
  cases r.models.get? ref.id with
  | some held => exact .refl r
  | none =>
    by_cases ht : ref.typed = true
    · rw [if_pos ht]
      exact extends_add r (.model (r.catalog ref.id))
    · rw [if_neg ht]
      exact .refl r

theorem lookup_extends_resolveReference (r : Resolver) (key : ForeignKey) :
    (r.lookup key.model).2.Extends (r.resolveReference key).2 := by
  rcases hlookup : r.lookup key.model with ⟨_ | target, r'⟩
  · rw [resolveReference_of_none hlookup]
    exact .refl r'
  · rw [resolveReference_of_some hlookup]
    exact (extends_referencedName r' target key.member).trans (extends_add _ (.table target))

theorem extends_resolveReference (r : Resolver) (key : ForeignKey) :
    r.Extends (r.resolveReference key).2 :=
  (extends_lookup r key.model).trans (lookup_extends_resolveReference r key)

theorem extends_resolveAll (r : Resolver) (keys : List ForeignKey) :
    r.Extends (r.resolveAll keys).2 := by
  induction keys generalizing r with
  | nil => exact .refl r
  | cons key rest ih => exact (extends_resolveReference r key).trans (ih _)

/-! ## Names in force -/

/-- The table name under an identity: the cached one, else what the definition held declares. -/
def tableNameOf (r : Resolver) (id : ModelId) : Option TableName :=
  (r.tables.get? id).or ((r.models.get? id).map Model.tableName)

/-- The column name of a member under an identity: the cached one, else what the definition held
declares. -/
def columnNameOf (r : Resolver) (id : ModelId) (member : String) : Option String :=
  (r.columns.get? (id, member)).or
    (((r.models.get? id).bind (·.findMember member)).map Member.columnName)

/-- The resolvers hold the same definitions and agree on the names in force. -/
structure Alike (r s : Resolver) : Prop where
  catalog : s.catalog = r.catalog
  models : s.models = r.models
  table : ∀ id, s.tableNameOf id = r.tableNameOf id
  column : ∀ id member, s.columnNameOf id member = r.columnNameOf id member

theorem Alike.refl (r : Resolver) : r.Alike r :=
  ⟨rfl, rfl, fun _ => rfl, fun _ _ => rfl⟩

theorem Alike.trans {t : Resolver} (h : r.Alike s) (h' : s.Alike t) : r.Alike t :=
  ⟨h'.catalog.trans h.catalog, h'.models.trans h.models, fun id => (h'.table id).trans (h.table id),
    fun id member => (h'.column id member).trans (h.column id member)⟩

theorem tableNameOf_of_get? (hm : r.models.get? m.id = some m) :
    r.tableNameOf m.id = some (r.resolveTable m).1 := by
  rw [tableNameOf, resolveTable_fst, hm]
  cases r.tables.get? m.id <;> rfl

theorem columnNameOf_of_get? (hm : r.models.get? m.id = some m) {member : Member}
    (hfound : m.findMember member.ident = some member) :
    r.columnNameOf m.id member.ident = some (r.resolveColumn m member).1 := by
  rw [columnNameOf, resolveColumn_fst, hm, Option.bind_some, hfound]
  cases r.columns.get? (m.id, member.ident) <;> rfl

theorem alike_resolveTable (hm : r.models.get? m.id = some m) : r.Alike (r.resolveTable m).2 := by
  refine ⟨rfl, rfl, fun id => ?_, fun _ _ => rfl⟩
  by_cases hid : id = m.id
  · subst hid
    rw [tableNameOf_of_get? hm, tableNameOf, resolveTable_get?, Option.some_or]
  · have hother : (r.resolveTable m).2.tables.get? id = r.tables.get? id :=
      Cache.get?_hold_of_ne _ _ hid
    rw [tableNameOf, hother]
    rfl

theorem alike_resolveColumn (hm : r.models.get? m.id = some m) {member : Member}
    (hfound : m.findMember member.ident = some member) :
    r.Alike (r.resolveColumn m member).2 := by
  refine ⟨rfl, rfl, fun _ => rfl, fun id ident => ?_⟩
  by_cases hkey : (id, ident) = (m.id, member.ident)
  · obtain ⟨rfl, rfl⟩ := Prod.mk.inj hkey
    rw [columnNameOf_of_get? hm hfound, columnNameOf, resolveColumn_get?, Option.some_or]
  · have hother : (r.resolveColumn m member).2.columns.get? (id, ident)
        = r.columns.get? (id, ident) := Cache.get?_hold_of_ne _ _ hkey
    rw [columnNameOf, hother]
    rfl

/-! ## References that add no definition -/

/-- Looking the reference up adds no definition. -/
def Knows (r : Resolver) (ref : ModelRef) : Prop :=
  (r.lookup ref).2 = r

theorem knows_of_extends {ref : ModelRef} (h : (r.lookup ref).2.Extends s) : s.Knows ref := by
  rw [Knows, lookup]
  cases hs : s.models.get? ref.id with
  | some held => rfl
  | none =>
    by_cases ht : ref.typed = true
    · rw [if_pos ht]
      cases hr : r.models.get? ref.id with
      | some held =>
        rw [lookup, hr] at h
        rw [h.model hr] at hs
        cases hs
      | none =>
        rw [lookup, hr] at h
        simp only [if_pos ht] at h
        have hagain := lasting_register (r.catalog ref.id) r s h
        have hcatalog : s.catalog = r.catalog := h.catalog
        rw [hcatalog]
        exact congrArg Prod.snd hagain
    · rw [if_neg ht]

theorem Alike.register (h : r.Alike s) (hr : (r.register m).2 = r) :
    s.register m = ((r.register m).1, s) := by
  have hget : r.models.get? m.id = some (r.register m).1 := by
    have := register_get? r m
    rwa [hr] at this
  rw [← h.models] at hget
  simp only [Resolver.register, Cache.hold_of_some hget]

theorem Alike.lookup {ref : ModelRef} (h : r.Alike s) (hr : r.Knows ref) :
    s.lookup ref = ((r.lookup ref).1, s) := by
  unfold Knows Resolver.lookup at hr
  unfold Resolver.lookup
  rw [h.models, h.catalog]
  cases hget : r.models.get? ref.id with
  | some held => rfl
  | none =>
    rw [hget] at hr
    by_cases ht : ref.typed = true
    · simp only [if_pos ht] at hr ⊢
      rw [h.register hr]
    · simp only [if_neg ht]

/-- What a reference that adds no definition finds is held under its own identity. -/
theorem Knows.get? {ref : ModelRef} (hknown : r.Knows ref) (hr : r.Keyed)
    (hfound : (r.lookup ref).1 = some m) : r.models.get? m.id = some m := by
  have hget := hr.get?_of_lookup hfound
  rwa [hknown] at hget

theorem findMember_ident {member : String} {found : Member}
    (h : m.findMember member = some found) : m.findMember found.ident = some found := by
  have hident : found.ident = member := by simpa using List.find?_some h
  rw [hident]
  exact h

theorem alike_referencedName (hm : r.models.get? m.id = some m) (member : String) :
    r.Alike (r.referencedName m member).2 := by
  rw [referencedName]
  cases hfound : m.findMember member with
  | none => exact .refl r
  | some found => exact alike_resolveColumn hm (findMember_ident hfound)

theorem Alike.resolveTable_fst (h : r.Alike s) (hm : r.models.get? m.id = some m) :
    (s.resolveTable m).1 = (r.resolveTable m).1 := by
  have hs : s.models.get? m.id = some m := by
    rw [h.models]
    exact hm
  have heq := h.table m.id
  rw [tableNameOf_of_get? hm, tableNameOf_of_get? hs] at heq
  exact Option.some.inj heq

theorem alike_referTo (hm : r.models.get? m.id = some m) (member : String) :
    r.Alike (r.referTo m member).2 := by
  have hcolumn := alike_referencedName hm member
  refine hcolumn.trans (alike_resolveTable ?_)
  rw [hcolumn.models]
  exact hm

theorem Alike.referencedName_fst (h : r.Alike s) (hm : r.models.get? m.id = some m)
    (member : String) : (s.referencedName m member).1 = (r.referencedName m member).1 := by
  rw [referencedName, referencedName]
  cases hfound : m.findMember member with
  | none => rfl
  | some found =>
    have hs : s.models.get? m.id = some m := by
      rw [h.models]
      exact hm
    have heq := h.column m.id found.ident
    rw [columnNameOf_of_get? hm (findMember_ident hfound),
      columnNameOf_of_get? hs (findMember_ident hfound)] at heq
    exact Option.some.inj heq

theorem Alike.referTo_fst (h : r.Alike s) (hm : r.models.get? m.id = some m) (member : String) :
    (s.referTo m member).1 = (r.referTo m member).1 := by
  have hs : s.models.get? m.id = some m := by
    rw [h.models]
    exact hm
  have hcolumn := alike_referencedName hm member
  have hcolumn' := alike_referencedName hs member
  rw [referTo, referTo]
  simp only [hcolumn.resolveTable_fst hm, hcolumn'.resolveTable_fst hs, h.resolveTable_fst hm,
    h.referencedName_fst hm]

/-- A reference that adds no definition only adds names that are in force already. -/
theorem alike_resolveReference {key : ForeignKey} (hr : r.Keyed) (hknown : r.Knows key.model) :
    r.Alike (r.resolveReference key).2 := by
  have hlookup : r.lookup key.model = ((r.lookup key.model).1, r) := Prod.ext rfl hknown
  cases hfound : (r.lookup key.model).1 with
  | none =>
    rw [hfound] at hlookup
    rw [resolveReference_of_none hlookup]
    exact .refl r
  | some target =>
    rw [hfound] at hlookup
    rw [resolveReference_of_some hlookup]
    exact alike_referTo (hknown.get? hr hfound) key.member

/-- Resolvers that hold the same definitions and agree on the names in force answer references
alike. -/
theorem Alike.resolveReference {key : ForeignKey} (h : r.Alike s) (hr : r.Keyed)
    (hknown : r.Knows key.model) : (s.resolveReference key).1 = (r.resolveReference key).1 := by
  have hlookup : r.lookup key.model = ((r.lookup key.model).1, r) := Prod.ext rfl hknown
  have hlookup' := h.lookup hknown
  cases hfound : (r.lookup key.model).1 with
  | none =>
    rw [hfound] at hlookup hlookup'
    rw [resolveReference_of_none hlookup, resolveReference_of_none hlookup']
  | some target =>
    rw [hfound] at hlookup hlookup'
    rw [resolveReference_of_some hlookup, resolveReference_of_some hlookup',
      h.referTo_fst (hknown.get? hr hfound)]

/-! ## Resolvers that follow another -/

/-- The resolver has kept what another left, and has added no more than names in force. -/
structure Follows (r s : Resolver) : Prop where
  keeps : r.Extends s
  alike : r.Alike s

theorem Follows.refl (r : Resolver) : r.Follows r :=
  ⟨.refl r, .refl r⟩

theorem Alike.keyed (h : r.Alike s) (hr : r.Keyed) : s.Keyed := by
  refine ⟨fun hget => ?_⟩
  rw [h.models] at hget
  exact hr.id_eq hget

theorem Follows.resolveAll {keys : List ForeignKey} (h : r.Follows s) (hr : r.Keyed)
    (hknown : ∀ key ∈ keys, r.Knows key.model) :
    (s.resolveAll keys).1 = keys.map (fun key => (r.resolveReference key).1) ∧
      r.Follows (s.resolveAll keys).2 := by
  induction keys generalizing s with
  | nil => exact ⟨rfl, h⟩
  | cons key rest ih =>
    have hkey := hknown key List.mem_cons_self
    have hkey' : s.Knows key.model := congrArg Prod.snd (h.alike.lookup hkey)
    have hnext : r.Follows (s.resolveReference key).2 :=
      ⟨h.keeps.trans (extends_resolveReference s key),
        h.alike.trans (alike_resolveReference (h.alike.keyed hr) hkey')⟩
    obtain ⟨htargets, hend⟩ := ih hnext fun k hk => hknown k (List.mem_cons_of_mem _ hk)
    rw [resolveAll_cons, List.map_cons, h.alike.resolveReference hr hkey, htargets]
    exact ⟨rfl, hend⟩

end SchemaDdl.Resolver

/-! ## References whose target may change -/

namespace SchemaDdl

/-- A reference as it is written, which is what one to an unknown model resolves to. -/
def ForeignKey.asWritten (key : ForeignKey) : ReferencedColumn :=
  { table := { name := key.model.id.shortName }, column := key.member }

namespace Resolver

variable {r s : Resolver}

/-- A reference resolves again to what it resolved to, unless it is one by name that found no
model, or a typed one whose model describes itself under another identity. -/
theorem resolveReference_again {key : ForeignKey} (h : (r.resolveReference key).2.Extends s) :
    (s.resolveReference key).1 = (r.resolveReference key).1 ∨
      key.model.typed = false ∧ (r.resolveReference key).1 = key.asWritten ∨
      key.model.typed = true ∧ (r.catalog key.model.id).id ≠ key.model.id := by
  have hagain : ∀ {target r'}, r.lookup key.model = (some target, r') →
      r'.models.get? key.model.id = some target →
        (s.resolveReference key).1 = (r.resolveReference key).1 := by
    intro target r' hlookup hget
    have hkeep := lookup_extends_resolveReference r key
    rw [hlookup] at hkeep
    have hlookup' : s.lookup key.model = (some target, s) := by
      rw [lookup, (hkeep.trans h).model hget]
    rw [resolveReference_of_some hlookup] at h ⊢
    have hlast : s.referTo target key.member = ((r'.referTo target key.member).1, s) :=
      lasting_referTo target key.member r' s h
    rw [resolveReference_of_some hlookup', hlast]
  cases hget : r.models.get? key.model.id with
  | some target =>
    have hlookup : r.lookup key.model = (some target, r) := by rw [lookup, hget]
    exact .inl (hagain hlookup hget)
  | none =>
    by_cases ht : key.model.typed = true
    · by_cases hid : (r.catalog key.model.id).id = key.model.id
      · have hlookup : r.lookup key.model = (some (r.register (r.catalog key.model.id)).1,
            (r.register (r.catalog key.model.id)).2) := by
          rw [lookup, hget]
          simp only [if_pos ht]
        have hself := register_get? r (r.catalog key.model.id)
        rw [hid] at hself
        exact .inl (hagain hlookup hself)
      · exact .inr (.inr ⟨ht, hid⟩)
    · have hlookup : r.lookup key.model = (none, r) := by
        rw [lookup, hget]
        simp only [if_neg ht]
      exact .inr (.inl ⟨by simpa using ht, by rw [resolveReference_of_none hlookup]; rfl⟩)

end Resolver
end SchemaDdl
