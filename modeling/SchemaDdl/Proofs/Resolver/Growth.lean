import SchemaDdl.Builder
import SchemaDdl.Proofs.Column.Arrangement

/-!
# How resolvers grow

Whatever is done with a resolver adds entries to its caches and never replaces one.  `Grows`
says which: names of definitions that are held, and entries that are `free` to be added.  Each
operation has one lemma here; an invariant that single additions keep holds after all of them
(`Grows.keeps`).
-/

namespace SchemaDdl

/-- What an operation may add to a resolver: the declared names of a model or of one of its
members, or a definition. -/
inductive Entry
  | table (m : Model)
  | column (m : Model) (member : Member)
  | model (m : Model)

/-- The foreign keys that a member declares. -/
def Member.foreignKeys (m : Member) : List ForeignKey :=
  m.annotations.filterMap Annotation.foreignKey?

/-- The foreign keys that the members of a model declare. -/
def Model.foreignKeys (m : Model) : List ForeignKey :=
  m.members.flatMap Member.foreignKeys

namespace Resolver

/-! ## Operations on one cache -/

theorem resolveTable_fst (r : Resolver) (m : Model) :
    (r.resolveTable m).1 = (r.tables.get? m.id).getD m.tableName :=
  Cache.hold_fst ..

theorem resolveColumn_fst (r : Resolver) (m : Model) (member : Member) :
    (r.resolveColumn m member).1
      = (r.columns.get? (m.id, member.ident)).getD member.columnName :=
  Cache.hold_fst ..

theorem register_fst (r : Resolver) (m : Model) :
    (r.register m).1 = (r.models.get? m.id).getD m :=
  Cache.hold_fst ..

theorem resolveTable_get? (r : Resolver) (m : Model) :
    (r.resolveTable m).2.tables.get? m.id = some (r.resolveTable m).1 :=
  Cache.get?_hold_self ..

theorem resolveColumn_get? (r : Resolver) (m : Model) (member : Member) :
    (r.resolveColumn m member).2.columns.get? (m.id, member.ident)
      = some (r.resolveColumn m member).1 :=
  Cache.get?_hold_self ..

theorem register_get? (r : Resolver) (m : Model) :
    (r.register m).2.models.get? m.id = some (r.register m).1 :=
  Cache.get?_hold_self ..

/-- Claiming registers, and then compares what is held. -/
theorem claim_eq (r : Resolver) (m : Model) :
    r.claim m =
      (if (r.register m).1.Same m then .ok (r.register m).1
        else .error (.schema (.redefined m.id.text)), (r.register m).2) := by
  change (if (r.register m).1.Same m then (Except.ok (r.register m).1, (r.register m).2)
    else (Except.error (DdlError.schema (.redefined m.id.text)), (r.register m).2)) = _
  split <;> rfl

/-- The resolver after an addition; where an entry is held under the key it stays. -/
def add (r : Resolver) : Entry → Resolver
  | .table m => (r.resolveTable m).2
  | .column m member => (r.resolveColumn m member).2
  | .model m => (r.register m).2

section Add

variable (r : Resolver) (m : Model) (member : Member) (e : Entry)

@[simp] theorem add_catalog : (r.add e).catalog = r.catalog := by
  cases e <;> rfl

variable {r m member}

theorem add_table_eq_some_iff {id : ModelId} {t : TableName} :
    (r.add (.table m)).tables.get? id = some t ↔
      r.tables.get? id = some t ∨ id = m.id ∧ r.tables.get? m.id = none ∧ m.tableName = t :=
  Cache.get?_hold_eq_some_iff

theorem add_column_eq_some_iff {key : ModelId × String} {name : String} :
    (r.add (.column m member)).columns.get? key = some name ↔
      r.columns.get? key = some name ∨
        key = (m.id, member.ident) ∧ r.columns.get? (m.id, member.ident) = none ∧
          member.columnName = name :=
  Cache.get?_hold_eq_some_iff

theorem add_model_eq_some_iff {id : ModelId} {held : Model} :
    (r.add (.model m)).models.get? id = some held ↔
      r.models.get? id = some held ∨ id = m.id ∧ r.models.get? m.id = none ∧ m = held :=
  Cache.get?_hold_eq_some_iff

end Add

/-! ## Entries stay -/

/-- Everything that one resolver holds, another holds too. -/
structure Extends (r r' : Resolver) : Prop where
  catalog : r'.catalog = r.catalog
  table : ∀ {id t}, r.tables.get? id = some t → r'.tables.get? id = some t
  column : ∀ {key name}, r.columns.get? key = some name → r'.columns.get? key = some name
  model : ∀ {id m}, r.models.get? id = some m → r'.models.get? id = some m

theorem Extends.refl (r : Resolver) : r.Extends r :=
  ⟨rfl, id, id, id⟩

theorem Extends.trans {r r' r'' : Resolver} (h : r.Extends r') (h' : r'.Extends r'') :
    r.Extends r'' :=
  ⟨h'.catalog.trans h.catalog, fun ht => h'.table (h.table ht), fun hc => h'.column (h.column hc),
    fun hm => h'.model (h.model hm)⟩

theorem extends_add (r : Resolver) (e : Entry) : r.Extends (r.add e) := by
  refine ⟨add_catalog r e, ?_, ?_, ?_⟩
  · intro id t h
    cases e with
    | table m => exact add_table_eq_some_iff.2 (.inl h)
    | column | model => exact h
  · intro key name h
    cases e with
    | column m member => exact add_column_eq_some_iff.2 (.inl h)
    | table | model => exact h
  · intro id held h
    cases e with
    | model m => exact add_model_eq_some_iff.2 (.inl h)
    | table | column => exact h

/-! ## Definitions that are held -/

/-- A definition equal to the model is held under its identity. -/
def Holds (r : Resolver) (m : Model) : Prop :=
  ∃ held, r.models.get? m.id = some held ∧ held.Same m

theorem Holds.mono {r r' : Resolver} {m : Model} (h : r.Holds m) (hr : r.Extends r') :
    r'.Holds m := by
  obtain ⟨held, hget, hsame⟩ := h
  exact ⟨held, hr.model hget, hsame⟩

/-- Every definition is held under its own identity. -/
structure Keyed (r : Resolver) : Prop where
  id_eq : ∀ {id m}, r.models.get? id = some m → m.id = id

theorem keyed_new (catalog : Catalog) : (new catalog).Keyed :=
  ⟨fun h => by cases h⟩

theorem Keyed.add {r : Resolver} (h : r.Keyed) (e : Entry) : (r.add e).Keyed := by
  refine ⟨fun {id held} hget => ?_⟩
  cases e with
  | table | column => exact h.id_eq hget
  | model m =>
    rcases add_model_eq_some_iff.1 hget with hget | ⟨rfl, -, rfl⟩
    · exact h.id_eq hget
    · rfl

theorem Keyed.holds {r : Resolver} (h : r.Keyed) {id : ModelId} {m : Model}
    (hget : r.models.get? id = some m) : r.Holds m := by
  refine ⟨m, ?_, .refl m⟩
  rw [h.id_eq hget]
  exact hget

/-! ## Growth -/

/-- The entry is a name of a definition that is held. -/
def Own (r : Resolver) : Entry → Prop
  | .table m => r.Holds m
  | .column m member => r.Holds m ∧ member ∈ m.members
  | .model _ => False

/-- One resolver comes from another by additions of free entries and of names of what is held
at the time. -/
inductive Grows (free : Entry → Prop) (r : Resolver) : Resolver → Prop
  | refl : Grows free r r
  | add {r' : Resolver} {e : Entry} (h : Grows free r r') (he : free e ∨ r'.Own e) :
      Grows free r (r'.add e)

variable {free : Entry → Prop} {r r' r'' : Resolver}

theorem Grows.one {e : Entry} (he : free e ∨ r.Own e) : Grows free r (r.add e) :=
  .add .refl he

theorem Grows.trans (h : Grows free r r') (h' : Grows free r' r'') : Grows free r r'' := by
  induction h' with
  | refl => exact h
  | add _ he ih => exact ih.add he

theorem Grows.mono {free' : Entry → Prop} (hfree : ∀ e, free e → free' e) (h : Grows free r r') :
    Grows free' r r' := by
  induction h with
  | refl => exact .refl
  | add _ he ih => exact ih.add (he.imp_left (hfree _))

/-- What single additions keep, growth keeps. -/
theorem Grows.keeps {I : Resolver → Prop} (h : Grows free r r')
    (hadd : ∀ {r' e}, I r' → free e ∨ r'.Own e → I (r'.add e)) (hr : I r) : I r' := by
  induction h with
  | refl => exact hr
  | add _ he ih => exact hadd ih he

theorem Grows.extends (h : Grows free r r') : r.Extends r' :=
  h.keeps (fun hr _ => hr.trans (extends_add ..)) (.refl r)

theorem Grows.catalog (h : Grows free r r') : r'.catalog = r.catalog :=
  h.extends.catalog

theorem Grows.keyed (h : Grows free r r') (hr : r.Keyed) : r'.Keyed :=
  h.keeps (fun hr _ => hr.add _) hr

/-- The names of the model are free to be added, or it is held. -/
def Nameable (free : Entry → Prop) (r : Resolver) (m : Model) : Prop :=
  r.Holds m ∨ free (.table m) ∧ ∀ member ∈ m.members, free (.column m member)

theorem Nameable.mono {m : Model} (h : Nameable free r m) (hr : r.Extends r') :
    Nameable free r' m :=
  h.imp_left fun h => h.mono hr

/-! ### Names -/

theorem Nameable.grows_resolveTable {m : Model} (h : Nameable free r m) :
    Grows free r (r.resolveTable m).2 :=
  .one (e := .table m) (h.symm.imp And.left id)

theorem Nameable.grows_resolveColumn {m : Model} (h : Nameable free r m) {member : Member}
    (hmem : member ∈ m.members) : Grows free r (r.resolveColumn m member).2 :=
  .one (e := .column m member) (h.symm.imp (fun h => h.2 member hmem) fun h => ⟨h, hmem⟩)

theorem Nameable.grows_ofMembers {m : Model} {members : List Member} (h : Nameable free r m)
    (hsub : ∀ member ∈ members, member ∈ m.members) :
    Grows free r (Column.ofMembers r m members).2 := by
  induction members generalizing r with
  | nil => exact .refl
  | cons member rest ih =>
    have hhead := h.grows_resolveColumn (hsub member List.mem_cons_self)
    exact hhead.trans (ih (h.mono hhead.extends) fun x hx => hsub x (List.mem_cons_of_mem _ hx))

theorem Nameable.grows_extract {m : Model} (h : Nameable free r m) :
    Grows free r (Column.extract r m).2 :=
  h.grows_ofMembers fun _ hmem => (List.mem_filter.1 hmem).1

theorem Nameable.grows_resolve {m : Model} (h : Nameable free r m) (defaultSchema : String) :
    Grows free r (Table.resolve r m defaultSchema).2 :=
  h.grows_resolveTable

theorem Nameable.grows_describe {m : Model} (h : Nameable free r m) (defaultSchema : String) :
    Grows free r (Table.describe r m defaultSchema).2 :=
  h.grows_extract.trans ((h.mono h.grows_extract.extends).grows_resolve defaultSchema)

theorem grows_describeAll {models : List Model} (h : ∀ m ∈ models, Nameable free r m)
    (defaultSchema : String) : Grows free r (Builder.describeAll defaultSchema r models).2 := by
  induction models generalizing r with
  | nil => exact .refl
  | cons m rest ih =>
    have hhead := (h m List.mem_cons_self).grows_describe defaultSchema
    exact hhead.trans (ih fun x hx => (h x (List.mem_cons_of_mem _ hx)).mono hhead.extends)

/-! ### Definitions -/

theorem grows_register {m : Model} (h : free (.model m)) : Grows free r (r.register m).2 :=
  .one (e := .model m) (.inl h)

theorem grows_claim {m : Model} (h : free (.model m)) : Grows free r (r.claim m).2 := by
  rw [claim_eq]
  exact grows_register h

theorem grows_entity {id : ModelId} (h : free (.model (r.catalog id))) :
    Grows free r (r.entity id).2 := by
  rw [entity]
  split
  · exact .refl
  · exact grows_register h

theorem grows_lookup {ref : ModelRef} (h : ref.typed → free (.model (r.catalog ref.id))) :
    Grows free r (r.lookup ref).2 := by
  rw [lookup]
  split
  · exact .refl
  · by_cases ht : ref.typed = true
    · rw [if_pos ht]
      exact grows_register (h ht)
    · rw [if_neg ht]
      exact .refl

/-- What a lookup finds is held under its own identity afterwards. -/
theorem Keyed.get?_of_lookup {ref : ModelRef} {m : Model} (h : r.Keyed)
    (hfound : (r.lookup ref).1 = some m) : (r.lookup ref).2.models.get? m.id = some m := by
  rw [lookup] at hfound ⊢
  split at hfound
  · next held hget =>
    cases hfound
    rw [h.id_eq hget]
    exact hget
  · by_cases ht : ref.typed = true
    · rw [if_pos ht] at hfound ⊢
      cases hfound
      have hkeyed : (r.register (r.catalog ref.id)).2.Keyed := h.add (.model (r.catalog ref.id))
      have hself := register_get? r (r.catalog ref.id)
      change (r.register (r.catalog ref.id)).2.models.get? (r.register (r.catalog ref.id)).1.id = _
      rw [hkeyed.id_eq hself]
      exact hself
    · rw [if_neg ht] at hfound
      cases hfound

/-! ### References -/

/-- The column that a reference to a member of a model names. -/
def referencedName (r : Resolver) (target : Model) (member : String) : String × Resolver :=
  match target.findMember member with
  | some found => r.resolveColumn target found
  | none => (member, r)

/-- The table and column that a reference to a member of a model names. -/
def referTo (r : Resolver) (target : Model) (member : String) : ReferencedColumn × Resolver :=
  let (column, r) := r.referencedName target member
  let (table, r) := r.resolveTable target
  ({ table, column }, r)

theorem resolveReference_of_some {key : ForeignKey} {target : Model} {r' : Resolver}
    (h : r.lookup key.model = (some target, r')) :
    r.resolveReference key = r'.referTo target key.member := by
  rw [resolveReference, h]
  rfl

theorem resolveReference_of_none {key : ForeignKey} {r' : Resolver}
    (h : r.lookup key.model = (none, r')) :
    r.resolveReference key =
      ({ table := { name := key.model.id.shortName }, column := key.member }, r') := by
  rw [resolveReference, h]

theorem Nameable.grows_referencedName {target : Model} (h : Nameable free r target)
    (member : String) : Grows free r (r.referencedName target member).2 := by
  rw [referencedName]
  split
  · next found hfound => exact h.grows_resolveColumn (List.mem_of_find?_eq_some hfound)
  · exact .refl

theorem Nameable.grows_referTo {target : Model} (h : Nameable free r target) (member : String) :
    Grows free r (r.referTo target member).2 := by
  have hcolumn := h.grows_referencedName member
  exact hcolumn.trans (h.mono hcolumn.extends).grows_resolveTable

theorem grows_resolveReference (hr : r.Keyed) {key : ForeignKey}
    (h : key.model.typed → free (.model (r.catalog key.model.id))) :
    Grows free r (r.resolveReference key).2 := by
  have hlookup : Grows free r (r.lookup key.model).2 := grows_lookup h
  rcases hfound : r.lookup key.model with ⟨_ | target, r'⟩ <;> rw [hfound] at hlookup
  · rw [resolveReference_of_none hfound]
    exact hlookup
  · have hget : r'.models.get? target.id = some target := by
      have hfst : (r.lookup key.model).1 = some target := by rw [hfound]
      have hheld := hr.get?_of_lookup hfst
      rwa [hfound] at hheld
    have hname : Nameable free r' target := .inl ⟨target, hget, .refl target⟩
    rw [resolveReference_of_some hfound]
    exact hlookup.trans (hname.grows_referTo key.member)

end Resolver
end SchemaDdl
