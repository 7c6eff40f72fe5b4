import Mathlib.Data.List.Perm.Basic
import SchemaDdl.Proofs.Lists
import SchemaDdl.Proofs.Resolver.Settled
import SchemaDdl.Proofs.SchemaFile.Fields

/-!
# The models of a schema file

A file gives one model for each declaration: with the declared name as its identity, the table
annotation that its keys ask for, and one member for each field (`SchemaFile.toModels_eq_ok_iff`).
Names are distinct and references are by name only, so where no declaration repeats a field the
models of a file form a coherent family (`SchemaFile.Declares.coherent`).  Whether a file gives
models, and which, does not depend on the order of its declarations (`SchemaFile.toModels_perm`).
-/

namespace SchemaDdl

/-! ## Members of fields -/

/-- Of the annotations that a field asks for, those about foreign keys go by name. -/
theorem FieldDecl.Declares.untyped {f : FieldDecl} {enums : EnumTable} {m : Member}
    (h : f.Declares enums m) : ∀ key ∈ m.foreignKeys, key.model.typed = false := by
  obtain ⟨text, -, hannotations⟩ := h.annotations
  intro key hkey
  rw [Member.foreignKeys, hannotations] at hkey
  obtain ⟨a, hmem, hfound⟩ := List.mem_filterMap.1 hkey
  cases a with
  | foreignKey target =>
    obtain ⟨⟨model, member⟩, -, rfl⟩ : ∃ declared, f.foreignKey = some declared ∧
        { model := { id := ⟨declared.1⟩, typed := false }, member := declared.2 } = target := by
      simpa [declaredAnnotations, whenAsked] using hmem
    cases hfound
    rfl
  | _ => cases hfound

/-! ## Models of declarations -/

namespace ModelDecl

variable {d : ModelDecl} {m : Model} {enums : EnumTable}

/-- The table annotation that a declaration asks for.  A schema alone goes with the name of the
model. -/
inductive Annotates (d : ModelDecl) : Option TableSettings → Prop
  | table {name : String} (h : d.table = some name) :
      Annotates d (some { name, schema := d.schema })
  | schema {schema : String} (htable : d.table = none) (h : d.schema = some schema) :
      Annotates d (some { name := d.name, schema := some schema })
  | none (htable : d.table = none) (hschema : d.schema = none) : Annotates d none

theorem annotates_tableSettings (d : ModelDecl) : d.Annotates d.tableSettings := by
  unfold tableSettings
  cases htable : d.table with
  | some name => exact .table htable
  | none =>
    cases hschema : d.schema with
    | some schema => exact .schema htable hschema
    | none => exact .none htable hschema

theorem Annotates.eq_tableSettings {settings : Option TableSettings} (h : d.Annotates settings) :
    settings = d.tableSettings := by
  cases h with
  | table h => rw [tableSettings, h]
  | schema htable h => rw [tableSettings, htable, h]
  | none htable hschema => rw [tableSettings, htable, hschema]

/-- The model is what the declaration says: the declared name as its identity and as its identifier,
the table annotation asked for, and one member for each field. -/
structure Declares (enums : EnumTable) (d : ModelDecl) (m : Model) : Prop where
  id : m.id = ⟨d.name⟩
  ident : m.ident = d.name
  table : d.Annotates m.table
  members : List.Forall₂ (fun f m => f.Declares enums m) d.fields m.members

theorem members_eq_ok_iff {model : String} {fields : List FieldDecl} {ms : List Member} :
    members model enums fields = .ok ms ↔
      List.Forall₂ (fun f m => f.Declares enums m) fields ms := by
  induction fields generalizing ms with
  | nil => simp [members, eq_comm]
  | cons f rest ih =>
    rw [List.forall₂_cons_left_iff, members]
    simp only [← ih]
    simp only [← FieldDecl.toMember_eq_ok_iff model]
    cases f.toMember model enums with
    | error e => simp
    | ok m => cases members model enums rest <;> simp [eq_comm]

/-- The model that a declaration can have is what it says. -/
theorem toModel_eq_ok_iff : d.toModel enums = .ok m ↔ d.Declares enums m := by
  constructor
  · intro h
    rw [toModel] at h
    split at h
    · cases h
    · next ms hms =>
      cases h
      exact ⟨rfl, rfl, d.annotates_tableSettings, members_eq_ok_iff.1 hms⟩
  · rintro ⟨hid, hident, htable, hmembers⟩
    obtain ⟨id, ident, table, ms⟩ := m
    cases hid
    cases hident
    cases htable.eq_tableSettings
    rw [toModel, members_eq_ok_iff.2 hmembers]
    rfl

namespace Declares

theorem untyped (h : d.Declares enums m) : ∀ key ∈ m.foreignKeys, key.model.typed = false := by
  intro key hkey
  obtain ⟨member, hmember, hkey⟩ := List.mem_flatMap.1 hkey
  obtain ⟨f, -, hf⟩ := exists_left_of_forall₂ h.members hmember
  exact hf.untyped key hkey

theorem idents (h : d.Declares enums m) :
    m.members.map Member.ident = d.fields.map FieldDecl.name :=
  map_eq_map_of_forall₂ (h.members.imp fun _ _ h => h.ident)

end Declares
end ModelDecl

/-! ## Enumerations -/

namespace FieldType

/-- An enumeration can be stored as the type that the text denotes: an integer type. -/
def Represents (text : String) (repr : FieldType) : Prop :=
  parse [] text = .ok repr ∧ ∃ s ∈ [Scalar.i16, .i32, .i64, .u8], repr = scalar s

theorem isInteger_iff {t : FieldType} :
    t.isInteger = true ↔ ∃ s ∈ [Scalar.i16, .i32, .i64, .u8], t = scalar s := by
  cases t with
  | scalar s => cases s <;> simp [isInteger]
  | enumeration | nullable | custom => simp [isInteger]

theorem parseRepr_eq_ok_iff {text : String} {repr : FieldType} :
    parseRepr text = .ok repr ↔ Represents text repr := by
  rw [parseRepr, Represents, ← isInteger_iff]
  cases parse [] text with
  | error e => simp
  | ok type =>
    by_cases hinteger : type.isInteger = true
    · simp only [hinteger, if_true, Except.ok.injEq]
      exact ⟨fun h => ⟨h, h ▸ hinteger⟩, And.left⟩
    · simp only [hinteger, if_false, Except.ok.injEq, reduceCtorEq, false_iff]
      rintro ⟨rfl, h⟩
      exact hinteger h

end FieldType

/-! ## Models of files -/

/-- The references of the models are by name. -/
def ByName (models : List Model) : Prop :=
  ∀ m ∈ models, ∀ key ∈ m.foreignKeys, key.model.typed = false

namespace SchemaFile

open Resolver

/-- The table holds the enumerations of the file in order, each under its name with a type that its
text denotes and that can represent it. -/
def Enumerates (f : SchemaFile) (table : EnumTable) : Prop :=
  List.Forall₂ (fun entry stored => entry.1 = stored.1 ∧ FieldType.Represents entry.2 stored.2)
    f.enums table

/-- The models are what the file says: no two declarations share a name, and there is one model for
each declaration, under the enumerations of the file. -/
structure Declares (f : SchemaFile) (models : List Model) : Prop where
  names : (f.models.map ModelDecl.name).Nodup
  models : ∃ table, f.Enumerates table ∧
    List.Forall₂ (fun d m => d.Declares table m) f.models models

theorem readEnumTable_eq_ok_iff {enums : List (String × String)} {table : EnumTable} :
    readEnumTable enums = .ok table ↔
      List.Forall₂ (fun entry stored =>
        entry.1 = stored.1 ∧ FieldType.Represents entry.2 stored.2) enums table := by
  induction enums generalizing table with
  | nil => simp [readEnumTable, eq_comm]
  | cons entry rest ih =>
    rw [List.forall₂_cons_left_iff, readEnumTable]
    simp only [← ih]
    simp only [← FieldType.parseRepr_eq_ok_iff]
    cases FieldType.parseRepr entry.2 with
    | error e => simp
    | ok repr =>
      cases readEnumTable rest with
      | error e => simp
      | ok stored => simp [eq_comm]

theorem readModels_cons_eq_ok_iff {enums : EnumTable} {seen : List String} {d : ModelDecl}
    {rest : List ModelDecl} {models : List Model} :
    readModels enums seen (d :: rest) = .ok models ↔
      d.name ∉ seen ∧ ∃ m ms, d.toModel enums = .ok m ∧
        readModels enums (d.name :: seen) rest = .ok ms ∧ m :: ms = models := by
  rw [readModels]
  by_cases hseen : d.name ∈ seen
  · simp [hseen]
  · rw [if_neg hseen]
    cases d.toModel enums with
    | error e => simp
    | ok m => cases readModels enums (d.name :: seen) rest <;> simp [hseen]

theorem readModels_eq_ok_iff {enums : EnumTable} {seen : List String} {decls : List ModelDecl}
    {models : List Model} :
    readModels enums seen decls = .ok models ↔
      (∀ d ∈ decls, d.name ∉ seen) ∧ (decls.map ModelDecl.name).Nodup ∧
        List.Forall₂ (fun d m => d.Declares enums m) decls models := by
  simp only [← ModelDecl.toModel_eq_ok_iff]
  -- the names read so far grow by one at each step, so the induction is over any of them
  induction decls generalizing seen models with
  | nil => cases models <;> simp [readModels]
  | cons d rest ih =>
    rw [readModels_cons_eq_ok_iff, List.map_cons, List.nodup_cons]
    constructor
    · rintro ⟨hseen, m, ms, hm, hrest, rfl⟩
      obtain ⟨hnew, hnodup, hms⟩ := ih.1 hrest
      refine ⟨List.forall_mem_cons.2 ⟨hseen, fun x hx hin => ?_⟩, ⟨fun hin => ?_, hnodup⟩,
        .cons hm hms⟩
      · exact hnew x hx (List.mem_cons_of_mem _ hin)
      · obtain ⟨x, hx, hname⟩ := List.mem_map.1 hin
        exact hnew x hx (hname ▸ List.mem_cons_self)
    · rintro ⟨hnew, ⟨hd, hnodup⟩, hmodels⟩
      obtain ⟨hseen, hnew⟩ := List.forall_mem_cons.1 hnew
      cases hmodels with
      | cons hm hms =>
        refine ⟨hseen, _, _, hm, ih.2 ⟨fun x hx hin => ?_, hnodup, hms⟩, rfl⟩
        rcases List.mem_cons.1 hin with hname | hin
        · exact hd (List.mem_map.2 ⟨x, hx, hname⟩)
        · exact hnew x hx hin

/-- The models that a file can give are what it says. -/
theorem toModels_eq_ok_iff {f : SchemaFile} {models : List Model} :
    f.toModels = .ok models ↔ f.Declares models := by
  have hdeclares : f.Declares models ↔
      ∃ table, readEnumTable f.enums = .ok table ∧ readModels table [] f.models = .ok models := by
    simp only [readModels_eq_ok_iff, readEnumTable_eq_ok_iff]
    constructor
    · rintro ⟨hnames, table, henums, hmodels⟩
      exact ⟨table, henums, fun _ _ h => (by cases h), hnames, hmodels⟩
    · rintro ⟨table, henums, -, hnames, hmodels⟩
      exact ⟨hnames, table, henums, hmodels⟩
  rw [hdeclares, toModels, enumTable]
  cases readEnumTable f.enums with
  | error e => simp
  | ok table => simp

/-- A file with its declarations in another order gives its models in another order. -/
theorem toModels_perm {f f' : SchemaFile} {models : List Model} (h : f.toModels = .ok models)
    (henums : f'.enums = f.enums) (hdecls : f'.models.Perm f.models) :
    ∃ models', f'.toModels = .ok models' ∧ models'.Perm models := by
  obtain ⟨hnames, table, htable, hmodels⟩ := toModels_eq_ok_iff.1 h
  obtain ⟨models', hmodels', hperm⟩ := List.perm_comp_forall₂ hdecls hmodels
  refine ⟨models', toModels_eq_ok_iff.2 ⟨?_, table, ?_, hmodels'⟩, hperm⟩
  · exact (hdecls.map _).nodup_iff.2 hnames
  · rw [Enumerates, henums]
    exact htable

namespace Declares

variable {f : SchemaFile} {models models' : List Model}

/-- A file declares one list of models. -/
theorem eq (h : f.Declares models) (h' : f.Declares models') : models = models' := by
  have hmodels := toModels_eq_ok_iff.2 h
  rw [toModels_eq_ok_iff.2 h'] at hmodels
  cases hmodels
  rfl

theorem idents (h : f.Declares models) :
    models.map Model.ident = f.models.map ModelDecl.name := by
  obtain ⟨table, -, hmodels⟩ := h.models
  exact map_eq_map_of_forall₂ (hmodels.imp fun _ _ h => h.ident)

theorem ids (h : f.Declares models) :
    models.map Model.id = f.models.map fun d => ⟨d.name⟩ := by
  obtain ⟨table, -, hmodels⟩ := h.models
  exact map_eq_map_of_forall₂ (hmodels.imp fun _ _ h => h.id)

theorem nodup_ids (h : f.Declares models) : (models.map Model.id).Nodup := by
  have hmap := h.names.map (f := ModelId.mk) fun _ _ heq => congrArg ModelId.text heq
  rw [List.map_map] at hmap
  rw [h.ids]
  exact hmap

/-- Models of a file with one identifier are one. -/
theorem eq_of_ident_eq (h : f.Declares models) :
    ∀ a ∈ models, ∀ b ∈ models, a.ident = b.ident → a = b := by
  have hnodup := h.names
  rw [← h.idents] at hnodup
  exact fun a ha b hb => List.inj_on_of_nodup_map hnodup ha hb

theorem byName (h : f.Declares models) : ByName models := by
  intro m hm
  obtain ⟨table, -, hmodels⟩ := h.models
  obtain ⟨d, -, hd⟩ := exists_left_of_forall₂ hmodels hm
  exact hd.untyped

/-- Where no declaration repeats a field, the models of a file are a coherent family. -/
theorem coherent (h : f.Declares models)
    (hfields : ∀ d ∈ f.models, (d.fields.map FieldDecl.name).Nodup) : Coherent (· ∈ models) := by
  obtain ⟨table, -, hmodels⟩ := h.models
  refine ⟨fun a b ha hb heq => List.inj_on_of_nodup_map h.nodup_ids ha hb heq, fun m hm => ?_⟩
  obtain ⟨d, hd, hdeclares⟩ := exists_left_of_forall₂ hmodels hm
  rw [hdeclares.idents]
  exact hfields d hd

end Declares
end SchemaFile
end SchemaDdl
