import SchemaDdl.Proofs.SchemaFile.Order

/-!
# What applying a schema file does

A file is valid when its parts can be read and no two models share a name; just then it gives
models (`SchemaFile.exists_declares_iff`).  Its names being distinct, claiming one model says
nothing about another, so the claims get as far as the first model that differs from a definition
held at the start, and the resolver gains what comes before it (`SchemaFile.claimAll_cases`).  The
definitions held then go by the declared names, so each operation about a declared model finds it
and no model is left out (`SchemaFile.apply_outcome`).
-/

namespace SchemaDdl

/-! ## Files that give models -/

namespace FieldDecl

variable {f : FieldDecl} {enums : EnumTable}

/-- The field has a type, and its default is a scalar if it has one. -/
structure Valid (enums : EnumTable) (f : FieldDecl) : Prop where
  type : ∃ t, FieldType.parse enums f.type = .ok t
  default : ∀ value, f.default = some value → ∃ s, value = .scalar s

theorem exists_defaults_iff :
    (∃ text, f.Defaults text) ↔ ∀ value, f.default = some value → ∃ s, value = .scalar s := by
  constructor
  · rintro ⟨text, htext⟩ value hvalue
    cases htext with
    | none hnone =>
      rw [hvalue] at hnone
      cases hnone
    | scalar hscalar =>
      rw [hvalue] at hscalar
      cases hscalar
      exact ⟨_, rfl⟩
  · intro h
    cases hdefault : f.default with
    | none => exact ⟨none, .none hdefault⟩
    | some value =>
      obtain ⟨s, rfl⟩ := h value hdefault
      exact ⟨some s.display, .scalar hdefault s.spells_display⟩

theorem exists_declares_iff : (∃ m, f.Declares enums m) ↔ f.Valid enums := by
  constructor
  · rintro ⟨m, -, htype, text, htext, -⟩
    exact ⟨⟨m.type, htype⟩, exists_defaults_iff.1 ⟨text, htext⟩⟩
  · rintro ⟨⟨type, htype⟩, hdefault⟩
    obtain ⟨text, htext⟩ := exists_defaults_iff.2 hdefault
    exact ⟨{ ident := f.name, type, annotations := f.declaredAnnotations text }, rfl, htype, text,
      htext, rfl⟩

end FieldDecl

theorem ModelDecl.exists_declares_iff {d : ModelDecl} {enums : EnumTable} :
    (∃ m, d.Declares enums m) ↔ ∀ f ∈ d.fields, f.Valid enums := by
  simp only [← FieldDecl.exists_declares_iff, ← exists_forall₂_iff]
  constructor
  · rintro ⟨m, h⟩
    exact ⟨m.members, h.members⟩
  · rintro ⟨members, h⟩
    exact ⟨{ id := ⟨d.name⟩, ident := d.name, table := d.tableSettings, members }, rfl, rfl,
      d.annotates_tableSettings, h⟩

namespace SchemaFile

/-- The file can be read: its enumerations are stored as integer types, its models have names of
their own, and its fields are valid under its enumerations. -/
structure Valid (f : SchemaFile) : Prop where
  enums : ∀ entry ∈ f.enums, ∃ repr, FieldType.Represents entry.2 repr
  names : (f.models.map ModelDecl.name).Nodup
  fields : ∀ table, f.Enumerates table →
    ∀ d ∈ f.models, ∀ field ∈ d.fields, field.Valid table

theorem exists_enumerates_iff {f : SchemaFile} :
    (∃ table, f.Enumerates table) ↔
      ∀ entry ∈ f.enums, ∃ repr, FieldType.Represents entry.2 repr := by
  unfold Enumerates
  rw [exists_forall₂_iff]
  refine forall₂_congr fun entry _ => ⟨?_, ?_⟩
  · rintro ⟨stored, -, hrepr⟩
    exact ⟨stored.2, hrepr⟩
  · rintro ⟨repr, hrepr⟩
    exact ⟨(entry.1, repr), rfl, hrepr⟩

theorem Enumerates.eq {f : SchemaFile} {table table' : EnumTable} (h : f.Enumerates table)
    (h' : f.Enumerates table') : table = table' := by
  have hread := readEnumTable_eq_ok_iff.2 h
  rw [readEnumTable_eq_ok_iff.2 h'] at hread
  cases hread
  rfl

/-- A file declares models just when it is valid. -/
theorem exists_declares_iff {f : SchemaFile} : (∃ models, f.Declares models) ↔ f.Valid := by
  constructor
  · rintro ⟨models, hnames, table, htable, hmodels⟩
    refine ⟨exists_enumerates_iff.1 ⟨table, htable⟩, hnames, fun table' htable' d hd => ?_⟩
    cases htable.eq htable'
    exact ModelDecl.exists_declares_iff.1 (exists_forall₂_iff.1 ⟨models, hmodels⟩ d hd)
  · intro h
    obtain ⟨table, htable⟩ := exists_enumerates_iff.2 h.enums
    obtain ⟨models, hmodels⟩ := exists_forall₂_iff.2 fun d hd =>
      ModelDecl.exists_declares_iff.2 (h.fields table htable d hd)
    exact ⟨models, h.names, table, htable, hmodels⟩

end SchemaFile

/-! ## Claims of a file -/

namespace Resolver

variable {r r' : Resolver} {m x : Model} {models : List Model}

/-- The model differs from the definition that is held under its identity. -/
def Differs (r : Resolver) (m : Model) : Prop :=
  ∃ held, r.models.get? m.id = some held ∧ ¬ held.Same m

/-- None of the models differs from a definition that is held. -/
def Admits (r : Resolver) (models : List Model) : Prop :=
  ∀ m ∈ models, ¬ r.Differs m

/-- The resolver has gained those of the models that it did not hold, and nothing else. -/
structure Gains (r : Resolver) (models : List Model) (r' : Resolver) : Prop where
  catalog : r'.catalog = r.catalog
  tables : r'.tables = r.tables
  columns : r'.columns = r.columns
  models : ∀ id, r'.models.get? id = (r.models.get? id).or (models.find? fun m => m.id = id)

theorem Gains.nil (r : Resolver) : r.Gains [] r :=
  ⟨rfl, rfl, rfl, fun _ => Option.or_none.symm⟩

theorem Gains.cons (h : (r.register m).2.Gains models r') : r.Gains (m :: models) r' := by
  refine ⟨h.catalog, h.tables, h.columns, fun id => ?_⟩
  rw [h.models]
  change ((r.models.hold m.id m).2.get? id).or _ = _
  by_cases hid : m.id = id
  · subst hid
    rw [Cache.get?_hold_self, Cache.hold_fst, List.find?_cons_of_pos (by simp)]
    cases r.models.get? m.id <;> rfl
  · rw [Cache.get?_hold_of_ne _ _ (Ne.symm hid), List.find?_cons_of_neg (by simpa using hid)]

theorem Gains.get?_of_some (h : r.Gains models r') {id : ModelId} {held : Model}
    (hget : r.models.get? id = some held) : r'.models.get? id = some held := by
  rw [h.models, hget, Option.some_or]

/-- Registering a model does not matter to models with other identities. -/
theorem differs_register_iff (h : x.id ≠ m.id) : (r.register m).2.Differs x ↔ r.Differs x := by
  have hget : (r.register m).2.models.get? x.id = r.models.get? x.id :=
    Cache.get?_hold_of_ne _ _ h
  rw [Differs, Differs, hget]

end Resolver

namespace SchemaFile

open Resolver (Admits Differs Gains)

variable {f : SchemaFile} {b : Builder} {r r' : Resolver} {m : Model} {models held : List Model}
  {op : Operation} {q : Request} {name : String}

/-- The definition is held for the model, and is equal to it. -/
def HeldFor (r : Resolver) (m held : Model) : Prop :=
  r.models.get? m.id = some held ∧ held.Same m

/-- Claims of models with identities of their own either all succeed, or fail at the first model
that differs from what was held before them. -/
theorem claimAll_cases (hnodup : (models.map Model.id).Nodup) :
    (r.Admits models ∧ ∃ held r', claimAll r models = (.ok held, r') ∧ r.Gains models r' ∧
        List.Forall₂ (HeldFor r') models held) ∨
      ∃ before m after r', models = before ++ m :: after ∧ r.Admits before ∧ r.Differs m ∧
        claimAll r models = (.error (.schema (.redefined m.id.text)), r') ∧
        r.Gains before r' := by
  induction models generalizing r with
  | nil => exact .inl ⟨fun _ h => (by cases h), [], r, rfl, .nil r, .nil⟩
  | cons m rest ih =>
    obtain ⟨hfresh, hnodup⟩ := List.nodup_cons.1 hnodup
    have hne : ∀ x ∈ rest, x.id ≠ m.id := fun x hx hid => hfresh (List.mem_map.2 ⟨x, hx, hid⟩)
    rw [claimAll]
    rcases hclaim : r.claim m with ⟨e | held, r₁⟩
    · obtain ⟨rfl, rfl, hdiffers⟩ := Resolver.claim_error hclaim
      exact .inr ⟨[], m, rest, r₁, rfl, fun _ h => (by cases h), hdiffers, rfl, .nil r₁⟩
    · have hagrees : ¬ r.Differs m := by
        rintro ⟨other, hget, hother⟩
        rw [Resolver.claim_of_conflict hget hother] at hclaim
        cases hclaim
      obtain ⟨rfl, hget, hsame⟩ := Resolver.claim_ok hclaim
      rcases ih hnodup (r := (r.register m).2) with
        ⟨hadmits, tail, r', hrest, hgains, hheld⟩ |
        ⟨before, x, after, r', rfl, hadmits, hdiffers, hrest, hgains⟩
      · refine .inl ⟨List.forall_mem_cons.2 ⟨hagrees, fun x hx => ?_⟩, held :: tail, r', ?_,
          hgains.cons, .cons ⟨hgains.get?_of_some hget, hsame⟩ hheld⟩
        · rw [← Resolver.differs_register_iff (hne x hx)]
          exact hadmits x hx
        · simp only [hrest]
      · refine .inr ⟨m :: before, x, after, r', rfl,
          List.forall_mem_cons.2 ⟨hagrees, fun y hy => ?_⟩, ?_, ?_, hgains.cons⟩
        · rw [← Resolver.differs_register_iff (hne y (List.mem_append_left _ hy))]
          exact hadmits y hy
        · rwa [← Resolver.differs_register_iff (hne x (by simp))]
        · simp only [hrest]

section New

variable {catalog : Catalog}

theorem find?_id_of_mem (hnodup : (models.map Model.id).Nodup) (hm : m ∈ models) :
    (models.find? fun x => x.id = m.id) = some m :=
  find?_key_of_mem Model.id (fun _ ha _ hb => List.inj_on_of_nodup_map hnodup ha hb) hm

/-- A resolver that held nothing holds just what it has gained. -/
theorem get?_of_gains (h : (Resolver.new catalog).Gains models r) (id : ModelId) :
    r.models.get? id = models.find? fun m => m.id = id :=
  h.models id

/-- What a resolver that held nothing has gained for a model is the model itself. -/
theorem HeldFor.eq_of_gains {held : Model} (h : HeldFor r m held)
    (hgains : (Resolver.new catalog).Gains models r) (hnodup : (models.map Model.id).Nodup)
    (hm : m ∈ models) : held = m := by
  have hget := h.1
  rw [get?_of_gains hgains, find?_id_of_mem hnodup hm] at hget
  exact (Option.some.inj hget).symm

end New

/-! ## Requests of a file -/

/-- The definition is held for the declared model of the name, and is equal to it. -/
def HeldUnder (models : List Model) (r : Resolver) (name : String) (held : Model) : Prop :=
  ∃ m ∈ models, m.ident = name ∧ HeldFor r m held

end SchemaFile

namespace Operation

/-- The name of the model whose table an operation is about. -/
def model? : Operation → Option String
  | createTable name _ | dropTable name _ | truncateTable name => some name
  | _ => none

/-- The request that an operation stands for.  One about a table carries the definition that is
held for the declared model of the name. -/
inductive Asks (models : List Model) (r : Resolver) : Operation → Request → Prop
  | createTable {name : String} {held : Model} (ifNotExists : Bool)
      (declared : SchemaFile.HeldUnder models r name held) :
      Asks models r (createTable name ifNotExists) (.createTable held ifNotExists)
  | dropTable {name : String} {held : Model} (ifExists : Bool)
      (declared : SchemaFile.HeldUnder models r name held) :
      Asks models r (dropTable name ifExists) (.dropTable held ifExists)
  | truncateTable {name : String} {held : Model}
      (declared : SchemaFile.HeldUnder models r name held) :
      Asks models r (truncateTable name) (.truncateTable held)
  | createSchema (name : String) : Asks models r (createSchema name) (.createSchema name)
  | dropSchema (name : String) : Asks models r (dropSchema name) (.dropSchema name)
  | createSequence (s : Sequence) : Asks models r (createSequence s) (.createSequence s)
  | dropSequence (name : SequenceName) : Asks models r (dropSequence name) (.dropSequence name)
  | sql (text : String) : Asks models r (sql text) (.customSql text)

end Operation

namespace SchemaFile

open Resolver (Admits Differs Gains)

variable {f : SchemaFile} {b : Builder} {r r' : Resolver} {m : Model} {models held : List Model}
  {op : Operation} {q : Request} {name : String} {e : DdlError}

/-- Every operation of the script about a table names a model of the file. -/
def Known (f : SchemaFile) : Prop :=
  ∀ op ∈ f.script, ∀ name, op.model? = some name → name ∈ f.models.map ModelDecl.name

theorem known_iff : f.Known ↔
    ∀ op ∈ f.operations, ∀ name, op.model? = some name → name ∈ f.models.map ModelDecl.name := by
  rw [Known, operations]
  cases hempty : f.script.isEmpty with
  | false => rw [if_neg (by simp)]
  | true =>
    rw [List.isEmpty_iff.1 hempty, if_pos rfl]
    refine ⟨fun _ op hop name hname => ?_, fun _ _ hop => (by cases hop)⟩
    obtain ⟨d, hd, rfl⟩ := List.mem_map.1 hop
    cases hname
    exact List.mem_map_of_mem hd

/-- The model of a name is found, or it is not there and the failure names it. -/
theorem findModel_cases (models : List Model) (name : String) :
    (∃ m, findModel models name = .ok m ∧ name ∈ models.map Model.ident) ∨
      findModel models name = .error (.schema (.unknownModel name)) ∧
        name ∉ models.map Model.ident := by
  rw [findModel, modelNamed?]
  cases hfound : models.find? fun m => m.ident = name with
  | some m =>
    have hident : m.ident = name := by simpa using List.find?_some hfound
    exact .inl ⟨m, rfl, List.mem_map.2 ⟨m, List.mem_of_find?_eq_some hfound, hident⟩⟩
  | none =>
    refine .inr ⟨rfl, fun hname => ?_⟩
    obtain ⟨m, hm, hident⟩ := List.mem_map.1 hname
    simpa [hident] using List.find?_eq_none.1 hfound m hm

/-- An operation can be requested, or it is about a model that is not there. -/
theorem request_cases (models : List Model) (op : Operation) :
    ((∃ q, request models op = .ok q) ∧
        ∀ name, op.model? = some name → name ∈ models.map Model.ident) ∨
      ∃ name, request models op = .error (.schema (.unknownModel name)) ∧
        op.model? = some name ∧ name ∉ models.map Model.ident := by
  cases op with
  | createTable name _ | dropTable name _ | truncateTable name =>
    rcases findModel_cases models name with ⟨m, hfound, hname⟩ | ⟨hfound, hname⟩
    · refine .inl ⟨?_, fun _ h => ?_⟩
      · rw [request, hfound]
        exact ⟨_, rfl⟩
      · cases h
        exact hname
    · refine .inr ⟨name, ?_, rfl, hname⟩
      rw [request, hfound]
      rfl
  | createSchema | dropSchema | createSequence | dropSequence | sql =>
    exact .inl ⟨⟨_, rfl⟩, fun _ h => (by cases h)⟩

theorem exists_request_iff :
    (∃ q, request models op = .ok q) ↔
      ∀ name, op.model? = some name → name ∈ models.map Model.ident := by
  rcases request_cases models op with ⟨hrequest, hnames⟩ | ⟨name, herror, hname, hmissing⟩
  · exact iff_of_true hrequest hnames
  · refine iff_of_false ?_ fun h => hmissing (h name hname)
    rintro ⟨q, hq⟩
    rw [herror] at hq
    cases hq

/-- The definitions that the claims of a file give go by the declared names. -/
theorem map_ident_of_held (h : f.Declares models)
    (hheld : List.Forall₂ (HeldFor r) models held) :
    held.map Model.ident = f.models.map ModelDecl.name := by
  rw [← h.idents]
  exact map_eq_map_of_forall₂ (hheld.imp fun _ _ h => h.2.ident_eq)

theorem heldUnder_of_findModel (hheld : List.Forall₂ (HeldFor r) models held)
    (h : findModel held name = .ok m) : HeldUnder models r name m := by
  obtain ⟨hm, rfl⟩ := findModel_eq_ok h
  obtain ⟨declared, hdeclared, hfor⟩ := exists_left_of_forall₂ hheld hm
  exact ⟨declared, hdeclared, hfor.2.ident_eq.symm, hfor⟩

theorem asks_of_request (hheld : List.Forall₂ (HeldFor r) models held)
    (h : request held op = .ok q) : op.Asks models r q := by
  cases op with
  | createTable name flag | dropTable name flag | truncateTable name =>
    rw [request] at h
    cases hfound : findModel held name with
    | error e =>
      rw [hfound] at h
      cases h
    | ok m =>
      rw [hfound] at h
      cases h
      constructor
      exact heldUnder_of_findModel hheld hfound
  | createSchema | dropSchema | createSequence | dropSequence | sql =>
    cases h
    constructor

/-- A file queues what its operations ask for, unless one of them names an unknown model. -/
theorem queue_cases (h : f.Declares models)
    (hheld : List.Forall₂ (HeldFor r) models held) :
    (f.Known ∧ ∃ queue, f.queue held = .ok queue ∧
        List.Forall₂ (Operation.Asks models r) f.operations queue) ∨
      ¬ f.Known ∧ ∃ name, f.queue held = .error (.schema (.unknownModel name)) := by
  have hnames := map_ident_of_held h hheld
  have hknown : f.Known ↔ ∃ queue, f.operations.mapM (request held) = .ok queue := by
    simp only [known_iff, mapM_eq_ok_iff, exists_forall₂_iff, exists_request_iff, hnames]
  rw [queue_eq_mapM hnames]
  rcases hqueue : f.operations.mapM (request held) with e | queue
  · obtain ⟨op, -, hop⟩ := exists_of_mapM_eq_error hqueue
    refine .inr ⟨fun hall => ?_, ?_⟩
    · obtain ⟨queue, hok⟩ := hknown.1 hall
      rw [hqueue] at hok
      cases hok
    · rcases request_cases held op with ⟨⟨q, hq⟩, -⟩ | ⟨name, hname, -⟩
      · rw [hop] at hq
        cases hq
      · rw [hop] at hname
        cases hname
        exact ⟨name, rfl⟩
  · exact .inl ⟨hknown.2 ⟨queue, hqueue⟩, queue, rfl,
      (mapM_eq_ok_iff.1 hqueue).imp fun _ _ hop => asks_of_request hheld hop⟩

/-! ## Applying a file -/

theorem apply_of_not_valid (b : Builder) (r : Resolver) (h : ¬ f.Valid) :
    ∃ e, f.apply b r = (.error e, r) := by
  cases hmodels : f.toModels with
  | error e => exact ⟨e, apply_of_toModels_error b r hmodels⟩
  | ok models => exact absurd (exists_declares_iff.1 ⟨models, toModels_eq_ok_iff.1 hmodels⟩) h

/-- The models before the first that differs are claimed. -/
theorem apply_of_not_admits (b : Builder) (hmodels : f.Declares models)
    (h : ¬ r.Admits models) :
    ∃ before m after r', models = before ++ m :: after ∧ r.Admits before ∧ r.Differs m ∧
      f.apply b r = (.error (.schema (.redefined m.id.text)), r') ∧ r.Gains before r' := by
  rw [apply_of_toModels b r (toModels_eq_ok_iff.2 hmodels)]
  rcases claimAll_cases hmodels.nodup_ids with
    ⟨hadmits, -⟩ | ⟨before, m, after, r', hsplit, hadmits, hdiffers, hclaim, hgains⟩
  · exact absurd hadmits h
  · refine ⟨before, m, after, r', hsplit, hadmits, hdiffers, ?_, hgains⟩
    rw [hclaim]
    rfl

theorem exists_claimAll_of_admits (hmodels : f.Declares models) (h : r.Admits models) :
    ∃ held r', claimAll r models = (.ok held, r') ∧ r.Gains models r' ∧
      List.Forall₂ (HeldFor r') models held := by
  rcases claimAll_cases (r := r) hmodels.nodup_ids with
    ⟨-, hclaim⟩ | ⟨before, m, after, -, rfl, -, hdiffers, -⟩
  · exact hclaim
  · exact absurd hdiffers (h m (by simp))

theorem apply_of_not_known (b : Builder) (hmodels : f.Declares models)
    (hadmits : r.Admits models) (h : ¬ f.Known) :
    ∃ name r', f.apply b r = (.error (.schema (.unknownModel name)), r') ∧
      r.Gains models r' := by
  obtain ⟨held, r', hclaim, hgains, hheld⟩ := exists_claimAll_of_admits hmodels hadmits
  rcases queue_cases hmodels hheld with ⟨hknown, -⟩ | ⟨-, name, hqueue⟩
  · exact absurd hknown h
  · refine ⟨name, r', ?_, hgains⟩
    rw [apply_of_toModels b r (toModels_eq_ok_iff.2 hmodels), hclaim, Except.bind, hqueue]
    rfl

theorem apply_of_known (b : Builder) (hmodels : f.Declares models)
    (hadmits : r.Admits models) (h : f.Known) :
    ∃ added r', f.apply b r = (.ok { b with queue := b.queue ++ added }, r') ∧
      r.Gains models r' ∧ List.Forall₂ (Operation.Asks models r') f.operations added := by
  obtain ⟨held, r', hclaim, hgains, hheld⟩ := exists_claimAll_of_admits hmodels hadmits
  rcases queue_cases hmodels hheld with ⟨-, added, hqueue, hasks⟩ | ⟨hunknown, -⟩
  · refine ⟨added, r', ?_, hgains, hasks⟩
    rw [apply_of_toModels b r (toModels_eq_ok_iff.2 hmodels), hclaim, Except.bind, hqueue]
    rfl
  · exact absurd h hunknown

/-- A file that applies has none of the three faults. -/
theorem admits_of_apply {b' : Builder} (h : f.apply b r = (.ok b', r')) :
    ∃ models, f.Declares models ∧ r.Admits models ∧ f.Known := by
  have hvalid : f.Valid := by
    by_contra hinvalid
    obtain ⟨e, herror⟩ := apply_of_not_valid b r hinvalid
    rw [h] at herror
    cases herror
  obtain ⟨models, hmodels⟩ := exists_declares_iff.2 hvalid
  have hadmits : r.Admits models := by
    by_contra hdiffers
    obtain ⟨_, _, _, _, -, -, -, herror, -⟩ := apply_of_not_admits b hmodels hdiffers
    rw [h] at herror
    cases herror
  refine ⟨models, hmodels, hadmits, ?_⟩
  by_contra hunknown
  obtain ⟨_, _, herror, -⟩ := apply_of_not_known b hmodels hadmits hunknown
  rw [h] at herror
  cases herror

/-- What applying a file does.  It succeeds just when the file is valid, none of its models differs
from a definition that is held, and its script names declared models only.  Then the resolver gains
the models, and the queue one request for each operation: those of the script or, without one, a
table to create for every declared model.  A file that is not valid leaves the resolver as it was,
a claim that fails leaves the models before it, and a script that fails all of them. -/
theorem apply_outcome (f : SchemaFile) (b : Builder) (r : Resolver) :
    ((∃ b' r', f.apply b r = (.ok b', r')) ↔
      f.Valid ∧ (∀ models, f.Declares models → r.Admits models) ∧ f.Known) ∧
    (∀ b' r', f.apply b r = (.ok b', r') →
      ∃ models added, f.Declares models ∧ r.Gains models r' ∧
        b' = { b with queue := b.queue ++ added } ∧
        List.Forall₂ (Operation.Asks models r') f.operations added) ∧
    (¬ f.Valid → ∃ e, f.apply b r = (.error e, r)) ∧
    (∀ models, f.Declares models → ¬ r.Admits models →
      ∃ before m after r', models = before ++ m :: after ∧ r.Admits before ∧ r.Differs m ∧
        f.apply b r = (.error (.schema (.redefined m.id.text)), r') ∧ r.Gains before r') ∧
    ∀ models, f.Declares models → r.Admits models → ¬ f.Known →
      ∃ name r', f.apply b r = (.error (.schema (.unknownModel name)), r') ∧
        r.Gains models r' := by
  refine ⟨⟨?_, ?_⟩, ?_, apply_of_not_valid b r, fun _ => apply_of_not_admits b,
    fun _ => apply_of_not_known b⟩
  · rintro ⟨b', r', h⟩
    obtain ⟨models, hmodels, hadmits, hknown⟩ := admits_of_apply h
    refine ⟨exists_declares_iff.1 ⟨models, hmodels⟩, fun models' hmodels' => ?_, hknown⟩
    cases hmodels.eq hmodels'
    exact hadmits
  · rintro ⟨hvalid, hadmits, hknown⟩
    obtain ⟨models, hmodels⟩ := exists_declares_iff.2 hvalid
    obtain ⟨_, r', h, -⟩ := apply_of_known b hmodels (hadmits models hmodels) hknown
    exact ⟨_, r', h⟩
  · intro b' r' h
    obtain ⟨models, hmodels, hadmits, hknown⟩ := admits_of_apply h
    obtain ⟨added, r₁, happly, hgains, hasks⟩ := apply_of_known b hmodels hadmits hknown
    rw [h] at happly
    cases happly
    exact ⟨models, added, hmodels, hgains, rfl, hasks⟩

end SchemaFile

/-! ## A file without a script -/

namespace Depot

def shelf : ModelDecl where
  name := "Shelf"
  table := some "shelves"
  schema := some "store"
  fields := [{ name := "id", type := "i32", key := true },
    { name := "kind", type := "Kind", default := some (.scalar (.integer 2)) }]

def box : ModelDecl where
  name := "Box"
  table := some "boxes"
  fields := [{ name := "shelf", type := "Option<i32>", foreignKey := some ("Shelf", "id") }]

def label : ModelDecl where
  name := "Label"
  schema := some "store"

def note : ModelDecl where
  name := "Note"

def file : SchemaFile where
  enums := [("Kind", "u8")]
  models := [box, shelf, label, note]

/-- What the file says: with both keys, with a table or a schema alone, and with neither. -/
def models : List Model :=
  [{ id := ⟨"Box"⟩, ident := "Box", table := some { name := "boxes" }
     members := [{ ident := "shelf", type := .nullable (.scalar .i32)
                   annotations := [.foreignKey
                     { model := { id := ⟨"Shelf"⟩, typed := false }, member := "id" }] }] },
   { id := ⟨"Shelf"⟩, ident := "Shelf", table := some { name := "shelves", schema := some "store" }
     members := [{ ident := "id", type := .scalar .i32, annotations := [.key] },
                 { ident := "kind", type := .enumeration "Kind" (.scalar .u8)
                   annotations := [.defaultValue "2"] }] },
   { id := ⟨"Label"⟩, ident := "Label"
     table := some { name := "Label", schema := some "store" } },
   { id := ⟨"Note"⟩, ident := "Note" }]

theorem declares_models : file.Declares models :=
  SchemaFile.toModels_eq_ok_iff.1 (by decide +kernel)

/-- On a new resolver the file queues a table to create for each declared model, in order. -/
theorem apply_outcome_depot :
    file.Declares models ∧ ∀ b : Builder, ∃ r,
      file.apply b (.new .ofId)
        = (.ok { b with queue := b.queue ++ models.map (.createTable · false) }, r) ∧
      (Resolver.new .ofId).Gains models r := by
  refine ⟨declares_models, fun b => ?_⟩
  obtain ⟨hsuccess, hok, -⟩ := SchemaFile.apply_outcome file b (.new .ofId)
  obtain ⟨b', r, happly⟩ := hsuccess.2 ⟨SchemaFile.exists_declares_iff.1 ⟨_, declares_models⟩,
    fun _ _ m _ ⟨held, hget, _⟩ => (by cases hget), fun op hop => (by cases hop)⟩
  obtain ⟨models', added, hmodels', hgains, rfl, hasks⟩ := hok b' r happly
  cases declares_models.eq hmodels'
  have hoperations : file.operations = models.map fun m => .createTable m.ident false := rfl
  rw [hoperations, List.forall₂_map_left_iff] at hasks
  have hadded : added = models.map (.createTable · false) := by
    refine eq_map_of_forall₂ hasks fun m hm q hq => ?_
    cases hq with
    | createTable _ hdeclared =>
      obtain ⟨m', hm', hident, hheld⟩ := hdeclared
      cases declares_models.eq_of_ident_eq m' hm' m hm hident
      rw [hheld.eq_of_gains hgains declares_models.nodup_ids hm]
  exact ⟨r, by rw [happly, hadded], hgains⟩

end Depot
end SchemaDdl
