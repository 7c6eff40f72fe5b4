import SchemaDdl.Proofs.FieldType.Reading
import SchemaDdl.Proofs.SchemaFile.Faces

/-!
# Enumerations and what they are stored as

The enumerations of a schema file are stored as integers, so a type that is read from it never
hides an option in an enumeration, and a type with an enumeration is never one that a built-in
dialect does not map (`FieldType.StoresIntegers`).  Under these dialects a model has therefore the
same face with its enumerations as without them (`Model.face_plain`), and any queue over the models
of a file builds to the same as the queue over their plain forms (`SchemaFile.build_plain`).
-/

namespace SchemaDdl

/-! ## Types -/

namespace FieldType

/-- The type with each enumeration replaced by what it is stored as. -/
def plain : FieldType → FieldType
  | enumeration _ repr => repr.plain
  | nullable inner => nullable inner.plain
  | scalar s => scalar s
  | custom name => custom name

/-- Enumerations in the type are stored as integers. -/
def StoresIntegers : FieldType → Prop
  | enumeration _ repr => repr.isInteger = true
  | nullable inner => inner.StoresIntegers
  | scalar _ | custom _ => True

variable {t : FieldType} {enums : EnumTable}

@[simp] theorem lookupKey_plain (t : FieldType) : t.plain.lookupKey = t.lookupKey := by
  induction t with
  | scalar | custom => rfl
  | enumeration _ _ ih => exact ih
  | nullable _ ih => exact ih

/-- An integer type is a scalar. -/
theorem exists_scalar_of_isInteger (h : t.isInteger = true) : ∃ s, t = scalar s := by
  obtain ⟨s, -, rfl⟩ := isInteger_iff.1 h
  exact ⟨s, rfl⟩

theorem isNullable_plain (h : t.StoresIntegers) : t.plain.isNullable = t.isNullable := by
  cases t with
  | scalar | nullable | custom => rfl
  | enumeration name repr =>
    obtain ⟨s, rfl⟩ := exists_scalar_of_isInteger h
    rfl

/-- A type that has enumerations is looked up as an integer type. -/
theorem StoresIntegers.plain_eq_or (h : t.StoresIntegers) :
    t.plain = t ∨ t.lookupKey.isInteger = true := by
  induction t with
  | scalar | custom => exact .inl rfl
  | enumeration name repr =>
    obtain ⟨s, rfl⟩ := exists_scalar_of_isInteger h
    exact .inr h
  | nullable inner ih =>
    rcases ih h with hplain | hinteger
    · exact .inl (congrArg nullable hplain)
    · exact .inr hinteger

theorem Names.storesIntegers (henums : ∀ entry ∈ enums, entry.2.isInteger = true) {name : String}
    (h : Names enums name t) : t.StoresIntegers := by
  cases h with
  | primitive => trivial
  | enumeration _ hrepr =>
    obtain ⟨before, after, rfl, -⟩ := List.lookup_eq_some_iff.1 hrepr
    exact henums (name, _) (by simp)
  | custom => trivial

theorem Applies.storesIntegers {name : String} {a : FieldType} (h : Applies name a t)
    (ha : a.StoresIntegers) : t.StoresIntegers := by
  cases h with
  | option => exact ha
  | bytes | chars | dateTime | other => trivial

theorem Denotes.storesIntegers (henums : ∀ entry ∈ enums, entry.2.isInteger = true)
    {s : List Char} (h : Denotes enums s t) : t.StoresIntegers := by
  induction h with
  | array _ helement => cases helement <;> trivial
  | name _ _ hmeaning => exact hmeaning.storesIntegers henums
  | generic _ _ _ _ _ hmeaning ih => exact hmeaning.storesIntegers ih

theorem storesIntegers_of_parse (henums : ∀ entry ∈ enums, entry.2.isInteger = true)
    {text : String} (h : parse enums text = .ok t) : t.StoresIntegers := by
  obtain ⟨s, -, hs⟩ := ((parse_ok_iff_denotes enums).1 text t).1 h
  exact hs.storesIntegers henums

end FieldType

/-! ## Columns -/

theorem Builtin.exists_mapType_of_isInteger (b : Builtin) {t : FieldType}
    (h : t.isInteger = true) : ∃ sql, b.dialect.mapType t = some sql := by
  obtain ⟨s, rfl⟩ := FieldType.exists_scalar_of_isInteger h
  cases s <;> cases h <;> cases b <;> exact ⟨_, rfl⟩

namespace Column

/-- The column with its type free of enumerations. -/
def plain (c : Column) : Column :=
  { c with type := c.type.plain }

variable {c : Column}

theorem columnType_plain (b : Builtin) (h : c.type.StoresIntegers) :
    Statement.columnType b.dialect c.plain = Statement.columnType b.dialect c := by
  rcases h.plain_eq_or with hplain | hinteger
  · unfold plain
    rw [hplain]
  · obtain ⟨sql, hmapped⟩ := b.exists_mapType_of_isInteger hinteger
    unfold Statement.columnType plain
    simp only [FieldType.lookupKey_plain, FieldType.isNullable_plain h, hmapped]

theorem face_plain (b : Builtin) (h : c.type.StoresIntegers) :
    c.plain.face b.dialect = c.face b.dialect := by
  have hline : Statement.columnLine b.dialect c.plain = Statement.columnLine b.dialect c := by
    unfold Statement.columnLine
    rw [columnType_plain b h]
    rfl
  unfold face
  rw [hline]
  rfl

end Column

/-! ## Models -/

/-- The member with its type free of enumerations. -/
def Member.plain (m : Member) : Member :=
  { m with type := m.type.plain }

theorem Member.face_plain (b : Builtin) {m : Member} (h : m.type.StoresIntegers) :
    m.plain.face b.dialect = m.face b.dialect := by
  have hcolumn : ∀ name, (Column.ofMember name m.plain).face b.dialect
      = (Column.ofMember name m).face b.dialect :=
    fun name => Column.face_plain (c := Column.ofMember name m) b h
  unfold face
  simp only [hcolumn]
  rfl

namespace Model

/-- The model with the types of its members free of enumerations. -/
def plain (m : Model) : Model :=
  { m with members := m.members.map Member.plain }

/-- Enumerations in the types of the members are stored as integers. -/
def StoresIntegers (m : Model) : Prop :=
  ∀ member ∈ m.members, member.type.StoresIntegers

theorem face_plain (b : Builtin) {m : Model} (h : m.StoresIntegers) :
    m.plain.face b.dialect = m.face b.dialect := by
  have hmembers : (m.members.map Member.plain).map (Member.face b.dialect)
      = m.members.map (Member.face b.dialect) := by
    rw [List.map_map]
    exact List.map_congr_left fun member hmember => Member.face_plain b (h member hmember)
  unfold face plain
  rw [hmembers]
  rfl

end Model

/-! ## Requests -/

namespace Request

/-- The request with its model free of enumerations. -/
def plain : Request → Request
  | createTable m ifNotExists => createTable m.plain ifNotExists
  | dropTable m ifExists => dropTable m.plain ifExists
  | truncateTable m => truncateTable m.plain
  | q => q

theorem model?_plain (q : Request) : q.plain.model? = q.model?.map Model.plain := by
  cases q <;> rfl

theorem face_plain (b : Builtin) {q : Request} (h : q.Over Model.StoresIntegers) :
    q.plain.face b.dialect = q.face b.dialect := by
  cases q with
  | createTable m flag | dropTable m flag | truncateTable m =>
    simp only [plain, face, Model.face_plain b (h m rfl)]
  | createSchema | dropSchema | createSequence | dropSequence | customSql => rfl

end Request

namespace SchemaFile

variable {f : SchemaFile} {models : List Model}

theorem findModel_plain (models : List Model) (name : String) :
    findModel (models.map Model.plain) name = (findModel models name).map Model.plain := by
  have hfind : modelNamed? (models.map Model.plain) name
      = (modelNamed? models name).map Model.plain := by
    rw [modelNamed?, List.find?_map]
    rfl
  rw [findModel, findModel, hfind]
  cases modelNamed? models name <;> rfl

theorem request_plain (models : List Model) (op : Operation) :
    request (models.map Model.plain) op = (request models op).map Request.plain := by
  cases op with
  | createTable name flag | dropTable name flag | truncateTable name =>
    rw [request, request, findModel_plain]
    cases findModel models name <;> rfl
  | createSchema | dropSchema | createSequence | dropSequence | sql => rfl

/-- A script asks the same of the plain models. -/
theorem requests_plain (models : List Model) (script : List Operation) :
    requests (models.map Model.plain) script
      = (requests models script).map (List.map Request.plain) := by
  induction script with
  | nil => rfl
  | cons op rest ih => rw [requests_cons, requests_cons, map_bind_cons, request_plain, ih]

/-! ## Models of files -/

/-- Enumerations are stored as integers. -/
theorem Enumerates.isInteger {table : EnumTable} (h : f.Enumerates table) :
    ∀ entry ∈ table, entry.2.isInteger = true := by
  intro entry hentry
  obtain ⟨declared, -, -, hrepr⟩ := exists_left_of_forall₂ h hentry
  exact FieldType.isInteger_iff.2 hrepr.2

/-- The models of a file store their enumerations as integers. -/
theorem storesIntegers_of_toModels (h : f.toModels = .ok models) :
    ∀ m ∈ models, m.StoresIntegers := by
  obtain ⟨table, henums, hmodels⟩ := (toModels_eq_ok_iff.1 h).models
  intro m hm member hmember
  obtain ⟨decl, -, hdecl⟩ := exists_left_of_forall₂ hmodels hm
  obtain ⟨field, -, hfield⟩ := exists_left_of_forall₂ hdecl.members hmember
  exact FieldType.storesIntegers_of_parse henums.isInteger hfield.type

/-- Enumerations do not show in what is built.  The models of a file, and the same models with
every enumeration replaced by what it is stored as, can be claimed on new resolvers; a script asks
the same of both; and under either dialect a queue over the models builds to the same text as the
queue over the plain ones, or fails with the same error. -/
theorem build_plain (h : f.toModels = .ok models) (catalog : Catalog) :
    ∃ r r', claimAll (.new catalog) models = (.ok models, r) ∧
      claimAll (.new catalog) (models.map Model.plain) = (.ok (models.map Model.plain), r') ∧
      (∀ script, requests (models.map Model.plain) script
        = (requests models script).map (List.map Request.plain)) ∧
      ∀ (b : Builtin) (queue : List Request), (∀ q ∈ queue, q.Over (· ∈ models)) →
        (Builder.build { dialect := b.dialect, queue := queue.map Request.plain } r').1
          = (Builder.build { dialect := b.dialect, queue } r).1 := by
  have hstores := storesIntegers_of_toModels h
  have hnodup := (toModels_eq_ok_iff.1 h).nodup_ids
  have hnodup' : ((models.map Model.plain).map Model.id).Nodup := by
    rw [List.map_map]
    exact hnodup
  obtain ⟨r, hclaim, hgains⟩ := exists_claimAll_new_of_nodup catalog hnodup
  obtain ⟨r', hclaim', hgains'⟩ := exists_claimAll_new_of_nodup catalog hnodup'
  refine ⟨r, r', hclaim, hclaim', requests_plain models, fun b queue hover => ?_⟩
  have hmodels : (models.map Model.plain).map (Model.face b.dialect)
      = models.map (Model.face b.dialect) := by
    rw [List.map_map]
    exact List.map_congr_left fun m hm => Model.face_plain b (hstores m hm)
  have hqueue : (queue.map Request.plain).map (Request.face b.dialect)
      = queue.map (Request.face b.dialect) := by
    rw [List.map_map]
    exact List.map_congr_left fun q hq =>
      Request.face_plain b fun m hm => hstores m (hover q hq m hm)
  refine build_eq_of_face b hnodup' hmodels hgains' hgains ?_ hover hqueue
  intro x hx plain hplain
  obtain ⟨q, hq, rfl⟩ := List.mem_map.1 hx
  rw [Request.model?_plain] at hplain
  obtain ⟨m, hm, rfl⟩ := Option.map_eq_some_iff.1 hplain
  exact List.mem_map_of_mem (hover q hq m hm)

end SchemaFile

/-! ## Tickets with a numbered state -/

namespace Ticketing

/-- The state is stored as an integer; the owner has a type that no dialect knows. -/
def file : SchemaFile where
  enums := [("State", "i32")]
  models :=
    [{ name := "Ticket"
       fields :=
        [{ name := "state", type := "State", autoIncrement := true },
         { name := "last", type := "Option<State>", autoIncrement := true }] },
     { name := "Desk", fields := [{ name := "owner", type := "Option<Person>" }] }]

def state : FieldType := .enumeration "State" (.scalar .i32)

def ticket : Model where
  id := ⟨"Ticket"⟩
  ident := "Ticket"
  members :=
    [{ ident := "state", type := state, annotations := [.autoIncrement] },
     { ident := "last", type := .nullable state, annotations := [.autoIncrement] }]

def desk : Model where
  id := ⟨"Desk"⟩
  ident := "Desk"
  members := [{ ident := "owner", type := .nullable (.custom "Person") }]

theorem build_plain_ticketing :
    file.toModels = .ok [ticket, desk] ∧
      ∃ r r', SchemaFile.claimAll (.new .ofId) [ticket, desk] = (.ok [ticket, desk], r) ∧
        (Builder.build
            { dialect := .postgres, queue := [.createTable ticket.plain true] } r').1
          = (Builder.build { dialect := .postgres, queue := [.createTable ticket true] } r).1 ∧
        (Builder.build { dialect := .mssql, queue := [.createTable desk.plain false] } r').1
          = (Builder.build { dialect := .mssql, queue := [.createTable desk false] } r).1 := by
  have hmodels : file.toModels = .ok [ticket, desk] := by decide +kernel
  obtain ⟨r, r', hclaim, -, -, hbuild⟩ := SchemaFile.build_plain hmodels .ofId
  refine ⟨hmodels, r, r', hclaim, hbuild .postgres [.createTable ticket true] ?_,
    hbuild .mssql [.createTable desk false] ?_⟩
  · intro q hq m hm
    cases List.mem_singleton.1 hq
    cases hm
    exact List.mem_cons_self
  · intro q hq m hm
    cases List.mem_singleton.1 hq
    cases hm
    exact List.mem_cons_of_mem _ List.mem_cons_self

end Ticketing
end SchemaDdl
