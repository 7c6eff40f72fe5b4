import SchemaDdl.Proofs.SchemaFile.Faces

/-!
# Blank texts in schema files

A blank optional text of a schema file is as good as none.  Dropping some of them, wherever they
stand, leaves the face of every model and of every operation as it was, under any dialect
(`ModelDecl.toModel_face`, `Operation.request_face_of_drops`); so the file applies or fails as
before, and what it queues builds to the same (`SchemaFile.outcome_of_drops`).
-/

namespace SchemaDdl

open SchemaDdl.Text (isBlank nonBlank)

/-! ## Dropping blank texts -/

/-- An optional text stays, or it is blank and goes. -/
inductive Text.Drops : Option String → Option String → Prop
  | keep (s : Option String) : Drops s s
  | drop {t : String} (h : isBlank t = true) : Drops (some t) none

/-- An optional default stays, or it is a blank text and goes. -/
inductive Toml.Value.Drops : Option Value → Option Value → Prop
  | keep (v : Option Value) : Drops v v
  | drop {t : String} (h : isBlank t = true) : Drops (some (.scalar (.text t))) none

/-- One field comes of the other by dropping blank texts. -/
structure FieldDecl.Drops (f f' : FieldDecl) : Prop where
  column : Text.Drops f.column f'.column
  typeName : Text.Drops f.typeName f'.typeName
  computed : Text.Drops f.computed f'.computed
  default : Toml.Value.Drops f.default f'.default
  rest : { f with
    column := f'.column, typeName := f'.typeName, computed := f'.computed,
    default := f'.default } = f'

structure ModelDecl.Drops (d d' : ModelDecl) : Prop where
  schema : Text.Drops d.schema d'.schema
  fields : List.Forall₂ FieldDecl.Drops d.fields d'.fields
  rest : { d with schema := d'.schema, fields := d'.fields } = d'

structure SequenceName.Drops (s s' : SequenceName) : Prop where
  schema : Text.Drops s.schema s'.schema
  rest : { s with schema := s'.schema } = s'

structure Sequence.Drops (s s' : Sequence) : Prop where
  name : s.name.Drops s'.name
  dbType : Text.Drops s.dbType s'.dbType
  rest : { s with name := s'.name, dbType := s'.dbType } = s'

inductive Operation.Drops : Operation → Operation → Prop
  | keep (op : Operation) : Drops op op
  | createSequence {s s' : Sequence} (h : s.Drops s') : Drops (createSequence s) (createSequence s')
  | dropSequence {s s' : SequenceName} (h : s.Drops s') : Drops (dropSequence s) (dropSequence s')

/-- One file comes of the other by dropping blank texts of its fields, models and sequences. -/
structure SchemaFile.Drops (f f' : SchemaFile) : Prop where
  models : List.Forall₂ ModelDecl.Drops f.models f'.models
  script : List.Forall₂ Operation.Drops f.script f'.script
  rest : { f with models := f'.models, script := f'.script } = f'

theorem Text.nonBlank_nonBlank (s : Option String) : nonBlank (nonBlank s) = nonBlank s := by
  simp [nonBlank, Option.filter_filter]

theorem Text.Drops.nonBlank_eq {s s' : Option String} (h : Drops s s') :
    nonBlank s = nonBlank s' := by
  cases h with
  | keep => rfl
  | drop hblank => simp [nonBlank, hblank]

/-! ## Columns and members -/

/-- The column without its blank texts. -/
def Column.pruned (c : Column) : Column :=
  { c with
    typeName := nonBlank c.typeName
    defaultValue := nonBlank c.defaultValue
    computed := nonBlank c.computed }

/-- Blank texts do not show. -/
theorem Column.face_pruned (d : Dialect) (c : Column) : c.pruned.face d = c.face d := by
  have htype : Statement.columnType d c.pruned = Statement.columnType d c := by
    unfold Statement.columnType pruned
    rw [Text.nonBlank_nonBlank]
  have hcomputed : c.pruned.computedExpression = c.computedExpression :=
    Text.nonBlank_nonBlank c.computed
  have hdefault : c.pruned.defaultLiteral = c.defaultLiteral :=
    Text.nonBlank_nonBlank c.defaultValue
  have hline : Statement.columnLine d c.pruned = Statement.columnLine d c := by
    unfold Statement.columnLine
    rw [htype, hcomputed]
    rfl
  unfold face
  rw [hline, hdefault]
  rfl

namespace Member

variable {m m' : Member}

/-- Members whose declared columns agree up to blank texts have the same face. -/
theorem face_eq_of_pruned (d : Dialect) (hident : m.ident = m'.ident)
    (hmapped : m.isMapped = m'.isMapped)
    (hcolumn : m.declaredColumn.pruned = m'.declaredColumn.pruned) : m.face d = m'.face d := by
  have hname : m.columnName = m'.columnName := congrArg Column.name hcolumn
  have hface : ∀ name, (Column.ofMember name m).face d = (Column.ofMember name m').face d := by
    intro name
    have hpruned : (Column.ofMember name m).pruned = (Column.ofMember name m').pruned :=
      congrArg (fun c => { c with name }) hcolumn
    rw [← Column.face_pruned, hpruned, Column.face_pruned]
  unfold face
  rw [hident, hmapped, hname]
  simp only [hface]

end Member

/-! ## Fields -/

namespace FieldDecl

variable {f f' : FieldDecl} {d : Dialect}

namespace Drops

theorem name_eq (h : f.Drops f') : f.name = f'.name := by
  rw [← h.rest]

theorem type_eq (h : f.Drops f') : f.type = f'.type := by
  rw [← h.rest]

theorem notMapped_eq (h : f.Drops f') : f.notMapped = f'.notMapped := by
  rw [← h.rest]

/-- A default that is dropped was a blank text, so the field has a default text with it and
without it. -/
theorem defaultText (h : f.Drops f') (model : String) :
    (f.defaultText model).map nonBlank = (f'.defaultText model).map nonBlank := by
  have hdefault := h.default
  unfold FieldDecl.defaultText
  rw [h.name_eq]
  generalize f.default = value at hdefault ⊢
  generalize f'.default = value' at hdefault ⊢
  cases hdefault with
  | keep => rfl
  | drop hblank => simp [Toml.Value.scalarText?, Toml.Scalar.display, Except.map, nonBlank, hblank]

/-- The fields declare the same column up to blank texts. -/
theorem declaredColumn_pruned (h : f.Drops f') (type : FieldType) {text text' : Option String}
    (htext : nonBlank text = nonBlank text') :
    (f.declaredColumn type text).pruned = (f'.declaredColumn type text').pruned := by
  unfold Column.pruned declaredColumn
  rw [← h.rest]
  simp only [h.column.nonBlank_eq, h.typeName.nonBlank_eq, h.computed.nonBlank_eq, htext]

theorem declare_face (h : f.Drops f') (d : Dialect) (type : FieldType)
    {text text' : Option String} (htext : nonBlank text = nonBlank text') :
    (Member.declare f.name type (f.calls text)).face d
      = (Member.declare f'.name type (f'.calls text')).face d := by
  refine Member.face_eq_of_pruned d ?_ ?_ ?_
  · rw [Member.declare, Member.declare, Member.ident_applyAll, Member.ident_applyAll]
    exact h.name_eq
  · rw [Member.isMapped_declare, Member.isMapped_declare, contains_notMapped, contains_notMapped,
      h.notMapped_eq]
  · rw [Member.declaredColumn_declare, Member.declaredColumn_declare, ofCalls_calls, ofCalls_calls]
    exact h.declaredColumn_pruned type htext

/-- A field has the same face after dropping blank texts, or is refused as before. -/
theorem toMember_face (h : f.Drops f') (d : Dialect) (model : String) (enums : EnumTable) :
    (f.toMember model enums).map (Member.face d)
      = (f'.toMember model enums).map (Member.face d) := by
  rw [toMember_eq, toMember_eq, h.type_eq]
  cases FieldType.parse enums f'.type with
  | error e => simp only [Except.bind, Except.map]
  | ok type =>
    rcases cases_of_map_eq (h.defaultText model) with ⟨e, hf, hf'⟩ | ⟨text, text', hf, hf', htext⟩
    · rw [Except.bind, Except.bind, hf, hf']
      simp only [Except.map]
    · rw [Except.bind, Except.bind, hf, hf']
      exact congrArg Except.ok (h.declare_face d type htext)

end Drops
end FieldDecl

/-! ## Models -/

namespace ModelDecl

variable {decl decl' : ModelDecl}

/-- The model of a declaration with the given members. -/
def model (decl : ModelDecl) (members : List Member) : Model :=
  { Model.named decl.name with table := decl.tableSettings, members }

theorem toModel_eq (decl : ModelDecl) (enums : EnumTable) :
    decl.toModel enums = (members decl.name enums decl.fields).map decl.model := by
  rw [toModel]
  cases members decl.name enums decl.fields <;> rfl

theorem members_cons (model : String) (enums : EnumTable) (f : FieldDecl) (rest : List FieldDecl) :
    members model enums (f :: rest)
      = (f.toMember model enums).bind fun m => (members model enums rest).map (m :: ·) := by
  rw [members]
  cases f.toMember model enums with
  | error e => rfl
  | ok m => cases members model enums rest <;> rfl

theorem members_face (d : Dialect) (model : String) (enums : EnumTable)
    {fields fields' : List FieldDecl} (h : List.Forall₂ FieldDecl.Drops fields fields') :
    (members model enums fields).map (List.map (Member.face d))
      = (members model enums fields').map (List.map (Member.face d)) := by
  induction h with
  | nil => rfl
  | cons hhead _ ih =>
    rw [members_cons, members_cons, map_bind_cons, map_bind_cons, hhead.toMember_face d, ih]

namespace Drops

theorem name_eq (h : decl.Drops decl') : decl.name = decl'.name := by
  rw [← h.rest]

theorem table_eq (h : decl.Drops decl') : decl.table = decl'.table := by
  rw [← h.rest]

/-- A model with a blank schema stands for the table that it stands for without one. -/
theorem tableName_face (h : decl.Drops decl') (d : Dialect) (ms ms' : List Member) :
    (decl.model ms).tableName.face d = (decl'.model ms').tableName.face d := by
  have hschema := h.schema
  unfold model tableSettings
  rw [h.name_eq, h.table_eq]
  generalize decl.schema = schema at hschema ⊢
  generalize decl'.schema = schema' at hschema ⊢
  cases hschema with
  | keep => rfl
  | drop hblank =>
    have hempty : isBlank "" = true := rfl
    cases decl'.table <;>
      simp [Model.tableName, Model.named, TableName.face, TableName.schemaOr, hblank, hempty]

theorem toModel_face (h : decl.Drops decl') (d : Dialect) (enums : EnumTable) :
    (decl.toModel enums).map (Model.face d) = (decl'.toModel enums).map (Model.face d) := by
  rw [toModel_eq, toModel_eq]
  rcases cases_of_map_eq (members_face d decl.name enums h.fields) with
    ⟨e, hms, hms'⟩ | ⟨ms, ms', hms, hms', hface⟩
  · rw [hms, ← h.name_eq, hms']
    rfl
  · rw [hms, ← h.name_eq, hms']
    refine congrArg Except.ok ?_
    unfold Model.face
    rw [h.tableName_face d ms ms']
    unfold model
    rw [hface, h.name_eq]

end Drops
end ModelDecl

namespace SchemaFile

variable {f f' : SchemaFile} {d : Dialect}

theorem readModels_cons (enums : EnumTable) (seen : List String) (decl : ModelDecl)
    (rest : List ModelDecl) :
    readModels enums seen (decl :: rest)
      = if decl.name ∈ seen then .error (.schema (.declaredTwice decl.name))
        else (decl.toModel enums).bind fun m =>
          (readModels enums (decl.name :: seen) rest).map (m :: ·) := by
  rw [readModels]
  split
  · rfl
  · cases decl.toModel enums with
    | error e => rfl
    | ok m => cases readModels enums (decl.name :: seen) rest <;> rfl

theorem readModels_face (d : Dialect) (enums : EnumTable) (seen : List String)
    {decls decls' : List ModelDecl} (h : List.Forall₂ ModelDecl.Drops decls decls') :
    (readModels enums seen decls).map (List.map (Model.face d))
      = (readModels enums seen decls').map (List.map (Model.face d)) := by
  induction h generalizing seen with
  | nil => rfl
  | @cons decl decl' rest rest' hhead _ ih =>
    rw [readModels_cons, readModels_cons, hhead.name_eq]
    by_cases hseen : decl'.name ∈ seen
    · rw [if_pos hseen, if_pos hseen]
    · rw [if_neg hseen, if_neg hseen, map_bind_cons, map_bind_cons, hhead.toModel_face d, ih]

theorem Drops.toModels_face (h : f.Drops f') (d : Dialect) :
    f.toModels.map (List.map (Model.face d)) = f'.toModels.map (List.map (Model.face d)) := by
  have henums : f.enumTable = f'.enumTable := by
    rw [← h.rest]
    rfl
  unfold toModels
  rw [henums]
  cases f'.enumTable with
  | error e => rfl
  | ok enums => exact readModels_face d enums [] h.models

end SchemaFile

/-! ## Scripts -/

theorem SequenceName.Drops.qualified_eq {s s' : SequenceName} (h : s.Drops s')
    (defaultSchema : String) : s.qualified defaultSchema = s'.qualified defaultSchema := by
  unfold qualified schemaOr
  rw [h.schema.nonBlank_eq, ← h.rest]

theorem SequenceName.Drops.dropSequence_eq {s s' : SequenceName} (h : s.Drops s') (d : Dialect) :
    Statement.dropSequence d s = Statement.dropSequence d s' := by
  unfold Statement.dropSequence
  rw [h.qualified_eq]

theorem Sequence.Drops.createSequence_eq {s s' : Sequence} (h : s.Drops s') (d : Dialect) :
    Statement.createSequence d s = Statement.createSequence d s' := by
  unfold Statement.createSequence Statement.sequenceClauses
  rw [h.name.qualified_eq, h.dbType.nonBlank_eq, ← h.rest]

/-- An operation asks for the same after dropping blank texts. -/
theorem Operation.Drops.request_face {op op' : Operation} (h : op.Drops op') (d : Dialect)
    (models : List Model) :
    (SchemaFile.request models op).map (Request.face d)
      = (SchemaFile.request models op').map (Request.face d) := by
  cases h with
  | keep => rfl
  | createSequence h =>
    simp only [SchemaFile.request, Except.map, Request.face, h.createSequence_eq d]
  | dropSequence h =>
    simp only [SchemaFile.request, Except.map, Request.face, h.dropSequence_eq d]

namespace SchemaFile

variable {f f' : SchemaFile} {models models' : List Model}

theorem Drops.queue_face (h : f.Drops f') {d : Dialect}
    (hmodels : models.map (Model.face d) = models'.map (Model.face d)) :
    (f.queue models).map (List.map (Request.face d))
      = (f'.queue models').map (List.map (Request.face d)) := by
  have hempty : f.script.isEmpty = f'.script.isEmpty := by
    rw [Bool.eq_iff_iff, List.isEmpty_iff, List.isEmpty_iff, ← List.length_eq_zero_iff,
      ← List.length_eq_zero_iff, h.script.length_eq]
  unfold queue
  rw [hempty]
  by_cases hscript : f'.script.isEmpty = true
  · have hnames : f.models.map ModelDecl.name = f'.models.map ModelDecl.name :=
      (map_eq_map_of_forall₂ (h.models.imp fun _ _ hdecl => hdecl.name_eq.symm)).symm
    rw [if_pos hscript, if_pos hscript]
    exact congrArg Except.ok (creates_face hmodels hnames)
  · rw [if_neg hscript, if_neg hscript]
    refine requests_face (h.script.imp fun op op' hop => ?_)
    rw [hop.request_face d models, request_face hmodels]

/-! ## Outcomes -/

/-- What comes of a file on an empty builder and a new resolver: the failure to apply it, or else
what its queue builds to. -/
def outcome (f : SchemaFile) (catalog : Catalog) (b : Builtin) :
    Except DdlError (Except DdlError String) :=
  match f.apply { dialect := b.dialect } (.new catalog) with
  | (.error e, _) => .error e
  | (.ok builder, r) => .ok (builder.build r).1

theorem outcome_of_error (catalog : Catalog) (b : Builtin) {e : DdlError}
    (h : f.toModels = .error e) : f.outcome catalog b = .error e := by
  rw [outcome, apply_of_toModels_error _ _ h]

theorem outcome_of_ok {catalog : Catalog} (b : Builtin) {r : Resolver}
    (h : f.toModels = .ok models) (hclaim : claimAll (.new catalog) models = (.ok models, r)) :
    f.outcome catalog b
      = (f.queue models).map fun queue =>
          (Builder.build { dialect := b.dialect, queue } r).1 := by
  rw [outcome, apply_of_toModels _ _ h, hclaim]
  simp only [Except.bind]
  cases f.queue models <;> rfl

/-- A file does the same without some of its blank texts as with them: under either dialect it
applies or fails to with the same error, and what it queues builds to the same text or fails with
the same error. -/
theorem outcome_of_drops (h : f.Drops f') (catalog : Catalog) (b : Builtin) :
    f'.outcome catalog b = f.outcome catalog b := by
  rcases cases_of_map_eq (h.toModels_face b.dialect) with
    ⟨e, hf, hf'⟩ | ⟨models, models', hf, hf', hmodels⟩
  · rw [outcome_of_error catalog b hf, outcome_of_error catalog b hf']
  · have hnodup := (toModels_eq_ok_iff.1 hf).nodup_ids
    obtain ⟨r, hclaim, hgains⟩ := exists_claimAll_new_of_nodup catalog hnodup
    obtain ⟨r', hclaim', hgains'⟩ :=
      exists_claimAll_new_of_nodup catalog (toModels_eq_ok_iff.1 hf').nodup_ids
    rw [outcome_of_ok b hf hclaim, outcome_of_ok b hf' hclaim']
    rcases cases_of_map_eq (h.queue_face hmodels) with
      ⟨e, hqueue, hqueue'⟩ | ⟨queue, queue', hqueue, hqueue', hface⟩
    · rw [hqueue, hqueue']
      rfl
    · rw [hqueue, hqueue']
      refine congrArg Except.ok (build_eq_of_face b hnodup hmodels hgains hgains' ?_ ?_ hface).symm
      · exact fun q hq m hm => model?_of_queue hqueue hq hm
      · exact fun q hq m hm => model?_of_queue hqueue' hq hm

end SchemaFile

/-! ## A ledger with blank texts -/

namespace Ledger

def entry : ModelDecl where
  name := "Entry"
  schema := some " "
  fields :=
    [{ name := "id", type := "i32", key := true, column := some "", typeName := some "\t" },
     { name := "note", type := "String", default := some (.scalar (.text " ")),
       computed := some "\u00a0" }]

def number : Sequence where
  name := { name := "entry_number", schema := some "" }
  dbType := some "  "

def file : SchemaFile where
  models := [entry]
  script := [.createTable "Entry" true, .createSequence number, .dropSequence number.name]

/-- The ledger without blank texts, except for the type name of its key. -/
def bare : SchemaFile where
  models :=
    [{ name := "Entry"
       fields :=
        [{ name := "id", type := "i32", key := true, typeName := some "\t" },
         { name := "note", type := "String" }] }]
  script :=
    [.createTable "Entry" true, .createSequence { name := { name := "entry_number" } },
     .dropSequence { name := "entry_number" }]

theorem drops_bare : file.Drops bare where
  models := by
    refine .cons ⟨.drop (by decide), .cons ?_ (.cons ?_ .nil), rfl⟩ .nil
    · exact ⟨.drop (by decide), .keep _, .keep _, .keep _, rfl⟩
    · exact ⟨.keep _, .keep _, .drop (by decide), .drop (by decide), rfl⟩
  script :=
    .cons (.keep _) (.cons (.createSequence ⟨⟨.drop (by decide), rfl⟩, .drop (by decide), rfl⟩)
      (.cons (.dropSequence ⟨.drop (by decide), rfl⟩) .nil))
  rest := rfl

theorem outcome_of_drops_ledger :
    file.Drops bare ∧ bare.outcome .ofId .postgres = file.outcome .ofId .postgres :=
  ⟨drops_bare, SchemaFile.outcome_of_drops drops_bare .ofId .postgres⟩

end Ledger
end SchemaDdl
