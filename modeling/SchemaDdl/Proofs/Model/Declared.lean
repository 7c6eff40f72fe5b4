import SchemaDdl.Proofs.Request.Rendering

/-!
# What models declare

The names, columns and references that follow from annotations and the catalog alone.  These are
the answers that a resolver's caches are meant to agree with.  Equal definitions declare the same
names, although they may differ in how their references are written.
-/

namespace SchemaDdl

open SchemaDdl.Text (isBlank nonBlank)

/-! ## Equal definitions -/

theorem Annotation.column?_untyped (a : Annotation) : a.untyped.column? = a.column? := by
  cases a <;> rfl

/-- What does not look at column annotations finds the same after an edit of the first one. -/
theorem Annotation.filterMap_editColumn {α : Type} {f : Annotation → Option α}
    (hf : ∀ s, f (.column s) = none) (edit : ColumnSettings → ColumnSettings)
    (annotations : List Annotation) :
    (editColumn edit annotations).filterMap f = annotations.filterMap f := by
  induction annotations with
  | nil => exact List.filterMap_cons_none (hf _)
  | cons a rest ih =>
    cases a with
    | column s => rw [editColumn, List.filterMap_cons_none (hf _), List.filterMap_cons_none (hf s)]
    | _ => simp only [editColumn, List.filterMap_cons, ih]

/-- An edit leaves its result as the settings that count. -/
theorem Annotation.findSome?_column?_editColumn (edit : ColumnSettings → ColumnSettings)
    (annotations : List Annotation) :
    (editColumn edit annotations).findSome? column?
      = some (edit ((annotations.findSome? column?).getD {})) := by
  induction annotations with
  | nil => rfl
  | cons a rest ih =>
    cases a with
    | column s => rfl
    | _ => exact ih

/-- What does not look at references finds the same in the annotations of a member. -/
theorem Member.findSome?_untyped {α : Type} {f : Annotation → Option α}
    (h : ∀ a, f a.untyped = f a) (m : Member) :
    m.untyped.annotations.findSome? f = m.annotations.findSome? f := by
  rw [untyped, List.findSome?_map]
  congr 1
  exact funext h

theorem Member.columnSettings_untyped (m : Member) : m.untyped.columnSettings = m.columnSettings :=
  m.findSome?_untyped Annotation.column?_untyped

theorem Member.columnName_untyped (m : Member) : m.untyped.columnName = m.columnName := by
  rw [columnName, columnSettings_untyped]
  rfl

namespace Model.Same

variable {a b : Model}

theorem tableName_eq (h : a.Same b) : a.tableName = b.tableName := by
  rw [tableName, tableName, h.table_eq, h.ident_eq]

/-- Each member of one definition has a counterpart in the other. -/
theorem exists_member (h : a.Same b) {member : Member} (hmem : member ∈ b.members) :
    ∃ other ∈ a.members, other.ident = member.ident ∧ other.columnName = member.columnName := by
  have hmembers : a.members.map Member.untyped = b.members.map Member.untyped :=
    congrArg Model.members h.untyped_eq
  have huntyped : member.untyped ∈ a.members.map Member.untyped := by
    rw [hmembers]
    exact List.mem_map_of_mem hmem
  obtain ⟨other, hother, heq⟩ := List.mem_map.1 huntyped
  have hident : other.untyped.ident = member.untyped.ident := by rw [heq]
  refine ⟨other, hother, hident, ?_⟩
  rw [← other.columnName_untyped, heq, member.columnName_untyped]

end Model.Same

/-! ## Declared columns and references -/

/-- The column that a member declares. -/
def Member.declaredColumn (m : Member) : Column :=
  Column.ofMember m.columnName m

/-- The columns that a model declares, in column order. -/
def Model.declaredColumns (m : Model) : List Column :=
  Column.arrange Column.order (m.mappedMembers.map Member.declaredColumn)

/-- The table of a name, without columns.  The default schema stands for a blank one. -/
def TableName.table (t : TableName) (id : ModelId) (defaultSchema : String) : Table :=
  { model := id, name := t.name,
    schema := if isBlank t.schema then defaultSchema else t.schema }

/-- The table that a model declares, without columns: that of its annotation or, without one, its
identifier; and the schema of the annotation unless it has none or a blank one. -/
def Model.declaredTable (m : Model) (defaultSchema : String) : Table :=
  { model := m.id
    name := (m.table.map TableSettings.name).getD m.ident
    schema := (nonBlank (m.table.bind TableSettings.schema)).getD defaultSchema }

theorem Model.declaredTable_eq (m : Model) (defaultSchema : String) :
    m.declaredTable defaultSchema = m.tableName.table m.id defaultSchema := by
  unfold declaredTable TableName.table tableName
  cases m.table with
  | none => rfl
  | some settings =>
    cases hschema : settings.schema with
    | none => simp [hschema, isBlank]
    | some schema =>
      by_cases hblank : isBlank schema = true <;>
        simp [hschema, nonBlank, Option.filter_some, hblank]

/-- The table that a model declares, with its columns. -/
def Model.declaration (m : Model) (defaultSchema : String) : Table :=
  { m.declaredTable defaultSchema with columns := m.declaredColumns }

/-- The name that a model declares for one of its members; an unknown member is used as it is
written. -/
def Model.declaredName (m : Model) (member : String) : String :=
  ((m.findMember member).map Member.columnName).getD member

/-- The table and column that the catalog declares for a reference. -/
def ForeignKey.declared (catalog : Catalog) (key : ForeignKey) : ReferencedColumn :=
  { table := (catalog key.model.id).tableName
    column := (catalog key.model.id).declaredName key.member }

/-- The block that creates a table as the model and the catalog declare it. -/
def Model.declaredBlock (catalog : Catalog) (d : Dialect) (m : Model) (ifNotExists : Bool) :
    Except DdlError String :=
  (Statement.columnLines d m.declaredColumns).map fun lines =>
    Statement.tableText d (m.declaration d.defaultSchema) ifNotExists lines
      ((Column.keys m.declaredColumns).map (·.declared catalog))

end SchemaDdl
