import SchemaDdl.Proofs.Resolver.Lasting

/-!
# Rendering in two parts

Rendering a request claims its model and resolves its names, and only then its foreign keys.  The
first part is its plan: what it leaves to do is a list of foreign keys and a text to put their
targets into (`render_eq`).  Plans last, and two dialects plan the same foreign keys and leave the
same resolver.
-/

namespace SchemaDdl

/-- A reference as a statement writes it, with the default schema where none is declared. -/
def ReferencedColumn.within (target : ReferencedColumn) (defaultSchema : String) :
    ReferencedColumn :=
  { target with
    table := { target.table with schema := target.table.schemaOr defaultSchema } }

theorem TableName.schemaOr_schemaOr (t : TableName) (defaultSchema : String) :
    ({ t with schema := t.schemaOr defaultSchema } : TableName).schemaOr defaultSchema
      = t.schemaOr defaultSchema := by
  by_cases h : Text.isBlank t.schema = true <;> simp [schemaOr, h]

theorem Statement.foreignKey_within (d : Dialect) (t : Table) (c : Column)
    (target : ReferencedColumn) :
    foreignKey d t c (target.within d.defaultSchema) = foreignKey d t c target := by
  unfold foreignKey
  simp only [ReferencedColumn.within, TableName.schemaOr_schemaOr]

theorem Statement.writeForeignKeys_within (d : Dialect) (t : Table) (columns : List Column)
    (targets : List ReferencedColumn) :
    writeForeignKeys d t columns (targets.map (·.within d.defaultSchema))
      = writeForeignKeys d t columns targets := by
  induction columns generalizing targets with
  | nil => rfl
  | cons c rest ih =>
    cases targets with
    | nil => rfl
    | cons target targets =>
      rw [List.map_cons, writeForeignKeys, writeForeignKeys, foreignKey_within, ih]
      by_cases hkey : c.foreignKey.isSome = true
      · rw [if_pos hkey, if_pos hkey]
      · rw [if_neg hkey, if_neg hkey]
        exact ih (target :: targets)

namespace Request

open Resolver (Lasting)

/-- Foreign keys to resolve, and the text that their targets go into. -/
structure Plan where
  keys : List ForeignKey
  text : List ReferencedColumn → String

/-- The plan of a text without foreign keys. -/
def Plan.fixed (text : String) : Plan :=
  { keys := [], text := fun _ => text }

def planTable (d : Dialect) (t : Table) (ifNotExists : Bool) : Except DdlError Plan :=
  (Statement.columnLines d t.columns).map fun lines =>
    { keys := Column.keys t.columns, text := Statement.tableText d t ifNotExists lines }

/-- The plan of a request whose model, if any, has been claimed. -/
def planBlock (d : Dialect) (r : Resolver) : Request → Except DdlError Plan × Resolver
  | createTable m ifNotExists =>
    let (t, r) := Table.describe r m d.defaultSchema
    (planTable d t ifNotExists, r)
  | request =>
    let (text, r) := request.block d r
    (text.map .fixed, r)

def planClaimed (d : Dialect) (request : Request) :
    Except DdlError Model → Resolver → Except DdlError Plan × Resolver
  | .error e, r => (.error e, r)
  | .ok _, r => request.planBlock d r

/-- What is left of rendering a request once its model is claimed and its names are resolved. -/
def plan (d : Dialect) (r : Resolver) (request : Request) : Except DdlError Plan × Resolver :=
  match request.model? with
  | none => request.planBlock d r
  | some m => planClaimed d request (r.claim m).1 (r.claim m).2

/-- The rest of a rendering. -/
def finish : Except DdlError Plan × Resolver → Except DdlError String × Resolver
  | (.error e, r) => (.error e, r)
  | (.ok p, r) => (.ok (p.text (r.resolveAll p.keys).1), (r.resolveAll p.keys).2)

variable {d d' : Dialect} {r r' s : Resolver} {request : Request} {p p' : Plan}

theorem block_eq (d : Dialect) (r : Resolver) (request : Request) :
    request.block d r = finish (request.planBlock d r) := by
  cases request with
  | createTable m ifNotExists =>
    rw [block_createTable_eq]
    cases hlines : Statement.columnLines d (Table.describe r m d.defaultSchema).1.columns with
    | error e =>
      rw [Statement.createTable_of_error hlines]
      simp only [planBlock, planTable, hlines]
      rfl
    | ok lines =>
      rw [Statement.createTable_of_ok hlines]
      simp only [planBlock, planTable, hlines]
      rfl
  | dropTable | truncateTable | createSchema | dropSchema | createSequence | dropSequence
  | customSql => rfl

theorem render_eq (d : Dialect) (r : Resolver) (request : Request) :
    request.render d r = finish (request.plan d r) := by
  unfold render plan
  cases request.model? with
  | none => exact block_eq d r request
  | some m =>
    rcases hres : r.claim m with ⟨e | held, r₁⟩ <;> simp only [hres]
    · rfl
    · exact block_eq d r₁ request

/-! ## Plans last -/

theorem extends_planBlock (d : Dialect) (r : Resolver) (request : Request) :
    r.Extends (request.planBlock d r).2 := by
  cases request with
  | createTable m =>
    exact (Resolver.extends_ofMembers r m m.mappedMembers).trans
      (Resolver.extends_add _ (.table m))
  | dropTable m | truncateTable m => exact Resolver.extends_add r (.table m)
  | createSchema | dropSchema | createSequence | dropSequence | customSql => exact .refl r

theorem lasting_planBlock (d : Dialect) (request : Request) :
    Lasting fun r => request.planBlock d r := by
  cases request with
  | createTable m ifNotExists =>
    exact (Resolver.lasting_describe m d.defaultSchema).map (planTable d · ifNotExists)
  | dropTable m ifExists =>
    exact (Resolver.lasting_resolve m d.defaultSchema).map fun t =>
      (Except.ok (Plan.fixed (Statement.dropTable t ifExists)) : Except DdlError Plan)
  | truncateTable m =>
    exact (Resolver.lasting_resolve m d.defaultSchema).map fun t =>
      (Except.ok (Plan.fixed (Statement.truncateTable t)) : Except DdlError Plan)
  | createSchema | dropSchema | createSequence | dropSequence | customSql =>
    exact fun _ _ _ => rfl

theorem lasting_plan (d : Dialect) (request : Request) : Lasting fun r => request.plan d r := by
  unfold plan
  cases request.model? with
  | none => exact lasting_planBlock d request
  | some m =>
    refine (Resolver.lasting_claim m).bind (g := planClaimed d request) ?_ ?_
    · intro result
      cases result with
      | error e => exact fun _ _ _ => rfl
      | ok held => exact lasting_planBlock d request
    · intro result r
      cases result with
      | error e => exact .refl r
      | ok held => exact extends_planBlock d r request

/-! ## Plans under several dialects -/

/-- Claiming does not look at the dialect. -/
theorem plan_cases (r : Resolver) (request : Request) :
    (∃ e r', ∀ d, request.plan d r = (.error e, r')) ∨
      ∃ r', ∀ d, request.plan d r = request.planBlock d r' := by
  unfold plan
  cases request.model? with
  | none => exact .inr ⟨r, fun _ => rfl⟩
  | some m =>
    simp only
    cases (r.claim m).1 with
    | error e => exact .inl ⟨e, (r.claim m).2, fun _ => rfl⟩
    | ok held => exact .inr ⟨(r.claim m).2, fun _ => rfl⟩

theorem planTable_ok {t : Table} {ifNotExists : Bool} (h : planTable d t ifNotExists = .ok p) :
    p.keys = Column.keys t.columns ∧
      ∃ lines, p.text = Statement.tableText d t ifNotExists lines := by
  unfold planTable at h
  cases hlines : Statement.columnLines d t.columns with
  | error e =>
    rw [hlines] at h
    cases h
  | ok lines =>
    rw [hlines] at h
    cases h
    exact ⟨rfl, lines, rfl⟩

/-- Two dialects leave the same resolver. -/
theorem plan_snd (d d' : Dialect) (r : Resolver) (request : Request) :
    (request.plan d r).2 = (request.plan d' r).2 := by
  rcases plan_cases r request with ⟨e, r', h⟩ | ⟨r', h⟩
  · rw [h, h]
  · rw [h, h]
    cases request <;> rfl

/-- The foreign keys of the columns of a table to create. -/
def keys (r : Resolver) : Request → List ForeignKey
  | createTable m _ => Column.keys (Column.extract r m).1
  | _ => []

theorem keys_of_planBlock (h : (request.planBlock d r).1 = .ok p) : p.keys = request.keys r := by
  cases request with
  | createTable m ifNotExists =>
    exact (planTable_ok (t := (Table.describe r m d.defaultSchema).1) h).1
  | dropTable | truncateTable | createSchema | dropSchema | createSequence | dropSequence
  | customSql =>
    cases h
    rfl

/-- Two dialects plan the same foreign keys. -/
theorem plan_keys (h : (request.plan d r).1 = .ok p) (h' : (request.plan d' r).1 = .ok p') :
    p'.keys = p.keys := by
  rcases plan_cases r request with ⟨e, r', hplan⟩ | ⟨r', hplan⟩
  · rw [hplan] at h
    cases h
  · rw [hplan] at h h'
    rw [keys_of_planBlock h, keys_of_planBlock h']

/-- A plan looks at its targets as they are written. -/
theorem plan_text (h : (request.plan d r).1 = .ok p) (targets : List ReferencedColumn) :
    p.text (targets.map (·.within d.defaultSchema)) = p.text targets := by
  rcases plan_cases r request with ⟨e, r', hplan⟩ | ⟨r', hplan⟩
  · rw [hplan] at h
    cases h
  · rw [hplan] at h
    cases request with
    | createTable m ifNotExists =>
      obtain ⟨-, lines, htext⟩ := planTable_ok (t := (Table.describe r' m d.defaultSchema).1) h
      rw [htext, Statement.tableText, Statement.tableText, Statement.tableParts,
        Statement.tableParts, Statement.writeForeignKeys_within]
    | dropTable | truncateTable | createSchema | dropSchema | createSequence | dropSequence
    | customSql =>
      cases h
      rfl

end Request
end SchemaDdl
