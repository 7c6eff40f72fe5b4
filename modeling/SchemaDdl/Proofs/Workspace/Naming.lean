import Mathlib.Data.List.Forall2
import SchemaDdl.Proofs.Model.Declared
import SchemaDdl.Proofs.Statement.Wording
import SchemaDdl.Proofs.Workspace.Growth

/-!
# Which names the blocks of a build use

Every step but two claims a model before it resolves its table name, so what it caches is the
name of the definition held.  Describing a queue and resolving a name directly do not claim: they
may cache the name of a definition that no build would accept.  Such a first name is all that can
make a block name another table than its request declares.
-/

namespace SchemaDdl

/-! ## Names that growth adds -/

/-- The entry is no table name. -/
def Entry.Plain : Entry → Prop
  | .table _ => False
  | _ => True

namespace Resolver

variable {r r' : Resolver} {m : Model}

/-- Where table names are added for what is held only, a name was cached before or is the one
that the definition held declares. -/
theorem Grows.table_origin (h : Grows Entry.Plain r r') {id : ModelId} {t : TableName}
    (hget : r'.tables.get? id = some t) :
    r.tables.get? id = some t ∨ ∃ held, r'.models.get? id = some held ∧ held.tableName = t := by
  induction h with
  | refl => exact .inl hget
  | @add r' e _ he ih =>
    have hstays : ∀ {held}, r'.models.get? id = some held → (r'.add e).models.get? id = some held :=
      fun h => (extends_add r' e).model h
    cases e with
    | column | model =>
      rcases ih hget with h | ⟨held, hheld, hname⟩
      · exact .inl h
      · exact .inr ⟨held, hstays hheld, hname⟩
    | table m =>
      rcases add_table_eq_some_iff.1 hget with hget | ⟨rfl, -, rfl⟩
      · rcases ih hget with h | ⟨held, hheld, hname⟩
        · exact .inl h
        · exact .inr ⟨held, hheld, hname⟩
      · rcases he with hm | ⟨held, hheld, hsame⟩
        · cases hm
        · exact .inr ⟨held, hheld, hsame.tableName_eq⟩

/-- A model that is held keeps the name that it had when the growth began. -/
theorem Grows.resolveTable_fst (h : Grows Entry.Plain r r') (hm : r'.Holds m) :
    (r'.resolveTable m).1 = (r.resolveTable m).1 := by
  rw [Resolver.resolveTable_fst, Resolver.resolveTable_fst]
  cases hstart : r.tables.get? m.id with
  | some t => rw [h.extends.table hstart]
  | none =>
    cases hget : r'.tables.get? m.id with
    | none => rfl
    | some t =>
      obtain ⟨held, hheld, hsame⟩ := hm
      rcases h.table_origin hget with h | ⟨other, hother, hname⟩
      · rw [hstart] at h
        cases h
      · rw [hheld] at hother
        cases hother
        exact hname.symm.trans hsame.tableName_eq

end Resolver

/-! ## The table that a block names -/

namespace Request

open Resolver (Grows)

/-- The block is the one of a request for a table, whatever its columns and references: it creates,
drops or empties the table of the schema and the name. -/
def Names (d : Dialect) (t : Table) (block : String) : Request → Prop
  | createTable _ flag =>
    ∃ columns r, (Statement.createTable d r { t with columns } flag).1 = .ok block ∧
      ∃ rest, block = Statement.heading d { t with columns } flag ++ rest
  | dropTable _ flag =>
    block = "DROP TABLE " ++ (if flag then "IF EXISTS " else "") ++ (t.schema ++ "." ++ t.name) ++ ";"
  | truncateTable _ => block = "TRUNCATE TABLE " ++ (t.schema ++ "." ++ t.name) ++ ";"
  | _ => True

variable {d : Dialect} {r r' : Resolver} {request : Request} {m : Model} {block : String}

theorem names_createTable {t : Table} {columns : List Column} {flag : Bool}
    (h : (Statement.createTable d r { t with columns } flag).1 = .ok block) :
    (createTable m flag).Names d t block :=
  ⟨columns, r, h, Statement.exists_heading h⟩

theorem within_plain (catalog : Catalog) (request : Request) :
    request.Within catalog Entry.Plain :=
  fun _ _ => ⟨trivial, fun _ _ _ => trivial⟩

theorem names_of_block (hm : r.Holds m) (hmodel : request.model? = some m)
    (h : (request.block d r).1 = .ok block) :
    ∃ r', Grows Entry.Plain r r' ∧ r'.Holds m ∧
      request.Names d (Table.resolve r' m d.defaultSchema).1 block := by
  cases request with
  | createTable m flag =>
    cases hmodel
    have hname : Resolver.Nameable Entry.Plain r m := .inl hm
    exact ⟨_, hname.grows_extract, hm.mono hname.grows_extract.extends, names_createTable h⟩
  | dropTable m flag | truncateTable m =>
    cases hmodel
    cases h
    exact ⟨r, .refl, hm, rfl⟩
  | _ => cases hmodel

theorem names_of_render {r₀ : Resolver} (hgrows : Grows Entry.Plain r₀ r)
    (hmodel : request.model? = some m) (h : request.render d r = (.ok block, r')) :
    request.Names d (Table.resolve r₀ m d.defaultSchema).1 block := by
  have hclaim : Grows Entry.Plain r (r.claim m).2 := Resolver.grows_claim trivial
  rcases hres : r.claim m with ⟨e | held, r₁⟩
  · rw [render_of_claim_error hmodel hres] at h
    cases h
  · rw [hres] at hclaim
    rw [render_of_claim_ok hmodel hres] at h
    have hblock : (request.block d r₁).1 = .ok block := by rw [h]
    obtain ⟨r₂, hgrows₂, hm, hnames⟩ :=
      names_of_block (Resolver.holds_of_claim hres) hmodel hblock
    have hname : (r₂.resolveTable m).1 = (r₀.resolveTable m).1 :=
      ((hgrows.trans hclaim).trans hgrows₂).resolveTable_fst hm
    rw [Table.resolve_eq] at hnames ⊢
    rwa [← hname]

/-- Every table block of a queue names the table as it resolved when the rendering began, and the
model of the request is held in the end. -/
theorem Rendered.names {queue : List Request} {blocks : List String} {r₀ : Resolver}
    (h : Rendered d r queue blocks r') (hr : r.Keyed) (hgrows : Grows Entry.Plain r₀ r) :
    Grows Entry.Plain r₀ r' ∧
      List.Forall₂ (fun request block => ∀ m, request.model? = some m → r'.Holds m ∧
        request.Names d (Table.resolve r₀ m d.defaultSchema).1 block) queue blocks := by
  induction h with
  | nil => exact ⟨hgrows, .nil⟩
  | @cons r r' r'' request rest block blocks hhead htail ih =>
    have hstep : Grows Entry.Plain r r' := by
      have := grows_render (d := d) hr (within_plain r.catalog request)
      rwa [hhead] at this
    obtain ⟨hend, hrest⟩ := ih (hstep.keyed hr) (hgrows.trans hstep)
    have htail := htail.grows (hstep.keyed hr) fun q _ => within_plain _ q
    refine ⟨hend, .cons (fun m hm => ⟨?_, names_of_render hgrows hm hhead⟩) hrest⟩
    exact (holds_of_render hr hm hhead).mono htail.extends

end Request

/-! ## Steps that do not claim -/

/-- The models whose table names a step resolves without claiming them, in turn. -/
def Step.unclaimed (w : Workspace) : Step → List Model
  | .describe name => (w.builder name).queue.filterMap Request.created?
  | .resolveTable m => [m]
  | _ => []

namespace Builder

theorem table_describe (r : Resolver) (m : Model) (defaultSchema : String) (id : ModelId) :
    (Table.describe r m defaultSchema).2.tables.get? id
      = (r.tables.get? id).or (if m.id = id then some m.tableName else none) := by
  have hcolumns : ∀ members r, (Column.ofMembers r m members).2.tables = r.tables := by
    intro members
    induction members with
    | nil => exact fun _ => rfl
    | cons member rest ih =>
      intro r
      rw [Column.ofMembers_cons]
      exact ih _
  have hextract : (Column.extract r m).2.tables = r.tables := hcolumns _ _
  change ((Column.extract r m).2.tables.hold m.id m.tableName).2.get? id = _
  rw [hextract]
  by_cases hid : m.id = id
  · subst hid
    rw [if_pos rfl, Cache.get?_hold_self, Cache.hold_fst]
    cases r.tables.get? m.id <;> rfl
  · rw [if_neg hid, Cache.get?_hold_of_ne _ _ (Ne.symm hid), Option.or_none]

/-- Describing caches the name that the first model of an identity declares, unless one is
cached. -/
theorem table_describeAll (r : Resolver) (models : List Model) (defaultSchema : String)
    (id : ModelId) :
    (describeAll defaultSchema r models).2.tables.get? id
      = (r.tables.get? id).or ((models.find? fun m => m.id = id).map Model.tableName) := by
  induction models generalizing r with
  | nil => exact Option.or_none.symm
  | cons m rest ih =>
    change (describeAll defaultSchema (Table.describe r m defaultSchema).2 rest).2.tables.get? id
      = _
    rw [ih, table_describe, Option.or_assoc]
    by_cases hid : m.id = id
    · rw [if_pos hid, List.find?_cons_of_pos (by simpa using hid)]
      rfl
    · rw [if_neg hid, List.find?_cons_of_neg (by simpa using hid)]
      rfl

end Builder

namespace Workspace

variable {catalog : Catalog} {w : Workspace} {s : Step} {steps : List Step} {id : ModelId}
  {t : TableName} {m : Model}

theorem table_step_of_unclaimed (hnone : w.resolver.tables.get? id = none)
    (hfind : (s.unclaimed w).find? (fun m => m.id = id) = some m) :
    (w.step s).2.resolver.tables.get? id = some m.tableName := by
  cases s with
  | describe name =>
    change (Builder.describeAll _ w.resolver _).2.tables.get? id = _
    rw [Builder.table_describeAll, hnone]
    exact congrArg (Option.map Model.tableName) hfind
  | resolveTable x =>
    obtain ⟨rfl, hid⟩ : m = x ∧ x.id = id := by
      rw [Step.unclaimed, List.find?_singleton] at hfind
      by_cases hid : x.id = id
      · simp [hid] at hfind
        exact ⟨hfind.symm, hid⟩
      · simp [hid] at hfind
    exact Resolver.add_table_eq_some_iff.2 (.inr ⟨hid.symm, by rw [hid]; exact hnone, rfl⟩)
  | _ => cases hfind

/-- A name that is cached after a step was cached before, is the one of the definition held, or
was resolved first by the step without a claim. -/
theorem table_origin_step (hw : w.resolver.Keyed)
    (hget : (w.step s).2.resolver.tables.get? id = some t) :
    w.resolver.tables.get? id = some t ∨
      (∃ held, (w.step s).2.resolver.models.get? id = some held ∧ held.tableName = t) ∨
      w.resolver.tables.get? id = none ∧
        ∃ m, (s.unclaimed w).find? (fun m => m.id = id) = some m ∧ m.tableName = t := by
  have hplain : s.Within Entry.Plain w → w.resolver.tables.get? id = some t ∨
      ∃ held, (w.step s).2.resolver.models.get? id = some held ∧ held.tableName = t :=
    fun h => (grows_step hw h).table_origin hget
  cases s with
  | describe name =>
    change (Builder.describeAll _ w.resolver _).2.tables.get? id = _ at hget
    rw [Builder.table_describeAll] at hget
    cases hstart : w.resolver.tables.get? id with
    | some t' =>
      rw [hstart] at hget
      exact .inl hget
    | none =>
      rw [hstart, Option.none_or] at hget
      obtain ⟨m, hfind, hname⟩ := Option.map_eq_some_iff.1 hget
      exact .inr (.inr ⟨rfl, m, hfind, hname⟩)
  | resolveTable m =>
    rcases Resolver.add_table_eq_some_iff.1 hget with hget | ⟨rfl, hnone, hname⟩
    · exact .inl hget
    · refine .inr (.inr ⟨hnone, m, ?_, hname⟩)
      simp [Step.unclaimed]
  | createTable _ t | dropTable _ t | truncateTable _ t =>
    exact (hplain (by cases t <;> trivial)).imp_right .inl
  | build => exact (hplain fun q _ => Request.within_plain _ q).imp_right .inl
  | apply => exact (hplain fun _ _ _ _ => trivial).imp_right .inl
  | lookup | reference => exact (hplain fun _ => trivial).imp_right .inl
  | _ => exact (hplain trivial).imp_right .inl

/-- The step of a run that caches the first name of an identity does not claim, and the model
whose name it is. -/
def FirstNames (w : Workspace) (steps : List Step) (id : ModelId) (m : Model) : Prop :=
  ∃ before s after, steps = before ++ s :: after ∧
    (w.run before).2.resolver.tables.get? id = none ∧
    (s.unclaimed (w.run before).2).find? (fun m => m.id = id) = some m

theorem FirstNames.id_eq (h : w.FirstNames steps id m) : m.id = id := by
  obtain ⟨before, s, after, -, -, hfind⟩ := h
  simpa using List.find?_some hfind

theorem FirstNames.table (h : w.FirstNames steps id m) (hw : w.resolver.Keyed) :
    (w.run steps).2.resolver.tables.get? id = some m.tableName := by
  obtain ⟨before, s, after, rfl, hnone, hfind⟩ := h
  have hkeyed := keyed_run hw before
  rw [run_append, run_cons]
  exact (extends_run (keyed_step hkeyed s) after).table (table_step_of_unclaimed hnone hfind)

theorem FirstNames.cons (h : (w.step s).2.FirstNames steps id m) :
    w.FirstNames (s :: steps) id m := by
  obtain ⟨before, s', after, rfl, hnone, hfind⟩ := h
  exact ⟨s :: before, s', after, rfl, hnone, hfind⟩

theorem table_origin_run (hw : w.resolver.Keyed)
    (hget : (w.run steps).2.resolver.tables.get? id = some t) :
    w.resolver.tables.get? id = some t ∨
      (∃ held, (w.run steps).2.resolver.models.get? id = some held ∧ held.tableName = t) ∨
      ∃ m, w.FirstNames steps id m ∧ m.tableName = t := by
  induction steps generalizing w with
  | nil => exact .inl hget
  | cons s rest ih =>
    have hnext := keyed_step hw s
    rcases ih hnext hget with h | h | ⟨m, hfirst, hname⟩
    · rcases table_origin_step hw h with h | ⟨held, hheld, hname⟩ | ⟨hnone, m, hfind, hname⟩
      · exact .inl h
      · exact .inr (.inl ⟨held, (extends_run hnext rest).model hheld, hname⟩)
      · exact .inr (.inr ⟨m, ⟨[], s, rest, rfl, hnone, hfind⟩, hname⟩)
    · exact .inr (.inl h)
    · exact .inr (.inr ⟨m, hfirst.cons, hname⟩)

/-- A model's table is that of the first name that was cached without a claim. -/
theorem FirstNames.resolve_fst {other : Model} (h : w.FirstNames steps m.id other)
    (hw : w.resolver.Keyed) (defaultSchema : String) :
    (Table.resolve (w.run steps).2.resolver m defaultSchema).1
      = other.declaredTable defaultSchema := by
  rw [Table.resolve_eq, Resolver.resolveTable_fst, h.table hw, Option.getD_some,
    Model.declaredTable_eq, h.id_eq]
  rfl

/-- Where only definitions with the model's name are held, its table is the declared one unless
a step that does not claim has cached another first. -/
theorem resolve_eq_declared_iff (hheld : ∀ held,
      ((new catalog).run steps).2.resolver.models.get? m.id = some held →
        held.tableName = m.tableName) (defaultSchema : String) :
    (Table.resolve ((new catalog).run steps).2.resolver m defaultSchema).1
        = m.declaredTable defaultSchema ↔
      ∀ other, (new catalog).FirstNames steps m.id other →
        other.declaredTable defaultSchema = m.declaredTable defaultSchema := by
  have hnew := Resolver.keyed_new catalog
  constructor
  · intro hdeclared other hother
    exact (hother.resolve_fst hnew defaultSchema).symm.trans hdeclared
  · intro hall
    cases hget : ((new catalog).run steps).2.resolver.tables.get? m.id with
    | none =>
      rw [Table.resolve_eq, Resolver.resolveTable_fst, hget, Model.declaredTable_eq]
      rfl
    | some t =>
      rcases table_origin_run hnew hget with h | ⟨held, hmodel, hname⟩ | ⟨first, hfirst, -⟩
      · cases h
      · rw [Table.resolve_eq, Resolver.resolveTable_fst, hget, Option.getD_some, ← hname,
          hheld held hmodel, Model.declaredTable_eq]
        rfl
      · exact (hfirst.resolve_fst hnew defaultSchema).trans (hall first hfirst)

/-- Each table block of a build names the table of some declared name; it is the one that the
model of the request declares unless a step that does not claim has cached another first. -/
theorem build_names_tables (catalog : Catalog) (steps : List Step) (b : Builder) {text : String}
    (h : (b.build ((new catalog).run steps).2.resolver).1 = .ok text) :
    ∃ blocks, text = Request.script blocks ∧
      List.Forall₂ (fun request block => ∀ m, request.model? = some m →
        ∃ t, request.Names b.dialect t block ∧
          (∀ other, (new catalog).FirstNames steps m.id other →
            t = other.declaredTable b.dialect.defaultSchema) ∧
          (t = m.declaredTable b.dialect.defaultSchema ↔
            ∀ other, (new catalog).FirstNames steps m.id other →
              other.declaredTable b.dialect.defaultSchema
                = m.declaredTable b.dialect.defaultSchema)) b.queue blocks := by
  have hnew := Resolver.keyed_new catalog
  have hkeyed := keyed_run (w := new catalog) hnew steps
  obtain ⟨blocks, hblocks, rfl⟩ := Request.renderAll_ok_iff.1 (Prod.ext h rfl)
  obtain ⟨hgrows, hnames⟩ := hblocks.names hkeyed .refl
  refine ⟨blocks, rfl, hnames.imp fun request block hblock m hm => ?_⟩
  obtain ⟨⟨now, hnow, hsame⟩, hblock⟩ := hblock m hm
  have hheld : ∀ held, ((new catalog).run steps).2.resolver.models.get? m.id = some held →
      held.tableName = m.tableName := by
    intro held hget
    have hstays := hgrows.extends.model hget
    rw [hnow] at hstays
    cases hstays
    exact hsame.tableName_eq
  exact ⟨_, hblock, fun other hother => hother.resolve_fst hnew _, resolve_eq_declared_iff hheld _⟩

end Workspace

/-! ## Two definitions under one identity -/

namespace Renaming

open Workspace

def orders : Model := (Model.named "Order").withTable "orders"

def renamed : Model := (Model.named "Order").withTable "renamed"

/-- A queue is described and given up, and another definition is queued. -/
def steps : List Step :=
  [.createTable "main" (.model orders) false, .describe "main", .clear "main",
    .dropTable "main" (.model renamed) false]

def after : Workspace := ((new .ofId).run steps).2

theorem build_after :
    ((after.builder "main").build after.resolver).1 = .ok "DROP TABLE dbo.orders;\n" := by
  decide

/-- The block names the table of the model that was described. -/
theorem build_names_tables_renamed :
    ∃ blocks, "DROP TABLE dbo.orders;\n" = Request.script blocks ∧
      List.Forall₂ (fun request block => ∀ m, request.model? = some m →
        ∃ t, request.Names (after.builder "main").dialect t block ∧
          (∀ other, (new .ofId).FirstNames steps m.id other → t = other.declaredTable "dbo") ∧
          (t = m.declaredTable "dbo" ↔
            ∀ other, (new .ofId).FirstNames steps m.id other →
              other.declaredTable "dbo" = m.declaredTable "dbo"))
        (after.builder "main").queue blocks :=
  build_names_tables .ofId steps (after.builder "main") build_after

/-- Builders alone may reach a build that succeeds with a block that names another table than its
request declares. -/
theorem not_build_names_declared :
    ¬ ∀ (catalog : Catalog) (steps : List Step) (name text : String),
        let w := ((new catalog).run steps).2
        let b := w.builder name
        steps.all Step.onBuilder = true → (b.build w.resolver).1 = .ok text →
          ∃ blocks, text = Request.script blocks ∧
            List.Forall₂ (fun request block => ∀ m, request.model? = some m →
              request.Names b.dialect (m.declaredTable b.dialect.defaultSchema) block)
              b.queue blocks := by
  intro h
  obtain ⟨blocks, htext, hblocks⟩ := h .ofId steps "main" _ (by decide) build_after
  obtain ⟨block, rest, hblock, hrest, rfl⟩ := List.forall₂_cons_left_iff.1 hblocks
  obtain rfl := List.forall₂_nil_left_iff.1 hrest
  obtain rfl : block = "DROP TABLE dbo.renamed;" := hblock renamed rfl
  exact absurd htext (by decide)

end Renaming
end SchemaDdl
