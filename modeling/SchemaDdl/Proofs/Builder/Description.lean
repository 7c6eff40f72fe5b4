import SchemaDdl.Proofs.Workspace.References

/-!
# Describing agrees with building

Describing a queue lists the tables that a build of it creates, whether it comes right before the
build or right after it.  Both walk the same queue and may leave different names behind, but what
either has cached stays, so the second walk repeats what the first one found
(`Builder.describeTables_of_build`, `Builder.lasting_describeTables`).  Describing adds names only,
and whether a queue builds is told by the definitions held, so describing first makes no build
fail (`Builder.exists_build_describeTables_iff`).
-/

namespace SchemaDdl

open Resolver (Lasting)

/-! ## Tables that are described -/

namespace Builder

theorem lasting_describeAll (defaultSchema : String) (models : List Model) :
    Lasting fun r => describeAll defaultSchema r models := by
  induction models with
  | nil => exact fun _ _ _ => rfl
  | cons m rest ih =>
    exact (Resolver.lasting_describe m defaultSchema).bind
      (g := fun t r =>
        (t :: (describeAll defaultSchema r rest).1, (describeAll defaultSchema r rest).2))
      (fun t => ih.map (t :: ·)) fun _ r => extends_describeAll r rest defaultSchema

/-- Described again, a queue shows the same tables and leaves the resolver alone. -/
theorem lasting_describeTables (b : Builder) : Lasting b.describeTables :=
  lasting_describeAll b.dialect.defaultSchema _

theorem extends_describeTables (b : Builder) (r : Resolver) :
    r.Extends (b.describeTables r).2 :=
  extends_describeAll r _ b.dialect.defaultSchema

theorem models_describeAll (defaultSchema : String) (r : Resolver) (models : List Model) :
    (describeAll defaultSchema r models).2.models = r.models := by
  induction models generalizing r with
  | nil => rfl
  | cons m rest ih =>
    change (describeAll defaultSchema (Table.describe r m defaultSchema).2 rest).2.models = _
    rw [ih, Resolver.models_describe]

/-- Where each model has its table already, describing shows these tables and adds nothing. -/
theorem describeAll_of_forall₂ {defaultSchema : String} {s : Resolver} {models : List Model}
    {tables : List Table}
    (h : List.Forall₂ (fun m t => Table.describe s m defaultSchema = (t, s)) models tables) :
    describeAll defaultSchema s models = (tables, s) := by
  induction h with
  | nil => rfl
  | cons hhead _ ih => simp only [describeAll, hhead, ih]

end Builder

/-! ## Tables that are created -/

namespace Rendering

/-- The rendering is of a table to create, and the block is the statement of this table on the
resolver that its turn has come to. -/
structure Creates (x : Rendering) (t : Table) : Prop where
  table : x.table? = some t
  block : ∃ m ifNotExists, x.request = .createTable m ifNotExists ∧ t.model = m.id ∧
    Statement.createTable x.dialect (Request.describeClaimed x.dialect x.before m).2 t ifNotExists
      = (.ok x.block, x.after)

/-- The request is for a table to create. -/
def isCreation (x : Rendering) : Bool := x.request.created?.isSome

end Rendering

namespace Request

variable {d : Dialect} {r r' s : Resolver} {request : Request} {queue : List Request} {m : Model}
  {block : String} {blocks : List String}

theorem creates_of_render {ifNotExists : Bool}
    (h : (createTable m ifNotExists).render d r = (.ok block, r')) :
    Rendering.Creates ⟨d, r, .createTable m ifNotExists, block, r'⟩ (describeClaimed d r m).1 :=
  ⟨rfl, m, ifNotExists, rfl, rfl, block_of_render (m := m) rfl h⟩

/-- Each creation of a queue that renders creates the table that it shows. -/
theorem Rendered.creates (h : Rendered d r queue blocks r') :
    List.Forall₂ Rendering.Creates ((renderings d r queue).filter Rendering.isCreation)
      ((renderings d r queue).filterMap Rendering.table?) := by
  induction h with
  | nil => exact .nil
  | @cons r r₁ r₂ request rest block blocks hhead _ ih =>
    simp only [renderings, hhead]
    cases request with
    | createTable m ifNotExists => exact .cons (creates_of_render hhead) ih
    | dropTable | truncateTable | createSchema | dropSchema | createSequence | dropSequence
    | customSql => exact ih

/-- A table that a block creates is the one that its model has on every resolver that keeps what
the block left. -/
theorem describe_of_render {ifNotExists : Bool}
    (h : (createTable m ifNotExists).render d r = (.ok block, r')) (hs : r'.Extends s) :
    Table.describe s m d.defaultSchema = ((describeClaimed d r m).1, s) := by
  obtain ⟨lines, -, -, rfl⟩ := createTable_of_render h
  have hkept : (describeClaimed d r m).2.Extends s := (Resolver.extends_resolveAll _ _).trans hs
  exact Resolver.lasting_describe m d.defaultSchema _ s hkept

/-- The tables that a queue has created are those that its models have from then on. -/
theorem Rendered.describes (h : Rendered d r queue blocks r') (hs : r'.Extends s) :
    List.Forall₂ (fun m t => Table.describe s m d.defaultSchema = (t, s))
      (queue.filterMap created?) ((renderings d r queue).filterMap Rendering.table?) := by
  induction h with
  | nil => exact .nil
  | @cons r r₁ r₂ request rest block blocks hhead htail ih =>
    simp only [renderings, hhead]
    cases request with
    | createTable m ifNotExists =>
      have hkept : r₁.Extends s := (extends_rendered htail).trans hs
      exact .cons (describe_of_render hhead hkept) (ih hs)
    | dropTable | truncateTable | createSchema | dropSchema | createSequence | dropSequence
    | customSql => exact ih hs

end Request

/-! ## Builders -/

namespace Builder

/-- The renderings of a build, up to its first failure. -/
def renderings (b : Builder) (r : Resolver) : List Rendering :=
  Request.renderings b.dialect r b.queue

/-- The text of a build on the given resolver creates just the given tables: it has one block for
each request, in queue order, and those that create a table are the statements of the tables in
turn. -/
structure Shows (b : Builder) (r : Resolver) (tables : List Table) (text : String) : Prop where
  requests : (b.renderings r).map Rendering.request = b.queue
  text : text = Request.script ((b.renderings r).map Rendering.block)
  tables : List.Forall₂ Rendering.Creates ((b.renderings r).filter Rendering.isCreation) tables

variable {b : Builder} {r : Resolver} {text : String}

/-- After a build the queue shows the tables that the build created. -/
theorem describeTables_of_build (h : (b.build r).1 = .ok text) :
    b.describeTables (b.build r).2
      = ((b.renderings r).filterMap Rendering.table?, (b.build r).2) := by
  obtain ⟨blocks, hblocks, -⟩ := exists_rendered_of_build h
  exact describeAll_of_forall₂ (hblocks.describes (.refl _))

theorem shows_of_build (h : (b.build r).1 = .ok text) :
    b.Shows r (b.describeTables (b.build r).2).1 text := by
  obtain ⟨blocks, hblocks, htext⟩ := exists_rendered_of_build h
  obtain ⟨hrequests, hmap⟩ := hblocks.map_renderings
  refine ⟨hrequests, htext.trans (congrArg _ hmap.symm), ?_⟩
  rw [describeTables_of_build h]
  exact hblocks.creates

theorem exists_build_iff :
    (∃ text, (b.build r).1 = .ok text)
      ↔ Request.Clean b.dialect r.catalog r.models b.queue := by
  rw [← Request.exists_rendered_iff]
  constructor
  · rintro ⟨text, h⟩
    obtain ⟨blocks, hblocks, -⟩ := exists_rendered_of_build h
    exact ⟨blocks, _, hblocks⟩
  · rintro ⟨blocks, r', h⟩
    exact ⟨_, congrArg Prod.fst (Request.renderAll_ok_iff.2 ⟨blocks, h, rfl⟩)⟩

/-- Describing first does not change whether a queue builds. -/
theorem exists_build_describeTables_iff (b : Builder) (r : Resolver) :
    (∃ text, (b.build (b.describeTables r).2).1 = .ok text) ↔
      ∃ text, (b.build r).1 = .ok text := by
  have hmodels : (b.describeTables r).2.models = r.models :=
    models_describeAll b.dialect.defaultSchema r _
  rw [exists_build_iff, exists_build_iff, hmodels, (extends_describeTables b r).catalog]

/-- Describing agrees with building, whatever the resolver holds.  A queue builds after it is
described just when it builds without; the tables described right before a build that succeeds are
those that its text creates, and so are the tables described right after. -/
theorem describeTables_agrees_build (b : Builder) (r : Resolver) :
    ((∃ text, (b.build (b.describeTables r).2).1 = .ok text) ↔
      ∃ text, (b.build r).1 = .ok text) ∧
    (∀ text, (b.build (b.describeTables r).2).1 = .ok text →
      b.Shows (b.describeTables r).2 (b.describeTables r).1 text) ∧
    ∀ text, (b.build r).1 = .ok text → b.Shows r (b.describeTables (b.build r).2).1 text := by
  refine ⟨exists_build_describeTables_iff b r, fun text h => ?_, fun text h => shows_of_build h⟩
  have hkept : (b.describeTables r).2.Extends (b.build (b.describeTables r).2).2 :=
    Request.extends_renderAll b.dialect _ b.queue
  have hagain : b.describeTables (b.build (b.describeTables r).2).2
      = ((b.describeTables r).1, (b.build (b.describeTables r).2).2) :=
    lasting_describeTables b r _ hkept
  have hshows := shows_of_build h
  rwa [hagain] at hshows

end Builder
end SchemaDdl
