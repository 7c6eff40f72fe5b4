import SchemaDdl.Proofs.Request.Turns
import SchemaDdl.Proofs.Workspace.Naming

/-!
# References and tables agree

Every block of a run and every foreign key that finds its target read their names from caches
that only grow, so the resolver that a run leaves is a ledger of all of them.  Looked up in it, the
table that a foreign key refers to is the one that every block about its target names, and
the column is the one that the target's column lists show, before the reference or after it
(`Workspace.references_agree`).
-/

namespace SchemaDdl

theorem Model.exists_findMember {m : Model} {member : Member} (h : member ∈ m.members) :
    ∃ found, m.findMember member.ident = some found :=
  Option.isSome_iff_exists.1 (List.find?_isSome.2 ⟨member, h, by simp⟩)

/-! ## Renderings -/

/-- A request of a queue that rendered to a block, with the resolvers before it and after. -/
structure Rendering where
  dialect : Dialect
  before : Resolver
  request : Request
  block : String
  after : Resolver

namespace Rendering

/-- The table that the block creates. -/
def table? (x : Rendering) : Option Table := x.request.table? x.dialect x.before

/-- The turns of the block's foreign keys. -/
def turns (x : Rendering) : List Turn := x.request.turns x.dialect x.before

/-- The rendering took place, and the resolver has all that it left. -/
structure Kept (s : Resolver) (x : Rendering) : Prop where
  render : x.request.render x.dialect x.before = (.ok x.block, x.after)
  keeps : x.after.Extends s

theorem Kept.mono {s s' : Resolver} {x : Rendering} (h : x.Kept s) (hs : s.Extends s') :
    x.Kept s' :=
  ⟨h.render, h.keeps.trans hs⟩

end Rendering

namespace Request

variable {d : Dialect} {r r' s : Resolver} {request : Request} {queue : List Request} {m : Model}
  {block : String} {blocks : List String}

/-- What a queue renders, up to its first failure. -/
def renderings (d : Dialect) (r : Resolver) : List Request → List Rendering
  | [] => []
  | request :: rest =>
    match request.render d r with
    | (.error _, _) => []
    | (.ok block, r') => ⟨d, r, request, block, r'⟩ :: renderings d r' rest

/-- A queue that renders has one rendering for each request. -/
theorem Rendered.map_renderings (h : Rendered d r queue blocks r') :
    (renderings d r queue).map Rendering.request = queue ∧
      (renderings d r queue).map Rendering.block = blocks := by
  induction h with
  | nil => exact ⟨rfl, rfl⟩
  | cons hhead _ ih =>
    simp only [renderings, hhead, List.map_cons, ih.1, ih.2, and_self]

theorem kept_of_mem_renderings {x : Rendering} (h : x ∈ renderings d r queue) :
    x.Kept (renderAll d r queue).2 := by
  induction queue generalizing r with
  | nil => cases h
  | cons request rest ih =>
    rcases hhead : request.render d r with ⟨e | block, r₁⟩
    · simp only [renderings, hhead] at h
      cases h
    · simp only [renderings, hhead] at h
      rw [renderAll_cons_ok hhead]
      rcases List.mem_cons.1 h with rfl | h
      · exact ⟨hhead, extends_renderAll d r₁ rest⟩
      · exact ih h

/-- A block names the table that its model has on every resolver that keeps what it left. -/
theorem names_of_keeps (hmodel : request.model? = some m)
    (h : request.render d r = (.ok block, r')) (hs : r'.Extends s) :
    request.Names d (Table.resolve s m d.defaultSchema).1 block := by
  have hresolve : ∀ r₀, (Table.resolve r₀ m d.defaultSchema).2.Extends s →
      Table.resolve s m d.defaultSchema = ((Table.resolve r₀ m d.defaultSchema).1, s) :=
    fun r₀ => Resolver.lasting_resolve m d.defaultSchema r₀ s
  have hblock := block_of_render hmodel h
  cases request with
  | createTable m ifNotExists =>
    cases hmodel
    obtain ⟨lines, -, -, rfl⟩ := createTable_of_render h
    have hkept : (describeClaimed d r m).2.Extends s :=
      (Resolver.extends_resolveAll _ _).trans hs
    rw [hresolve (Column.extract (r.register m).2 m).2 hkept]
    exact names_createTable (congrArg Prod.fst hblock)
  | dropTable m flag | truncateTable m =>
    cases hmodel
    cases hblock
    rw [hresolve (r.register m).2 hs]
    rfl
  | _ => cases hmodel

/-- Where a table name is cached under the identity of its model, the block names that table. -/
theorem names_of_get? (hmodel : request.model? = some m)
    (h : request.render d r = (.ok block, r')) (hs : r'.Extends s) {t : TableName}
    (hget : s.tables.get? m.id = some t) :
    request.Names d (t.table m.id d.defaultSchema) block := by
  have hnames := names_of_keeps hmodel h hs
  rwa [Table.resolve_eq, Resolver.resolveTable_fst, hget, Option.getD_some] at hnames

end Request

/-! ## Runs -/

/-- What a step renders: the blocks of a build. -/
def Step.renderings (w : Workspace) : Step → List Rendering
  | .build name => Request.renderings (w.builder name).dialect w.resolver (w.builder name).queue
  | _ => []

/-- The tables that a step lists with their columns: those that its blocks create, or those that
it describes. -/
def Step.tables (w : Workspace) : Step → List Table
  | .describe name => ((w.builder name).describeTables w.resolver).1
  | s => (s.renderings w).filterMap Rendering.table?

theorem Builder.extends_describeAll (r : Resolver) (models : List Model) (defaultSchema : String) :
    r.Extends (describeAll defaultSchema r models).2 := by
  induction models generalizing r with
  | nil => exact .refl r
  | cons m rest ih => exact (Resolver.extends_describe r m defaultSchema).trans (ih _)

theorem Builder.lists_of_mem_describeAll {r : Resolver} {models : List Model}
    {defaultSchema : String} {t : Table} (h : t ∈ (describeAll defaultSchema r models).1) :
    t.Lists (describeAll defaultSchema r models).2 := by
  induction models generalizing r with
  | nil => cases h
  | cons m rest ih =>
    rcases List.mem_cons.1 h with rfl | h
    · exact (Table.lists_describe r m defaultSchema).mono (extends_describeAll ..)
    · exact ih h

namespace Workspace

variable {w : Workspace} {steps : List Step}

/-- All that the builds of a run render. -/
def renderings (w : Workspace) : List Step → List Rendering
  | [] => []
  | s :: rest => s.renderings w ++ (w.step s).2.renderings rest

/-- All tables that a run lists with their columns. -/
def tables (w : Workspace) : List Step → List Table
  | [] => []
  | s :: rest => s.tables w ++ (w.step s).2.tables rest

theorem resolver_build (w : Workspace) (name : String) :
    (w.step (.build name)).2.resolver = ((w.builder name).build w.resolver).2 := by
  rw [step]
  rcases (w.builder name).build w.resolver with ⟨_ | _, _⟩ <;> rfl

theorem kept_of_mem_step {s : Step} {x : Rendering} (h : x ∈ s.renderings w) :
    x.Kept (w.step s).2.resolver := by
  cases s with
  | build name =>
    rw [resolver_build]
    exact Request.kept_of_mem_renderings h
  | _ => cases h

theorem lists_of_mem_step {s : Step} {t : Table} (h : t ∈ s.tables w) :
    t.Lists (w.step s).2.resolver := by
  cases s with
  | describe name => exact Builder.lists_of_mem_describeAll h
  | build name =>
    obtain ⟨x, hx, ht⟩ := List.mem_filterMap.1 h
    have hkept := kept_of_mem_step hx
    exact (Request.lists_of_render hkept.render ht).mono hkept.keeps
  | _ => cases h

/-- The resolver after a run has all that its blocks left. -/
theorem kept_of_mem_renderings (hw : w.resolver.Keyed) {x : Rendering}
    (h : x ∈ w.renderings steps) : x.Kept (w.run steps).2.resolver := by
  induction steps generalizing w with
  | nil => cases h
  | cons s rest ih =>
    have hnext := keyed_step hw s
    rw [renderings] at h
    rcases List.mem_append.1 h with h | h
    · exact (kept_of_mem_step h).mono (extends_run hnext rest)
    · exact ih hnext h

/-- The resolver after a run has all column names that the run lists. -/
theorem lists_of_mem_tables (hw : w.resolver.Keyed) {t : Table} (h : t ∈ w.tables steps) :
    t.Lists (w.run steps).2.resolver := by
  induction steps generalizing w with
  | nil => cases h
  | cons s rest ih =>
    have hnext := keyed_step hw s
    rw [tables] at h
    rcases List.mem_append.1 h with h | h
    · exact (lists_of_mem_step h).mono (extends_run hnext rest)
    · exact ih hnext h

theorem mem_renderings_of_mem_step (before : List Step) (s : Step) (after : List Step)
    {x : Rendering} (h : x ∈ s.renderings (w.run before).2) :
    x ∈ w.renderings (before ++ s :: after) := by
  induction before generalizing w with
  | nil => exact List.mem_append_left _ h
  | cons s' before ih =>
    rw [run_cons] at h
    exact List.mem_append_right _ (ih h)

/-- A build that succeeds writes its renderings, one for each request of its queue. -/
theorem build_renderings {name text : String}
    (h : ((w.builder name).build w.resolver).1 = .ok text) :
    ((Step.build name).renderings w).map Rendering.request = (w.builder name).queue ∧
      text = Request.script (((Step.build name).renderings w).map Rendering.block) := by
  obtain ⟨blocks, hblocks, rfl⟩ := Request.renderAll_ok_iff.1 (Prod.ext h rfl)
  obtain ⟨hqueue, hmap⟩ := hblocks.map_renderings
  exact ⟨hqueue, by rw [← hmap]; rfl⟩

/-! ## Agreement -/

/-- What a turn writes for its target agrees with all of a run. -/
structure Agrees (w : Workspace) (steps : List Step) (turn : Turn) (target : Model) : Prop where
  /-- Every block about the identity of the target names the table that is referred to, with the
  default schema of its own dialect. -/
  table : ∀ x ∈ w.renderings steps, ∀ m, x.request.model? = some m → m.id = target.id →
    x.request.Names x.dialect (turn.target.table.table target.id x.dialect.defaultSchema) x.block
  /-- Every table that is listed under the identity shows a mapped member as the column that is
  referred to. -/
  listed : ∀ member ∈ target.mappedMembers, member.ident = turn.key.member →
    ∀ t ∈ w.tables steps, t.model = target.id → ∀ c ∈ t.columns, c.member = turn.key.member →
      c.name = turn.target.column
  /-- So do the columns of the target itself from the turn on, and the member is among them. -/
  extracted : ∀ member ∈ target.mappedMembers, member.ident = turn.key.member →
    ∀ s, turn.next.Extends s →
      (∃ c ∈ (Column.extract s target).1, c.member = turn.key.member) ∧
        ∀ c ∈ (Column.extract s target).1, c.member = turn.key.member → c.name = turn.target.column

theorem agrees_of_next_extends (hw : w.resolver.Keyed) {turn : Turn} {target : Model}
    (hkept : turn.next.Extends (w.run steps).2.resolver) (hfound : turn.found = some target) :
    w.Agrees steps turn target := by
  -- a reference looks its member up by identifier, a column list goes through the members: both
  -- end in the one entry for the identifier, even where an earlier member has it too
  have hcolumn : ∀ member ∈ target.mappedMembers, member.ident = turn.key.member →
      ∀ s, turn.next.Extends s →
        s.columns.get? (target.id, turn.key.member) = some turn.target.column := by
    intro member hmember hident s hs
    obtain ⟨found, hfindMember⟩ := target.exists_findMember (List.mem_filter.1 hmember).1
    rw [hident] at hfindMember
    exact Turn.columns_get? hfound hfindMember hs
  refine ⟨?_, ?_, ?_⟩
  · intro x hx m hmodel hid
    have hrendering := kept_of_mem_renderings hw hx
    have htable := Turn.tables_get? hfound hkept
    rw [← hid] at htable ⊢
    exact Request.names_of_get? hmodel hrendering.render hrendering.keeps htable
  · intro member hmember hident t ht hid c hc hcmember
    have hledger := hcolumn member hmember hident _ hkept
    have hlisted := lists_of_mem_tables hw ht c hc
    rw [hid, hcmember, hledger] at hlisted
    exact (Option.some.inj hlisted).symm
  · intro member hmember hident s hs
    obtain ⟨c, hc, hcmember⟩ := Column.exists_mem_extract s hmember
    refine ⟨⟨c, hc, hcmember.trans hident⟩, fun c hc hcmember => ?_⟩
    have hextends : s.Extends (Column.extract s target).2 := Resolver.extends_ofMembers ..
    have hledger := hcolumn member hmember hident _ (hs.trans hextends)
    have hlisted := Column.columns_get?_of_mem_extract hc
    rw [hcmember, hledger] at hlisted
    exact (Option.some.inj hlisted).symm

/-- References and tables agree.  The text of a build that succeeds in a run is that of its
renderings, one for each request of its queue.  A table block among all renderings of the run
has one foreign key statement for each column with a foreign key, written at its turn.  The turn
finds a target where its model is held before the block, is the model of the block or is known to
the catalog; and what it writes for a target that it finds agrees with every block and every
column list of the run, earlier or later. -/
theorem references_agree (catalog : Catalog) (steps : List Step) :
    (∀ before name after text, steps = before ++ .build name :: after →
      let w := ((new catalog).run before).2
      ((w.builder name).build w.resolver).1 = .ok text →
        ((Step.build name).renderings w).map Rendering.request = (w.builder name).queue ∧
        text = Request.script (((Step.build name).renderings w).map Rendering.block) ∧
        ∀ x ∈ (Step.build name).renderings w, x ∈ (new catalog).renderings steps) ∧
    ∀ x ∈ (new catalog).renderings steps, ∀ m ifNotExists,
      x.request = .createTable m ifNotExists →
        (∃ t lines, x.table? = some t ∧ Statement.columnLines x.dialect t.columns = .ok lines ∧
          x.block = Statement.tableBlock x.dialect t ifNotExists lines
            (x.turns.map fun turn => Statement.referring x.dialect t turn.column turn.target) ∧
          x.turns.map (fun turn => (turn.column, turn.key))
            = t.columns.filterMap fun c => c.foreignKey.map (c, ·)) ∧
        ∀ turn ∈ x.turns,
          (∀ held, x.before.models.get? turn.key.model.id = some held → turn.found = some held) ∧
          (turn.key.model.id = m.id ∨ turn.key.model.typed = true → turn.found.isSome) ∧
          ∀ target, turn.found = some target → (new catalog).Agrees steps turn target := by
  have hnew : (new catalog).resolver.Keyed := Resolver.keyed_new catalog
  refine ⟨?_, ?_⟩
  · rintro before name after text rfl w hbuild
    obtain ⟨hqueue, htext⟩ := build_renderings hbuild
    exact ⟨hqueue, htext, fun x hx => mem_renderings_of_mem_step before _ after hx⟩
  · intro x hx m ifNotExists hrequest
    have hkept := kept_of_mem_renderings hnew hx
    have hmodel : x.request.model? = some m := by rw [hrequest]; rfl
    refine ⟨?_, fun turn hturn => ⟨fun held => Request.found_of_held hturn hmodel, ?_, ?_⟩⟩
    · have hrender := hkept.render
      rw [hrequest] at hrender
      obtain ⟨lines, hlines, hblock, -⟩ := Request.createTable_of_render hrender
      refine ⟨(Request.describeClaimed x.dialect x.before m).1, lines, ?_, hlines, ?_, ?_⟩
      · rw [Rendering.table?, hrequest]
        rfl
      · rw [hblock, Rendering.turns, hrequest]
      · rw [Rendering.turns, hrequest]
        exact Turn.map_all _ _
    · rintro (hown | htyped)
      · exact Request.isSome_found_of_own hturn hmodel hown
      · exact Turn.isSome_found_of_typed htyped
    · intro target hfound
      refine agrees_of_next_extends hnew ?_ hfound
      exact (Request.next_extends_of_render hkept.render hturn).trans hkept.keeps

end Workspace

/-! ## A reference to a table that is dropped later -/

namespace Invoices

open Workspace

/-- The schema of the table is blank, and its column has a name of its own. -/
def customer : Model :=
  ((Model.named "Customer").withTableIn "customers" " ").withMember
    ((({ ident := "id", type := .scalar .i32 } : Member).column "number").key.required)

def invoice : Model :=
  (Model.named "Invoice").withMember
    (({ ident := "customer", type := .scalar .i32 } : Member).references "Customer" "id")

def steps : List Step :=
  [.createTable "main" (.model customer) true, .createTable "main" (.model invoice) false,
    .build "main", .clear "main", .truncateTable "main" (.model customer),
    .dropTable "main" (.model customer) true, .build "main"]

def blocks : List String :=
  ["IF OBJECT_ID(N'dbo.customers', N'U') IS NULL\nBEGIN\n"
      ++ "CREATE TABLE dbo.customers (\n    number int NOT NULL\n);\n"
      ++ "ALTER TABLE dbo.customers ADD CONSTRAINT PK_customers PRIMARY KEY (number);\nEND;",
    "CREATE TABLE dbo.Invoice (\n    customer int NULL\n);\n"
      ++ "ALTER TABLE dbo.Invoice ADD CONSTRAINT FK_Invoicecustomer_TO_customersnumber "
      ++ "FOREIGN KEY (customer) REFERENCES dbo.customers (number);",
    "TRUNCATE TABLE dbo.customers;",
    "DROP TABLE IF EXISTS dbo.customers;"]

theorem references_agree_invoices :
    ((new .ofId).renderings steps).map Rendering.block = blocks ∧
      ∀ x ∈ (new .ofId).renderings steps, x.request = .createTable invoice false →
        x.turns.length = 1 ∧ ∀ turn ∈ x.turns, turn.found = some customer ∧
          (new .ofId).Agrees steps turn customer := by
  have hheld : ∀ x ∈ (new .ofId).renderings steps, x.request = .createTable invoice false →
      x.turns.length = 1 ∧
        ∀ turn ∈ x.turns, x.before.models.get? turn.key.model.id = some customer := by
    decide +kernel
  refine ⟨by decide +kernel, fun x hx hrequest => ⟨(hheld x hx hrequest).1, fun turn hturn => ?_⟩⟩
  obtain ⟨-, hturns⟩ := (references_agree .ofId steps).2 x hx invoice false hrequest
  obtain ⟨hfound, -, hagrees⟩ := hturns turn hturn
  have hcustomer := hfound customer ((hheld x hx hrequest).2 turn hturn)
  exact ⟨hcustomer, hagrees customer hcustomer⟩

end Invoices
end SchemaDdl
