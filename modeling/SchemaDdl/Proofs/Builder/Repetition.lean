import Mathlib.Data.List.Forall2
import SchemaDdl.Proofs.Request.Plan
import SchemaDdl.Proofs.Workspace.Growth

/-!
# Building again

A build that fails fails again in the same way.  After one that succeeds every request has a plan
that lasts, its foreign keys add no definition any more, and so all later builds agree, whatever
dialects are built under in between.  They agree with the first one as far as references go just
when each reference that it wrote resolves afterwards to what it wrote (`Steady`); only
references by name to models that were not known yet may fail to.
-/

namespace SchemaDdl

namespace Request

open Resolver (Follows)

variable {d : Dialect} {r r' s : Resolver} {request : Request} {queue : List Request} {e : DdlError}
  {block text : String} {p : Plan}

/-! ## Renderings extend -/

theorem extends_finish (x : Except DdlError Plan × Resolver) : x.2.Extends (finish x).2 := by
  obtain ⟨result, r⟩ := x
  cases result with
  | error e => exact .refl r
  | ok p => exact Resolver.extends_resolveAll r p.keys

theorem extends_block (d : Dialect) (r : Resolver) (request : Request) :
    r.Extends (request.block d r).2 := by
  rw [block_eq]
  exact (extends_planBlock d r request).trans (extends_finish _)

theorem extends_plan (d : Dialect) (r : Resolver) (request : Request) :
    r.Extends (request.plan d r).2 := by
  unfold plan
  cases request.model? with
  | none => exact extends_planBlock d r request
  | some m =>
    have hclaim : r.Extends (r.claim m).2 := by
      rw [Resolver.claim_eq]
      exact Resolver.extends_add r (.model m)
    simp only
    cases (r.claim m).1 with
    | error e => exact hclaim
    | ok held => exact hclaim.trans (extends_planBlock d _ request)

theorem extends_render (d : Dialect) (r : Resolver) (request : Request) :
    r.Extends (request.render d r).2 := by
  rw [render_eq]
  exact (extends_plan d r request).trans (extends_finish _)

theorem extends_renderAll (d : Dialect) (r : Resolver) (queue : List Request) :
    r.Extends (renderAll d r queue).2 := by
  induction queue generalizing r with
  | nil => exact .refl r
  | cons request rest ih =>
    have hhead := extends_render d r request
    rcases hres : request.render d r with ⟨e | block, r₁⟩ <;> rw [hres] at hhead
    · rw [renderAll_cons_error hres]
      exact hhead
    · rw [renderAll_cons_ok hres]
      exact hhead.trans (ih r₁)

theorem extends_rendered {blocks : List String} (h : Rendered d r queue blocks r') :
    r.Extends r' := by
  have hextends := extends_renderAll d r queue
  rwa [renderAll_ok_iff.2 ⟨blocks, h, rfl⟩] at hextends

/-! ## Requests rendered again -/

theorem plan_of_render_error (h : request.render d r = (.error e, r')) :
    request.plan d r = (.error e, r') := by
  rw [render_eq] at h
  rcases hplan : request.plan d r with ⟨e | p, r₁⟩ <;> rw [hplan] at h <;> cases h
  rfl

theorem plan_of_render_ok (h : request.render d r = (.ok block, r')) :
    ∃ p r₁, request.plan d r = (.ok p, r₁) ∧ block = p.text (r₁.resolveAll p.keys).1 ∧
      r' = (r₁.resolveAll p.keys).2 := by
  rw [render_eq] at h
  rcases hplan : request.plan d r with ⟨e | p, r₁⟩ <;> rw [hplan] at h <;> cases h
  exact ⟨p, r₁, rfl, rfl, rfl⟩

/-- The plan of a request holds on everything that extends what planning it left. -/
theorem plan_again {result : Except DdlError Plan} (h : request.plan d r = (result, r'))
    (hs : r'.Extends s) : request.plan d s = (result, s) := by
  have hlast : (request.plan d r).2.Extends s → request.plan d s = ((request.plan d r).1, s) :=
    lasting_plan d request r s
  rw [h] at hlast
  exact hlast hs

theorem render_error_again (h : request.render d r = (.error e, r')) (hs : r'.Extends s) :
    request.render d s = (.error e, s) := by
  rw [render_eq, plan_again (plan_of_render_error h) hs]
  rfl

theorem render_ok_again (h : request.render d r = (.ok block, r')) (hs : r'.Extends s) :
    ∃ block' s', request.render d s = (.ok block', s') := by
  obtain ⟨p, r₁, hplan, -, rfl⟩ := plan_of_render_ok h
  rw [render_eq, plan_again hplan ((Resolver.extends_resolveAll r₁ p.keys).trans hs)]
  exact ⟨_, _, rfl⟩

/-- A queue that fails fails again in the same way. -/
theorem renderAll_error_again (h : renderAll d r queue = (.error e, r')) (hs : r'.Extends s) :
    (renderAll d s queue).1 = .error e := by
  induction queue generalizing r s with
  | nil => cases h
  | cons request rest ih =>
    rcases hhead : request.render d r with ⟨e | block, r₁⟩
    · rw [renderAll_cons_error hhead] at h
      cases h
      rw [renderAll_cons_error (render_error_again hhead hs)]
    · rw [renderAll_cons_ok hhead] at h
      rcases htail : renderAll d r₁ rest with ⟨e | text, r₂⟩ <;> rw [htail] at h <;> cases h
      have hkeep : r₁.Extends s := by
        have := extends_renderAll d r₁ rest
        rw [htail] at this
        exact this.trans hs
      obtain ⟨block', s', hagain⟩ := render_ok_again hhead hkeep
      have hnext : s.Extends s' := by
        have := extends_render d s request
        rwa [hagain] at this
      rw [renderAll_cons_ok hagain, ih htail (hs.trans hnext)]
      rfl

/-! ## What references resolve to in a queue -/

/-- The foreign keys that rendering a queue resolves, in turn, with what each resolves to. -/
def resolutions (d : Dialect) (r : Resolver) : List Request → List (ForeignKey × ReferencedColumn)
  | [] => []
  | request :: rest =>
    match request.plan d r with
    | (.error _, _) => []
    | (.ok p, r) =>
      p.keys.zip (r.resolveAll p.keys).1 ++ resolutions d (r.resolveAll p.keys).2 rest

theorem resolutions_cons {r₁ : Resolver} (hplan : request.plan d r = (.ok p, r₁)) :
    resolutions d r (request :: queue) =
      p.keys.zip (r₁.resolveAll p.keys).1 ++ resolutions d (r₁.resolveAll p.keys).2 queue := by
  rw [resolutions, hplan]

theorem exists_of_mem_zip_resolveAll {keys : List ForeignKey} {x : ForeignKey × ReferencedColumn}
    (hx : x ∈ keys.zip (r.resolveAll keys).1) :
    ∃ s : Resolver, x.2 = (s.resolveReference x.1).1 ∧
      (s.resolveReference x.1).2.Extends (r.resolveAll keys).2 := by
  induction keys generalizing r with
  | nil => cases hx
  | cons key rest ih =>
    rw [Resolver.resolveAll_cons, List.zip_cons_cons] at hx
    rcases List.mem_cons.1 hx with rfl | hx
    · exact ⟨r, rfl, Resolver.extends_resolveAll _ rest⟩
    · exact ih hx

/-- Each resolution of a queue was found on a resolver whose entries the rendering keeps. -/
theorem exists_of_mem_resolutions {blocks : List String} {x : ForeignKey × ReferencedColumn}
    (h : Rendered d r queue blocks r') (hx : x ∈ resolutions d r queue) :
    ∃ s : Resolver, x.2 = (s.resolveReference x.1).1 ∧ (s.resolveReference x.1).2.Extends r' := by
  induction h with
  | nil => cases hx
  | @cons r r₁ r₂ request rest block blocks hhead htail ih =>
    obtain ⟨p, r₀, hplan, -, rfl⟩ := plan_of_render_ok hhead
    rw [resolutions_cons hplan] at hx
    rcases List.mem_append.1 hx with hx | hx
    · obtain ⟨s, hs, hkeep⟩ := exists_of_mem_zip_resolveAll hx
      exact ⟨s, hs, hkeep.trans (extends_rendered htail)⟩
    · exact ih hx

/-! ## Queues rendered again -/

/-- What a reference resolves to on a resolver, as a function of the foreign key. -/
def answer (r : Resolver) (key : ForeignKey) : ReferencedColumn :=
  (r.resolveReference key).1

/-- The text of some plans when all foreign keys have the given targets. -/
def fill (plans : List Plan) (target : ForeignKey → ReferencedColumn) : String :=
  script (plans.map fun p => p.text (p.keys.map target))

/-- The plans of a queue, which hold on everything that keeps what the resolver holds, and whose
foreign keys add no definition. -/
structure Planned (d : Dialect) (r : Resolver) (queue : List Request) (plans : List Plan) : Prop where
  plan : List.Forall₂ (fun request p => ∀ s, r.Extends s → request.plan d s = (.ok p, s)) queue
    plans
  knows : ∀ p ∈ plans, ∀ key ∈ p.keys, r.Knows key.model

/-- A request that renders has a plan that holds on everything that extends what it leaves. -/
theorem exists_plan_of_render (h : request.render d r = (.ok block, r')) :
    ∃ p r₁, request.plan d r = (.ok p, r₁) ∧ block = p.text (r₁.resolveAll p.keys).1 ∧
      r' = (r₁.resolveAll p.keys).2 ∧ ∀ s, r'.Extends s → request.plan d s = (.ok p, s) := by
  obtain ⟨p, r₁, hplan, hblock, rfl⟩ := plan_of_render_ok h
  have hkeep : r₁.Extends (r₁.resolveAll p.keys).2 := Resolver.extends_resolveAll r₁ p.keys
  exact ⟨p, r₁, hplan, hblock, rfl, fun s hs => plan_again hplan (hkeep.trans hs)⟩

/-- The text of a plan depends on what is written for the targets only. -/
theorem text_zip_eq {s : Resolver} (hplan : (request.plan d r).1 = .ok p)
    {target : ForeignKey → ReferencedColumn}
    (h : ∀ x ∈ p.keys.zip (s.resolveAll p.keys).1,
      (target x.1).within d.defaultSchema = x.2.within d.defaultSchema) :
    p.text (s.resolveAll p.keys).1 = p.text (p.keys.map target) := by
  have hlength : (s.resolveAll p.keys).1.length = p.keys.length := Resolver.length_resolveAll s p.keys
  have hfst : (p.keys.zip (s.resolveAll p.keys).1).map Prod.fst = p.keys :=
    List.map_fst_zip (Nat.le_of_eq hlength.symm)
  have hsnd : (p.keys.zip (s.resolveAll p.keys).1).map Prod.snd = (s.resolveAll p.keys).1 :=
    List.map_snd_zip (Nat.le_of_eq hlength)
  have hwritten : (p.keys.map target).map (·.within d.defaultSchema)
      = (s.resolveAll p.keys).1.map (·.within d.defaultSchema) := by
    conv_lhs => rw [← hfst]
    conv_rhs => rw [← hsnd]
    simp only [List.map_map]
    exact List.map_congr_left h
  rw [← plan_text hplan, ← hwritten, plan_text hplan]

/-- A queue that renders has plans that last.  Its resolutions are of the planned foreign keys,
and its text is that of the plans for any targets that are written as the resolutions are. -/
theorem exists_plans {blocks : List String} (h : Rendered d r queue blocks r') :
    ∃ plans : List Plan,
      List.Forall₂ (fun request p => ∀ s, r'.Extends s → request.plan d s = (.ok p, s)) queue
        plans ∧
      (resolutions d r queue).map Prod.fst = plans.flatMap Plan.keys ∧
      ∀ target : ForeignKey → ReferencedColumn,
        (∀ x ∈ resolutions d r queue,
          (target x.1).within d.defaultSchema = x.2.within d.defaultSchema) →
        script blocks = fill plans target := by
  induction h with
  | nil => exact ⟨[], .nil, rfl, fun _ _ => rfl⟩
  | @cons r r₁ r₂ request rest block blocks hhead htail ih =>
    obtain ⟨plans, hplans, hkeys, htext⟩ := ih
    obtain ⟨p, r₀, hplan, rfl, rfl, hlast⟩ := exists_plan_of_render hhead
    refine ⟨p :: plans, .cons (fun s hs => hlast s ((extends_rendered htail).trans hs)) hplans, ?_, ?_⟩
    · rw [resolutions_cons hplan, List.map_append, hkeys, List.flatMap_cons,
        List.map_fst_zip (Nat.le_of_eq (Resolver.length_resolveAll r₀ p.keys).symm)]
    · intro target htarget
      rw [resolutions_cons hplan] at htarget
      have hok : (request.plan d r).1 = .ok p := by rw [hplan]
      have hblock := text_zip_eq hok fun x hx => htarget x (List.mem_append_left _ hx)
      have hrest := htext target fun x hx => htarget x (List.mem_append_right _ hx)
      rw [fill, List.map_cons, ← hblock]
      change _ ++ "\n" ++ script blocks = _ ++ "\n" ++ fill plans target
      rw [hrest]

/-- Plans whose foreign keys were resolved by the rendering are those of a planned queue. -/
theorem Rendered.planned {blocks : List String} {plans : List Plan}
    (h : Rendered d r queue blocks r')
    (hplan : List.Forall₂ (fun request p => ∀ s, r'.Extends s → request.plan d s = (.ok p, s))
      queue plans)
    (hkeys : (resolutions d r queue).map Prod.fst = plans.flatMap Plan.keys) :
    Planned d r' queue plans := by
  refine ⟨hplan, fun p hp key hkey => ?_⟩
  have hmem : key ∈ (resolutions d r queue).map Prod.fst := by
    rw [hkeys]
    exact List.mem_flatMap.2 ⟨p, hp, hkey⟩
  obtain ⟨x, hx, rfl⟩ := List.mem_map.1 hmem
  obtain ⟨s, -, hkeep⟩ := exists_of_mem_resolutions h hx
  exact Resolver.knows_of_extends ((Resolver.lookup_extends_resolveReference s x.1).trans hkeep)

/-- A planned queue renders on every resolver that follows, to the text that it has there. -/
theorem Planned.renderAll {plans : List Plan} (h : Planned d r queue plans) (hr : r.Keyed)
    (hs : r.Follows s) :
    (renderAll d s queue).1 = .ok (fill plans (answer r)) ∧
      resolutions d s queue = (plans.flatMap Plan.keys).map fun key => (key, answer r key) := by
  obtain ⟨hplan, hknows⟩ := h
  induction hplan generalizing s with
  | nil => exact ⟨rfl, rfl⟩
  | @cons request p rest plans hhead _ ih =>
    have hplan := hhead s hs.keeps
    obtain ⟨htargets, hnext⟩ := hs.resolveAll hr (hknows p List.mem_cons_self)
    obtain ⟨htext, hrest⟩ := ih hnext fun p hp => hknows p (List.mem_cons_of_mem _ hp)
    constructor
    · have hrender : request.render d s
          = (.ok (p.text (p.keys.map (answer r))), (s.resolveAll p.keys).2) := by
        rw [render_eq, hplan, finish, htargets]
        rfl
      rw [renderAll_cons_ok hrender, htext]
      rfl
    · rw [resolutions_cons hplan, hrest, htargets, List.flatMap_cons, List.map_append]
      congr 1
      exact List.map_prod_left_eq_zip.symm

/-- Rendering a planned queue in any dialect leads to a resolver that follows. -/
theorem Planned.follows {plans : List Plan} (h : Planned d r queue plans) (hr : r.Keyed)
    (hs : r.Follows s) (d' : Dialect) : r.Follows (Request.renderAll d' s queue).2 := by
  obtain ⟨hplan, hknows⟩ := h
  induction hplan generalizing s with
  | nil => exact hs
  | @cons request p rest plans hhead _ ih =>
    have hplan := hhead s hs.keeps
    have hstart : (request.plan d' s).2 = s := by
      rw [plan_snd d' d, hplan]
    rcases hplan' : request.plan d' s with ⟨e | p', s₁⟩ <;> rw [hplan'] at hstart <;> subst hstart
    · have hrender : request.render d' s₁ = (.error e, s₁) := by
        rw [render_eq, hplan', finish]
      rw [renderAll_cons_error hrender]
      exact hs
    · have hkeys : p'.keys = p.keys := by
        have hok : (request.plan d s₁).1 = .ok p := by rw [hplan]
        have hok' : (request.plan d' s₁).1 = .ok p' := by rw [hplan']
        exact plan_keys hok hok'
      have hrender : request.render d' s₁
          = (.ok (p'.text (s₁.resolveAll p.keys).1), (s₁.resolveAll p.keys).2) := by
        rw [render_eq, hplan', finish, hkeys]
      obtain ⟨-, hnext⟩ := hs.resolveAll hr (hknows p List.mem_cons_self)
      rw [renderAll_cons_ok hrender]
      exact ih hnext fun p hp => hknows p (List.mem_cons_of_mem _ hp)

end Request

/-! ## Builders -/

namespace Builder

open Resolver (Follows)

/-- The resolver after building a queue under some dialects in turn. -/
def rebuild (b : Builder) (r : Resolver) : List Dialect → Resolver
  | [] => r
  | d :: ds => b.rebuild ((b.withDialect d).build r).2 ds

/-- The foreign keys that building a queue resolves, in turn, with what each resolves to. -/
def resolutions (b : Builder) (r : Resolver) : List (ForeignKey × ReferencedColumn) :=
  Request.resolutions b.dialect r b.queue

/-- What the foreign keys of a queue refer to in the text of a build. -/
def references (b : Builder) (r : Resolver) : List ReferencedColumn :=
  (b.resolutions r).map fun x => x.2.within b.dialect.defaultSchema

/-- What a build writes for each foreign key is what the foreign key resolves to after it. -/
def Steady (b : Builder) (r : Resolver) : Prop :=
  ∀ x ∈ b.resolutions r,
    (Request.answer (b.build r).2 x.1).within b.dialect.defaultSchema
      = x.2.within b.dialect.defaultSchema

variable {b : Builder} {r s : Resolver} {plans : List Request.Plan}

theorem extends_rebuild (b : Builder) (r : Resolver) (ds : List Dialect) :
    r.Extends (b.rebuild r ds) := by
  induction ds generalizing r with
  | nil => exact .refl r
  | cons d rest ih => exact (Request.extends_renderAll d r b.queue).trans (ih _)

theorem follows_rebuild (h : Request.Planned b.dialect r b.queue plans) (hr : r.Keyed)
    (hs : r.Follows s) (ds : List Dialect) : r.Follows (b.rebuild s ds) := by
  induction ds generalizing s with
  | nil => exact hs
  | cons d rest ih => exact ih (h.follows hr hs d)

theorem exists_rendered_of_build {text : String} (h : (b.build r).1 = .ok text) :
    ∃ blocks, Request.Rendered b.dialect r b.queue blocks (b.build r).2 ∧
      text = Request.script blocks :=
  Request.renderAll_ok_iff.1 (Prod.ext h rfl)

theorem build_rebuild_error {e : DdlError} (h : (b.build r).1 = .error e) (ds : List Dialect) :
    (b.build (b.rebuild (b.build r).2 ds)).1 = .error e :=
  Request.renderAll_error_again (Prod.ext h rfl) (extends_rebuild b (b.build r).2 ds)

/-- After a build that succeeds all later builds give one text, and its references are those of
the first build just when they are steady. -/
theorem build_rebuild_ok {text : String} (hr : r.Keyed) (h : (b.build r).1 = .ok text) :
    ∃ again, ∀ ds, (b.build (b.rebuild (b.build r).2 ds)).1 = .ok again ∧
      (b.references (b.rebuild (b.build r).2 ds) = b.references r ↔ b.Steady r) ∧
      (b.Steady r → again = text) := by
  have hkeyed : (b.build r).2.Keyed :=
    (Request.grows_renderAll hr fun q _ => Request.within_true _ q).keyed hr
  obtain ⟨blocks, hblocks, rfl⟩ := exists_rendered_of_build h
  obtain ⟨plans, hplan, hkeys, hfill⟩ := Request.exists_plans hblocks
  have hplanned := hblocks.planned hplan hkeys
  refine ⟨Request.fill plans (Request.answer (b.build r).2), fun ds => ?_⟩
  have hfollows := follows_rebuild hplanned hkeyed (.refl _) ds
  obtain ⟨hagain, hresolutions⟩ := hplanned.renderAll hkeyed hfollows
  refine ⟨hagain, ?_, fun hsteady => (hfill _ hsteady).symm⟩
  have hlater : b.references (b.rebuild (b.build r).2 ds)
      = (b.resolutions r).map fun x =>
          (Request.answer (b.build r).2 x.1).within b.dialect.defaultSchema := by
    rw [references, resolutions, hresolutions, ← hkeys, List.map_map, List.map_map]
    rfl
  rw [hlater, references, List.map_inj_left]
  rfl

/-- What a build resolved stays, unless it was resolved by name to a model that was not known, or
by an entity that describes itself under another identity. -/
theorem answer_after_build {text : String} (h : (b.build r).1 = .ok text)
    {x : ForeignKey × ReferencedColumn} (hx : x ∈ b.resolutions r) :
    Request.answer (b.build r).2 x.1 = x.2 ∨
      x.1.model.typed = false ∧ x.2 = x.1.asWritten ∨
      x.1.model.typed = true ∧ (r.catalog x.1.model.id).id ≠ x.1.model.id := by
  obtain ⟨blocks, hblocks, rfl⟩ := exists_rendered_of_build h
  obtain ⟨s, hs, hkeep⟩ := Request.exists_of_mem_resolutions hblocks hx
  have hcatalog : s.catalog = r.catalog :=
    ((Resolver.extends_resolveReference s x.1).trans hkeep).catalog.symm.trans
      (Request.extends_renderAll b.dialect r b.queue).catalog
  rw [hs, ← hcatalog]
  exact Resolver.resolveReference_again hkeep

/-- A build that fails fails again.  After one that succeeds all later builds give one text; its
references are those of the first build just when they are steady, and then so is the text.  A
reference that is not steady is one by name to a model that was not known, or one to an entity
that describes itself under another identity. -/
theorem build_after_builds (catalog : Catalog) (steps : List Step) (b : Builder) :
    let r := ((Workspace.new catalog).run steps).2.resolver
    let r₁ := (b.build r).2
    (∀ e, (b.build r).1 = .error e → ∀ ds, (b.build (b.rebuild r₁ ds)).1 = .error e) ∧
      ∀ text, (b.build r).1 = .ok text →
        (∃ again, ∀ ds, (b.build (b.rebuild r₁ ds)).1 = .ok again ∧
          (b.references (b.rebuild r₁ ds) = b.references r ↔ b.Steady r) ∧
          (b.Steady r → again = text)) ∧
        ∀ x ∈ b.resolutions r, Request.answer r₁ x.1 = x.2 ∨
          x.1.model.typed = false ∧ x.2 = x.1.asWritten ∨
          x.1.model.typed = true ∧ (catalog x.1.model.id).id ≠ x.1.model.id := by
  intro r r₁
  have hnew := Resolver.keyed_new catalog
  have hkeyed : r.Keyed := Workspace.keyed_run hnew steps
  have hcatalog : r.catalog = catalog := (Workspace.extends_run hnew steps).catalog
  refine ⟨fun e he => build_rebuild_error he, fun text htext => ?_⟩
  refine ⟨build_rebuild_ok hkeyed htext, fun x hx => ?_⟩
  rw [← hcatalog]
  exact answer_after_build htext hx

end Builder

/-! ## A reference by name to a later table -/

namespace Forward

open Workspace

def order : Model :=
  ((Model.named "Order").withTable "orders").withMember
    (({ ident := "customer", type := .scalar .i32 } : Member).references "Customer" "id")

def customer : Model :=
  ((Model.named "Customer").withTable "customers").withMember
    ({ ident := "id", type := .scalar .i32 } : Member).key

def steps : List Step :=
  [.createTable "main" (.model order) false, .createTable "main" (.model customer) false]

def after : Workspace := ((new .ofId).run steps).2

theorem build_after :
    ((after.builder "main").build after.resolver).1 = .ok
      ("CREATE TABLE dbo.orders (\n    customer int NULL\n);\n"
        ++ "ALTER TABLE dbo.orders ADD CONSTRAINT FK_orderscustomer_TO_Customerid "
        ++ "FOREIGN KEY (customer) REFERENCES dbo.Customer (id);\n"
        ++ "CREATE TABLE dbo.customers (\n    id int NULL\n);\n"
        ++ "ALTER TABLE dbo.customers ADD CONSTRAINT PK_customers PRIMARY KEY (id);\n") := by
  decide +kernel

theorem build_after_again :
    ((after.builder "main").build
        ((after.builder "main").build after.resolver).2).1 = .ok
      ("CREATE TABLE dbo.orders (\n    customer int NULL\n);\n"
        ++ "ALTER TABLE dbo.orders ADD CONSTRAINT FK_orderscustomer_TO_customersid "
        ++ "FOREIGN KEY (customer) REFERENCES dbo.customers (id);\n"
        ++ "CREATE TABLE dbo.customers (\n    id int NULL\n);\n"
        ++ "ALTER TABLE dbo.customers ADD CONSTRAINT PK_customers PRIMARY KEY (id);\n") := by
  decide +kernel

/-- All later builds give one text here, and the reference is not steady. -/
theorem build_after_builds_forward :
    (∃ again, ∀ ds, ((after.builder "main").build ((after.builder "main").rebuild
        ((after.builder "main").build after.resolver).2 ds)).1 = .ok again) ∧
      ¬ (after.builder "main").Steady after.resolver := by
  obtain ⟨again, hagain⟩ :=
    ((Builder.build_after_builds .ofId steps (after.builder "main")).2 _ build_after).1
  refine ⟨⟨again, fun ds => (hagain ds).1⟩, fun hsteady => ?_⟩
  have hsecond := Except.ok.inj (build_after_again.symm.trans (hagain []).1)
  have htext := hsecond.trans ((hagain []).2.2 hsteady)
  exact absurd htext (by decide +kernel)

/-- A build may succeed and the next one give another text. -/
theorem not_build_repeats :
    ¬ ∀ (catalog : Catalog) (steps : List Step) (name text : String) (ds : List Dialect),
        let w := ((new catalog).run steps).2
        let b := w.builder name
        steps.all Step.onBuilder = true → (b.build w.resolver).1 = .ok text →
          (b.build (b.rebuild (b.build w.resolver).2 ds)).1 = .ok text := by
  intro h
  have hagain := build_after_again.symm.trans (h .ofId steps "main" _ [] (by decide) build_after)
  have htext := Except.ok.inj hagain
  exact absurd htext (by decide +kernel)

end Forward
end SchemaDdl
