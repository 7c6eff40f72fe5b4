import SchemaDdl.Proofs.Resolver.Settled
import SchemaDdl.Proofs.Workspace.Growth

/-!
# Caching is invisible

Over a family of models with one definition for each identity, what builders and resolvers were
asked before does not change what a queue renders to or describes.  Two settled resolvers give
the same text for a request and stay settled, whether the rendering succeeds or not
(`render_fst_eq`); every step over the family keeps the resolver settled and the queues over the
family (`Over.step`), and so does a run (`Over.run`).
-/

namespace SchemaDdl

open Resolver (Settled)

variable {catalog : Catalog} {family : Model → Prop}

/-! ## Rendering and describing over a family -/

namespace Request

variable {d : Dialect} {r r' : Resolver} {request : Request}

theorem settled_render (hfam : Family catalog family) (hr : Settled catalog family r)
    (h : request.Over family) : Settled catalog family (request.render d r).2 := by
  refine hr.grows hfam.coherent (grows_render hr.keyed ?_)
  rw [hr.catalog]
  exact h.within hfam

/-- Where the foreign keys of a table resolve to what some catalog declares, its block is the one
that the model and this catalog declare. -/
theorem block_createTable_of_targets {m : Model} {names : Catalog} (hfam : Coherent family)
    (hr : Settled catalog family r) (hm : family m) (ifNotExists : Bool)
    (htargets : ((Table.describe r m d.defaultSchema).2.resolveAll
        (Column.keys m.declaredColumns)).1
      = (Column.keys m.declaredColumns).map (·.declared names)) :
    (block d r (.createTable m ifNotExists)).1 = m.declaredBlock names d ifNotExists := by
  rw [block_createTable_eq, hr.describe_fst hfam hm, Model.declaredBlock]
  cases hlines : Statement.columnLines d m.declaredColumns with
  | error e =>
    rw [Statement.createTable_of_error hlines]
    rfl
  | ok lines =>
    rw [Statement.createTable_of_ok hlines]
    simp only [Model.declaration, htargets]
    rfl

theorem block_createTable_fst {m : Model} (hfam : Family catalog family)
    (hr : Settled catalog family r) (hm : family m) (ifNotExists : Bool) :
    (block d r (.createTable m ifNotExists)).1 = m.declaredBlock catalog d ifNotExists := by
  have hnext : Settled catalog family (Table.describe r m d.defaultSchema).2 :=
    hr.grows hfam.coherent ((Settled.nameable hm).grows_describe _)
  have hkeys : ∀ key ∈ Column.keys m.declaredColumns, key ∈ m.foreignKeys := by
    intro key hkey
    rw [← hr.extract_fst hfam.coherent hm] at hkey
    exact Column.mem_foreignKeys_of_mem_keys hkey
  exact block_createTable_of_targets hfam.coherent hr hm ifNotExists
    (hnext.resolveAll_fst hfam hm hkeys)

theorem block_fst_eq (hfam : Family catalog family) (hr : Settled catalog family r)
    (hr' : Settled catalog family r') (h : request.Over family) :
    (request.block d r).1 = (request.block d r').1 := by
  cases request with
  | createTable m ifNotExists =>
    have hm : family m := h m rfl
    rw [block_createTable_fst hfam hr hm, block_createTable_fst hfam hr' hm]
  | dropTable m | truncateTable m =>
    have hm : family m := h m rfl
    simp only [block, hr.resolve_fst hm, hr'.resolve_fst hm]
  | createSchema | dropSchema | createSequence | dropSequence | customSql => rfl

theorem render_fst_eq (hfam : Family catalog family) (hr : Settled catalog family r)
    (hr' : Settled catalog family r') (h : request.Over family) :
    (request.render d r).1 = (request.render d r').1 := by
  cases hmodel : request.model? with
  | none =>
    rw [render_of_none hmodel, render_of_none hmodel]
    exact block_fst_eq hfam hr hr' h
  | some m =>
    have hm := h m hmodel
    have hstart : ∀ {r}, Settled catalog family r → ∃ r₁, Settled catalog family r₁ ∧
        request.render d r = request.block d r₁ := by
      intro r hr
      have hnext : Settled catalog family (r.claim m).2 :=
        hr.grows hfam.coherent (Resolver.grows_claim hm)
      exact ⟨_, hnext, render_of_claim_ok hmodel (Prod.ext (hr.claim_fst hfam.coherent hm) rfl)⟩
    obtain ⟨r₁, hr₁, heq⟩ := hstart hr
    obtain ⟨r₂, hr₂, heq'⟩ := hstart hr'
    rw [heq, heq']
    exact block_fst_eq hfam hr₁ hr₂ h

theorem renderAll_fst_eq {queue : List Request} (hfam : Family catalog family)
    (hr : Settled catalog family r) (hr' : Settled catalog family r')
    (h : ∀ q ∈ queue, q.Over family) :
    (renderAll d r queue).1 = (renderAll d r' queue).1 := by
  induction queue generalizing r r' with
  | nil => rfl
  | cons request rest ih =>
    have hq := h request List.mem_cons_self
    have htail := ih (settled_render (d := d) hfam hr hq) (settled_render (d := d) hfam hr' hq)
      fun q hq => h q (List.mem_cons_of_mem _ hq)
    have hhead := render_fst_eq (d := d) hfam hr hr' hq
    rcases hres : request.render d r with ⟨e | block, r₁⟩
    all_goals
      rcases hres' : request.render d r' with ⟨e' | block', r₂⟩ <;> rw [hres, hres'] at hhead htail
      all_goals cases hhead
    · rw [renderAll_cons_error hres, renderAll_cons_error hres']
    · rw [renderAll_cons_ok hres, renderAll_cons_ok hres', htail]

end Request

namespace Builder

/-- All requests of a builder are about models of a family. -/
def Over (family : Model → Prop) (b : Builder) : Prop :=
  ∀ q ∈ b.queue, q.Over family

theorem Over.push {b : Builder} {q : Request} (h : b.Over family) (hq : q.Over family) :
    (b.push q).Over family := by
  intro x hx
  rcases List.mem_append.1 hx with hx | hx
  · exact h x hx
  · rw [List.mem_singleton.1 hx]
    exact hq

theorem Over.created {b : Builder} (h : b.Over family) {m : Model}
    (hm : m ∈ b.queue.filterMap Request.created?) : family m := by
  obtain ⟨q, hq, hcreated⟩ := List.mem_filterMap.1 hm
  obtain ⟨ifNotExists, rfl⟩ := Request.created?_eq_some_iff.1 hcreated
  exact h _ hq m rfl

theorem describeAll_fst {r : Resolver} {models : List Model} (hfam : Family catalog family)
    (hr : Settled catalog family r) (h : ∀ m ∈ models, family m) (defaultSchema : String) :
    (describeAll defaultSchema r models).1
      = models.map fun m => m.declaration defaultSchema := by
  induction models generalizing r with
  | nil => rfl
  | cons m rest ih =>
    have hm := h m List.mem_cons_self
    have hnext : Settled catalog family (Table.describe r m defaultSchema).2 :=
      hr.grows hfam.coherent ((Settled.nameable hm).grows_describe _)
    change (Table.describe r m defaultSchema).1
      :: (describeAll defaultSchema (Table.describe r m defaultSchema).2 rest).1 = _
    rw [hr.describe_fst hfam.coherent hm, ih hnext fun x hx => h x (List.mem_cons_of_mem _ hx)]
    rfl

end Builder

/-! ## Steps over a family -/

def Target.Over (catalog : Catalog) (family : Model → Prop) : Target → Prop
  | .model m => family m
  | .entity id => family (catalog id)

/-- Steps that name models of a family only, themselves or through the catalog. -/
def Step.Over (catalog : Catalog) (family : Model → Prop) : Step → Prop
  | .start _ | .copy _ _ | .useDialect _ _ | .clear _ | .build _ | .describe _ => True
  | .queue _ q => q.Over family
  | .createTable _ t _ | .dropTable _ t _ | .truncateTable _ t => t.Over catalog family
  | .apply _ file => ∀ models, file.toModels = .ok models → ∀ m ∈ models, family m
  | .register m | .claim m | .resolveTable m => family m
  | .resolveColumn m member => family m ∧ member ∈ m.members
  | .entity id => family (catalog id)
  | .lookup ref => ref.typed → family (catalog ref.id)
  | .reference key => key.model.typed → family (catalog key.model.id)

namespace Workspace

variable {w : Workspace}

theorem builder_setBuilder (w : Workspace) (name other : String) (b : Builder) :
    (w.setBuilder name b).builder other = if other = name then b else w.builder other := by
  by_cases h : other = name
  · simp [setBuilder, builder, h]
  · have hlookup : ∀ entries : List (String × Builder),
        (entries.filter fun entry => entry.1 ≠ name).lookup other = entries.lookup other := by
      intro entries
      induction entries with
      | nil => rfl
      | cons entry rest ih =>
        by_cases hentry : entry.1 = name
        · have hne : (other == entry.1) = false := by simpa [hentry] using h
          rw [List.filter_cons_of_neg (by simpa using hentry), ih]
          obtain ⟨key, b⟩ := entry
          simp only [List.lookup_cons, hne]
        · rw [List.filter_cons_of_pos (by simpa using hentry)]
          obtain ⟨key, b⟩ := entry
          simp only [List.lookup_cons, ih]
    have hne : (other == name) = false := by simpa using h
    simp only [setBuilder, builder, List.lookup_cons, hne, hlookup, if_neg h]

/-- The resolver is settled and all queues are about models of the family. -/
structure Over (catalog : Catalog) (family : Model → Prop) (w : Workspace) : Prop where
  resolver : Settled catalog family w.resolver
  builder : ∀ name, (w.builder name).Over family

theorem over_new (catalog : Catalog) (family : Model → Prop) :
    (new catalog).Over catalog family :=
  ⟨Resolver.settled_new catalog family, fun _ q hq => by cases hq⟩

theorem Over.setBuilder (hw : w.Over catalog family) (name : String) {b : Builder}
    (hb : b.Over family) : (w.setBuilder name b).Over catalog family := by
  refine ⟨hw.resolver, fun other => ?_⟩
  rw [builder_setBuilder]
  split
  · exact hb
  · exact hw.builder other

theorem Over.withResolver (hw : w.Over catalog family) {r : Resolver}
    (hr : Settled catalog family r) : { w with resolver := r }.Over catalog family :=
  ⟨hr, hw.builder⟩

theorem Over.within {s : Step} (hw : w.Over catalog family) (hfam : Family catalog family)
    (h : s.Over catalog family) : s.Within (Entry.Of family) w := by
  cases s with
  | createTable _ t | dropTable _ t | truncateTable _ t =>
    cases t with
    | model => trivial
    | entity id =>
      change family (w.resolver.catalog id)
      rw [hw.resolver.catalog]
      exact h
  | build name =>
    intro q hq
    rw [hw.resolver.catalog]
    exact (hw.builder name q hq).within hfam
  | describe name => exact fun m hm => Settled.nameable ((hw.builder name).created hm)
  | entity id =>
    change family (w.resolver.catalog id)
    rw [hw.resolver.catalog]
    exact h
  | lookup ref =>
    intro ht
    rw [hw.resolver.catalog]
    exact h ht
  | reference key =>
    intro ht
    rw [hw.resolver.catalog]
    exact h ht
  | apply | register | claim | resolveTable | resolveColumn => exact h
  | start | copy | queue | useDialect | clear => trivial

theorem Over.settled_step {s : Step} (hw : w.Over catalog family) (hfam : Family catalog family)
    (h : s.Over catalog family) : Settled catalog family (w.step s).2.resolver :=
  hw.resolver.grows hfam.coherent (grows_step hw.resolver.keyed (hw.within hfam h))

/-- The model of a target over the family belongs to it. -/
theorem Over.target_fst {t : Target} (hw : w.Over catalog family) (h : t.Over catalog family) :
    family (target w.resolver t).1 := by
  cases t with
  | model m => exact h
  | entity id =>
    change family (w.resolver.entity id).1
    rw [Resolver.entity]
    split
    · next held hget => exact (hw.resolver.model hget).1
    · rw [Resolver.register_fst, hw.resolver.catalog]
      cases hget : w.resolver.models.get? (catalog id).id with
      | none => exact h
      | some held => exact (hw.resolver.model hget).1

theorem Over.queueTable {name : String} {t : Target} {request : Model → Request}
    (hw : w.Over catalog family) (hr : Settled catalog family (target w.resolver t).2)
    (h : t.Over catalog family) (hmodel : ∀ m, (request m).model? = some m) :
    (w.queueTable name t request).2.Over catalog family := by
  refine (hw.withResolver hr).setBuilder name ((hw.builder name).push ?_)
  intro m hm
  rw [hmodel] at hm
  cases hm
  exact hw.target_fst h

theorem Over.step {s : Step} (hw : w.Over catalog family) (hfam : Family catalog family)
    (h : s.Over catalog family) : (w.step s).2.Over catalog family := by
  have hr := hw.settled_step hfam h
  cases s with
  | start name => exact hw.setBuilder name fun _ hq => by cases hq
  | copy name source => exact hw.setBuilder name (hw.builder source)
  | queue name q => exact hw.setBuilder name ((hw.builder name).push h)
  | createTable name t | dropTable name t | truncateTable name t =>
    exact hw.queueTable hr h fun _ => rfl
  | useDialect name d => exact hw.setBuilder name (hw.builder name)
  | clear name => exact hw.setBuilder name fun _ hq => by cases hq
  | apply name file =>
    rw [Workspace.step] at hr ⊢
    rcases hres : file.apply (w.builder name) w.resolver with ⟨e | b, r⟩ <;> rw [hres] at hr
    · exact hw.withResolver hr
    · obtain ⟨-, added, hqueue, hheld⟩ := SchemaFile.queue_of_apply hw.resolver.keyed hres
      refine (hw.withResolver hr).setBuilder name fun q hq => ?_
      rw [hqueue] at hq
      rcases List.mem_append.1 hq with hq | hq
      · exact hw.builder name q hq
      · exact fun m hm => (hr.model (hheld q hq m hm)).1
  | build name =>
    refine ⟨hr, fun other => ?_⟩
    have hbuilder : (w.step (.build name)).2.builder other = w.builder other := by
      rw [Workspace.step]
      split <;> rfl
    rw [hbuilder]
    exact hw.builder other
  | claim m =>
    refine ⟨hr, fun other => ?_⟩
    have hbuilder : (w.step (.claim m)).2.builder other = w.builder other := by
      rw [Workspace.step]
      split <;> rfl
    rw [hbuilder]
    exact hw.builder other
  | describe | register | entity | lookup | resolveTable | resolveColumn | reference =>
    exact ⟨hr, hw.builder⟩

theorem Over.run {steps : List Step} (hw : w.Over catalog family) (hfam : Family catalog family)
    (h : ∀ s ∈ steps, s.Over catalog family) : (w.run steps).2.Over catalog family := by
  induction steps generalizing w with
  | nil => exact hw
  | cons s rest ih =>
    exact ih (hw.step hfam (h s List.mem_cons_self)) fun x hx => h x (List.mem_cons_of_mem _ hx)

/-- After any steps over a family, building and describing a queue over it answers as on a
resolver that holds nothing. -/
theorem build_describeTables_after_run (catalog : Catalog) (family : Model → Prop)
    (hfam : Family catalog family) (steps : List Step) (h : ∀ s ∈ steps, s.Over catalog family)
    (b : Builder) (hb : b.Over family) :
    (b.build ((new catalog).run steps).2.resolver).1 = (b.build (.new catalog)).1 ∧
      (b.describeTables ((new catalog).run steps).2.resolver).1
        = (b.describeTables (.new catalog)).1 := by
  have hnew := Resolver.settled_new catalog family
  have hrun := ((over_new catalog family).run hfam h).resolver
  refine ⟨Request.renderAll_fst_eq hfam hrun hnew hb, ?_⟩
  rw [Builder.describeTables, Builder.describeTables,
    Builder.describeAll_fst hfam hrun fun _ hm => hb.created hm,
    Builder.describeAll_fst hfam hnew fun _ hm => hb.created hm]

end Workspace

/-! ## Two models that refer to each other -/

namespace Shop

def customer : Model :=
  ((Model.ofId ⟨"shop::Customer"⟩).withTable "customers").withMember
    (({ ident := "last", type := .scalar .i32 } : Member).foreignKey ⟨"shop::Order"⟩ "number")

def order : Model :=
  ((Model.ofId ⟨"shop::Order"⟩).withTableIn "orders" "sales").withMember
    (({ ident := "number", type := .scalar .i32 } : Member).foreignKey ⟨"shop::Customer"⟩ "last")

def entities : Catalog := fun id => if id = order.id then order else customer

def steps : List Step :=
  [.queue "main" (.createTable order false), .describe "main",
    .reference ⟨⟨order.id, true⟩, "number"⟩, .entity customer.id, .build "main"]

def creating : Builder := Builder.new.push (.createTable customer false)

theorem family_entities : Family entities (· ∈ [customer, order]) := by
  have hunique : ∀ a ∈ [customer, order], ∀ b ∈ [customer, order], a.id = b.id → a = b := by
    decide
  refine ⟨fun a b ha hb => hunique a ha b hb, ?_, ?_, ?_, ?_⟩ <;> decide

theorem steps_over : ∀ s ∈ steps, s.Over entities (· ∈ [customer, order]) := by
  have hentities : ∀ id, entities id = customer ∨ entities id = order := by
    intro id
    rw [entities]
    split
    · exact .inr rfl
    · exact .inl rfl
  simp [steps, Step.Over, Request.Over, Request.model?, hentities]

theorem creating_over : creating.Over (· ∈ [customer, order]) := by
  simp [creating, Builder.Over, Builder.push, Builder.new, Request.Over, Request.model?]

/-- The names of the order are cached before a table that refers to it is created. -/
theorem build_describeTables_shop :
    (creating.build ((Workspace.new entities).run steps).2.resolver).1
        = (creating.build (.new entities)).1 ∧
      (creating.describeTables ((Workspace.new entities).run steps).2.resolver).1
        = (creating.describeTables (.new entities)).1 :=
  Workspace.build_describeTables_after_run entities (· ∈ [customer, order]) family_entities
    steps steps_over creating creating_over

end Shop
end SchemaDdl
