import SchemaDdl.Proofs.Request.Rendering
import SchemaDdl.Workspace

/-!
# What steps over a workspace add

Every step makes the resolver grow (`grows_step`), so a run keeps all entries that it finds
(`extends_run`).  What a step may add is said by `Step.Within`: the definitions that it claims or
registers, and the names that it resolves without a claim.
-/

namespace SchemaDdl

/-! ## Schema files -/

namespace SchemaFile

open Resolver (Grows)

variable {free : Entry → Prop} {r : Resolver}

theorem grows_claimAll {models : List Model} (h : ∀ m ∈ models, free (.model m)) :
    Grows free r (claimAll r models).2 := by
  induction models generalizing r with
  | nil => exact .refl
  | cons m rest ih =>
    have hhead : Grows free r (r.claim m).2 := Resolver.grows_claim (h m List.mem_cons_self)
    rw [claimAll]
    rcases hres : r.claim m with ⟨e | held, r₁⟩ <;> rw [hres] at hhead
    · exact hhead
    · have htail : Grows free r₁ (claimAll r₁ rest).2 :=
        ih fun x hx => h x (List.mem_cons_of_mem _ hx)
      rcases hrest : claimAll r₁ rest with ⟨e | tail, r₂⟩ <;> rw [hrest] at htail
      all_goals
        simp only [hrest]
        exact hhead.trans htail

theorem extends_claimAll (r : Resolver) (models : List Model) :
    r.Extends (claimAll r models).2 := by
  have hgrows : Grows (fun _ => True) r (claimAll r models).2 :=
    grows_claimAll fun _ _ => trivial
  exact hgrows.extends

theorem apply_of_toModels_error {f : SchemaFile} (b : Builder) (r : Resolver) {e : DdlError}
    (h : f.toModels = .error e) : f.apply b r = (.error e, r) := by
  rw [apply, h]

/-- Applying a file changes a resolver by the claims of its models, whatever the script says. -/
theorem apply_of_toModels {f : SchemaFile} (b : Builder) (r : Resolver) {models : List Model}
    (h : f.toModels = .ok models) :
    f.apply b r
      = ((claimAll r models).1.bind fun held =>
          (f.queue held).map fun queue => { b with queue := b.queue ++ queue },
        (claimAll r models).2) := by
  rw [apply, h]
  simp only
  rcases claimAll r models with ⟨e | held, r'⟩
  · rfl
  · simp only [Except.bind]
    cases f.queue held <;> rfl

theorem grows_apply {f : SchemaFile} {b : Builder}
    (h : ∀ models, f.toModels = .ok models → ∀ m ∈ models, free (.model m)) :
    Grows free r (f.apply b r).2 := by
  cases hmodels : f.toModels with
  | error e =>
    rw [apply_of_toModels_error b r hmodels]
    exact .refl
  | ok models =>
    rw [apply_of_toModels b r hmodels]
    exact grows_claimAll (h models hmodels)

/-- The definitions that claiming gives are held afterwards. -/
theorem get?_of_claimAll {models held : List Model} {r' : Resolver} (hr : r.Keyed)
    (h : claimAll r models = (.ok held, r')) {m : Model} (hm : m ∈ held) :
    r'.models.get? m.id = some m := by
  induction models generalizing r held with
  | nil =>
    cases h
    cases hm
  | cons x rest ih =>
    rw [claimAll] at h
    split at h
    · cases h
    · next head r₁ hhead =>
      split at h
      · cases h
      · next tail r₂ htail =>
        cases h
        obtain ⟨hr₁, hget, hsame⟩ := Resolver.claim_ok hhead
        have hkeyed : r₁.Keyed := by
          rw [hr₁]
          exact hr.add (.model x)
        rcases List.mem_cons.1 hm with rfl | hm
        · have hkept := extends_claimAll r₁ rest
          rw [htail] at hkept
          rw [hsame.id_eq]
          exact hkept.model hget
        · exact ih hkeyed htail hm

theorem modelNamed?_eq_some {models : List Model} {name : String} {m : Model}
    (h : modelNamed? models name = some m) : m ∈ models ∧ m.ident = name :=
  ⟨List.mem_of_find?_eq_some h, by simpa using List.find?_some h⟩

theorem findModel_eq_ok {models : List Model} {name : String} {m : Model}
    (h : findModel models name = .ok m) : m ∈ models ∧ m.ident = name := by
  rw [findModel] at h
  split at h
  · next hfound =>
    cases h
    exact modelNamed?_eq_some hfound
  · cases h

theorem model?_of_request {models : List Model} {op : Operation} {q : Request} {m : Model}
    (h : request models op = .ok q) (hm : q.model? = some m) : m ∈ models := by
  cases op with
  | createTable name flag | dropTable name flag | truncateTable name =>
    rw [request] at h
    cases hfound : findModel models name with
    | error e =>
      rw [hfound] at h
      cases h
    | ok x =>
      rw [hfound] at h
      cases h
      cases hm
      exact (findModel_eq_ok hfound).1
  | createSchema | dropSchema | createSequence | dropSequence | sql =>
    cases h
    cases hm

theorem model?_of_requests {models : List Model} {script : List Operation} {queue : List Request}
    (h : requests models script = .ok queue) {q : Request} (hq : q ∈ queue) {m : Model}
    (hm : q.model? = some m) : m ∈ models := by
  induction script generalizing queue with
  | nil =>
    cases h
    cases hq
  | cons op rest ih =>
    rw [requests] at h
    split at h
    · cases h
    · next head hhead =>
      split at h
      · cases h
      · next tail htail =>
        cases h
        rcases List.mem_cons.1 hq with rfl | hq
        · exact model?_of_request hhead hm
        · exact ih htail hq

theorem model?_of_creates {models : List Model} {decls : List ModelDecl} {q : Request}
    (hq : q ∈ creates models decls) {m : Model} (hm : q.model? = some m) : m ∈ models := by
  induction decls with
  | nil => cases hq
  | cons d rest ih =>
    rw [creates] at hq
    split at hq
    · next x hfound =>
      rcases List.mem_cons.1 hq with rfl | hq
      · cases hm
        exact (modelNamed?_eq_some hfound).1
      · exact ih hq
    · exact ih hq

/-- A file queues requests about its own models only. -/
theorem model?_of_queue {f : SchemaFile} {models : List Model} {queue : List Request}
    (h : f.queue models = .ok queue) {q : Request} (hq : q ∈ queue) {m : Model}
    (hm : q.model? = some m) : m ∈ models := by
  rw [SchemaFile.queue] at h
  split at h
  · cases h
    exact model?_of_creates hq hm
  · exact model?_of_requests h hq hm

/-- What applying a file adds to the queue is about definitions that are held afterwards. -/
theorem queue_of_apply {f : SchemaFile} {b b' : Builder} {r' : Resolver} (hr : r.Keyed)
    (h : f.apply b r = (.ok b', r')) :
    b'.dialect = b.dialect ∧ ∃ added, b'.queue = b.queue ++ added ∧
      ∀ q ∈ added, ∀ m, q.model? = some m → r'.models.get? m.id = some m := by
  rw [apply] at h
  split at h
  · cases h
  · next models hmodels =>
    split at h
    · cases h
    · next held r₁ hclaim =>
      split at h
      · cases h
      · next queue hqueue =>
        cases h
        exact ⟨rfl, queue, rfl, fun q hq m hm =>
          get?_of_claimAll hr hclaim (model?_of_queue hqueue hq hm)⟩

end SchemaFile

/-! ## Steps -/

/-- The model that an identity of the catalog stands for is free to be added. -/
def Target.Within (catalog : Catalog) (free : Entry → Prop) : Target → Prop
  | .model _ => True
  | .entity id => free (.model (catalog id))

/-- What a step adds to the resolver of a workspace is free or the name of what is held. -/
def Step.Within (free : Entry → Prop) (w : Workspace) : Step → Prop
  | .start _ | .copy _ _ | .queue _ _ | .useDialect _ _ | .clear _ => True
  | .createTable _ t _ | .dropTable _ t _ | .truncateTable _ t =>
    t.Within w.resolver.catalog free
  | .apply _ file => ∀ models, file.toModels = .ok models → ∀ m ∈ models, free (.model m)
  | .build name => ∀ q ∈ (w.builder name).queue, q.Within w.resolver.catalog free
  | .describe name =>
    ∀ m ∈ (w.builder name).queue.filterMap Request.created?, Resolver.Nameable free w.resolver m
  | .register m | .claim m => free (.model m)
  | .entity id => free (.model (w.resolver.catalog id))
  | .lookup ref => ref.typed → free (.model (w.resolver.catalog ref.id))
  | .resolveTable m => free (.table m)
  | .resolveColumn m member => free (.column m member)
  | .reference key => key.model.typed → free (.model (w.resolver.catalog key.model.id))

/-- Steps that work on a builder and not on the resolver itself. -/
def Step.onBuilder : Step → Bool
  | .register _ | .claim _ | .entity _ | .lookup _ | .resolveTable _ | .resolveColumn _ _
  | .reference _ => false
  | _ => true

namespace Workspace

open Resolver (Grows)

variable {free : Entry → Prop} {w : Workspace}

theorem grows_target {r : Resolver} {t : Target} (h : t.Within r.catalog free) :
    Grows free r (target r t).2 := by
  cases t with
  | model m => exact .refl
  | entity id => exact Resolver.grows_entity h

theorem grows_step {s : Step} (hw : w.resolver.Keyed) (h : s.Within free w) :
    Grows free w.resolver (w.step s).2.resolver := by
  cases s with
  | start | copy | queue | useDialect | clear => exact .refl
  | createTable name t | dropTable name t | truncateTable name t => exact grows_target h
  | apply name file =>
    have hgrows : Grows free w.resolver (file.apply (w.builder name) w.resolver).2 :=
      SchemaFile.grows_apply h
    rw [step]
    rcases hres : file.apply (w.builder name) w.resolver with ⟨_ | _, r⟩ <;> rw [hres] at hgrows
    all_goals exact hgrows
  | build name =>
    have hgrows : Grows free w.resolver ((w.builder name).build w.resolver).2 :=
      Request.grows_renderAll hw h
    rw [step]
    rcases hres : (w.builder name).build w.resolver with ⟨_ | _, r⟩ <;> rw [hres] at hgrows
    all_goals exact hgrows
  | describe name => exact Resolver.grows_describeAll h _
  | register m => exact Resolver.grows_register h
  | claim m =>
    have hgrows : Grows free w.resolver (w.resolver.claim m).2 := Resolver.grows_claim h
    rw [step]
    rcases hres : w.resolver.claim m with ⟨_ | _, r⟩ <;> rw [hres] at hgrows
    all_goals exact hgrows
  | entity id => exact Resolver.grows_entity h
  | lookup ref => exact Resolver.grows_lookup h
  | resolveTable m => exact .one (e := .table m) (.inl h)
  | resolveColumn m member => exact .one (e := .column m member) (.inl h)
  | reference key => exact Resolver.grows_resolveReference hw h

theorem run_cons (w : Workspace) (s : Step) (rest : List Step) :
    (w.run (s :: rest)).2 = ((w.step s).2.run rest).2 := rfl

theorem run_append (w : Workspace) (steps rest : List Step) :
    (w.run (steps ++ rest)).2 = ((w.run steps).2.run rest).2 := by
  induction steps generalizing w with
  | nil => rfl
  | cons s steps ih => rw [List.cons_append, run_cons, run_cons, ih]

theorem within_true (w : Workspace) (s : Step) : s.Within (fun _ => True) w := by
  cases s with
  | createTable _ t | dropTable _ t | truncateTable _ t => cases t <;> trivial
  | describe => exact fun _ _ => .inr ⟨trivial, fun _ _ => trivial⟩
  | build => exact fun _ _ _ _ => ⟨trivial, fun _ _ _ => trivial⟩
  | apply => exact fun _ _ _ _ => trivial
  | lookup | reference => exact fun _ => trivial
  | _ => trivial

theorem keyed_step (hw : w.resolver.Keyed) (s : Step) : (w.step s).2.resolver.Keyed :=
  (grows_step hw (within_true w s)).keyed hw

theorem extends_step (hw : w.resolver.Keyed) (s : Step) :
    w.resolver.Extends (w.step s).2.resolver :=
  (grows_step hw (within_true w s)).extends

theorem keyed_run (hw : w.resolver.Keyed) (steps : List Step) :
    (w.run steps).2.resolver.Keyed := by
  induction steps generalizing w with
  | nil => exact hw
  | cons s rest ih => exact ih (keyed_step hw s)

/-- A run keeps every entry that it finds. -/
theorem extends_run (hw : w.resolver.Keyed) (steps : List Step) :
    w.resolver.Extends (w.run steps).2.resolver := by
  induction steps generalizing w with
  | nil => exact .refl _
  | cons s rest ih => exact (extends_step hw s).trans (ih (keyed_step hw s))

end Workspace
end SchemaDdl
