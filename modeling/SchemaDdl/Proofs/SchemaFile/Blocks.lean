import SchemaDdl.Proofs.Builder.Outcome
import SchemaDdl.Proofs.SchemaFile.Models
import SchemaDdl.Proofs.Workspace.Caching

/-!
# The blocks of a schema file

Applying a file claims all its models before anything is rendered.  From then on the resolver
holds just the models of the file (`Resolver.Saturated`), so a reference by name finds a model
wherever the file declares it, and what a request renders to follows from the request and the
declared models alone (`Request.declaredBlock`).  Rendering keeps the resolver so, hence the text
of a queue is that of its declared blocks (`Resolver.Saturated.renderAll_fst`).
-/

namespace SchemaDdl

open Resolver (Settled)

/-- Declared models as a catalog: an identity without a model stands for one without
annotations. -/
def Catalog.ofModels (models : List Model) : Catalog :=
  fun id => (models.find? fun m => m.id = id).getD (.ofId id)

section OfModels

variable {models models' : List Model} {m : Model} {id : ModelId}

theorem Catalog.ofModels_of_mem (hmodels : Coherent (· ∈ models)) (hm : m ∈ models) :
    ofModels models m.id = m := by
  rw [ofModels, find?_key_of_mem Model.id (fun a ha b hb => hmodels.unique a b ha hb) hm,
    Option.getD_some]

theorem Catalog.ofModels_of_forall_ne (h : ∀ m ∈ models, m.id ≠ id) :
    ofModels models id = .ofId id := by
  have hnone : (models.find? fun x => x.id = id) = none :=
    List.find?_eq_none.2 fun x hx => by simpa using h x hx
  rw [ofModels, hnone, Option.getD_none]

/-- The catalog depends on which models are declared, not on their order. -/
theorem Catalog.ofModels_congr (hmodels : Coherent (· ∈ models))
    (h : ∀ m, m ∈ models' ↔ m ∈ models) : ofModels models' = ofModels models := by
  have hmodels' : Coherent (· ∈ models') := by
    simpa only [h] using hmodels
  funext id
  by_cases hid : ∃ m ∈ models, m.id = id
  · obtain ⟨m, hm, rfl⟩ := hid
    rw [ofModels_of_mem hmodels hm, ofModels_of_mem hmodels' ((h m).2 hm)]
  · have hne : ∀ m ∈ models, m.id ≠ id := fun m hm hmid => hid ⟨m, hm, hmid⟩
    rw [ofModels_of_forall_ne hne, ofModels_of_forall_ne fun m hm => hne m ((h m).1 hm)]

variable {key : ForeignKey}

/-- A reference to a declared model names its table and column, wherever it is declared. -/
theorem ForeignKey.declared_of_mem (hmodels : Coherent (· ∈ models)) (hm : m ∈ models)
    (hid : key.model.id = m.id) :
    key.declared (.ofModels models)
      = { table := m.tableName, column := m.declaredName key.member } := by
  rw [declared, hid, Catalog.ofModels_of_mem hmodels hm]

/-- A reference to no declared model is used as it is written. -/
theorem ForeignKey.declared_of_forall_ne (h : ∀ m ∈ models, m.id ≠ key.model.id) :
    key.declared (.ofModels models) = key.asWritten := by
  rw [declared, Catalog.ofModels_of_forall_ne h]
  rfl

end OfModels

/-- The block of a request as its model declares it, with references to what the catalog
declares. -/
def Request.declaredBlock (names : Catalog) (d : Dialect) : Request → Except DdlError String
  | createTable m ifNotExists => m.declaredBlock names d ifNotExists
  | dropTable m ifExists => .ok (Statement.dropTable (m.declaredTable d.defaultSchema) ifExists)
  | truncateTable m => .ok (Statement.truncateTable (m.declaredTable d.defaultSchema))
  | createSchema name => .ok (Statement.createSchema name)
  | dropSchema name => .ok (Statement.dropSchema name)
  | createSequence s => .ok (Statement.createSequence d s)
  | dropSequence name => .ok (Statement.dropSequence d name)
  | customSql text => .ok text

/-- A declared block fails at most for a column without a type. -/
theorem Request.unsupported_of_declaredBlock {names : Catalog} {d : Dialect} {request : Request}
    {e : DdlError} (h : request.declaredBlock names d = .error e) :
    ∃ type column, e = .unsupportedType type column := by
  cases request with
  | createTable m ifNotExists =>
    rw [declaredBlock, Model.declaredBlock] at h
    cases hlines : Statement.columnLines d m.declaredColumns with
    | error e' =>
      rw [hlines] at h
      cases h
      obtain ⟨c, -, rfl⟩ := Statement.columnLines_eq_error_iff.1 hlines
      exact ⟨c.type, c.name, rfl⟩
    | ok lines =>
      rw [hlines] at h
      cases h
  | _ => cases h

namespace Resolver

/-- The resolver holds just the given models, with the names that they declare. -/
structure Saturated (catalog : Catalog) (models : List Model) (r : Resolver) : Prop where
  settled : Settled catalog (· ∈ models) r
  holds : ∀ m ∈ models, r.models.get? m.id = some m

namespace Saturated

variable {catalog : Catalog} {models : List Model} {r : Resolver} {d : Dialect} {request : Request}
  {m : Model} {key : ForeignKey}

theorem grows (h : Saturated catalog models r) (hmodels : Coherent (· ∈ models)) {r' : Resolver}
    (hgrows : Grows (Entry.Of (· ∈ models)) r r') : Saturated catalog models r' :=
  ⟨h.settled.grows hmodels hgrows, fun m hm => hgrows.extends.model (h.holds m hm)⟩

/-- A reference by name resolves to what the declared models say, and adds names only. -/
theorem resolveReference_fst (h : Saturated catalog models r) (hmodels : Coherent (· ∈ models))
    (hkey : key.model.typed = false) :
    (r.resolveReference key).1 = key.declared (.ofModels models) := by
  -- what is held is declared, and what is not held is declared nowhere in the file
  cases hget : r.models.get? key.model.id with
  | some target =>
    obtain ⟨hmem, hid⟩ := h.settled.model hget
    have hlookup : r.lookup key.model = (some target, r) := by rw [lookup, hget]
    rw [resolveReference_of_some hlookup, h.settled.referTo_fst hmodels hmem,
      ForeignKey.declared_of_mem hmodels hmem hid.symm]
  | none =>
    have hne : ∀ m ∈ models, m.id ≠ key.model.id := by
      intro m hm hid
      rw [← hid, h.holds m hm] at hget
      cases hget
    have hlookup : r.lookup key.model = (none, r) := by
      rw [lookup, hget, hkey]
      rfl
    rw [resolveReference_of_none hlookup, ForeignKey.declared_of_forall_ne hne]
    rfl

theorem resolveAll_fst (h : Saturated catalog models r) (hmodels : Coherent (· ∈ models))
    {keys : List ForeignKey} (hkeys : ∀ key ∈ keys, key.model.typed = false) :
    (r.resolveAll keys).1 = keys.map (·.declared (.ofModels models)) := by
  induction keys generalizing r with
  | nil => rfl
  | cons key rest ih =>
    have hkey := hkeys key List.mem_cons_self
    have hnext : Saturated catalog models (r.resolveReference key).2 := by
      refine h.grows hmodels (grows_resolveReference h.settled.keyed fun ht => ?_)
      rw [hkey] at ht
      cases ht
    rw [resolveAll_cons, List.map_cons, h.resolveReference_fst hmodels hkey,
      ih hnext fun k hk => hkeys k (List.mem_cons_of_mem _ hk)]

/-! ### Rendering -/

theorem within_of_byName (hnames : ByName models) (hover : request.Over (· ∈ models)) :
    request.Within catalog (Entry.Of (· ∈ models)) := by
  intro m hm
  refine ⟨hover m hm, fun key hkey ht => ?_⟩
  rw [hnames m (hover m hm) key hkey] at ht
  cases ht

theorem block_fst (h : Saturated catalog models r) (hmodels : Coherent (· ∈ models))
    (hnames : ByName models) (hover : request.Over (· ∈ models)) :
    (request.block d r).1 = request.declaredBlock (.ofModels models) d := by
  cases request with
  | createTable m ifNotExists =>
    have hm : m ∈ models := hover m rfl
    have hnext : Saturated catalog models (Table.describe r m d.defaultSchema).2 :=
      h.grows hmodels (Nameable.grows_describe (Settled.nameable hm) d.defaultSchema)
    refine Request.block_createTable_of_targets hmodels h.settled hm ifNotExists
      (hnext.resolveAll_fst hmodels fun key hkey => ?_)
    rw [← h.settled.extract_fst hmodels hm] at hkey
    exact hnames m hm key (Column.mem_foreignKeys_of_mem_keys hkey)
  | dropTable m | truncateTable m =>
    have hm : m ∈ models := hover m rfl
    simp only [Request.block, Request.declaredBlock, h.settled.resolve_fst hm]
  | createSchema | dropSchema | createSequence | dropSequence | customSql => rfl

/-- A request about declared models renders to its declared block, and leaves the resolver
saturated whether it fails or not. -/
theorem render (h : Saturated catalog models r) (hmodels : Coherent (· ∈ models))
    (hnames : ByName models) (hover : request.Over (· ∈ models)) :
    (request.render d r).1 = request.declaredBlock (.ofModels models) d ∧
      Saturated catalog models (request.render d r).2 := by
  refine ⟨?_, h.grows hmodels
    (Request.grows_render h.settled.keyed (within_of_byName hnames hover))⟩
  cases hmodel : request.model? with
  | none =>
    rw [Request.render_of_none hmodel]
    exact h.block_fst hmodels hnames hover
  | some m =>
    have hclaim : r.claim m = (.ok m, (r.claim m).2) :=
      Prod.ext (h.settled.claim_fst hmodels (hover m hmodel)) rfl
    have hclaimed : Saturated catalog models (r.claim m).2 :=
      h.grows hmodels (grows_claim (hover m hmodel))
    rw [Request.render_of_claim_ok hmodel hclaim]
    exact hclaimed.block_fst hmodels hnames hover

/-- The text of a queue is that of its declared blocks, up to the first that fails. -/
theorem renderAll_fst {queue : List Request} (h : Saturated catalog models r)
    (hmodels : Coherent (· ∈ models)) (hnames : ByName models)
    (hover : ∀ q ∈ queue, q.Over (· ∈ models)) :
    (Request.renderAll d r queue).1
      = (queue.mapM (Request.declaredBlock (.ofModels models) d)).map Request.script := by
  induction queue generalizing r with
  | nil => rfl
  | cons request rest ih =>
    obtain ⟨hblock, hnext⟩ := h.render (d := d) hmodels hnames (hover request List.mem_cons_self)
    have htail := ih hnext fun q hq => hover q (List.mem_cons_of_mem _ hq)
    rw [List.mapM_cons, ← hblock]
    rcases hres : request.render d r with ⟨e | block, r₁⟩ <;> rw [hres] at htail
    · rw [Request.renderAll_cons_error hres]
      rfl
    · rw [Request.renderAll_cons_ok hres, htail]
      cases rest.mapM (Request.declaredBlock (.ofModels models) d) <;> rfl

end Saturated
end Resolver
end SchemaDdl
