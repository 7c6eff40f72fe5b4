import SchemaDdl.Proofs.Builder.Repetition
import SchemaDdl.Proofs.Column.Extraction

/-!
# The outcome of a build

Whether a request of a queue fails is told by the definitions held when its turn comes and by the
types of its columns.  Which definitions are held follows from the requests before it alone: each
adds its model and, for a table to create, what the catalog says of its typed references
(`Request.registers`).  So a build succeeds just when no request of the queue offends
(`Request.Clean`), and otherwise it fails as the first one that does (`Builder.build_outcome`).
-/

namespace SchemaDdl

/-! ## Columns without a type -/

/-- No rule of the dialect gives the column a type: none is written on it but blanks, the dialect
has no autoincrement type that applies, and it does not map the lookup key. -/
structure Column.Unmappable (d : Dialect) (c : Column) : Prop where
  unwritten : ∀ written, c.typeName = some written → Text.isBlank written = true
  unserial : c.autoIncrement = true → c.type.isNullable = false →
    d.autoIncrementType c.type.lookupKey = none
  unmapped : d.mapType c.type.lookupKey = none

/-- The first column without a type. -/
def Column.FirstUnmappable (d : Dialect) (columns : List Column) (c : Column) : Prop :=
  ∃ before after, columns = before ++ c :: after ∧ (∀ x ∈ before, ¬ x.Unmappable d) ∧
    c.Unmappable d

namespace Column

variable {d : Dialect} {c x : Column} {columns : List Column}

/-- The three rules in turn, as a column type is settled. -/
theorem unmappable_iff :
    c.Unmappable d ↔ Text.nonBlank c.typeName = none ∧
      (if c.autoIncrement && !c.type.isNullable then d.autoIncrementType c.type.lookupKey else none)
        = none ∧ d.mapType c.type.lookupKey = none := by
  have hwritten : (∀ written, c.typeName = some written → Text.isBlank written = true) ↔
      Text.nonBlank c.typeName = none := by
    simp [Text.nonBlank, Option.filter_eq_none_iff]
  have hserial : (c.autoIncrement = true → c.type.isNullable = false →
      d.autoIncrementType c.type.lookupKey = none) ↔
      (if c.autoIncrement && !c.type.isNullable then d.autoIncrementType c.type.lookupKey
        else none) = none := by
    simp
  rw [← hwritten, ← hserial]
  constructor
  · intro h
    exact ⟨h.unwritten, h.unserial, h.unmapped⟩
  · rintro ⟨hunwritten, hunserial, hunmapped⟩
    exact ⟨hunwritten, hunserial, hunmapped⟩

/-- The name of a column does not matter to its type. -/
theorem unmappable_anonymous : c.anonymous.Unmappable d ↔ c.Unmappable d :=
  ⟨fun h => ⟨h.unwritten, h.unserial, h.unmapped⟩, fun h => ⟨h.unwritten, h.unserial, h.unmapped⟩⟩

theorem not_firstUnmappable_nil : ¬ FirstUnmappable d [] c := by
  rintro ⟨before, after, h, -⟩
  cases before <;> cases h

theorem firstUnmappable_cons :
    FirstUnmappable d (x :: columns) c ↔
      x.Unmappable d ∧ x = c ∨ ¬ x.Unmappable d ∧ FirstUnmappable d columns c := by
  constructor
  · rintro ⟨before, after, hsplit, hbefore, hc⟩
    cases before with
    | nil =>
      obtain ⟨rfl, -⟩ := List.cons.inj hsplit
      exact .inl ⟨hc, rfl⟩
    | cons y before =>
      obtain ⟨rfl, hrest⟩ := List.cons.inj hsplit
      exact .inr ⟨hbefore x List.mem_cons_self, before, after, hrest,
        fun z hz => hbefore z (List.mem_cons_of_mem _ hz), hc⟩
  · rintro (⟨hx, rfl⟩ | ⟨hx, before, after, rfl, hbefore, hc⟩)
    · exact ⟨[], columns, rfl, by simp, hx⟩
    · exact ⟨x :: before, after, rfl, List.forall_mem_cons.2 ⟨hx, hbefore⟩, hc⟩

theorem exists_firstUnmappable_iff :
    (∃ c, FirstUnmappable d columns c) ↔ ∃ c ∈ columns, c.Unmappable d := by
  induction columns with
  | nil => simp [not_firstUnmappable_nil]
  | cons x rest ih =>
    rw [List.exists_mem_cons_iff, ← ih]
    by_cases hx : x.Unmappable d <;> simp [firstUnmappable_cons, hx]

/-- A resolver has no say in whether a column list has a column without a type. -/
theorem exists_unmappable_extract_iff (r : Resolver) (m : Model) :
    (∃ c ∈ (extract r m).1, c.Unmappable d) ↔ ∃ c ∈ m.declaredColumns, c.Unmappable d := by
  have hmap : ∀ columns : List Column, (∃ c ∈ columns, c.Unmappable d) ↔
      ∃ c ∈ columns.map anonymous, c.Unmappable d := fun columns => by
    simp [unmappable_anonymous]
  rw [hmap, extract_anonymous, ← hmap]

end Column

namespace Statement

variable {d : Dialect} {c : Column} {e : DdlError}

theorem columnType_eq_error_iff :
    columnType d c = .error e ↔ c.Unmappable d ∧ e = .unsupportedType c.type c.name := by
  rw [Column.unmappable_iff, columnType]
  -- the first rule that applies ends the search, so only the last case fails
  cases Text.nonBlank c.typeName with
  | some written => simp
  | none =>
    dsimp only
    cases (if c.autoIncrement && !c.type.isNullable then d.autoIncrementType c.type.lookupKey
      else none : Option String) with
    | some name => simp
    | none =>
      cases d.mapType c.type.lookupKey with
      | some t => simp
      | none => simp [eq_comm]

theorem columnLine_eq_error_iff :
    columnLine d c = .error e ↔ c.Unmappable d ∧ e = .unsupportedType c.type c.name := by
  rw [← columnType_eq_error_iff, columnLine]
  cases columnType d c with
  | error e' => rfl
  | ok type =>
    cases c.computedExpression <;> simp

/-- A column list fails as the first of its columns that has no type. -/
theorem columnLines_eq_error_iff {columns : List Column} :
    columnLines d columns = .error e ↔
      ∃ c, Column.FirstUnmappable d columns c ∧ e = .unsupportedType c.type c.name := by
  induction columns with
  | nil => simp [columnLines, Column.not_firstUnmappable_nil]
  | cons x rest ih =>
    rw [columnLines]
    cases hline : columnLine d x with
    | error e' =>
      obtain ⟨hx, rfl⟩ := columnLine_eq_error_iff.1 hline
      simp [Column.firstUnmappable_cons, hx, eq_comm]
    | ok line =>
      have hx : ¬ x.Unmappable d := fun hx => by
        rw [columnLine_eq_error_iff.2 ⟨hx, rfl⟩] at hline
        cases hline
      simp only [Column.firstUnmappable_cons, hx, false_and, false_or, not_false_eq_true, true_and,
        ← ih]
      cases columnLines d rest <;> simp

end Statement

/-! ## Definitions that a queue registers -/

/-- The definitions held after a reference is resolved: a typed one whose identity holds none adds
what the catalog says of it. -/
def ForeignKey.registers (catalog : Catalog) (models : Cache ModelId Model) (key : ForeignKey) :
    Cache ModelId Model :=
  match models.get? key.model.id with
  | some _ => models
  | none =>
    if key.model.typed then (models.hold (catalog key.model.id).id (catalog key.model.id)).2
    else models

theorem ForeignKey.origin_of_registers {catalog : Catalog} {key : ForeignKey}
    {models : Cache ModelId Model} {id : ModelId} {held : Model}
    (h : (key.registers catalog models).get? id = some held) :
    models.get? id = some held ∨ key.model.typed = true ∧ catalog key.model.id = held := by
  rw [registers] at h
  cases hget : models.get? key.model.id with
  | some other =>
    rw [hget] at h
    exact .inl h
  | none =>
    rw [hget] at h
    by_cases ht : key.model.typed = true
    · simp only [if_pos ht] at h
      rcases Cache.get?_hold_eq_some_iff.1 h with h | ⟨-, -, rfl⟩
      · exact .inl h
      · exact .inr ⟨ht, rfl⟩
    · simp only [if_neg ht] at h
      exact .inl h

theorem ForeignKey.origin_of_foldl_registers {catalog : Catalog} {keys : List ForeignKey}
    {models : Cache ModelId Model} {id : ModelId} {held : Model}
    (h : (keys.foldl (registers catalog) models).get? id = some held) :
    models.get? id = some held ∨
      ∃ key ∈ keys, key.model.typed = true ∧ catalog key.model.id = held := by
  induction keys generalizing models with
  | nil => exact .inl h
  | cons key rest ih =>
    rcases ih h with h | ⟨k, hk, hheld⟩
    · rcases origin_of_registers h with h | hheld
      · exact .inl h
      · exact .inr ⟨key, List.mem_cons_self, hheld⟩
    · exact .inr ⟨k, List.mem_cons_of_mem _ hk, hheld⟩

namespace Resolver

theorem models_lookup (r : Resolver) (key : ForeignKey) :
    (r.lookup key.model).2.models = key.registers r.catalog r.models := by
  rw [lookup, ForeignKey.registers]
  cases r.models.get? key.model.id with
  | some held => rfl
  | none => cases key.model.typed <;> rfl

theorem models_referTo (r : Resolver) (m : Model) (member : String) :
    (r.referTo m member).2.models = r.models := by
  change (r.referencedName m member).2.models = _
  rw [referencedName]
  cases m.findMember member <;> rfl

theorem models_resolveReference (r : Resolver) (key : ForeignKey) :
    (r.resolveReference key).2.models = key.registers r.catalog r.models := by
  rw [← models_lookup]
  rcases hlookup : r.lookup key.model with ⟨_ | target, r'⟩
  · rw [resolveReference_of_none hlookup]
  · rw [resolveReference_of_some hlookup, models_referTo]

theorem models_resolveAll (r : Resolver) (keys : List ForeignKey) :
    (r.resolveAll keys).2.models = keys.foldl (ForeignKey.registers r.catalog) r.models := by
  induction keys generalizing r with
  | nil => rfl
  | cons key rest ih =>
    rw [resolveAll_cons, List.foldl_cons, ih, models_resolveReference,
      (extends_resolveReference r key).catalog]

theorem models_ofMembers (r : Resolver) (m : Model) (members : List Member) :
    (Column.ofMembers r m members).2.models = r.models := by
  induction members generalizing r with
  | nil => rfl
  | cons member rest ih =>
    rw [Column.ofMembers_cons, ih]
    rfl

theorem extends_describe (r : Resolver) (m : Model) (defaultSchema : String) :
    r.Extends (Table.describe r m defaultSchema).2 :=
  (extends_ofMembers r m m.mappedMembers).trans (extends_add _ (.table m))

theorem models_describe (r : Resolver) (m : Model) (defaultSchema : String) :
    (Table.describe r m defaultSchema).2.models = r.models :=
  models_ofMembers r m m.mappedMembers

end Resolver

namespace Request

/-- The definitions held after a request is rendered: its model is added and, for a table to
create, what its references add in column order. -/
def registers (catalog : Catalog) (models : Cache ModelId Model) : Request → Cache ModelId Model
  | createTable m _ =>
    (Column.keys m.declaredColumns).foldl (ForeignKey.registers catalog) (models.hold m.id m).2
  | dropTable m _ | truncateTable m => (models.hold m.id m).2
  | _ => models

/-- The definitions that rendering a request may add: its model and, for a table to create, what
the catalog says of the typed references. -/
def definitions (catalog : Catalog) : Request → List Model
  | createTable m _ =>
    m :: ((Column.keys m.declaredColumns).filter fun key => key.model.typed).map
      fun key => catalog key.model.id
  | dropTable m _ | truncateTable m => [m]
  | _ => []

variable {d : Dialect} {r r' : Resolver} {request : Request} {m : Model} {block : String}
  {e : DdlError}

theorem origin_of_registers {catalog : Catalog} {models : Cache ModelId Model} {id : ModelId}
    {held : Model} (h : (request.registers catalog models).get? id = some held) :
    models.get? id = some held ∨ held ∈ request.definitions catalog := by
  cases request with
  | createTable m ifNotExists =>
    rcases ForeignKey.origin_of_foldl_registers h with h | ⟨key, hkey, ht, rfl⟩
    · rcases Cache.get?_hold_eq_some_iff.1 h with h | ⟨-, -, rfl⟩
      · exact .inl h
      · exact .inr List.mem_cons_self
    · exact .inr (List.mem_cons_of_mem _
        (List.mem_map.2 ⟨key, List.mem_filter.2 ⟨hkey, ht⟩, rfl⟩))
  | dropTable m | truncateTable m =>
    rcases Cache.get?_hold_eq_some_iff.1 h with h | ⟨-, -, rfl⟩
    · exact .inl h
    · exact .inr List.mem_cons_self
  | createSchema | dropSchema | createSequence | dropSequence | customSql => exact .inl h

theorem origin_of_foldl_registers {catalog : Catalog} {queue : List Request}
    {models : Cache ModelId Model} {id : ModelId} {held : Model}
    (h : (queue.foldl (registers catalog) models).get? id = some held) :
    models.get? id = some held ∨ ∃ request ∈ queue, held ∈ request.definitions catalog := by
  induction queue generalizing models with
  | nil => exact .inl h
  | cons request rest ih =>
    rcases ih h with h | ⟨q, hq, hheld⟩
    · rcases origin_of_registers h with h | hheld
      · exact .inl h
      · exact .inr ⟨request, List.mem_cons_self, hheld⟩
    · exact .inr ⟨q, List.mem_cons_of_mem _ hq, hheld⟩

/-- A request without a model renders whatever is held, and adds nothing. -/
theorem render_of_model?_none (h : request.model? = none) (d : Dialect) (r : Resolver) :
    ∃ block, request.render d r = (.ok block, r) := by
  rw [render_of_none h]
  cases request with
  | createTable | dropTable | truncateTable => cases h
  | createSchema | dropSchema | createSequence | dropSequence | customSql => exact ⟨_, rfl⟩

theorem registers_of_model?_none (h : request.model? = none) (catalog : Catalog)
    (models : Cache ModelId Model) : request.registers catalog models = models := by
  cases request with
  | createTable | dropTable | truncateTable => cases h
  | createSchema | dropSchema | createSequence | dropSequence | customSql => rfl

/-- The definitions held after a block; the model of the request has been claimed before. -/
theorem models_of_block (hmodel : request.model? = some m)
    (h : request.block d (r.register m).2 = (.ok block, r')) :
    r'.models = request.registers r.catalog r.models := by
  cases request with
  | createTable m ifNotExists =>
    cases hmodel
    have hdescribed := Resolver.models_describe (r.register m).2 m d.defaultSchema
    have hcatalog : (Table.describe (r.register m).2 m d.defaultSchema).2.catalog = r.catalog :=
      ((Resolver.extends_add r (.model m)).trans (Resolver.extends_describe ..)).catalog
    have hkeys : Column.keys (Table.describe (r.register m).2 m d.defaultSchema).1.columns
        = Column.keys m.declaredColumns := Column.keys_extract _ m
    rw [block_createTable_eq] at h
    obtain ⟨lines, -, -, rfl⟩ := Statement.createTable_eq_ok h
    rw [Resolver.models_resolveAll, hkeys, hdescribed, hcatalog]
    rfl
  | dropTable m | truncateTable m =>
    cases hmodel
    cases h
    rfl
  | createSchema | dropSchema | createSequence | dropSequence | customSql => cases hmodel

theorem models_of_render (h : request.render d r = (.ok block, r')) :
    r'.models = request.registers r.catalog r.models := by
  cases hmodel : request.model? with
  | none =>
    obtain ⟨block, hrender⟩ := render_of_model?_none hmodel d r
    rw [hrender] at h
    cases h
    exact (registers_of_model?_none hmodel _ _).symm
  | some m =>
    rcases hclaim : r.claim m with ⟨e | held, r₁⟩
    · rw [render_of_claim_error hmodel hclaim] at h
      cases h
    · rw [render_of_claim_ok hmodel hclaim] at h
      obtain ⟨rfl, -⟩ := Resolver.claim_ok hclaim
      exact models_of_block hmodel h

/-! ## Requests that offend -/

/-- Another definition is held under the identity of the request's model. -/
def Conflicts (models : Cache ModelId Model) (request : Request) : Prop :=
  ∃ m held, request.model? = some m ∧ models.get? m.id = some held ∧ ¬ held.Same m

/-- The request cannot render where the given definitions are held. -/
def Offends (d : Dialect) (models : Cache ModelId Model) (request : Request) : Prop :=
  request.Conflicts models ∨
    ∃ m, request.created? = some m ∧ ∃ c ∈ m.declaredColumns, c.Unmappable d

/-- What a request fails with at a resolver: another definition held goes before a column without
a type, and of these the first in column order counts. -/
inductive Fault (d : Dialect) (r : Resolver) (request : Request) : DdlError → Prop
  | redefined {m : Model} (model : request.model? = some m)
      (conflict : request.Conflicts r.models) :
      Fault d r request (.schema (.redefined m.id.text))
  | unsupported {m : Model} {c : Column} (created : request.created? = some m)
      (claimed : ¬ request.Conflicts r.models)
      (first : Column.FirstUnmappable d (Column.extract r m).1 c) :
      Fault d r request (.unsupportedType c.type c.name)

theorem model?_of_created? (h : request.created? = some m) : request.model? = some m := by
  obtain ⟨ifNotExists, rfl⟩ := created?_eq_some_iff.1 h
  rfl

/-- A request offends just when there is something that it fails with. -/
theorem exists_fault_iff :
    (∃ e, request.Fault d r e) ↔ request.Offends d r.models := by
  constructor
  · rintro ⟨e, h⟩
    cases h with
    | redefined _ hconflict => exact .inl hconflict
    | @unsupported m c hcreated _ hfirst =>
      refine .inr ⟨m, hcreated, (Column.exists_unmappable_extract_iff r m).1 ?_⟩
      exact Column.exists_firstUnmappable_iff.1 ⟨c, hfirst⟩
  · intro h
    by_cases hconflict : request.Conflicts r.models
    · obtain ⟨m, held, hmodel, hget, hother⟩ := hconflict
      exact ⟨_, .redefined hmodel ⟨m, held, hmodel, hget, hother⟩⟩
    · obtain ⟨m, hcreated, hcolumn⟩ := h.resolve_left hconflict
      have hextract := (Column.exists_unmappable_extract_iff r m).2 hcolumn
      obtain ⟨c, hfirst⟩ := Column.exists_firstUnmappable_iff.2 hextract
      exact ⟨_, .unsupported hcreated hconflict hfirst⟩

/-- A claim leaves the cached names alone, so columns read the same after it. -/
theorem extract_claimed (r : Resolver) (m : Model) :
    (Column.extract (r.register m).2 m).1 = (Column.extract r m).1 :=
  Column.extract_congr (show (r.register m).2.columns = r.columns from rfl) m

theorem block_eq_error_iff (hmodel : request.model? = some m) :
    (request.block d (r.register m).2).1 = .error e ↔
      request.created? = some m ∧
        ∃ c, Column.FirstUnmappable d (Column.extract r m).1 c ∧
          e = .unsupportedType c.type c.name := by
  cases request with
  | createTable m ifNotExists =>
    cases hmodel
    rw [block_createTable_eq, Statement.createTable_eq_error_iff,
      Statement.columnLines_eq_error_iff, ← extract_claimed]
    exact (and_iff_right rfl).symm
  | dropTable | truncateTable => simp [block, created?]
  | createSchema | dropSchema | createSequence | dropSequence | customSql => cases hmodel

theorem render_of_conflicts (hmodel : request.model? = some m) (h : request.Conflicts r.models) :
    request.render d r = (.error (.schema (.redefined m.id.text)), r) := by
  obtain ⟨m', held, hmodel', hget, hother⟩ := h
  rw [hmodel] at hmodel'
  cases hmodel'
  exact render_of_claim_error hmodel (Resolver.claim_of_conflict hget hother)

theorem render_of_not_conflicts (hmodel : request.model? = some m)
    (h : ¬ request.Conflicts r.models) :
    request.render d r = request.block d (r.register m).2 := by
  rcases hclaim : r.claim m with ⟨e | held, r₁⟩
  · obtain ⟨-, -, held, hget, hother⟩ := Resolver.claim_error hclaim
    exact absurd ⟨m, held, hmodel, hget, hother⟩ h
  · rw [render_of_claim_ok hmodel hclaim, (Resolver.claim_ok hclaim).1]

theorem render_eq_error_iff : (request.render d r).1 = .error e ↔ request.Fault d r e := by
  -- the claim comes before the block, so columns are looked at only where nothing conflicts
  cases hmodel : request.model? with
  | none =>
    obtain ⟨block, hrender⟩ := render_of_model?_none hmodel d r
    rw [hrender]
    constructor
    · intro h
      cases h
    rintro (⟨hm, -⟩ | ⟨hcreated, -, -⟩)
    · rw [hmodel] at hm
      cases hm
    · rw [model?_of_created? hcreated] at hmodel
      cases hmodel
  | some m =>
    by_cases hconflict : request.Conflicts r.models
    · rw [render_of_conflicts hmodel hconflict]
      constructor
      · intro h
        cases h
        exact .redefined hmodel hconflict
      · rintro (⟨hm, -⟩ | ⟨-, hclaimed, -⟩)
        · rw [hmodel] at hm
          cases hm
          rfl
        · exact absurd hconflict hclaimed
    · rw [render_of_not_conflicts hmodel hconflict, block_eq_error_iff hmodel]
      constructor
      · rintro ⟨hcreated, c, hfirst, rfl⟩
        exact .unsupported hcreated hconflict hfirst
      · rintro (⟨-, h⟩ | ⟨hcreated, -, hfirst⟩)
        · exact absurd h hconflict
        · rw [model?_of_created? hcreated] at hmodel
          cases hmodel
          exact ⟨hcreated, _, hfirst, rfl⟩

/-- A request renders just when it does not offend. -/
theorem exists_render_ok_iff :
    (∃ block r', request.render d r = (.ok block, r')) ↔ ¬ request.Offends d r.models := by
  rw [← exists_fault_iff (r := r)]
  constructor
  · rintro ⟨block, r', h⟩ ⟨e, hfault⟩
    rw [← render_eq_error_iff, h] at hfault
    cases hfault
  · intro h
    rcases hres : request.render d r with ⟨e | block, r'⟩
    · exact absurd ⟨e, render_eq_error_iff.1 (by rw [hres])⟩ h
    · exact ⟨block, r', rfl⟩

/-! ## Queues that are clean -/

/-- No request of a queue offends at its turn, the walk starting from the given definitions. -/
def Clean (d : Dialect) (catalog : Catalog) : Cache ModelId Model → List Request → Prop
  | _, [] => True
  | models, request :: rest =>
    ¬ request.Offends d models ∧ Clean d catalog (request.registers catalog models) rest

variable {queue : List Request} {blocks : List String}

/-- What a queue that renders holds in the end is told by the walk over its requests. -/
theorem Rendered.models (h : Rendered d r queue blocks r') :
    r'.models = queue.foldl (registers r.catalog) r.models := by
  induction h with
  | nil => rfl
  | @cons r r' r'' request rest block blocks hhead htail ih =>
    have hcatalog : r'.catalog = r.catalog := by
      have hextends := extends_render d r request
      rw [hhead] at hextends
      exact hextends.catalog
    rw [ih, List.foldl_cons, models_of_render hhead, hcatalog]

theorem Rendered.renderAll_snd (h : Rendered d r queue blocks r') :
    (renderAll d r queue).2 = r' := by
  rw [renderAll_ok_iff.2 ⟨blocks, h, rfl⟩]

/-- A queue renders just when it is clean. -/
theorem exists_rendered_iff :
    (∃ blocks r', Rendered d r queue blocks r') ↔ Clean d r.catalog r.models queue := by
  induction queue generalizing r with
  | nil => exact ⟨fun _ => trivial, fun _ => ⟨[], r, .nil r⟩⟩
  | cons request rest ih =>
    -- after the head the walk has the definitions that the resolver has
    have hnext : ∀ {block r'}, request.render d r = (.ok block, r') →
        ((∃ blocks r'', Rendered d r' rest blocks r'') ↔
          Clean d r.catalog (request.registers r.catalog r.models) rest) := by
      intro block r' hhead
      have hextends := extends_render d r request
      rw [hhead] at hextends
      rw [ih, models_of_render hhead, hextends.catalog]
    rw [Clean, ← exists_render_ok_iff]
    constructor
    · rintro ⟨blocks, r', h⟩
      cases h with
      | cons hhead htail => exact ⟨⟨_, _, hhead⟩, (hnext hhead).1 ⟨_, _, htail⟩⟩
    · rintro ⟨⟨block, r', hhead⟩, hclean⟩
      obtain ⟨blocks, r'', htail⟩ := (hnext hhead).2 hclean
      exact ⟨block :: blocks, r'', .cons hhead htail⟩

end Request

namespace Builder

open Request (Clean Fault Offends Rendered)

/-- The complete outcome of a build, whatever the resolver holds.  It gives a text just when the
queue is clean, and the text is one block for each request, in queue order.  Otherwise it fails
with the fault of the first request that offends, and leaves what that request and those before
it did to the resolver.  At each turn the definitions held are those of the walk: held from the
start, or added by the requests before. -/
theorem build_outcome (b : Builder) (r : Resolver) :
    ((∃ text r', b.build r = (.ok text, r')) ↔ Clean b.dialect r.catalog r.models b.queue) ∧
    (∀ text r', b.build r = (.ok text, r') ↔
      ∃ blocks, Rendered b.dialect r b.queue blocks r' ∧ text = Request.script blocks) ∧
    (∀ e r', b.build r = (.error e, r') ↔
      ∃ before request after, b.queue = before ++ request :: after ∧
        Clean b.dialect r.catalog r.models before ∧
        request.Offends b.dialect (before.foldl (Request.registers r.catalog) r.models) ∧
        request.Fault b.dialect (Request.renderAll b.dialect r before).2 e ∧
        (request.render b.dialect (Request.renderAll b.dialect r before).2).2 = r') ∧
    ∀ before after, b.queue = before ++ after → Clean b.dialect r.catalog r.models before →
      (Request.renderAll b.dialect r before).2.models
          = before.foldl (Request.registers r.catalog) r.models ∧
        ∀ id held, (Request.renderAll b.dialect r before).2.models.get? id = some held →
          r.models.get? id = some held ∨
            ∃ request ∈ before, held ∈ request.definitions r.catalog := by
  have hwalk : ∀ before blocks r₁, Rendered b.dialect r before blocks r₁ →
      (Request.renderAll b.dialect r before).2 = r₁ ∧
        r₁.models = before.foldl (Request.registers r.catalog) r.models :=
    fun before blocks r₁ h => ⟨h.renderAll_snd, h.models⟩
  refine ⟨?_, fun text r' => Request.renderAll_ok_iff, fun e r' => ?_, fun before after _ h => ?_⟩
  · rw [← Request.exists_rendered_iff]
    constructor
    · rintro ⟨text, r', h⟩
      obtain ⟨blocks, hblocks, -⟩ := Request.renderAll_ok_iff.1 h
      exact ⟨blocks, r', hblocks⟩
    · rintro ⟨blocks, r', h⟩
      exact ⟨_, r', Request.renderAll_ok_iff.2 ⟨blocks, h, rfl⟩⟩
  · refine Request.renderAll_error_iff.trans ?_
    constructor
    · rintro ⟨before, request, after, blocks, r₁, hqueue, hblocks, hfails⟩
      obtain ⟨hend, hmodels⟩ := hwalk before blocks r₁ hblocks
      have hfault : request.Fault b.dialect r₁ e := Request.render_eq_error_iff.1 (by rw [hfails])
      refine ⟨before, request, after, hqueue, Request.exists_rendered_iff.1 ⟨_, _, hblocks⟩, ?_, ?_,
        ?_⟩
      · rw [← hmodels]
        exact Request.exists_fault_iff.1 ⟨e, hfault⟩
      · rwa [hend]
      · rw [hend, hfails]
    · rintro ⟨before, request, after, hqueue, hclean, -, hfault, rfl⟩
      obtain ⟨blocks, r₁, hblocks⟩ := Request.exists_rendered_iff.2 hclean
      obtain ⟨hend, -⟩ := hwalk before blocks r₁ hblocks
      rw [hend] at hfault ⊢
      exact ⟨before, request, after, blocks, r₁, hqueue, hblocks,
        Prod.ext (Request.render_eq_error_iff.2 hfault) rfl⟩
  · obtain ⟨blocks, r₁, hblocks⟩ := Request.exists_rendered_iff.2 h
    obtain ⟨hend, hmodels⟩ := hwalk before blocks r₁ hblocks
    rw [hend, hmodels]
    exact ⟨rfl, fun id held => Request.origin_of_foldl_registers⟩

end Builder
end SchemaDdl
