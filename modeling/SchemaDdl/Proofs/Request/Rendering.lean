import SchemaDdl.Proofs.Resolver.Growth

/-!
# What rendering does, step by step

The text of a table block is a function of the table and of what its foreign keys resolve to
(`createTable_eq`), so the resolver enters only through names, claims and references.  A queue
that renders is a chain of blocks, each from the resolver that the one before leaves
(`renderAll_ok_iff`); one that fails is such a chain up to the request that fails
(`renderAll_error_iff`).
-/

namespace SchemaDdl

/-! ## Claims -/

namespace Resolver

variable {r r' : Resolver} {m held : Model} {e : DdlError}

theorem claim_ok (h : r.claim m = (.ok held, r')) :
    r' = (r.register m).2 ∧ r'.models.get? m.id = some held ∧ held.Same m := by
  rw [claim_eq] at h
  split at h
  · next hsame =>
    cases h
    exact ⟨rfl, register_get? r m, hsame⟩
  · cases h

theorem claim_error (h : r.claim m = (.error e, r')) :
    r' = r ∧ e = .schema (.redefined m.id.text) ∧
      ∃ held, r.models.get? m.id = some held ∧ ¬ held.Same m := by
  rw [claim_eq] at h
  split at h
  · cases h
  · next hsame =>
    cases h
    cases hget : r.models.get? m.id with
    | none =>
      rw [register_fst, hget] at hsame
      exact absurd (.refl m) hsame
    | some held =>
      rw [register_fst, hget] at hsame
      refine ⟨?_, rfl, held, rfl, hsame⟩
      simp only [register, Cache.hold_of_some hget]

theorem holds_of_claim (h : r.claim m = (.ok held, r')) : r'.Holds m :=
  ⟨held, (claim_ok h).2.1, (claim_ok h).2.2⟩

theorem claim_of_conflict (hget : r.models.get? m.id = some held) (h : ¬ held.Same m) :
    r.claim m = (.error (.schema (.redefined m.id.text)), r) := by
  rw [claim_eq, register_fst, hget, Option.getD_some, if_neg h]
  simp only [register, Cache.hold_of_some hget]

/-! ## References of a list of foreign keys -/

/-- Resolves foreign keys in turn. -/
def resolveAll (r : Resolver) : List ForeignKey → List ReferencedColumn × Resolver
  | [] => ([], r)
  | key :: rest =>
    let (target, r) := r.resolveReference key
    let (targets, r) := r.resolveAll rest
    (target :: targets, r)

theorem resolveAll_cons (r : Resolver) (key : ForeignKey) (rest : List ForeignKey) :
    r.resolveAll (key :: rest) =
      ((r.resolveReference key).1 :: ((r.resolveReference key).2.resolveAll rest).1,
        ((r.resolveReference key).2.resolveAll rest).2) := rfl

theorem length_resolveAll (r : Resolver) (keys : List ForeignKey) :
    (r.resolveAll keys).1.length = keys.length := by
  induction keys generalizing r with
  | nil => rfl
  | cons key rest ih =>
    rw [resolveAll_cons, List.length_cons, List.length_cons, ih]

theorem grows_resolveAll {free : Entry → Prop} {keys : List ForeignKey} (hr : r.Keyed)
    (h : ∀ key ∈ keys, key.model.typed → free (.model (r.catalog key.model.id))) :
    Grows free r (r.resolveAll keys).2 := by
  induction keys generalizing r with
  | nil => exact .refl
  | cons key rest ih =>
    have hhead := grows_resolveReference hr (h key List.mem_cons_self)
    refine hhead.trans (ih (hhead.keyed hr) fun k hk ht => ?_)
    rw [hhead.catalog]
    exact h k (List.mem_cons_of_mem _ hk) ht

end Resolver

/-! ## Columns -/

namespace Column

/-- The foreign keys of some columns, in column order. -/
def keys (columns : List Column) : List ForeignKey :=
  columns.filterMap Column.foreignKey

theorem keys_cons_of_none {c : Column} (h : c.foreignKey = none) (rest : List Column) :
    keys (c :: rest) = keys rest :=
  List.filterMap_cons_none h

theorem keys_cons_of_some {c : Column} {key : ForeignKey} (h : c.foreignKey = some key)
    (rest : List Column) : keys (c :: rest) = key :: keys rest :=
  List.filterMap_cons_some h

theorem describe_eq (r : Resolver) (m : Model) (member : Member) :
    describe r m member = (ofMember (r.resolveColumn m member).1 member,
      (r.resolveColumn m member).2) := rfl

theorem ofMembers_cons (r : Resolver) (m : Model) (member : Member) (rest : List Member) :
    ofMembers r m (member :: rest) =
      (ofMember (r.resolveColumn m member).1 member
          :: (ofMembers (r.resolveColumn m member).2 m rest).1,
        (ofMembers (r.resolveColumn m member).2 m rest).2) := rfl

theorem extract_eq (r : Resolver) (m : Model) :
    extract r m = (arrange Column.order (ofMembers r m m.mappedMembers).1,
      (ofMembers r m m.mappedMembers).2) := rfl

theorem mem_ofMembers {r : Resolver} {m : Model} {members : List Member} {c : Column}
    (h : c ∈ (ofMembers r m members).1) : ∃ member ∈ members, ∃ name, c = ofMember name member := by
  induction members generalizing r with
  | nil => cases h
  | cons member rest ih =>
    rw [ofMembers_cons] at h
    rcases List.mem_cons.1 h with rfl | h
    · exact ⟨member, List.mem_cons_self, _, rfl⟩
    · obtain ⟨x, hx, name, rfl⟩ := ih h
      exact ⟨x, List.mem_cons_of_mem _ hx, name, rfl⟩

theorem mem_arrange {α : Type} {order : α → Option Nat} {columns : List α} {c : α} :
    c ∈ arrange order columns ↔ c ∈ columns :=
  (arrange_perm columns).mem_iff

theorem mem_extract {r : Resolver} {m : Model} {c : Column} (h : c ∈ (extract r m).1) :
    ∃ member ∈ m.mappedMembers, ∃ name, c = ofMember name member :=
  mem_ofMembers (mem_arrange.1 h)

/-- The foreign keys of a model's columns are among those that its members declare. -/
theorem mem_foreignKeys_of_mem_keys {r : Resolver} {m : Model} {key : ForeignKey}
    (h : key ∈ keys (extract r m).1) : key ∈ m.foreignKeys := by
  obtain ⟨c, hc, hkey⟩ := List.mem_filterMap.1 h
  obtain ⟨member, hmem, name, rfl⟩ := mem_extract hc
  obtain ⟨a, ha, hfound⟩ := List.exists_of_findSome?_eq_some hkey
  exact List.mem_flatMap.2
    ⟨member, (List.mem_filter.1 hmem).1, List.mem_filterMap.2 ⟨a, ha, hfound⟩⟩

end Column

/-! ## Tables -/

namespace Table

theorem resolve_eq (r : Resolver) (m : Model) (defaultSchema : String) :
    resolve r m defaultSchema =
      ({ model := m.id
         name := (r.resolveTable m).1.name
         schema := (r.resolveTable m).1.schemaOr defaultSchema }, (r.resolveTable m).2) := rfl

theorem describe_eq (r : Resolver) (m : Model) (defaultSchema : String) :
    describe r m defaultSchema =
      ({ (resolve (Column.extract r m).2 m defaultSchema).1 with
          columns := (Column.extract r m).1 },
        (resolve (Column.extract r m).2 m defaultSchema).2) := rfl

end Table

namespace Statement

variable {d : Dialect} {t : Table} {r : Resolver}

/-- The foreign key statements of some columns, given what their keys resolve to. -/
def writeForeignKeys (d : Dialect) (t : Table) : List Column → List ReferencedColumn → List String
  | c :: rest, target :: targets =>
    if c.foreignKey.isSome then foreignKey d t c target :: writeForeignKeys d t rest targets
    else writeForeignKeys d t rest (target :: targets)
  | _, _ => []

theorem foreignKeys_eq (d : Dialect) (t : Table) (r : Resolver) (columns : List Column) :
    foreignKeys d t r columns =
      (writeForeignKeys d t columns (r.resolveAll (Column.keys columns)).1,
        (r.resolveAll (Column.keys columns)).2) := by
  induction columns generalizing r with
  | nil => rfl
  | cons c rest ih =>
    cases hkey : c.foreignKey with
    | none =>
      rw [foreignKeys, hkey, Column.keys_cons_of_none hkey]
      simp only [ih]
      cases (r.resolveAll (Column.keys rest)).1 with
      | nil => cases rest <;> rfl
      | cons target targets => simp [writeForeignKeys, hkey]
    | some key =>
      rw [foreignKeys, hkey, Column.keys_cons_of_some hkey, Resolver.resolveAll_cons]
      simp [ih, writeForeignKeys, hkey]

/-- The statements of a table whose columns have the given lines and whose foreign keys resolve
to the given targets. -/
def tableParts (d : Dialect) (t : Table) (ifNotExists : Bool) (lines : List String)
    (targets : List ReferencedColumn) : List String :=
  (d.beforeCreateTable t ifNotExists).toList
    ++ tableStatement d t ifNotExists lines :: primaryKey d t
    ++ writeForeignKeys d t t.columns targets ++ uniques d t ++ defaults d t ++ indexes d t
    ++ (d.afterCreateTable t ifNotExists).toList

/-- The block of a table whose columns have the given lines. -/
def tableText (d : Dialect) (t : Table) (ifNotExists : Bool) (lines : List String)
    (targets : List ReferencedColumn) : String :=
  "\n".intercalate (tableParts d t ifNotExists lines targets)

theorem createTable_of_error {ifNotExists : Bool} {e : DdlError}
    (h : columnLines d t.columns = .error e) : createTable d r t ifNotExists = (.error e, r) := by
  rw [createTable, createTableParts, h]
  rfl

theorem createTable_of_ok {ifNotExists : Bool} {lines : List String}
    (h : columnLines d t.columns = .ok lines) :
    createTable d r t ifNotExists =
      (.ok (tableText d t ifNotExists lines (r.resolveAll (Column.keys t.columns)).1),
        (r.resolveAll (Column.keys t.columns)).2) := by
  rw [createTable, createTableParts, h]
  simp only [foreignKeys_eq]
  rfl

theorem createTable_eq_error_iff {ifNotExists : Bool} {e : DdlError} :
    (createTable d r t ifNotExists).1 = .error e ↔ columnLines d t.columns = .error e := by
  cases hlines : columnLines d t.columns with
  | error e' => simp [createTable_of_error hlines]
  | ok lines => simp [createTable_of_ok hlines]

/-- A table that renders has lines for all its columns, and resolves all its foreign keys. -/
theorem createTable_eq_ok {ifNotExists : Bool} {block : String} {r' : Resolver}
    (h : createTable d r t ifNotExists = (.ok block, r')) :
    ∃ lines, columnLines d t.columns = .ok lines ∧
      block = tableText d t ifNotExists lines (r.resolveAll (Column.keys t.columns)).1 ∧
      r' = (r.resolveAll (Column.keys t.columns)).2 := by
  cases hlines : columnLines d t.columns with
  | error e =>
    rw [createTable_of_error hlines] at h
    cases h
  | ok lines =>
    rw [createTable_of_ok hlines] at h
    cases h
    exact ⟨lines, rfl, rfl, rfl⟩

theorem grows_createTable {free : Entry → Prop} (hr : r.Keyed) (ifNotExists : Bool)
    (h : ∀ key ∈ Column.keys t.columns,
      key.model.typed → free (.model (r.catalog key.model.id))) :
    Resolver.Grows free r (createTable d r t ifNotExists).2 := by
  cases hlines : columnLines d t.columns with
  | error e =>
    rw [createTable_of_error hlines]
    exact .refl
  | ok lines =>
    rw [createTable_of_ok hlines]
    exact Resolver.grows_resolveAll hr h

end Statement

/-! ## Requests -/

namespace Request

variable {d : Dialect} {r r' : Resolver} {request : Request} {m held : Model} {e : DdlError}

theorem render_of_none (h : request.model? = none) : request.render d r = request.block d r := by
  rw [render, h]

theorem render_of_claim_ok (h : request.model? = some m) (hclaim : r.claim m = (.ok held, r')) :
    request.render d r = request.block d r' := by
  rw [render, h]
  simp only [hclaim]

theorem render_of_claim_error (h : request.model? = some m)
    (hclaim : r.claim m = (.error e, r')) : request.render d r = (.error e, r') := by
  rw [render, h]
  simp only [hclaim]

theorem block_createTable_eq (d : Dialect) (r : Resolver) (m : Model) (ifNotExists : Bool) :
    (createTable m ifNotExists).block d r
      = Statement.createTable d (Table.describe r m d.defaultSchema).2
        (Table.describe r m d.defaultSchema).1 ifNotExists := rfl

theorem created?_eq_some_iff : request.created? = some m ↔
    ∃ ifNotExists, request = .createTable m ifNotExists := by
  cases request <;> simp [created?]

/-- The definitions that rendering a request may register are free to be added: its model, and
what the catalog says of the typed references in it. -/
def Within (catalog : Catalog) (free : Entry → Prop) (request : Request) : Prop :=
  ∀ m, request.model? = some m → free (.model m) ∧
    ∀ key ∈ m.foreignKeys, key.model.typed → free (.model (catalog key.model.id))

open Resolver (Grows)

theorem grows_block {free : Entry → Prop} (hr : r.Keyed) (h : request.Within r.catalog free)
    (hheld : ∀ m, request.model? = some m → r.Holds m) : Grows free r (request.block d r).2 := by
  cases request with
  | createTable m ifNotExists =>
    have hname : Resolver.Nameable free r m := .inl (hheld m rfl)
    have hdescribe := hname.grows_describe d.defaultSchema
    refine hdescribe.trans (Statement.grows_createTable (hdescribe.keyed hr) ifNotExists ?_)
    intro key hkey ht
    rw [hdescribe.catalog]
    exact (h m rfl).2 key (Column.mem_foreignKeys_of_mem_keys hkey) ht
  | dropTable m | truncateTable m =>
    have hname : Resolver.Nameable free r m := .inl (hheld m rfl)
    exact hname.grows_resolve d.defaultSchema
  | createSchema | dropSchema | createSequence | dropSequence | customSql => exact .refl

theorem grows_render {free : Entry → Prop} (hr : r.Keyed) (h : request.Within r.catalog free) :
    Grows free r (request.render d r).2 := by
  cases hmodel : request.model? with
  | none =>
    rw [render_of_none hmodel]
    exact grows_block hr h fun m hm => by rw [hmodel] at hm; cases hm
  | some m =>
    have hclaim : Grows free r (r.claim m).2 := Resolver.grows_claim (h m hmodel).1
    rcases hres : r.claim m with ⟨e | held, r'⟩
    · rw [render_of_claim_error hmodel hres]
      rwa [hres] at hclaim
    · rw [hres] at hclaim
      rw [render_of_claim_ok hmodel hres]
      refine hclaim.trans (grows_block (hclaim.keyed hr) ?_ fun m' hm' => ?_)
      · rw [hclaim.catalog]
        exact h
      · rw [hmodel] at hm'
        cases hm'
        exact Resolver.holds_of_claim hres

theorem within_true (catalog : Catalog) (request : Request) :
    request.Within catalog fun _ => True :=
  fun _ _ => ⟨trivial, fun _ _ _ => trivial⟩

/-- A model whose request renders is held afterwards. -/
theorem holds_of_render (hr : r.Keyed) (hmodel : request.model? = some m) {block : String}
    (h : request.render d r = (.ok block, r')) : r'.Holds m := by
  rcases hres : r.claim m with ⟨e | held, r₁⟩
  · rw [render_of_claim_error hmodel hres] at h
    cases h
  · have hclaim : r₁.Keyed := by
      rw [(Resolver.claim_ok hres).1]
      exact hr.add (.model m)
    have hm := Resolver.holds_of_claim hres
    have hgrows : Grows (fun _ => True) r₁ (request.block d r₁).2 :=
      grows_block hclaim (within_true _ _) fun m' hm' => by
        rw [hmodel] at hm'
        cases hm'
        exact hm
    rw [render_of_claim_ok hmodel hres] at h
    rw [h] at hgrows
    exact hm.mono hgrows.extends

/-! ## Queues -/

/-- The text of some blocks, each with a line end. -/
def script (blocks : List String) : String :=
  blocks.foldr (fun block text => block ++ "\n" ++ text) ""

/-- A queue renders to blocks, one for each request, each from the resolver that the one before
leaves. -/
inductive Rendered (d : Dialect) : Resolver → List Request → List String → Resolver → Prop
  | nil (r : Resolver) : Rendered d r [] [] r
  | cons {r r' r'' : Resolver} {request : Request} {rest : List Request} {block : String}
      {blocks : List String} (head : request.render d r = (.ok block, r'))
      (tail : Rendered d r' rest blocks r'') :
      Rendered d r (request :: rest) (block :: blocks) r''

theorem renderAll_cons_error {queue : List Request} (h : request.render d r = (.error e, r')) :
    renderAll d r (request :: queue) = (.error e, r') := by
  simp only [renderAll, h]

theorem renderAll_cons_ok {queue : List Request} {block : String}
    (h : request.render d r = (.ok block, r')) :
    renderAll d r (request :: queue) =
      ((renderAll d r' queue).1.map (block ++ "\n" ++ ·), (renderAll d r' queue).2) := by
  simp only [renderAll, h]
  rcases renderAll d r' queue with ⟨_ | _, _⟩ <;> rfl

theorem renderAll_ok_iff {queue : List Request} {text : String} :
    renderAll d r queue = (.ok text, r') ↔
      ∃ blocks, Rendered d r queue blocks r' ∧ text = script blocks := by
  constructor
  · intro h
    induction queue generalizing r text with
    | nil =>
      cases h
      exact ⟨[], .nil _, rfl⟩
    | cons request rest ih =>
      rcases hhead : request.render d r with ⟨e | block, r₁⟩
      · rw [renderAll_cons_error hhead] at h
        cases h
      · rw [renderAll_cons_ok hhead] at h
        rcases htail : renderAll d r₁ rest with ⟨e | tail, r₂⟩
        · rw [htail] at h
          cases h
        · rw [htail] at h
          cases h
          obtain ⟨blocks, hblocks, rfl⟩ := ih htail
          exact ⟨block :: blocks, .cons hhead hblocks, rfl⟩
  · rintro ⟨blocks, h, rfl⟩
    induction h with
    | nil => rfl
    | cons hhead _ ih =>
      rw [renderAll_cons_ok hhead, ih]
      rfl

theorem renderAll_error_iff {queue : List Request} :
    renderAll d r queue = (.error e, r') ↔
      ∃ before request after blocks r₁, queue = before ++ request :: after ∧
        Rendered d r before blocks r₁ ∧ request.render d r₁ = (.error e, r') := by
  constructor
  · intro h
    induction queue generalizing r with
    | nil => cases h
    | cons request rest ih =>
      rcases hhead : request.render d r with ⟨e | block, r₁⟩
      · rw [renderAll_cons_error hhead] at h
        cases h
        exact ⟨[], request, rest, [], r, rfl, .nil r, hhead⟩
      · rw [renderAll_cons_ok hhead] at h
        rcases htail : renderAll d r₁ rest with ⟨e | tail, r₂⟩
        · rw [htail] at h
          cases h
          obtain ⟨before, failing, after, blocks, r₂, rfl, hblocks, herror⟩ := ih htail
          exact ⟨request :: before, failing, after, block :: blocks, r₂, rfl,
            .cons hhead hblocks, herror⟩
        · rw [htail] at h
          cases h
  · rintro ⟨before, failing, after, blocks, r₁, rfl, hblocks, herror⟩
    induction hblocks with
    | nil =>
      rw [List.nil_append]
      exact renderAll_cons_error herror
    | cons hhead _ ih =>
      rw [List.cons_append, renderAll_cons_ok hhead, ih herror]
      rfl

theorem grows_renderAll {free : Entry → Prop} {queue : List Request} (hr : r.Keyed)
    (h : ∀ request ∈ queue, request.Within r.catalog free) :
    Grows free r (renderAll d r queue).2 := by
  induction queue generalizing r with
  | nil => exact .refl
  | cons request rest ih =>
    have hhead : Grows free r (request.render d r).2 :=
      grows_render hr (h request List.mem_cons_self)
    rcases hres : request.render d r with ⟨e | block, r₁⟩
    · rw [renderAll_cons_error hres]
      rwa [hres] at hhead
    · rw [hres] at hhead
      rw [renderAll_cons_ok hres]
      refine hhead.trans (ih (hhead.keyed hr) fun q hq => ?_)
      rw [hhead.catalog]
      exact h q (List.mem_cons_of_mem _ hq)

theorem Rendered.grows {free : Entry → Prop} {queue : List Request} {blocks : List String}
    (h : Rendered d r queue blocks r') (hr : r.Keyed)
    (hwithin : ∀ request ∈ queue, request.Within r.catalog free) : Grows free r r' := by
  have hgrows := grows_renderAll (d := d) hr hwithin
  rwa [renderAll_ok_iff.2 ⟨blocks, h, rfl⟩] at hgrows

end Request
end SchemaDdl
