import SchemaDdl.Proofs.Builder.Outcome
import SchemaDdl.Proofs.Statement.Wording

/-!
# Foreign keys at their turn

A table block resolves the foreign keys of its columns in column order, each on the resolver that
the one before leaves (`Turn`).  A turn that finds its target leaves the names that it writes in
the caches, under the identity of the target (`Turn.tables_get?`, `Turn.columns_get?`).  Blocks
and column lists read the same caches (`Request.names_of_keeps`, `Table.lists_describe`), so on a
resolver that keeps the entries of both they agree, whichever came first.
-/

namespace SchemaDdl

open Resolver (Extends)

/-! ## Turns -/

/-- A foreign key of a table block at its turn: the column that has it, and the resolver that it
is resolved on. -/
structure Turn where
  column : Column
  key : ForeignKey
  resolver : Resolver

namespace Turn

/-- The table and column that the turn writes. -/
def target (x : Turn) : ReferencedColumn := (x.resolver.resolveReference x.key).1

/-- The resolver that the turn leaves. -/
def next (x : Turn) : Resolver := (x.resolver.resolveReference x.key).2

/-- The definition that the turn finds for its foreign key. -/
def found (x : Turn) : Option Model := (x.resolver.lookup x.key.model).1

/-- The turns of some columns, which start on the given resolver. -/
def all (r : Resolver) : List Column → List Turn
  | [] => []
  | c :: rest =>
    match c.foreignKey with
    | none => all r rest
    | some key => ⟨c, key, r⟩ :: all (r.resolveReference key).2 rest

variable {r s : Resolver} {columns : List Column} {x : Turn} {m : Model}

/-- The turns of some columns are the foreign keys of the columns that have one. -/
theorem map_all (r : Resolver) (columns : List Column) :
    (all r columns).map (fun x => (x.column, x.key))
      = columns.filterMap fun c => c.foreignKey.map (c, ·) := by
  induction columns generalizing r with
  | nil => rfl
  | cons c rest ih =>
    rw [all]
    cases hkey : c.foreignKey with
    | none =>
      rw [List.filterMap_cons_none (by rw [hkey]; rfl)]
      exact ih r
    | some key =>
      rw [List.filterMap_cons_some (by rw [hkey]; rfl)]
      exact congrArg _ (ih _)

/-- The targets of the turns are what resolving the foreign keys in turn gives. -/
theorem map_target_all (r : Resolver) (columns : List Column) :
    (all r columns).map target = (r.resolveAll (Column.keys columns)).1 := by
  induction columns generalizing r with
  | nil => rfl
  | cons c rest ih =>
    rw [all]
    cases hkey : c.foreignKey with
    | none =>
      rw [Column.keys_cons_of_none hkey]
      exact ih r
    | some key =>
      rw [Column.keys_cons_of_some hkey, Resolver.resolveAll_cons]
      exact congrArg _ (ih _)

/-- The foreign key statements of a block are what its turns write. -/
theorem foreignKeys_fst (d : Dialect) (t : Table) (r : Resolver) (columns : List Column) :
    (Statement.foreignKeys d t r columns).1
      = (all r columns).map fun x => Statement.referring d t x.column x.target := by
  induction columns generalizing r with
  | nil => rfl
  | cons c rest ih =>
    rw [Statement.foreignKeys, all]
    cases c.foreignKey with
    | none => exact ih r
    | some key => exact congrArg _ (ih _)

/-- A turn comes after what its block starts from, and the block keeps what it leaves. -/
theorem extends_of_mem_all (h : x ∈ all r columns) :
    r.Extends x.resolver ∧ x.next.Extends (r.resolveAll (Column.keys columns)).2 := by
  induction columns generalizing r with
  | nil => cases h
  | cons c rest ih =>
    cases hkey : c.foreignKey with
    | none =>
      rw [all, hkey] at h
      rw [Column.keys_cons_of_none hkey]
      exact ih h
    | some key =>
      rw [all, hkey] at h
      rw [Column.keys_cons_of_some hkey, Resolver.resolveAll_cons]
      rcases List.mem_cons.1 h with rfl | h
      · exact ⟨.refl r, Resolver.extends_resolveAll _ _⟩
      · obtain ⟨hafter, hkept⟩ := ih h
        exact ⟨(Resolver.extends_resolveReference r key).trans hafter, hkept⟩

/-! ## Which turns find their target -/

theorem found_of_get? (h : x.resolver.models.get? x.key.model.id = some m) : x.found = some m := by
  rw [found, Resolver.lookup, h]

theorem isSome_found_of_typed (h : x.key.model.typed = true) : x.found.isSome := by
  rw [found, Resolver.lookup]
  cases x.resolver.models.get? x.key.model.id with
  | some held => rfl
  | none =>
    rw [if_pos h]
    rfl

/-! ## What a turn leaves -/

theorem resolveReference_eq (h : x.found = some m) :
    x.resolver.resolveReference x.key
      = (x.resolver.lookup x.key.model).2.referTo m x.key.member :=
  Resolver.resolveReference_of_some (Prod.ext h rfl)

/-- The table that a turn writes is the one cached for its target from then on. -/
theorem tables_get? (h : x.found = some m) (hs : x.next.Extends s) :
    s.tables.get? m.id = some x.target.table := by
  refine hs.table ?_
  rw [next, target, resolveReference_eq h]
  exact Resolver.resolveTable_get? _ m

/-- The column that a turn writes for a member of its target is the one cached for the member
from then on. -/
theorem columns_get? (h : x.found = some m) {member : Member}
    (hmember : m.findMember x.key.member = some member) (hs : x.next.Extends s) :
    s.columns.get? (m.id, x.key.member) = some x.target.column := by
  have hident : member.ident = x.key.member := by simpa using List.find?_some hmember
  refine hs.column ?_
  rw [next, target, resolveReference_eq h, Resolver.referTo, Resolver.referencedName, hmember]
  rw [← hident]
  exact Resolver.resolveColumn_get? _ m member

end Turn

/-! ## Column lists -/

namespace Column

variable {r : Resolver} {m : Model} {c : Column}

theorem columns_get?_of_mem_ofMembers {members : List Member} (h : c ∈ (ofMembers r m members).1) :
    (ofMembers r m members).2.columns.get? (m.id, c.member) = some c.name := by
  induction members generalizing r with
  | nil => cases h
  | cons member rest ih =>
    rw [ofMembers_cons] at h ⊢
    rcases List.mem_cons.1 h with rfl | h
    · exact (Resolver.extends_ofMembers _ m rest).column (Resolver.resolveColumn_get? r m member)
    · exact ih h

/-- The name of an extracted column is the one cached for its member. -/
theorem columns_get?_of_mem_extract (h : c ∈ (extract r m).1) :
    (extract r m).2.columns.get? (m.id, c.member) = some c.name :=
  columns_get?_of_mem_ofMembers (mem_arrange.1 h)

/-- Every mapped member has a column. -/
theorem exists_mem_extract (r : Resolver) {member : Member} (h : member ∈ m.mappedMembers) :
    ∃ c ∈ (extract r m).1, c.member = member.ident := by
  have hdeclared : member.declaredColumn.anonymous ∈ (extract r m).1.map anonymous := by
    rw [extract_anonymous]
    exact List.mem_map_of_mem (mem_arrange.2 (List.mem_map_of_mem h))
  obtain ⟨c, hc, hanonymous⟩ := List.mem_map.1 hdeclared
  exact ⟨c, hc, congrArg Column.member hanonymous⟩

end Column

/-- The columns of a table have the names that are cached for their members. -/
def Table.Lists (s : Resolver) (t : Table) : Prop :=
  ∀ c ∈ t.columns, s.columns.get? (t.model, c.member) = some c.name

namespace Table

variable {r s : Resolver}

theorem Lists.mono {t : Table} (h : t.Lists r) (hs : r.Extends s) : t.Lists s :=
  fun c hc => hs.column (h c hc)

theorem lists_describe (r : Resolver) (m : Model) (defaultSchema : String) :
    (describe r m defaultSchema).1.Lists (describe r m defaultSchema).2 :=
  fun _ hc => Column.columns_get?_of_mem_extract hc

end Table

/-! ## Blocks -/

/-- The block of a table whose columns have the given lines, with the given foreign key
statements. -/
def Statement.tableBlock (d : Dialect) (t : Table) (ifNotExists : Bool)
    (lines references : List String) : String :=
  "\n".intercalate ((d.beforeCreateTable t ifNotExists).toList
    ++ tableStatement d t ifNotExists lines :: primaryKey d t
    ++ references ++ uniques d t ++ defaults d t ++ indexes d t
    ++ (d.afterCreateTable t ifNotExists).toList)

/-- The text of a block whose foreign keys are resolved in turn. -/
theorem Statement.tableText_resolveAll (d : Dialect) (r : Resolver) (t : Table)
    (ifNotExists : Bool) (lines : List String) :
    tableText d t ifNotExists lines (r.resolveAll (Column.keys t.columns)).1
      = tableBlock d t ifNotExists lines
        ((Turn.all r t.columns).map fun x => referring d t x.column x.target) := by
  rw [← Turn.foreignKeys_fst, foreignKeys_eq]
  rfl

namespace Request

variable {d : Dialect} {r r' s : Resolver} {request : Request} {m : Model} {block : String}

/-- The table of a model with its columns, the model being claimed first. -/
def describeClaimed (d : Dialect) (r : Resolver) (m : Model) : Table × Resolver :=
  Table.describe (r.register m).2 m d.defaultSchema

/-- The table that a request creates. -/
def table? (d : Dialect) (r : Resolver) (request : Request) : Option Table :=
  request.created?.map fun m => (describeClaimed d r m).1

/-- The turns of the foreign keys of a table to create. -/
def turns (d : Dialect) (r : Resolver) : Request → List Turn
  | createTable m _ => Turn.all (describeClaimed d r m).2 (describeClaimed d r m).1.columns
  | _ => []

theorem block_of_render (hmodel : request.model? = some m)
    (h : request.render d r = (.ok block, r')) :
    request.block d (r.register m).2 = (.ok block, r') := by
  rcases hclaim : r.claim m with ⟨e | held, r₁⟩
  · rw [render_of_claim_error hmodel hclaim] at h
    cases h
  · rwa [render_of_claim_ok hmodel hclaim, (Resolver.claim_ok hclaim).1] at h

/-- A table block that renders has one foreign key statement for each turn, and leaves what
resolving the foreign keys leaves. -/
theorem createTable_of_render {ifNotExists : Bool}
    (h : (createTable m ifNotExists).render d r = (.ok block, r')) :
    ∃ lines, Statement.columnLines d (describeClaimed d r m).1.columns = .ok lines ∧
      block = Statement.tableBlock d (describeClaimed d r m).1 ifNotExists lines
        (((createTable m ifNotExists).turns d r).map fun x =>
          Statement.referring d (describeClaimed d r m).1 x.column x.target) ∧
      r' = ((describeClaimed d r m).2.resolveAll
        (Column.keys (describeClaimed d r m).1.columns)).2 := by
  have hblock := block_of_render (m := m) rfl h
  rw [block_createTable_eq] at hblock
  obtain ⟨lines, hlines, rfl, rfl⟩ := Statement.createTable_eq_ok hblock
  exact ⟨lines, hlines, Statement.tableText_resolveAll .., rfl⟩

/-- What a turn of a block leaves, the rendering keeps. -/
theorem next_extends_of_render (h : request.render d r = (.ok block, r')) {x : Turn}
    (hx : x ∈ request.turns d r) : x.next.Extends r' := by
  cases request with
  | createTable m ifNotExists =>
    obtain ⟨lines, -, -, rfl⟩ := createTable_of_render h
    exact (Turn.extends_of_mem_all hx).2
  | _ => cases hx

/-- The columns of a table block have the names that are cached after it. -/
theorem lists_of_render (h : request.render d r = (.ok block, r')) {t : Table}
    (ht : request.table? d r = some t) : t.Lists r' := by
  cases request with
  | createTable m ifNotExists =>
    cases ht
    obtain ⟨lines, -, -, rfl⟩ := createTable_of_render h
    exact (Table.lists_describe _ m d.defaultSchema).mono (Resolver.extends_resolveAll ..)
  | _ => cases ht

theorem register_extends_turn {x : Turn} (hx : x ∈ request.turns d r)
    (hmodel : request.model? = some m) : (r.register m).2.Extends x.resolver := by
  cases request with
  | createTable m ifNotExists =>
    cases hmodel
    have hdescribe : (r.register m).2.Extends (describeClaimed d r m).2 :=
      Resolver.extends_describe ..
    exact hdescribe.trans (Turn.extends_of_mem_all hx).1
  | _ => cases hx

/-- A definition that is held before a block is found by its foreign keys. -/
theorem found_of_held {x : Turn} (hx : x ∈ request.turns d r) (hmodel : request.model? = some m)
    {held : Model} (h : r.models.get? x.key.model.id = some held) : x.found = some held := by
  have hclaimed : r.Extends (r.register m).2 := Resolver.extends_add r (.model m)
  exact Turn.found_of_get? ((hclaimed.trans (register_extends_turn hx hmodel)).model h)

/-- A table block finds its own model. -/
theorem isSome_found_of_own {x : Turn} (hx : x ∈ request.turns d r)
    (hmodel : request.model? = some m) (h : x.key.model.id = m.id) : x.found.isSome := by
  have hget := (register_extends_turn hx hmodel).model (Resolver.register_get? r m)
  rw [← h] at hget
  rw [Turn.found_of_get? hget]
  rfl

end Request
end SchemaDdl
