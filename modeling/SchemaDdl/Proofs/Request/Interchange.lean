import SchemaDdl.Dialect.Builtin
import SchemaDdl.Proofs.Request.Turns
import SchemaDdl.Proofs.Resolver.Erasure

/-!
# Equal definitions in each other's place

A claim takes equal definitions for one.  Their blocks differ in nothing but what their foreign
keys resolve to, under a dialect that does not look at how references are written
(`Dialect.Uniform`); so they fail with the same error, and they render to the same when their
foreign keys resolve to the same targets.  One that is typed in one definition and by name in the
other does so where its target is held: by type it finds it always, by name only there
(`Request.render_of_same`).
-/

namespace SchemaDdl

/-! ## Text and references -/

/-- What a dialect says of a table does not depend on which of its references are typed. -/
structure Dialect.Uniform (d : Dialect) : Prop where
  defaultValueSql : ∀ t : Table, d.defaultValueSql t.untyped = d.defaultValueSql t
  beforeCreateTable : ∀ t : Table, d.beforeCreateTable t.untyped = d.beforeCreateTable t
  afterCreateTable : ∀ t : Table, d.afterCreateTable t.untyped = d.afterCreateTable t

theorem Builtin.uniform (b : Builtin) : b.dialect.Uniform := by
  cases b <;> exact ⟨fun _ => rfl, fun _ => rfl, fun _ => rfl⟩

namespace Statement

variable {d : Dialect}

theorem columnLines_untyped (columns : List Column) :
    columnLines d (columns.map Column.untyped) = columnLines d columns := by
  induction columns with
  | nil => rfl
  | cons c rest ih =>
    have hline : columnLine d c.untyped = columnLine d c := rfl
    rw [List.map_cons, columnLines, columnLines, hline, ih]

theorem filter_untyped {p : Column → Bool} (h : ∀ c : Column, p c.untyped = p c) (t : Table) :
    t.untyped.columns.filter p = (t.columns.filter p).map Column.untyped := by
  rw [Table.untyped, List.filter_map]
  congr 2
  exact funext h

theorem primaryKey_untyped (t : Table) : primaryKey d t.untyped = primaryKey d t := by
  rw [primaryKey, primaryKey, filter_untyped fun _ => rfl]
  simp only [List.isEmpty_map, List.map_map]
  rfl

theorem uniques_untyped (t : Table) : uniques d t.untyped = uniques d t := by
  rw [uniques, uniques, filter_untyped fun _ => rfl, List.map_map]
  rfl

theorem indexes_untyped (t : Table) : indexes d t.untyped = indexes d t := by
  rw [indexes, indexes, filter_untyped fun _ => rfl, List.map_map]
  rfl

theorem defaults_untyped (hd : d.Uniform) (t : Table) : defaults d t.untyped = defaults d t := by
  rw [defaults, defaults, hd.defaultValueSql, Table.untyped, List.filterMap_map]
  rfl

theorem writeForeignKeys_untyped (t : Table) (columns : List Column)
    (targets : List ReferencedColumn) :
    writeForeignKeys d t.untyped (columns.map Column.untyped) targets
      = writeForeignKeys d t columns targets := by
  induction columns generalizing targets with
  | nil => rfl
  | cons c rest ih =>
    have hkey : c.untyped.foreignKey.isSome = c.foreignKey.isSome := Option.isSome_map ..
    cases targets with
    | nil => rfl
    | cons target targets =>
      rw [List.map_cons, writeForeignKeys, writeForeignKeys, hkey, ih, ih]
      rfl

/-- The text of a table depends on its references by what they resolve to only. -/
theorem tableText_untyped (hd : d.Uniform) (t : Table) (ifNotExists : Bool) (lines : List String)
    (targets : List ReferencedColumn) :
    tableText d t.untyped ifNotExists lines targets = tableText d t ifNotExists lines targets := by
  have hkeys : writeForeignKeys d t.untyped t.untyped.columns targets
      = writeForeignKeys d t t.columns targets := writeForeignKeys_untyped t t.columns targets
  rw [tableText, tableText, tableParts, tableParts, hd.beforeCreateTable, hd.afterCreateTable,
    hkeys, primaryKey_untyped, uniques_untyped, defaults_untyped hd, indexes_untyped]
  rfl

end Statement

/-! ## Targets -/

theorem ForeignKey.eq_of_untyped_eq {key key' : ForeignKey} (h : key.untyped = key'.untyped)
    (htyped : key.model.typed = key'.model.typed) : key = key' := by
  obtain ⟨⟨id, typed⟩, member⟩ := key
  obtain ⟨⟨id', typed'⟩, member'⟩ := key'
  cases htyped
  cases h
  rfl

namespace Resolver

/-- Where the target of a foreign key is held, it does not matter how it is written. -/
theorem resolveReference_of_held {r : Resolver} {key : ForeignKey}
    (h : (r.models.get? key.model.id).isSome) :
    r.resolveReference key.untyped = r.resolveReference key := by
  obtain ⟨held, hget⟩ := Option.isSome_iff_exists.1 h
  have hlookup : r.lookup key.untyped.model = r.lookup key.model := by
    rw [lookup, lookup, hget, show r.models.get? key.untyped.model.id = some held from hget]
  rw [resolveReference, resolveReference, hlookup]
  rfl

end Resolver

namespace Turn

variable {r s : Resolver} {columns columns' : List Column} {x y : Turn}

/-- On resolvers that hold equal definitions, foreign keys that differ at most in how they are
written resolve to the same, if they do not differ or their target is held. -/
theorem target_eq_of_held (hr : x.resolver.untyped = y.resolver.untyped)
    (hkey : x.key.untyped = y.key.untyped)
    (h : x.key.model.typed = y.key.model.typed ∨
      (x.resolver.models.get? x.key.model.id).isSome) :
    x.target = y.target ∧ x.next.untyped = y.next.untyped := by
  have hresolve : x.resolver.untyped.resolveReference x.key
      = y.resolver.untyped.resolveReference y.key := by
    rcases h with htyped | hheld
    · rw [hr, ForeignKey.eq_of_untyped_eq hkey htyped]
    · have hid : x.key.model.id = y.key.model.id := congrArg (fun key => key.model.id) hkey
      have hfirst : (x.resolver.untyped.models.get? x.key.model.id).isSome := by
        rwa [Resolver.models_untyped, Option.isSome_map]
      have hsecond : (y.resolver.untyped.models.get? y.key.model.id).isSome := by
        rwa [← hr, ← hid]
      rw [← Resolver.resolveReference_of_held hfirst, ← Resolver.resolveReference_of_held hsecond,
        hkey, hr]
  rw [Resolver.resolveReference_untyped, Resolver.resolveReference_untyped] at hresolve
  obtain ⟨htarget, hnext⟩ := Prod.ext_iff.1 hresolve
  exact ⟨htarget, hnext⟩

/-- The foreign keys of equal columns resolve to the same targets, if each that is typed in one
list only has its target held at its turn. -/
theorem targets_eq_of_held (hr : r.untyped = s.untyped)
    (hcolumns : columns.map Column.untyped = columns'.map Column.untyped)
    (h : ∀ p ∈ (all r columns).zip (all s columns'),
      p.1.key.model.typed = p.2.key.model.typed ∨
        (p.1.resolver.models.get? p.1.key.model.id).isSome) :
    (all r columns).map target = (all s columns').map target := by
  induction columns generalizing columns' r s with
  | nil =>
    cases columns' with
    | nil => rfl
    | cons => cases hcolumns
  | cons c rest ih =>
    cases columns' with
    | nil => cases hcolumns
    | cons c' rest' =>
      obtain ⟨hhead, htail⟩ := List.cons.inj hcolumns
      have hkeys : c.foreignKey.map ForeignKey.untyped = c'.foreignKey.map ForeignKey.untyped :=
        congrArg Column.foreignKey hhead
      rw [all, all] at h ⊢
      cases hkey : c.foreignKey with
      | none =>
        rw [hkey] at hkeys h
        rw [Option.map_eq_none_iff.1 hkeys.symm] at h ⊢
        exact ih hr htail h
      | some key =>
        rw [hkey] at hkeys h
        obtain ⟨key', hkey', huntyped⟩ := Option.map_eq_some_iff.1 hkeys.symm
        rw [hkey'] at h ⊢
        obtain ⟨hfirst, hrest⟩ := List.forall_mem_cons.1 h
        obtain ⟨htarget, hnext⟩ := target_eq_of_held hr huntyped.symm hfirst
        exact List.cons_eq_cons.2 ⟨htarget, ih hnext htail hrest⟩

end Turn

/-! ## Blocks of equal definitions -/

namespace Resolver

variable {a b : Model}

/-- A claim of either of two equal definitions comes to the same. -/
theorem claim_of_same (r : Resolver) (h : a.Same b) :
    (∃ e, (r.claim a).1 = .error e ∧ (r.claim b).1 = .error e) ∨
      ∃ held held', (r.claim a).1 = .ok held ∧ (r.claim b).1 = .ok held' := by
  rw [claim_eq, claim_eq, register_fst, register_fst, h.id_eq]
  cases r.models.get? b.id with
  | none => exact .inr ⟨a, b, if_pos (.refl a), if_pos (.refl b)⟩
  | some held =>
    by_cases hsame : held.Same b
    · exact .inr ⟨held, held, if_pos (hsame.trans h.symm), if_pos hsame⟩
    · exact .inl ⟨_, if_neg fun hother => hsame (hother.trans h), if_neg hsame⟩

theorem register_of_same (r : Resolver) (h : a.Same b) :
    (r.register a).2.untyped = (r.register b).2.untyped := by
  have heq : r.untyped.register a.untyped = r.untyped.register b.untyped := by
    rw [h.untyped_eq]
  rw [register_untyped, register_untyped] at heq
  exact (Prod.ext_iff.1 heq).2

end Resolver

namespace Request

variable {d : Dialect} {a b : Model}

theorem describeClaimed_of_same (d : Dialect) (r : Resolver) (h : a.Same b) :
    (describeClaimed d r a).1.untyped = (describeClaimed d r b).1.untyped ∧
      (describeClaimed d r a).2.untyped = (describeClaimed d r b).2.untyped := by
  have heq : Table.describe (r.register a).2.untyped a.untyped d.defaultSchema
      = Table.describe (r.register b).2.untyped b.untyped d.defaultSchema := by
    rw [r.register_of_same h, h.untyped_eq]
  rw [Table.describe_untyped, Table.describe_untyped] at heq
  exact Prod.ext_iff.1 heq

/-- What a table to create renders to, its claim aside, is told by its table and its targets. -/
theorem createTable_render_fst {r : Resolver} {m held : Model} (ifNotExists : Bool)
    (h : (r.claim m).1 = .ok held) :
    ((createTable m ifNotExists).render d r).1
      = (Statement.columnLines d (describeClaimed d r m).1.columns).map fun lines =>
        Statement.tableText d (describeClaimed d r m).1 ifNotExists lines
          (((createTable m ifNotExists).turns d r).map Turn.target) := by
  have hclaim : r.claim m = (.ok held, (r.claim m).2) := Prod.ext h rfl
  rw [render_of_claim_ok rfl hclaim, block_createTable_eq, (Resolver.claim_ok hclaim).1, turns,
    Turn.map_target_all]
  rw [show Table.describe (r.register m).2 m d.defaultSchema = describeClaimed d r m from rfl]
  cases hlines : Statement.columnLines d (describeClaimed d r m).1.columns with
  | error e =>
    rw [Statement.createTable_of_error hlines]
    rfl
  | ok lines =>
    rw [Statement.createTable_of_ok hlines]
    rfl

/-- Creating the table of either of two equal definitions.  Both fail with the same error, or both
render; and they render to the same if their foreign keys resolve to the same targets, as they do
if each that is typed in one of them only has its target held at its turn. -/
theorem render_of_same (hd : d.Uniform) (h : a.Same b) (r : Resolver) (ifNotExists : Bool) :
    (∀ e, ((createTable a ifNotExists).render d r).1 = .error e ↔
      ((createTable b ifNotExists).render d r).1 = .error e) ∧
    (((createTable a ifNotExists).turns d r).map Turn.target
        = ((createTable b ifNotExists).turns d r).map Turn.target →
      ((createTable a ifNotExists).render d r).1 = ((createTable b ifNotExists).render d r).1) ∧
    ((∀ p ∈ ((createTable a ifNotExists).turns d r).zip ((createTable b ifNotExists).turns d r),
        p.1.key.model.typed = p.2.key.model.typed ∨
          (p.1.resolver.models.get? p.1.key.model.id).isSome) →
      ((createTable a ifNotExists).turns d r).map Turn.target
        = ((createTable b ifNotExists).turns d r).map Turn.target) := by
  obtain ⟨htable, hresolver⟩ := describeClaimed_of_same d r h
  have hcolumns : (describeClaimed d r a).1.columns.map Column.untyped
      = (describeClaimed d r b).1.columns.map Column.untyped := congrArg Table.columns htable
  have hlines : Statement.columnLines d (describeClaimed d r a).1.columns
      = Statement.columnLines d (describeClaimed d r b).1.columns := by
    rw [← Statement.columnLines_untyped, hcolumns, Statement.columnLines_untyped]
  have htext : ∀ lines targets,
      Statement.tableText d (describeClaimed d r a).1 ifNotExists lines targets
        = Statement.tableText d (describeClaimed d r b).1 ifNotExists lines targets := by
    intro lines targets
    rw [← Statement.tableText_untyped hd, htable, Statement.tableText_untyped hd]
  have htargets := Turn.targets_eq_of_held hresolver hcolumns
  rcases r.claim_of_same h with ⟨e, ha, hb⟩ | ⟨held, held', ha, hb⟩
  · rw [render_of_claim_error rfl (Prod.ext ha rfl), render_of_claim_error rfl (Prod.ext hb rfl)]
    exact ⟨fun _ => Iff.rfl, fun _ => rfl, htargets⟩
  · rw [createTable_render_fst ifNotExists ha, createTable_render_fst ifNotExists hb, hlines]
    refine ⟨fun e => ?_, fun heq => ?_, htargets⟩
    · cases Statement.columnLines d (describeClaimed d r b).1.columns <;> simp [Except.map]
    · rw [heq]
      simp only [htext]

end Request

/-! ## References by type and by name -/

namespace Staff

def role : Model :=
  { Model.ofId ⟨"driver::Role"⟩ with
    table := some { name := "roles" }
    members := [({ ident := "id", type := .scalar .i32 } : Member).column "role_id"] }

def catalog : Catalog := fun id => if id = role.id then role else .ofId id

def member : Member := { ident := "role", type := .scalar .i32 }

/-- A worker refers to a role by type. -/
def byType : Model :=
  ((Model.named "Worker").withTable "workers").withMember (member.foreignKey role.id "id")

/-- The same worker refers to the role by name. -/
def byName : Model :=
  ((Model.named "Worker").withTable "workers").withMember (member.references role.id.text "id")

theorem same_workers : byType.Same byName := by
  decide

/-- With the role held both workers render to the same. -/
theorem render_of_same_workers :
    (Builtin.dialect .mssql).Uniform ∧ byType.Same byName ∧
      let r := (Resolver.register (.new catalog) role).2
      ((Request.createTable byType false).render .mssql r).1
        = ((Request.createTable byName false).render .mssql r).1 := by
  refine ⟨Builtin.uniform .mssql, same_workers, ?_⟩
  have hrender := Request.render_of_same (Builtin.uniform .mssql) same_workers
    (Resolver.register (.new catalog) role).2 false
  exact hrender.2.1 (hrender.2.2 (by decide +kernel))

/-- A dialect that notes which tables have typed references. -/
def noting : Dialect :=
  { Dialect.mssql with
    beforeCreateTable := fun t _ =>
      if t.columns.any fun c => c.foreignKey.any (·.model.typed) then some "-- typed" else none }

/-- With nothing held the worker by name writes the role as it is named, under a built-in dialect.
With the role held there are dialects that still tell the two apart. -/
theorem not_render_of_same :
    (¬ ∀ (r : Resolver) (a b : Model) (ifNotExists : Bool), a.Same b →
      ((Request.createTable a ifNotExists).render .mssql r).1
        = ((Request.createTable b ifNotExists).render .mssql r).1) ∧
    ¬ ∀ d : Dialect,
      let r := (Resolver.register (.new catalog) role).2
      ((Request.createTable byType false).render d r).1
        = ((Request.createTable byName false).render d r).1 := by
  constructor
  · intro h
    have hworkers := h (.new catalog) byType byName false same_workers
    revert hworkers
    decide +kernel
  · intro h
    have hworkers := h noting
    revert hworkers
    decide +kernel

end Staff
end SchemaDdl
