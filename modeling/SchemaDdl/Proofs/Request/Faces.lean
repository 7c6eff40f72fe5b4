import SchemaDdl.Proofs.Builder.Repetition
import SchemaDdl.Proofs.Resolver.Erasure
import SchemaDdl.Proofs.Lists

/-!
# What rendering reads

Under a dialect a definition has a face: its identity and identifier, the table it stands for, and
for each member what its column comes to, the line of the column list included.  Rendering reads
definitions through their faces only.  So two resolvers that match, those whose names and
definitions have the same faces, keep matching whatever is resolved on them, and they render two
queues with the same faces to the same text or the same failure, as long as the models of each
queue are held as they are (`Request.renderAll_eq_of_face`).
-/

namespace SchemaDdl

open Column (arrange)

/-! ## Faces -/

/-- What rendering reads of a column: the line that it gives, and the constraints on it. -/
structure Column.Face where
  name : String
  order : Option Nat
  line : Except DdlError String
  primaryKey : Bool
  foreignKey : Option ForeignKey
  unique : Bool
  defaultLiteral : Option String
  index : Bool
  indexUnique : Bool

def Column.face (d : Dialect) (c : Column) : Face where
  name := c.name
  order := c.order
  line := Statement.columnLine d c
  primaryKey := c.primaryKey
  foreignKey := c.foreignKey
  unique := c.unique
  defaultLiteral := c.defaultLiteral
  index := c.index
  indexUnique := c.indexUnique

/-- What rendering reads of a member; its column depends on the name that it gets. -/
structure Member.Face where
  ident : String
  columnName : String
  isMapped : Bool
  column : String → Column.Face

def Member.face (d : Dialect) (m : Member) : Face where
  ident := m.ident
  columnName := m.columnName
  isMapped := m.isMapped
  column name := (Column.ofMember name m).face d

/-- The name with the schema that it stands for. -/
def TableName.face (d : Dialect) (t : TableName) : TableName :=
  { t with schema := t.schemaOr d.defaultSchema }

def ReferencedColumn.face (d : Dialect) (target : ReferencedColumn) : ReferencedColumn :=
  { target with table := target.table.face d }

structure Model.Face where
  id : ModelId
  ident : String
  table : TableName
  members : List Member.Face

def Model.face (d : Dialect) (m : Model) : Face where
  id := m.id
  ident := m.ident
  table := m.tableName.face d
  members := m.members.map (Member.face d)

structure Table.Face where
  name : String
  schema : String
  columns : List Column.Face

def Table.face (d : Dialect) (t : Table) : Face where
  name := t.name
  schema := t.schema
  columns := t.columns.map (Column.face d)

/-- What a dialect says of a table follows from its face. -/
structure Dialect.ByFace (d : Dialect) : Prop where
  defaultValueSql : ∀ {t t' : Table}, t.face d = t'.face d →
    d.defaultValueSql t = d.defaultValueSql t'
  beforeCreateTable : ∀ {t t' : Table}, t.face d = t'.face d →
    d.beforeCreateTable t = d.beforeCreateTable t'
  afterCreateTable : ∀ {t t' : Table}, t.face d = t'.face d →
    d.afterCreateTable t = d.afterCreateTable t'

/-! ## Statements -/

namespace Table

variable {d : Dialect} {t t' : Table}

theorem qualified_eq_of_face (h : t.face d = t'.face d) : t.qualified = t'.qualified := by
  have hname : t.name = t'.name := congrArg Face.name h
  have hschema : t.schema = t'.schema := congrArg Face.schema h
  rw [qualified, qualified, hname, hschema]

end Table

theorem Builtin.byFace (b : Builtin) : b.dialect.ByFace := by
  cases b with
  | mssql =>
    refine ⟨fun {t t'} h => ?_, fun {t t'} h => ?_, fun _ => rfl⟩
    · funext column literal
      change "ALTER TABLE " ++ t.qualified ++ " ADD DEFAULT " ++ literal ++ _ ++ _ ++ _ = _
      rw [Table.qualified_eq_of_face h]
      rfl
    · funext ifNotExists
      change (if ifNotExists then some (Dialect.objectGuard t.qualified) else none) = _
      rw [Table.qualified_eq_of_face h]
      rfl
  | postgres =>
    refine ⟨fun {t t'} h => ?_, fun _ => rfl, fun _ => rfl⟩
    funext column literal
    change "ALTER TABLE " ++ t.qualified ++ " ALTER COLUMN " ++ column ++ _ ++ _ ++ _ = _
    rw [Table.qualified_eq_of_face h]
    rfl

namespace Statement

variable {d : Dialect} {t t' : Table}

theorem columnLines_eq_of_face {columns columns' : List Column}
    (h : columns.map (Column.face d) = columns'.map (Column.face d)) :
    columnLines d columns = columnLines d columns' := by
  induction columns generalizing columns' with
  | nil => rw [List.map_eq_nil_iff.1 h.symm]
  | cons c rest ih =>
    obtain ⟨c', rest', rfl, hhead, htail⟩ := List.map_eq_cons_iff.1 h.symm
    have hline : columnLine d c' = columnLine d c := congrArg Column.Face.line hhead
    rw [columnLines, columnLines, hline, ih htail.symm]

theorem keys_eq_of_face {columns columns' : List Column}
    (h : columns.map (Column.face d) = columns'.map (Column.face d)) :
    Column.keys columns = Column.keys columns' := by
  have hkeys : ∀ cs : List Column,
      Column.keys cs = (cs.map (Column.face d)).filterMap Column.Face.foreignKey := by
    intro cs
    rw [List.filterMap_map]
    rfl
  rw [hkeys, hkeys, h]

theorem addConstraint_eq_of_face (h : t.face d = t'.face d) :
    addConstraint t = addConstraint t' := by
  unfold addConstraint
  rw [Table.qualified_eq_of_face h]

theorem primaryKey_eq_of_face (h : t.face d = t'.face d) : primaryKey d t = primaryKey d t' := by
  have hname : t.name = t'.name := congrArg Table.Face.name h
  have hkeys : (t.columns.filter Column.primaryKey).map Column.name
      = (t'.columns.filter Column.primaryKey).map Column.name :=
    map_filter_eq_of_map_eq (congrArg Table.Face.columns h) Column.Face.primaryKey Column.Face.name
  unfold primaryKey
  rw [addConstraint_eq_of_face h, hname]
  simp only [← List.isEmpty_map (f := Column.name), hkeys]

theorem uniques_eq_of_face (h : t.face d = t'.face d) : uniques d t = uniques d t' := by
  have hname : t.name = t'.name := congrArg Table.Face.name h
  unfold uniques
  rw [addConstraint_eq_of_face h, hname]
  exact map_filter_eq_of_map_eq (congrArg Table.Face.columns h) Column.Face.unique fun c =>
    addConstraint t' (d.uniqueName t'.name c.name) ++ " UNIQUE (" ++ c.name ++ ");"

theorem indexes_eq_of_face (h : t.face d = t'.face d) : indexes d t = indexes d t' := by
  have hname : t.name = t'.name := congrArg Table.Face.name h
  unfold indexes
  rw [Table.qualified_eq_of_face h, hname]
  exact map_filter_eq_of_map_eq (congrArg Table.Face.columns h) Column.Face.index fun c =>
    "CREATE " ++ (if c.indexUnique then "UNIQUE " else "") ++ "INDEX "
      ++ d.indexName t'.name c.name ++ " ON " ++ t'.qualified ++ " (" ++ c.name ++ ");"

theorem defaults_eq_of_face (hd : d.ByFace) (h : t.face d = t'.face d) :
    defaults d t = defaults d t' := by
  have hcolumns : t.columns.map (Column.face d) = t'.columns.map (Column.face d) :=
    congrArg Table.Face.columns h
  have hdefaults : ∀ cs : List Column,
      cs.filterMap (fun c => c.defaultLiteral.map fun value =>
          d.defaultValueSql t' c.name (Text.literal value))
        = (cs.map (Column.face d)).filterMap fun c => c.defaultLiteral.map fun value =>
            d.defaultValueSql t' c.name (Text.literal value) := by
    intro cs
    rw [List.filterMap_map]
    rfl
  unfold defaults
  rw [hd.defaultValueSql h, hdefaults, hdefaults, hcolumns]

theorem foreignKey_eq_of_face (h : t.face d = t'.face d) {c c' : Column}
    (hcolumn : c.face d = c'.face d) {target target' : ReferencedColumn}
    (htarget : target.face d = target'.face d) :
    foreignKey d t c target = foreignKey d t' c' target' := by
  have hname : t.name = t'.name := congrArg Table.Face.name h
  have hown : c.name = c'.name := congrArg Column.Face.name hcolumn
  have htable : target.table.name = target'.table.name :=
    congrArg (fun x => x.table.name) htarget
  have hschema : target.table.schemaOr d.defaultSchema
      = target'.table.schemaOr d.defaultSchema := congrArg (fun x => x.table.schema) htarget
  have hreferenced : target.column = target'.column := congrArg (fun x => x.column) htarget
  rw [foreignKey, foreignKey, addConstraint_eq_of_face h, hname, hown, htable, hschema,
    hreferenced]

theorem writeForeignKeys_eq_of_face (h : t.face d = t'.face d) {columns columns' : List Column}
    (hcolumns : columns.map (Column.face d) = columns'.map (Column.face d))
    {targets targets' : List ReferencedColumn}
    (htargets : targets.map (ReferencedColumn.face d) = targets'.map (ReferencedColumn.face d)) :
    writeForeignKeys d t columns targets = writeForeignKeys d t' columns' targets' := by
  induction columns generalizing columns' targets targets' with
  | nil =>
    rw [List.map_eq_nil_iff.1 hcolumns.symm]
    rfl
  | cons c rest ih =>
    obtain ⟨c', rest', rfl, hhead, htail⟩ := List.map_eq_cons_iff.1 hcolumns.symm
    cases targets with
    | nil =>
      rw [List.map_eq_nil_iff.1 htargets.symm]
      rfl
    | cons target targets =>
      obtain ⟨target', targets', rfl, htarget, hrest⟩ := List.map_eq_cons_iff.1 htargets.symm
      have hkey : c'.foreignKey = c.foreignKey := congrArg Column.Face.foreignKey hhead
      have hstatement := foreignKey_eq_of_face h hhead.symm htarget.symm
      rw [writeForeignKeys, writeForeignKeys, hkey, hstatement, ih htail.symm hrest.symm,
        ih htail.symm htargets]

theorem tableText_eq_of_face (hd : d.ByFace) (h : t.face d = t'.face d) (ifNotExists : Bool)
    (lines : List String) {targets targets' : List ReferencedColumn}
    (htargets : targets.map (ReferencedColumn.face d) = targets'.map (ReferencedColumn.face d)) :
    tableText d t ifNotExists lines targets = tableText d t' ifNotExists lines targets' := by
  have htable : tableStatement d t ifNotExists lines = tableStatement d t' ifNotExists lines := by
    unfold tableStatement
    rw [Table.qualified_eq_of_face h]
  have hkeys : writeForeignKeys d t t.columns targets = writeForeignKeys d t' t'.columns targets' :=
    writeForeignKeys_eq_of_face h (congrArg Table.Face.columns h) htargets
  rw [tableText, tableText, tableParts, tableParts, hd.beforeCreateTable h, hd.afterCreateTable h,
    htable, hkeys, primaryKey_eq_of_face h, uniques_eq_of_face h, defaults_eq_of_face hd h,
    indexes_eq_of_face h]

theorem dropTable_eq_of_face (h : t.face d = t'.face d) (ifExists : Bool) :
    dropTable t ifExists = dropTable t' ifExists := by
  unfold dropTable
  rw [Table.qualified_eq_of_face h]

theorem truncateTable_eq_of_face (h : t.face d = t'.face d) :
    truncateTable t = truncateTable t' := by
  unfold truncateTable
  rw [Table.qualified_eq_of_face h]

end Statement

/-! ## Resolvers that match -/

/-- Adding values with the same face under a key gives values with the same face, and leaves the
same faces under every key. -/
theorem Cache.hold_congr {κ α β : Type} [DecidableEq κ] {f : α → β} {c c' : Cache κ α}
    (h : ∀ k, (c.get? k).map f = (c'.get? k).map f) (k : κ) {v v' : α} (hv : f v = f v') :
    f (c.hold k v).1 = f (c'.hold k v').1 ∧
      ∀ k', ((c.hold k v).2.get? k').map f = ((c'.hold k v').2.get? k').map f := by
  have hfst : f (c.hold k v).1 = f (c'.hold k v').1 := by
    rw [hold_fst, hold_fst, ← Option.getD_map f, ← Option.getD_map f, h, hv]
  refine ⟨hfst, fun k' => ?_⟩
  by_cases hk : k' = k
  · rw [hk, get?_hold_self, get?_hold_self, Option.map_some, Option.map_some, hfst]
  · rw [get?_hold_of_ne c v hk, get?_hold_of_ne c' v' hk, h]

namespace Resolver

/-- Two resolvers whose names and definitions have the same faces under a dialect. -/
structure Matches (d : Dialect) (r r' : Resolver) : Prop where
  catalog : r.catalog = r'.catalog
  columns : r.columns = r'.columns
  table : ∀ id,
    (r.tables.get? id).map (TableName.face d) = (r'.tables.get? id).map (TableName.face d)
  model : ∀ id, (r.models.get? id).map (Model.face d) = (r'.models.get? id).map (Model.face d)

variable {d : Dialect} {r r' : Resolver} {m m' : Model}

theorem Matches.refl (r : Resolver) : Matches d r r :=
  ⟨rfl, rfl, fun _ => rfl, fun _ => rfl⟩

theorem Matches.resolveTable (h : Matches d r r') (hm : m.face d = m'.face d) :
    (r.resolveTable m).1.face d = (r'.resolveTable m').1.face d ∧
      Matches d (r.resolveTable m).2 (r'.resolveTable m').2 := by
  have hid : m.id = m'.id := congrArg Model.Face.id hm
  have hhold := Cache.hold_congr h.table m.id (congrArg Model.Face.table hm)
  rw [hid] at hhold
  unfold Resolver.resolveTable
  rw [hid]
  exact ⟨hhold.1, h.catalog, h.columns, hhold.2, h.model⟩

theorem Matches.resolveColumn (h : Matches d r r') (hid : m.id = m'.id) {x x' : Member}
    (hx : x.face d = x'.face d) :
    (r.resolveColumn m x).1 = (r'.resolveColumn m' x').1 ∧
      Matches d (r.resolveColumn m x).2 (r'.resolveColumn m' x').2 := by
  have hident : x.ident = x'.ident := congrArg Member.Face.ident hx
  have hname : x.columnName = x'.columnName := congrArg Member.Face.columnName hx
  unfold Resolver.resolveColumn
  rw [hid, hident, hname, h.columns]
  exact ⟨rfl, h.catalog, rfl, h.table, h.model⟩

theorem Matches.register (h : Matches d r r') (hm : m.face d = m'.face d) :
    (r.register m).1.face d = (r'.register m').1.face d ∧
      Matches d (r.register m).2 (r'.register m').2 := by
  have hid : m.id = m'.id := congrArg Model.Face.id hm
  have hhold := Cache.hold_congr h.model m.id hm
  unfold Resolver.register
  rw [hid] at hhold ⊢
  exact ⟨hhold.1, h.catalog, h.columns, h.table, hhold.2⟩

/-! ### References -/

theorem Matches.lookup (h : Matches d r r') (ref : ModelRef) :
    (r.lookup ref).1.map (Model.face d) = (r'.lookup ref).1.map (Model.face d) ∧
      Matches d (r.lookup ref).2 (r'.lookup ref).2 := by
  have hheld := h.model ref.id
  unfold Resolver.lookup
  cases hget : r.models.get? ref.id with
  | some held =>
    rw [hget] at hheld
    obtain ⟨held', hget', hface⟩ := Option.map_eq_some_iff.1 hheld.symm
    rw [hget']
    exact ⟨congrArg some hface.symm, h⟩
  | none =>
    rw [hget] at hheld
    rw [Option.map_eq_none_iff.1 hheld.symm, h.catalog]
    by_cases htyped : ref.typed = true
    · have hregister := h.register (m := r'.catalog ref.id) rfl
      rw [if_pos htyped, if_pos htyped]
      exact ⟨congrArg some hregister.1, hregister.2⟩
    · rw [if_neg htyped, if_neg htyped]
      exact ⟨rfl, h⟩

theorem findMember_face (d : Dialect) (m : Model) (ident : String) :
    (m.findMember ident).map (Member.face d)
      = (m.face d).members.find? fun x => x.ident = ident := by
  rw [Model.face, List.find?_map]
  rfl

theorem Matches.referencedName (h : Matches d r r') (hm : m.face d = m'.face d) (member : String) :
    (r.referencedName m member).1 = (r'.referencedName m' member).1 ∧
      Matches d (r.referencedName m member).2 (r'.referencedName m' member).2 := by
  have hfind : (m.findMember member).map (Member.face d)
      = (m'.findMember member).map (Member.face d) := by
    rw [findMember_face, findMember_face, hm]
  unfold Resolver.referencedName
  cases hfound : m.findMember member with
  | some x =>
    rw [hfound] at hfind
    obtain ⟨x', hfound', hface⟩ := Option.map_eq_some_iff.1 hfind.symm
    rw [hfound']
    exact h.resolveColumn (congrArg Model.Face.id hm) hface.symm
  | none =>
    rw [hfound] at hfind
    rw [Option.map_eq_none_iff.1 hfind.symm]
    exact ⟨rfl, h⟩

theorem Matches.referTo (h : Matches d r r') (hm : m.face d = m'.face d) (member : String) :
    (r.referTo m member).1.face d = (r'.referTo m' member).1.face d ∧
      Matches d (r.referTo m member).2 (r'.referTo m' member).2 := by
  obtain ⟨hname, hnamed⟩ := h.referencedName hm member
  obtain ⟨htable, hdone⟩ := hnamed.resolveTable hm
  refine ⟨?_, hdone⟩
  unfold Resolver.referTo ReferencedColumn.face
  simp only [hname, htable]

theorem Matches.resolveReference (h : Matches d r r') (key : ForeignKey) :
    (r.resolveReference key).1.face d = (r'.resolveReference key).1.face d ∧
      Matches d (r.resolveReference key).2 (r'.resolveReference key).2 := by
  have hlookup := h.lookup key.model
  rcases hfound : r.lookup key.model with ⟨_ | target, s⟩ <;>
    rcases hfound' : r'.lookup key.model with ⟨_ | target', s'⟩ <;>
    rw [hfound, hfound'] at hlookup
  · rw [resolveReference_of_none hfound, resolveReference_of_none hfound']
    exact ⟨rfl, hlookup.2⟩
  · cases hlookup.1
  · cases hlookup.1
  · rw [resolveReference_of_some hfound, resolveReference_of_some hfound']
    exact hlookup.2.referTo (Option.some.inj hlookup.1) key.member

theorem Matches.resolveAll (h : Matches d r r') (keys : List ForeignKey) :
    (r.resolveAll keys).1.map (ReferencedColumn.face d)
        = (r'.resolveAll keys).1.map (ReferencedColumn.face d) ∧
      Matches d (r.resolveAll keys).2 (r'.resolveAll keys).2 := by
  induction keys generalizing r r' with
  | nil => exact ⟨rfl, h⟩
  | cons key rest ih =>
    obtain ⟨htarget, hnext⟩ := h.resolveReference key
    obtain ⟨htargets, hdone⟩ := ih hnext
    rw [resolveAll_cons, resolveAll_cons, List.map_cons, List.map_cons, htarget, htargets]
    exact ⟨rfl, hdone⟩

/-! ### Columns and tables -/

theorem Matches.ofMembers (h : Matches d r r') (hid : m.id = m'.id)
    {members members' : List Member}
    (hmembers : members.map (Member.face d) = members'.map (Member.face d)) :
    (Column.ofMembers r m members).1.map (Column.face d)
        = (Column.ofMembers r' m' members').1.map (Column.face d) ∧
      Matches d (Column.ofMembers r m members).2 (Column.ofMembers r' m' members').2 := by
  induction members generalizing members' r r' with
  | nil =>
    rw [List.map_eq_nil_iff.1 hmembers.symm]
    exact ⟨rfl, h⟩
  | cons x rest ih =>
    obtain ⟨x', rest', rfl, hhead, htail⟩ := List.map_eq_cons_iff.1 hmembers.symm
    obtain ⟨hname, hnamed⟩ := h.resolveColumn hid hhead.symm
    obtain ⟨hcolumns, hdone⟩ := ih hnamed htail.symm
    have hcolumn : ∀ name, (Column.ofMember name x').face d = (Column.ofMember name x).face d :=
      fun name => congrArg (fun f => f.column name) hhead
    rw [Column.ofMembers_cons, Column.ofMembers_cons, List.map_cons, List.map_cons, hcolumns,
      hname, hcolumn]
    exact ⟨rfl, hdone⟩

theorem Matches.extract (h : Matches d r r') (hm : m.face d = m'.face d) :
    (Column.extract r m).1.map (Column.face d) = (Column.extract r' m').1.map (Column.face d) ∧
      Matches d (Column.extract r m).2 (Column.extract r' m').2 := by
  have hmembers : m.mappedMembers.map (Member.face d) = m'.mappedMembers.map (Member.face d) :=
    map_filter_eq_of_map_eq (congrArg Model.Face.members hm) Member.Face.isMapped id
  obtain ⟨hcolumns, hdone⟩ := h.ofMembers (congrArg Model.Face.id hm) hmembers
  have harrange : ∀ cs : List Column, (arrange Column.order cs).map (Column.face d)
      = arrange Column.Face.order (cs.map (Column.face d)) :=
    fun cs => (Column.arrange_map Column.Face.order (Column.face d) cs).symm
  rw [Column.extract_eq, Column.extract_eq, harrange, harrange, hcolumns]
  exact ⟨rfl, hdone⟩

theorem Matches.resolve (h : Matches d r r') (hm : m.face d = m'.face d) :
    (Table.resolve r m d.defaultSchema).1.face d
        = (Table.resolve r' m' d.defaultSchema).1.face d ∧
      Matches d (Table.resolve r m d.defaultSchema).2 (Table.resolve r' m' d.defaultSchema).2 := by
  obtain ⟨htable, hdone⟩ := h.resolveTable hm
  refine ⟨?_, hdone⟩
  have hname : (r.resolveTable m).1.name = (r'.resolveTable m').1.name :=
    congrArg (fun x => x.name) htable
  have hschema : (r.resolveTable m).1.schemaOr d.defaultSchema
      = (r'.resolveTable m').1.schemaOr d.defaultSchema := congrArg (fun x => x.schema) htable
  rw [Table.resolve_eq, Table.resolve_eq, hname, hschema]
  rfl

theorem Matches.describe (h : Matches d r r') (hm : m.face d = m'.face d) :
    (Table.describe r m d.defaultSchema).1.face d
        = (Table.describe r' m' d.defaultSchema).1.face d ∧
      Matches d (Table.describe r m d.defaultSchema).2
        (Table.describe r' m' d.defaultSchema).2 := by
  obtain ⟨hcolumns, hextracted⟩ := h.extract hm
  obtain ⟨htable, hdone⟩ := hextracted.resolve hm
  refine ⟨?_, hdone⟩
  rw [Table.describe_eq, Table.describe_eq]
  exact congrArg₂ (fun (t : Table.Face) columns => { t with columns }) htable hcolumns

theorem Matches.createTable (h : Matches d r r') (hd : d.ByFace) {t t' : Table}
    (ht : t.face d = t'.face d) (ifNotExists : Bool) :
    (Statement.createTable d r t ifNotExists).1 = (Statement.createTable d r' t' ifNotExists).1 ∧
      Matches d (Statement.createTable d r t ifNotExists).2
        (Statement.createTable d r' t' ifNotExists).2 := by
  have hcolumns : t.columns.map (Column.face d) = t'.columns.map (Column.face d) :=
    congrArg Table.Face.columns ht
  have hlines := Statement.columnLines_eq_of_face hcolumns
  cases hresult : Statement.columnLines d t.columns with
  | error e =>
    rw [Statement.createTable_of_error hresult, Statement.createTable_of_error (hlines ▸ hresult)]
    exact ⟨rfl, h⟩
  | ok lines =>
    obtain ⟨htargets, hdone⟩ := h.resolveAll (Column.keys t.columns)
    rw [Statement.createTable_of_ok hresult, Statement.createTable_of_ok (hlines ▸ hresult),
      ← Statement.keys_eq_of_face hcolumns]
    exact ⟨congrArg Except.ok (Statement.tableText_eq_of_face hd ht ifNotExists lines htargets),
      hdone⟩

/-- A model that is held as it is can be claimed without effect. -/
theorem claim_of_held (h : r.models.get? m.id = some m) : r.claim m = (.ok m, r) := by
  rw [claim_eq, register_fst, h, Option.getD_some, if_pos (.refl m), Resolver.register,
    Cache.hold_of_some h]

end Resolver

/-! ## Requests -/

namespace Request

open Resolver (Matches)

/-- What rendering reads of a request: the table that it is about, or its text. -/
inductive Face
  | createTable (model : Model.Face) (ifNotExists : Bool)
  | dropTable (model : Model.Face) (ifExists : Bool)
  | truncateTable (model : Model.Face)
  | text (block : String)

def face (d : Dialect) : Request → Face
  | createTable m ifNotExists => .createTable (m.face d) ifNotExists
  | dropTable m ifExists => .dropTable (m.face d) ifExists
  | truncateTable m => .truncateTable (m.face d)
  | createSchema name => .text (Statement.createSchema name)
  | dropSchema name => .text (Statement.dropSchema name)
  | createSequence s => .text (Statement.createSequence d s)
  | dropSequence name => .text (Statement.dropSequence d name)
  | customSql text => .text text

/-- The model of the request, if any, is held as it is. -/
def Held (r : Resolver) (q : Request) : Prop :=
  ∀ m, q.model? = some m → r.models.get? m.id = some m

variable {d : Dialect} {r r' : Resolver} {q q' : Request}

theorem Held.mono (h : q.Held r) (hr : r.Extends r') : q.Held r' :=
  fun m hm => hr.model (h m hm)

theorem Held.render (h : q.Held r) (d : Dialect) : q.render d r = q.block d r := by
  cases hmodel : q.model? with
  | none => exact render_of_none hmodel
  | some m => exact render_of_claim_ok hmodel (Resolver.claim_of_held (h m hmodel))

/-- A request without a model has its text for a face, and leaves the resolver alone. -/
theorem block_of_face_text {text : String} (h : q.face d = .text text) (r : Resolver) :
    q.block d r = (.ok text, r) := by
  cases q <;> cases h <;> rfl

theorem eq_createTable_of_face {f : Model.Face} {ifNotExists : Bool}
    (h : q.face d = .createTable f ifNotExists) :
    ∃ m, q = .createTable m ifNotExists ∧ m.face d = f := by
  cases q <;> cases h
  exact ⟨_, rfl, rfl⟩

theorem eq_dropTable_of_face {f : Model.Face} {ifExists : Bool}
    (h : q.face d = .dropTable f ifExists) : ∃ m, q = .dropTable m ifExists ∧ m.face d = f := by
  cases q <;> cases h
  exact ⟨_, rfl, rfl⟩

theorem eq_truncateTable_of_face {f : Model.Face} (h : q.face d = .truncateTable f) :
    ∃ m, q = .truncateTable m ∧ m.face d = f := by
  cases q <;> cases h
  exact ⟨_, rfl, rfl⟩

/-- On resolvers that match, requests with the same face have the same block. -/
theorem block_eq_of_face (hd : d.ByFace) (hr : Matches d r r') (h : q.face d = q'.face d) :
    (q.block d r).1 = (q'.block d r').1 ∧ Matches d (q.block d r).2 (q'.block d r').2 := by
  cases hface : q.face d with
  | text text =>
    rw [block_of_face_text hface, block_of_face_text (h ▸ hface)]
    exact ⟨rfl, hr⟩
  | createTable f ifNotExists =>
    obtain ⟨m, rfl, hm⟩ := eq_createTable_of_face hface
    obtain ⟨m', rfl, hm'⟩ := eq_createTable_of_face (h ▸ hface)
    obtain ⟨htable, hdescribed⟩ := hr.describe (hm.trans hm'.symm)
    exact hdescribed.createTable hd htable ifNotExists
  | dropTable f ifExists =>
    obtain ⟨m, rfl, hm⟩ := eq_dropTable_of_face hface
    obtain ⟨m', rfl, hm'⟩ := eq_dropTable_of_face (h ▸ hface)
    obtain ⟨htable, hdone⟩ := hr.resolve (hm.trans hm'.symm)
    exact ⟨congrArg Except.ok (Statement.dropTable_eq_of_face htable ifExists), hdone⟩
  | truncateTable f =>
    obtain ⟨m, rfl, hm⟩ := eq_truncateTable_of_face hface
    obtain ⟨m', rfl, hm'⟩ := eq_truncateTable_of_face (h ▸ hface)
    obtain ⟨htable, hdone⟩ := hr.resolve (hm.trans hm'.symm)
    exact ⟨congrArg Except.ok (Statement.truncateTable_eq_of_face htable), hdone⟩

/-- On resolvers that match, two queues with the same faces render to the same text or fail with
the same error, if the models of each are held as they are. -/
theorem renderAll_eq_of_face (hd : d.ByFace) {queue queue' : List Request} (hr : Matches d r r')
    (hheld : ∀ q ∈ queue, q.Held r) (hheld' : ∀ q ∈ queue', q.Held r')
    (h : queue.map (face d) = queue'.map (face d)) :
    (renderAll d r queue).1 = (renderAll d r' queue').1 := by
  induction queue generalizing queue' r r' with
  | nil =>
    rw [List.map_eq_nil_iff.1 h.symm]
    rfl
  | cons q rest ih =>
    obtain ⟨q', rest', rfl, hhead, htail⟩ := List.map_eq_cons_iff.1 h.symm
    obtain ⟨hq, hrest⟩ := List.forall_mem_cons.1 hheld
    obtain ⟨hq', hrest'⟩ := List.forall_mem_cons.1 hheld'
    have hextends := extends_render d r q
    have hextends' := extends_render d r' q'
    have hblock := block_eq_of_face hd hr hhead.symm
    rw [← hq.render d, ← hq'.render d] at hblock
    have htext := ih hblock.2 (fun x hx => (hrest x hx).mono hextends)
      (fun x hx => (hrest' x hx).mono hextends') htail.symm
    rcases hresult : q.render d r with ⟨e | block, s⟩ <;>
      rcases hresult' : q'.render d r' with ⟨e' | block', s'⟩ <;>
      rw [hresult, hresult'] at hblock htext <;> cases hblock.1
    · rw [renderAll_cons_error hresult, renderAll_cons_error hresult']
    · rw [renderAll_cons_ok hresult, renderAll_cons_ok hresult', htext]

end Request
end SchemaDdl
