import SchemaDdl.Proofs.Builder.Description

/-!
# Names of constraints and indexes

A built-in dialect makes the name of a constraint or an index from the names of its table, of its
column and of what a foreign key refers to, written one after the other.  Each kind of object has
an opening or an ending of its own, so names of two kinds never clash, and two names of one kind
clash just when their parts run together to the same text (`TableObject.name_eq_iff`).  In a build
whose tables have names of their own, with columns that have names of their own, that takes two
foreign keys, or two unique constraints or indexes of two tables, and it does not happen where no
name that comes first begins another (`Builder.names_distinct_iff`).
-/

namespace SchemaDdl

/-- A constraint or an index that the block of a table creates, by the names that make up its
own. -/
inductive TableObject
  | primaryKey (table : String)
  | foreignKey (table column refTable refColumn : String)
  | unique (table column : String)
  | index (table column : String)
  deriving DecidableEq, Repr

namespace TableObject

inductive Kind
  | primaryKey
  | foreignKey
  | unique
  | index
  deriving DecidableEq, Repr

def kind : TableObject → Kind
  | primaryKey .. => .primaryKey
  | foreignKey .. => .foreignKey
  | unique .. => .unique
  | index .. => .index

def table : TableObject → String
  | primaryKey t | foreignKey t .. | unique t _ | index t _ => t

/-- The name that a dialect gives the object. -/
def name (d : Dialect) : TableObject → String
  | primaryKey t => d.primaryKeyName t
  | foreignKey t c refTable refColumn => d.foreignKeyName t c refTable refColumn
  | unique t c => d.uniqueName t c
  | index t c => d.indexName t c

end TableObject

namespace Builtin

open TableObject (Kind)

/-- What names of a kind begin with. -/
def opening : Builtin → Kind → String
  | mssql, .primaryKey => "PK_"
  | mssql, .foreignKey => "FK_"
  | mssql, .unique => "UC_"
  | mssql, .index => "INX_"
  | postgres, _ => ""

/-- What names of a kind end with. -/
def ending : Builtin → Kind → String
  | mssql, _ => ""
  | postgres, .primaryKey => "_pkey"
  | postgres, .foreignKey => "_fkey"
  | postgres, .unique => "_unique"
  | postgres, .index => "_inx"

/-- What stands between a foreign key and what it refers to, but for a last underscore. -/
def link : Builtin → String
  | mssql => "_TO"
  | postgres => "_to"

/-- Opening and ending tell the kind, and what stands between them is left. -/
theorem eq_of_framed {b : Builtin} {k k' : Kind} {s s' : String}
    (h : b.opening k ++ s ++ b.ending k = b.opening k' ++ s' ++ b.ending k') : k = k' ∧ s = s' := by
  have hkind : k = k' := by
    cases b with
    | mssql =>
      have hfirst := congrArg (fun text => text.toList.head?) h
      cases k <;> cases k' <;> first | rfl | simp [opening, ending] at hfirst
    | postgres =>
      have hlast := congrArg (fun text => text.toList.reverse.take 4) h
      cases k <;> cases k' <;> first | rfl | simp [opening, ending] at hlast
  subst hkind
  exact ⟨rfl, (String.append_right_inj _).1 ((String.append_left_inj _).1 h)⟩

end Builtin

namespace TableObject

/-- The names that make up the name of an object, written one after the other. -/
def parts (b : Builtin) : TableObject → String
  | primaryKey t => t
  | foreignKey t c refTable refColumn => t ++ c ++ b.link ++ "_" ++ refTable ++ refColumn
  | unique t c | index t c => t ++ c

/-- Two objects of one kind whose parts make up the same text. -/
def RunsTogether (b : Builtin) (x y : TableObject) : Prop :=
  x.kind = y.kind ∧ x.parts b = y.parts b

theorem name_eq (b : Builtin) (x : TableObject) :
    x.name b.dialect = b.opening x.kind ++ x.parts b ++ b.ending x.kind := by
  cases b <;> cases x <;>
    simp [name, parts, kind, Builtin.opening, Builtin.ending, Builtin.link, Builtin.dialect,
      Dialect.mssql, Dialect.postgres, String.append_assoc]

/-- Names clash just when they are of one kind and their parts run together. -/
theorem name_eq_iff {b : Builtin} {x y : TableObject} :
    x.name b.dialect = y.name b.dialect ↔ x.RunsTogether b y := by
  rw [name_eq, name_eq]
  constructor
  · exact Builtin.eq_of_framed
  · rintro ⟨hkind, hparts⟩
    rw [hkind, hparts]

theorem nodup_names_iff {b : Builtin} {objects : List TableObject} :
    (objects.map (name b.dialect)).Nodup ↔
      objects.Pairwise fun x y => ¬ x.RunsTogether b y := by
  simp only [List.Nodup, List.pairwise_map, ne_eq, name_eq_iff]

/-! ## Names that begin other names -/

/-- The parts of an object begin with the name of its table. -/
theorem table_prefix_parts (b : Builtin) (x : TableObject) :
    x.table.toList <+: (x.parts b).toList := by
  cases x with
  | primaryKey t => exact List.prefix_rfl
  | unique t c | index t c => simp [table, parts]
  | foreignKey t c refTable refColumn => simp [table, parts, List.append_assoc]

/-- Where no table name begins the other, nothing runs together. -/
theorem not_runsTogether {b : Builtin} {x y : TableObject}
    (hxy : ¬ x.table.toList <+: y.table.toList) (hyx : ¬ y.table.toList <+: x.table.toList) :
    ¬ x.RunsTogether b y := by
  rintro ⟨-, hparts⟩
  have hx := x.table_prefix_parts b
  rw [hparts] at hx
  exact (List.prefix_or_prefix_of_prefix hx (y.table_prefix_parts b)).elim hxy hyx

end TableObject

/-- No proper beginning of the link is an ending of it, so where it comes up again behind a text
that it also starts, the text holds all of it. -/
theorem Builtin.link_prefix (b : Builtin) {u rest rest' : List Char} (hu : u ≠ [])
    (h : u ++ (b.link.toList ++ rest) = b.link.toList ++ rest') : b.link.toList <+: u := by
  have hlength : b.link.toList.length ≤ u.length := by
    by_contra hshort
    cases b <;>
    match u, hshort with
    | [], _ => exact hu rfl
    | [_], _ | [_, _], _ => simp [link] at h
    | _ :: _ :: _ :: more, hshort => simp [link] at hshort
  exact List.prefix_of_prefix_length_le ⟨rest', h.symm⟩ (List.prefix_append u _) hlength

namespace TableObject

/-- Foreign keys of two columns of a table do not run together where neither column name, with the
link behind it, begins the other. -/
theorem foreignKey_not_runsTogether {b : Builtin} {t c c' refTable refTable' refColumn refColumn' :
    String} (hne : c ≠ c') (hc : ¬ (c ++ b.link).toList <+: c'.toList)
    (hc' : ¬ (c' ++ b.link).toList <+: c.toList) :
    ¬ (foreignKey t c refTable refColumn).RunsTogether b
        (foreignKey t c' refTable' refColumn') := by
  rintro ⟨-, hparts⟩
  have htext := congrArg String.toList hparts
  simp only [parts, String.toList_append, List.append_assoc, List.append_cancel_left_eq] at htext
  rw [String.toList_append] at hc hc'
  rcases List.append_eq_append_iff.1 htext with ⟨u, hu, hrest⟩ | ⟨u, hu, hrest⟩
  · by_cases hnil : u = []
    · subst hnil
      exact hne (String.toList_inj.1 (by simpa using hu.symm))
    · rw [hu, List.prefix_append_right_inj] at hc
      exact hc (b.link_prefix hnil hrest.symm)
  · by_cases hnil : u = []
    · subst hnil
      exact hne (String.toList_inj.1 (by simpa using hu))
    · rw [hu, List.prefix_append_right_inj] at hc'
      exact hc' (b.link_prefix hnil hrest.symm)

end TableObject

/-! ## The objects of a table -/

/-- What the block of a table creates beside the table itself, the foreign keys at their turns. -/
def Table.objects (t : Table) (turns : List Turn) : List TableObject :=
  (if t.columns.any Column.primaryKey then [.primaryKey t.name] else [])
    ++ turns.map (fun x => .foreignKey t.name x.column.name x.target.table.name x.target.column)
    ++ (t.columns.filter Column.unique).map (fun c => .unique t.name c.name)
    ++ (t.columns.filter Column.index).map fun c => .index t.name c.name

/-- The statement creates the object under its name. -/
inductive Statement.Introduces (d : Dialect) (t : Table) : TableObject → String → Prop
  | primaryKey (columns : String) :
      Introduces d t (.primaryKey t.name)
        ("ALTER TABLE " ++ (t.schema ++ "." ++ t.name) ++ " ADD CONSTRAINT "
          ++ d.primaryKeyName t.name ++ " PRIMARY KEY (" ++ columns ++ ");")
  | foreignKey (c : Column) (target : ReferencedColumn) :
      Introduces d t (.foreignKey t.name c.name target.table.name target.column)
        (referring d t c target)
  | unique (c : Column) :
      Introduces d t (.unique t.name c.name)
        ("ALTER TABLE " ++ (t.schema ++ "." ++ t.name) ++ " ADD CONSTRAINT "
          ++ d.uniqueName t.name c.name ++ " UNIQUE (" ++ c.name ++ ");")
  | index (c : Column) :
      Introduces d t (.index t.name c.name)
        ("CREATE " ++ (if c.indexUnique then "UNIQUE " else "") ++ "INDEX "
          ++ d.indexName t.name c.name ++ " ON " ++ (t.schema ++ "." ++ t.name) ++ " (" ++ c.name
          ++ ");")

namespace Turn

theorem sublist_columns (r : Resolver) (columns : List Column) :
    ((all r columns).map column).Sublist columns := by
  induction columns generalizing r with
  | nil => exact .slnil
  | cons c rest ih =>
    rw [all]
    cases c.foreignKey with
    | none => exact (ih r).cons c
    | some key => exact (ih _).cons_cons c

theorem foreignKey_of_mem_all {r : Resolver} {columns : List Column} {x : Turn}
    (h : x ∈ all r columns) : x.column.foreignKey = some x.key := by
  induction columns generalizing r with
  | nil => cases h
  | cons c rest ih =>
    cases hkey : c.foreignKey with
    | none =>
      rw [all, hkey] at h
      exact ih h
    | some key =>
      rw [all, hkey] at h
      rcases List.mem_cons.1 h with rfl | h
      · exact hkey
      · exact ih h

end Turn

namespace Table

variable {d : Dialect} {t : Table} {turns : List Turn}

theorem table_of_mem_objects {x : TableObject} (h : x ∈ t.objects turns) : x.table = t.name := by
  simp only [objects, List.mem_append, List.mem_map] at h
  rcases h with ((h | ⟨_, -, rfl⟩) | ⟨_, -, rfl⟩) | ⟨_, -, rfl⟩
  · split at h
    · rw [List.mem_singleton.1 h]
      rfl
    · cases h
  · rfl
  · rfl
  · rfl

/-- Objects of two kinds aside, what holds of any two objects of one table holds of two foreign
keys, two unique constraints and two indexes. -/
theorem pairwise_objects {R : TableObject → TableObject → Prop}
    (hcross : ∀ x y, x.kind ≠ y.kind → R x y)
    (hforeignKeys : turns.Pairwise fun x y =>
      R (.foreignKey t.name x.column.name x.target.table.name x.target.column)
        (.foreignKey t.name y.column.name y.target.table.name y.target.column))
    (huniques : t.columns.Pairwise fun c c' => R (.unique t.name c.name) (.unique t.name c'.name))
    (hindexes : t.columns.Pairwise fun c c' => R (.index t.name c.name) (.index t.name c'.name)) :
    (t.objects turns).Pairwise R := by
  have hkey : ∀ x ∈ (if t.columns.any Column.primaryKey then [TableObject.primaryKey t.name]
      else []), x = .primaryKey t.name := by
    intro x hx
    split at hx
    · exact List.mem_singleton.1 hx
    · cases hx
  unfold objects
  simp only [List.pairwise_append, List.pairwise_map, List.mem_append, List.mem_map]
  refine ⟨⟨⟨?_, hforeignKeys, ?_⟩, huniques.sublist List.filter_sublist, ?_⟩,
    hindexes.sublist List.filter_sublist, ?_⟩
  · split <;> simp
  · rintro x hx _ ⟨_, -, rfl⟩
    rw [hkey x hx]
    exact hcross _ _ nofun
  · rintro x (hx | ⟨_, -, rfl⟩) _ ⟨_, -, rfl⟩
    · rw [hkey x hx]
      exact hcross _ _ nofun
    · exact hcross _ _ nofun
  · rintro x ((hx | ⟨_, -, rfl⟩) | ⟨_, -, rfl⟩) _ ⟨_, -, rfl⟩
    · rw [hkey x hx]
      exact hcross _ _ nofun
    · exact hcross _ _ nofun
    · exact hcross _ _ nofun

end Table

/-! ## The statements that create objects -/

namespace Statement

variable {d : Dialect} {t : Table} {turns : List Turn}

theorem introduces_primaryKey :
    List.Forall₂ (Introduces d t)
      (if t.columns.any Column.primaryKey then [.primaryKey t.name] else []) (primaryKey d t) := by
  unfold primaryKey
  by_cases hany : t.columns.any Column.primaryKey = true
  · have hkeys : (t.columns.filter Column.primaryKey).isEmpty = false := by
      simpa using hany
    simp only [hany, hkeys, if_true]
    exact .cons (.primaryKey _) .nil
  · have hkeys : (t.columns.filter Column.primaryKey).isEmpty = true := by
      simpa using hany
    simp only [hany, hkeys, if_true]
    exact .nil

/-- Each object of a table has the statement that creates it, in order. -/
theorem introduces_objects :
    List.Forall₂ (Introduces d t) (t.objects turns)
      (primaryKey d t ++ turns.map (fun x => referring d t x.column x.target) ++ uniques d t
        ++ indexes d t) := by
  have hforeignKeys : List.Forall₂ (Introduces d t)
      (turns.map fun x => .foreignKey t.name x.column.name x.target.table.name x.target.column)
      (turns.map fun x => referring d t x.column x.target) := by
    rw [List.forall₂_map_left_iff, List.forall₂_map_right_iff, List.forall₂_same]
    exact fun x _ => .foreignKey x.column x.target
  have huniques : List.Forall₂ (Introduces d t)
      ((t.columns.filter Column.unique).map fun c => .unique t.name c.name) (uniques d t) := by
    rw [uniques, List.forall₂_map_left_iff, List.forall₂_map_right_iff, List.forall₂_same]
    exact fun c _ => .unique c
  have hindexes : List.Forall₂ (Introduces d t)
      ((t.columns.filter Column.index).map fun c => .index t.name c.name) (indexes d t) := by
    rw [indexes, List.forall₂_map_left_iff, List.forall₂_map_right_iff, List.forall₂_same]
    exact fun c _ => .index c
  exact List.rel_append (List.rel_append (List.rel_append introduces_primaryKey hforeignKeys)
    huniques) hindexes

end Statement

/-- The block creates the objects of the table with a statement for each, and creates nothing else
but the table. -/
def Rendering.CreatesObjects (x : Rendering) (t : Table) : Prop :=
  ∃ ifNotExists lines constraints indexes,
    x.block = "\n".intercalate ((x.dialect.beforeCreateTable t ifNotExists).toList
      ++ Statement.tableStatement x.dialect t ifNotExists lines :: constraints
      ++ Statement.defaults x.dialect t ++ indexes
      ++ (x.dialect.afterCreateTable t ifNotExists).toList) ∧
    List.Forall₂ (Statement.Introduces x.dialect t) (t.objects x.turns) (constraints ++ indexes)

/-- A rendering that creates a table has its turns in column order, and creates its objects. -/
theorem Rendering.Kept.createsObjects {s : Resolver} {x : Rendering} (h : x.Kept s) {t : Table}
    (ht : x.table? = some t) : (∃ r, x.turns = Turn.all r t.columns) ∧ x.CreatesObjects t := by
  obtain ⟨d, r, request, block, r'⟩ := x
  obtain ⟨m, hcreated, rfl⟩ := Option.map_eq_some_iff.1 ht
  obtain ⟨ifNotExists, rfl⟩ := Request.created?_eq_some_iff.1 hcreated
  obtain ⟨lines, -, hblock, -⟩ := Request.createTable_of_render h.render
  refine ⟨⟨_, rfl⟩, ifNotExists, lines, _, _, ?_, Statement.introduces_objects⟩
  rw [hblock, Statement.tableBlock]
  simp only [List.append_assoc, List.cons_append]
  rfl

/-! ## Builds -/

namespace Builder

/-- The tables that a build creates, each with the turns of its foreign keys. -/
def creations (b : Builder) (r : Resolver) : List (Table × List Turn) :=
  (b.renderings r).filterMap fun x => x.table?.map (·, x.turns)

/-- All that a build creates beside tables. -/
def objects (b : Builder) (r : Resolver) : List TableObject :=
  (b.creations r).flatMap fun creation => creation.1.objects creation.2

/-- The tables that a build creates have names of their own, and so have the columns of each. -/
structure Distinct (b : Builder) (r : Resolver) : Prop where
  tables : ((b.creations r).map fun creation => creation.1.name).Nodup
  columns : ∀ creation ∈ b.creations r, (creation.1.columns.map Column.name).Nodup

/-- No table name begins that of another table, and no name of a column with a foreign key begins,
with the link behind it, that of another one in its table. -/
structure Unbegun (b : Builder) (r : Resolver) (link : String) : Prop where
  tables : ∀ x ∈ b.creations r, ∀ y ∈ b.creations r,
    x.1.name.toList <+: y.1.name.toList → x.1.name = y.1.name
  columns : ∀ creation ∈ b.creations r,
    ∀ c ∈ creation.1.columns, ∀ c' ∈ creation.1.columns,
      c.foreignKey.isSome → c'.foreignKey.isSome → ¬ (c.name ++ link).toList <+: c'.name.toList

variable {b : Builder} {r : Resolver}

theorem exists_turns_of_mem_creations {creation : Table × List Turn}
    (h : creation ∈ b.creations r) : ∃ s, creation.2 = Turn.all s creation.1.columns := by
  obtain ⟨x, hx, hcreation⟩ := List.mem_filterMap.1 h
  obtain ⟨t, ht, rfl⟩ := Option.map_eq_some_iff.1 hcreation
  exact ((Request.kept_of_mem_renderings hx).createsObjects ht).1

/-- What holds within each table and between tables of two names holds of all objects. -/
theorem pairwise_objects {R : TableObject → TableObject → Prop} (hdistinct : b.Distinct r)
    (hwithin : ∀ creation ∈ b.creations r, (creation.1.objects creation.2).Pairwise R)
    (hbetween : ∀ x ∈ b.creations r, ∀ y ∈ b.creations r, x.1.name ≠ y.1.name →
      ∀ o ∈ x.1.objects x.2, ∀ o' ∈ y.1.objects y.2, R o o') :
    (b.objects r).Pairwise R := by
  unfold objects
  rw [List.pairwise_flatMap]
  refine ⟨hwithin, ?_⟩
  have hnames := List.pairwise_map.1 hdistinct.tables
  exact hnames.imp_of_mem fun {x y} hx hy hne => hbetween x hx y hy hne

theorem pairwise_turns (hdistinct : b.Distinct r) {creation : Table × List Turn}
    (h : creation ∈ b.creations r) :
    creation.2.Pairwise fun x y => x.column.name ≠ y.column.name := by
  obtain ⟨s, hs⟩ := exists_turns_of_mem_creations h
  have hsublist := (Turn.sublist_columns s creation.1.columns).map Column.name
  rw [← hs, List.map_map] at hsublist
  exact List.pairwise_map.1 ((hdistinct.columns creation h).sublist hsublist)

/-- Where objects run together, they are foreign keys, or unique constraints or indexes of two
tables. -/
theorem pairwise_runsTogether (hdistinct : b.Distinct r) (dialect : Builtin) :
    (b.objects r).Pairwise fun x y => x.RunsTogether dialect y →
      x.kind = .foreignKey ∨ x.table ≠ y.table ∧ x.kind ≠ .primaryKey := by
  refine pairwise_objects hdistinct (fun creation hcreation => ?_)
    fun x hx y hy hne o ho o' ho' htogether => ?_
  · have hcolumns := List.pairwise_map.1 (hdistinct.columns creation hcreation)
    refine Table.pairwise_objects (fun _ _ hne htogether => absurd htogether.1 hne) ?_ ?_ ?_
    · exact List.pairwise_of_forall fun _ _ _ => .inl rfl
    · refine hcolumns.imp fun hne htogether => absurd ?_ hne
      exact (String.append_right_inj _).1 htogether.2
    · refine hcolumns.imp fun hne htogether => absurd ?_ hne
      exact (String.append_right_inj _).1 htogether.2
  · rw [Table.table_of_mem_objects ho, Table.table_of_mem_objects ho']
    refine .inr ⟨hne, fun hkind => hne ?_⟩
    have hkind' := htogether.1.symm.trans hkind
    rw [← Table.table_of_mem_objects ho, ← Table.table_of_mem_objects ho']
    cases o <;> cases hkind
    cases o' <;> cases hkind'
    exact htogether.2

/-- Where no name begins another, nothing runs together. -/
theorem pairwise_not_runsTogether (hdistinct : b.Distinct r) {dialect : Builtin}
    (hunbegun : b.Unbegun r dialect.link) :
    (b.objects r).Pairwise fun x y => ¬ x.RunsTogether dialect y := by
  refine pairwise_objects hdistinct (fun creation hcreation => ?_)
    fun x hx y hy hne o ho o' ho' => TableObject.not_runsTogether ?_ ?_
  · have hcolumns := List.pairwise_map.1 (hdistinct.columns creation hcreation)
    refine Table.pairwise_objects (fun _ _ hne htogether => hne htogether.1) ?_ ?_ ?_
    · refine (pairwise_turns hdistinct hcreation).imp_of_mem fun {x y} hx hy hne => ?_
      obtain ⟨s, hs⟩ := exists_turns_of_mem_creations hcreation
      have hmem : ∀ turn ∈ creation.2,
          turn.column ∈ creation.1.columns ∧ turn.column.foreignKey.isSome := by
        intro turn hturn
        rw [hs] at hturn
        exact ⟨(Turn.sublist_columns s _).subset (List.mem_map_of_mem hturn),
          by rw [Turn.foreignKey_of_mem_all hturn]; rfl⟩
      obtain ⟨hcx, hkx⟩ := hmem x hx
      obtain ⟨hcy, hky⟩ := hmem y hy
      exact TableObject.foreignKey_not_runsTogether hne
        (hunbegun.columns creation hcreation _ hcx _ hcy hkx hky)
        (hunbegun.columns creation hcreation _ hcy _ hcx hky hkx)
    · exact hcolumns.imp fun hne htogether => hne ((String.append_right_inj _).1 htogether.2)
    · exact hcolumns.imp fun hne htogether => hne ((String.append_right_inj _).1 htogether.2)
  · rw [Table.table_of_mem_objects ho, Table.table_of_mem_objects ho']
    exact fun hbegins => hne (hunbegun.tables x hx y hy hbegins)
  · rw [Table.table_of_mem_objects ho, Table.table_of_mem_objects ho']
    exact fun hbegins => hne (hunbegun.tables y hy x hx hbegins).symm

/-- When the names of a build are distinct.  Its text has a statement for each object that it
creates.  Under a built-in dialect two names are equal just when they are of one kind and their
parts make up the same text, so all are distinct just when no two objects of one kind run together.
 If tables have names of their own, and columns in their tables, that leaves two
foreign keys, or two unique constraints or two indexes of different tables; and where no name
begins another, all names are distinct. -/
theorem names_distinct_iff (dialect : Builtin) (queue : List Request) (r : Resolver)
    {text : String} (h : (build { dialect := dialect.dialect, queue } r).1 = .ok text)
    (hdistinct : Distinct { dialect := dialect.dialect, queue } r) :
    let b : Builder := { dialect := dialect.dialect, queue }
    (text = Request.script ((b.renderings r).map Rendering.block) ∧
      ∀ x ∈ b.renderings r, ∀ t, x.table? = some t → x.CreatesObjects t) ∧
    (∀ x y : TableObject, x.name dialect.dialect = y.name dialect.dialect ↔
      x.kind = y.kind ∧ x.parts dialect = y.parts dialect) ∧
    (((b.objects r).map (TableObject.name dialect.dialect)).Nodup ↔
      (b.objects r).Pairwise fun x y => ¬ x.RunsTogether dialect y) ∧
    ((b.objects r).Pairwise fun x y => x.RunsTogether dialect y →
      x.kind = .foreignKey ∨ x.table ≠ y.table ∧ x.kind ≠ .primaryKey) ∧
    (b.Unbegun r dialect.link →
      ((b.objects r).map (TableObject.name dialect.dialect)).Nodup) := by
  intro b
  refine ⟨⟨(shows_of_build h).text, fun x hx t ht => ?_⟩, fun x y => TableObject.name_eq_iff,
    TableObject.nodup_names_iff,
    pairwise_runsTogether hdistinct dialect, fun hunbegun => ?_⟩
  · exact ((Request.kept_of_mem_renderings hx).createsObjects ht).2
  · exact TableObject.nodup_names_iff.2 (pairwise_not_runsTogether hdistinct hunbegun)

end Builder

/-! ## Unique constraints that run together, and names that begin no other -/

namespace Roles

def member (ident : String) : Member :=
  ({ ident, type := .scalar .string } : Member).unique

def user : Model := (Model.named "user").withMember (member "rolename")

def userRole : Model := (Model.named "userrole").withMember (member "name")

def builder : Builder where
  dialect := Builtin.mssql.dialect
  queue := [.createTable user false, .createTable userRole false]

def text : String :=
  "CREATE TABLE dbo.user (\n    rolename nvarchar(max) NULL\n);\n"
    ++ "ALTER TABLE dbo.user ADD CONSTRAINT UC_userrolename UNIQUE (rolename);\n"
    ++ "CREATE TABLE dbo.userrole (\n    name nvarchar(max) NULL\n);\n"
    ++ "ALTER TABLE dbo.userrole ADD CONSTRAINT UC_userrolename UNIQUE (name);\n"

theorem build_text : (builder.build (.new .ofId)).1 = .ok text := by
  decide +kernel

theorem distinct : builder.Distinct (.new .ofId) :=
  ⟨by decide +kernel, by decide +kernel⟩

/-- Both constraints are named after the user and the role name. -/
theorem not_names_distinct :
    ¬ ∀ (b : Builder) (dialect : Builtin) (r : Resolver) (text : String),
      b.dialect = dialect.dialect → (b.build r).1 = .ok text → b.Distinct r →
        ((b.objects r).map (TableObject.name b.dialect)).Nodup := by
  intro h
  have hnames := h builder .mssql (.new .ofId) text rfl build_text distinct
  revert hnames
  decide +kernel

/-- A grant is of one role, and there is one for each role and office. -/
def grant : Model :=
  ((Model.named "grant").withMember
    ((member "role").references "userrole" "name").index).withMember
      ((member "office").references "office" "id")

def granting : List Request := [.createTable userRole false, .createTable grant true]

theorem exists_build_granting : ∃ text,
    (Builder.build { dialect := Builtin.postgres.dialect, queue := granting } (.new .ofId)).1
      = .ok text :=
  ⟨"CREATE TABLE public.userrole (\n    name varchar NULL\n);\n"
    ++ "ALTER TABLE public.userrole ADD CONSTRAINT userrolename_unique UNIQUE (name);\n"
    ++ "CREATE TABLE IF NOT EXISTS public.grant (\n    role varchar NULL,\n"
    ++ "    office varchar NULL\n);\n"
    ++ "ALTER TABLE public.grant ADD CONSTRAINT grantrole_to_userrolename_fkey "
    ++ "FOREIGN KEY (role) REFERENCES public.userrole (name);\n"
    ++ "ALTER TABLE public.grant ADD CONSTRAINT grantoffice_to_officeid_fkey "
    ++ "FOREIGN KEY (office) REFERENCES public.office (id);\n"
    ++ "ALTER TABLE public.grant ADD CONSTRAINT grantrole_unique UNIQUE (role);\n"
    ++ "ALTER TABLE public.grant ADD CONSTRAINT grantoffice_unique UNIQUE (office);\n"
    ++ "CREATE INDEX grantrole_inx ON public.grant (role);\n", by decide +kernel⟩

theorem names_distinct_granting :
    let b : Builder := { dialect := Builtin.postgres.dialect, queue := granting }
    (∃ text, (b.build (.new .ofId)).1 = .ok text) ∧ b.Distinct (.new .ofId) ∧
      b.Unbegun (.new .ofId) "_to" ∧
      ((b.objects (.new .ofId)).map (TableObject.name Dialect.postgres)).Nodup := by
  obtain ⟨text, htext⟩ := exists_build_granting
  have hdistinct : Builder.Distinct { dialect := Builtin.postgres.dialect, queue := granting }
      (.new .ofId) := ⟨by decide +kernel, by decide +kernel⟩
  have hunbegun : Builder.Unbegun { dialect := Builtin.postgres.dialect, queue := granting }
      (.new .ofId) "_to" := ⟨by decide +kernel, by decide +kernel⟩
  exact ⟨⟨text, htext⟩, hdistinct, hunbegun,
    (Builder.names_distinct_iff .postgres granting (.new .ofId) htext hdistinct).2.2.2.2
      hunbegun⟩

end Roles
end SchemaDdl
