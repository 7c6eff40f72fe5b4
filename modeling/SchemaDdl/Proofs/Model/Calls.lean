import SchemaDdl.Proofs.Column.Extraction

/-!
# Members declared call by call

A member is declared by calls.  Most of them append an annotation, and the first annotation of a
kind counts; three edit the settings of the column in place, so for those the last call counts.  A
column annotation that is appended as a whole counts only where it comes before every edit, since
an edit that finds none makes one of its own (`Member.Call.initial`).

`Column.ofCalls` is the column that a sequence of calls declares, told kind by kind, and
`Column.describe_declare` says that it is the one a new resolver describes.  Calls of different
kinds may change places.
-/

namespace SchemaDdl

open SchemaDdl.Text (nonBlank)

namespace Member

/-- A call that declares something about a member: one of its operations, or a whole column
annotation to append. -/
inductive Call
  | column (name : String)
  | order (n : Nat)
  | typeName (name : String)
  | key
  | autoIncrement
  | required
  | unique
  | index
  | uniqueIndex
  | foreignKey (id : ModelId) (member : String)
  | references (model member : String)
  | maxLength (n : Nat)
  | stringLength (n : Nat)
  | defaultValue (text : String)
  | computed (expression : String)
  | notMapped
  | settings (s : ColumnSettings)
  deriving DecidableEq, Repr

namespace Call

def apply (call : Call) (m : Member) : Member :=
  match call with
  | column name => m.column name
  | order n => m.order n
  | typeName name => m.typeName name
  | key => m.key
  | autoIncrement => m.autoIncrement
  | required => m.required
  | unique => m.unique
  | index => m.index
  | uniqueIndex => m.uniqueIndex
  | foreignKey id member => m.foreignKey id member
  | references model member => m.references model member
  | maxLength n => m.maxLength n
  | stringLength n => m.stringLength n
  | defaultValue text => m.defaultValue text
  | computed expression => m.computed expression
  | notMapped => m.notMapped
  | settings s => m.annotate (.column s)

end Call

def applyAll (m : Member) (calls : List Call) : Member :=
  calls.foldl (fun m call => call.apply m) m

/-- The member that some calls declare. -/
def declare (ident : String) (type : FieldType) (calls : List Call) : Member :=
  ({ ident, type } : Member).applyAll calls

@[simp] theorem applyAll_nil (m : Member) : m.applyAll [] = m := rfl

@[simp] theorem applyAll_cons (m : Member) (call : Call) (rest : List Call) :
    m.applyAll (call :: rest) = (call.apply m).applyAll rest := rfl

theorem applyAll_append (m : Member) (calls more : List Call) :
    m.applyAll (calls ++ more) = (m.applyAll calls).applyAll more :=
  List.foldl_append

/-! ## What calls say, kind by kind -/

namespace Call

/-- Calls of one kind declare the same thing. -/
inductive Kind
  | column
  | order
  | typeName
  | key
  | autoIncrement
  | required
  | unique
  | index
  | foreignKey
  | maxLength
  | stringLength
  | defaultValue
  | computed
  | notMapped
  | settings
  deriving DecidableEq, Repr

def kind : Call → Kind
  | column _ => .column
  | order _ => .order
  | typeName _ => .typeName
  | key => .key
  | autoIncrement => .autoIncrement
  | required => .required
  | unique => .unique
  | index | uniqueIndex => .index
  | foreignKey _ _ | references _ _ => .foreignKey
  | maxLength _ => .maxLength
  | stringLength _ => .stringLength
  | defaultValue _ => .defaultValue
  | computed _ => .computed
  | notMapped => .notMapped
  | settings _ => .settings

def column? : Call → Option String
  | column name => some name
  | _ => none

def order? : Call → Option Nat
  | order n => some n
  | _ => none

def typeName? : Call → Option String
  | typeName name => some name
  | _ => none

def index? : Call → Option Bool
  | index => some false
  | uniqueIndex => some true
  | _ => none

def foreignKey? : Call → Option ForeignKey
  | foreignKey id member => some { model := { id, typed := true }, member }
  | references model member => some { model := { id := ⟨model⟩, typed := false }, member }
  | _ => none

def maxLength? : Call → Option Nat
  | maxLength n => some n
  | _ => none

def stringLength? : Call → Option Nat
  | stringLength n => some n
  | _ => none

def defaultValue? : Call → Option String
  | defaultValue text => some text
  | _ => none

def computed? : Call → Option String
  | computed expression => some expression
  | _ => none

def settings? : Call → Option ColumnSettings
  | settings s => some s
  | _ => none

/-- The call edits the column settings in place. -/
def isEdit : Call → Bool
  | column _ | order _ | typeName _ => true
  | _ => false

/-- What the last call of a kind says. -/
def last? {α : Type} (read : Call → Option α) (calls : List Call) : Option α :=
  calls.reverse.findSome? read

/-- The first column annotation that is appended before every edit. -/
def initial (calls : List Call) : Option ColumnSettings :=
  (calls.takeWhile fun call => !call.isEdit).findSome? settings?

/-- One of the column settings: what the last call of its kind says, else what the initial column
annotation says. -/
def setting {α : Type} (read : Call → Option α) (field : ColumnSettings → Option α)
    (calls : List Call) : Option α :=
  (last? read calls).or ((initial calls).bind field)

/-- One sequence of calls has the calls of each kind that the other has, in the same order. -/
def Reordered (calls calls' : List Call) : Prop :=
  ∀ kind : Kind, calls.filter (fun call => call.kind = kind)
    = calls'.filter fun call => call.kind = kind

end Call

end Member

open Member (Call)

/-- The column that a sequence of calls declares. -/
def Column.ofCalls (ident : String) (type : FieldType) (calls : List Call) : Column where
  name := (nonBlank (Call.setting Call.column? ColumnSettings.name calls)).getD ident
  member := ident
  type := type
  order := Call.setting Call.order? ColumnSettings.order calls
  typeName := Call.setting Call.typeName? ColumnSettings.typeName calls
  primaryKey := calls.contains .key
  autoIncrement := calls.contains .autoIncrement
  foreignKey := calls.findSome? Call.foreignKey?
  index := (calls.findSome? Call.index?).isSome
  indexUnique := (calls.findSome? Call.index?) = some true
  required := calls.contains .required
  unique := calls.contains .unique
  maxLength := (calls.findSome? Call.maxLength?).or (calls.findSome? Call.stringLength?)
  defaultValue := calls.findSome? Call.defaultValue?
  computed := calls.findSome? Call.computed?

namespace Member

/-! ## Calls that append -/

/-- The annotation, other than a column annotation, that a call appends. -/
def Call.value? : Call → Option Annotation
  | key => some .key
  | autoIncrement => some .autoIncrement
  | required => some .required
  | unique => some .unique
  | index => some (.index false)
  | uniqueIndex => some (.index true)
  | foreignKey id member => some (.foreignKey ⟨⟨id, true⟩, member⟩)
  | references model member => some (.foreignKey ⟨⟨⟨model⟩, false⟩, member⟩)
  | maxLength n => some (.maxLength n)
  | stringLength n => some (.stringLength n)
  | defaultValue text => some (.defaultValue text)
  | computed expression => some (.computed expression)
  | notMapped => some .notMapped
  | column _ | order _ | typeName _ | settings _ => none

theorem filterMap_annotate {α : Type} (f : Annotation → Option α) (m : Member) (a : Annotation) :
    (m.annotate a).annotations.filterMap f = m.annotations.filterMap f ++ (f a).toList := by
  rw [annotate, List.filterMap_append]
  cases h : f a <;> simp [h]

section Values

variable {α : Type} {f : Annotation → Option α} (hf : ∀ s, f (.column s) = none)

include hf

theorem filterMap_apply (call : Call) (m : Member) :
    (call.apply m).annotations.filterMap f
      = m.annotations.filterMap f ++ (call.value?.bind f).toList := by
  cases call with
  | column | order | typeName =>
    rw [Call.value?, Option.bind_none, Option.toList_none, List.append_nil]
    exact Annotation.filterMap_editColumn hf _ _
  | settings s =>
    rw [Call.apply, filterMap_annotate, hf]
    rfl
  | _ => exact filterMap_annotate f m _

/-- Calls append their values in turn. -/
theorem filterMap_applyAll (m : Member) (calls : List Call) :
    (m.applyAll calls).annotations.filterMap f
      = m.annotations.filterMap f ++ calls.filterMap fun call => call.value?.bind f := by
  induction calls generalizing m with
  | nil => simp
  | cons call rest ih =>
    rw [applyAll_cons, ih, filterMap_apply hf, List.append_assoc, List.filterMap_cons]
    cases call.value?.bind f <;> rfl

end Values

namespace Call

/-- What is found among annotations is what calls append. -/
structure Appends {α : Type} (f : Annotation → Option α) (read : Call → Option α) : Prop where
  column : ∀ s, f (.column s) = none
  value : ∀ call : Call, call.value?.bind f = read call

theorem appends_index : Appends Annotation.index? index? :=
  ⟨fun _ => rfl, fun call => by cases call <;> rfl⟩

theorem appends_foreignKey : Appends Annotation.foreignKey? foreignKey? :=
  ⟨fun _ => rfl, fun call => by cases call <;> rfl⟩

theorem appends_maxLength : Appends Annotation.maxLength? maxLength? :=
  ⟨fun _ => rfl, fun call => by cases call <;> rfl⟩

theorem appends_stringLength : Appends Annotation.stringLength? stringLength? :=
  ⟨fun _ => rfl, fun call => by cases call <;> rfl⟩

theorem appends_defaultValue : Appends Annotation.defaultValue? defaultValue? :=
  ⟨fun _ => rfl, fun call => by cases call <;> rfl⟩

theorem appends_computed : Appends Annotation.computed? computed? :=
  ⟨fun _ => rfl, fun call => by cases call <;> rfl⟩

/-- The call sets a flag, and no other call does. -/
structure Flags (flag : Call) (a : Annotation) : Prop where
  column : ∀ s, a ≠ .column s
  value : ∀ call : Call, call.value? = some a ↔ call = flag

theorem flags_key : Flags key .key :=
  ⟨nofun, fun call => by cases call <;> simp [value?]⟩

theorem flags_autoIncrement : Flags autoIncrement .autoIncrement :=
  ⟨nofun, fun call => by cases call <;> simp [value?]⟩

theorem flags_required : Flags required .required :=
  ⟨nofun, fun call => by cases call <;> simp [value?]⟩

theorem flags_unique : Flags unique .unique :=
  ⟨nofun, fun call => by cases call <;> simp [value?]⟩

theorem flags_notMapped : Flags notMapped .notMapped :=
  ⟨nofun, fun call => by cases call <;> simp [value?]⟩

end Call

section Appended

variable {α : Type} {f : Annotation → Option α} {read : Call → Option α} (h : Call.Appends f read)
  (ident : String) (type : FieldType) (calls : List Call)

include h

theorem filterMap_declare :
    (declare ident type calls).annotations.filterMap f = calls.filterMap read := by
  rw [declare, filterMap_applyAll h.column, funext h.value]
  rfl

/-- The first annotation of a kind comes from the first call that appends one. -/
theorem findSome?_declare :
    (declare ident type calls).annotations.findSome? f = calls.findSome? read := by
  rw [← List.head?_filterMap, filterMap_declare h, List.head?_filterMap]

end Appended

/-- A flag is set when its call occurs. -/
theorem contains_declare {flag : Call} {a : Annotation} (h : flag.Flags a) (ident : String)
    (type : FieldType) (calls : List Call) :
    (declare ident type calls).annotations.contains a = calls.contains flag := by
  have hcolumn : ∀ s, Option.guard (· = a) (.column s) = none := by
    intro s
    rw [Option.guard_eq_none_iff, decide_eq_false_iff_not]
    exact (h.column s).symm
  have hmem : ∀ l : List Annotation, a ∈ l ↔ a ∈ l.filterMap (Option.guard (· = a)) := by
    simp
  have hcall : ∀ call : Call, call.value?.bind (Option.guard (· = a)) = some a ↔ call = flag := by
    simp [Option.bind_eq_some_iff, h.value]
  rw [Bool.eq_iff_iff, List.contains_iff_mem, List.contains_iff_mem, hmem, declare,
    filterMap_applyAll hcolumn]
  simp [hcall]

/-! ## Calls that edit -/

namespace Call

/-- What a call does to column settings that are there. -/
def edit : Call → ColumnSettings → ColumnSettings
  | column name, s => { s with name := some name }
  | order n, s => { s with order := some n }
  | typeName name, s => { s with typeName := some name }
  | _, s => s

theorem edit_of_not_isEdit {call : Call} (h : call.isEdit = false) (s : ColumnSettings) :
    call.edit s = s := by
  cases call with
  | column | order | typeName => cases h
  | _ => rfl

/-- The column settings after a call. -/
def settle (call : Call) : Option ColumnSettings → Option ColumnSettings
  | some s => some (call.edit s)
  | none => if call.isEdit then some (call.edit {}) else call.settings?

end Call

theorem columnSettings_editColumn (m : Member) (edit : ColumnSettings → ColumnSettings) :
    (m.editColumn edit).columnSettings = some (edit (m.columnSettings.getD {})) :=
  Annotation.findSome?_column?_editColumn edit m.annotations

theorem columnSettings_annotate (m : Member) (a : Annotation) :
    (m.annotate a).columnSettings = m.columnSettings.or a.column? := by
  rw [columnSettings, annotate, List.findSome?_append, List.findSome?_singleton]
  rfl

theorem columnSettings_apply (call : Call) (m : Member) :
    (call.apply m).columnSettings = call.settle m.columnSettings := by
  cases call with
  | column | order | typeName =>
    refine (columnSettings_editColumn _ _).trans ?_
    cases m.columnSettings <;> rfl
  | _ =>
    refine (columnSettings_annotate _ _).trans ?_
    cases m.columnSettings <;> rfl

namespace Call

variable {α : Type} {read : Call → Option α} {field : ColumnSettings → Option α}

theorem last?_cons (read : Call → Option α) (call : Call) (rest : List Call) :
    last? read (call :: rest) = (last? read rest).or (read call) := by
  rw [last?, last?, List.reverse_cons, List.findSome?_append, List.findSome?_singleton]

/-- What a field of the settings holds is what calls last set it to. -/
structure Sets (read : Call → Option α) (field : ColumnSettings → Option α) : Prop where
  unset : field {} = none
  edit : ∀ (call : Call) (s : ColumnSettings), field (call.edit s) = (read call).or (field s)

theorem sets_name : Sets column? ColumnSettings.name :=
  ⟨rfl, fun call _ => by cases call <;> rfl⟩

theorem sets_order : Sets order? ColumnSettings.order :=
  ⟨rfl, fun call _ => by cases call <;> rfl⟩

theorem sets_typeName : Sets typeName? ColumnSettings.typeName :=
  ⟨rfl, fun call _ => by cases call <;> rfl⟩

theorem Sets.read_eq_none (h : Sets read field) {call : Call} (hedit : call.isEdit = false) :
    read call = none := by
  have hfield := h.edit call {}
  rw [edit_of_not_isEdit hedit, h.unset, Option.or_none] at hfield
  exact hfield.symm

theorem initial_cons_of_isEdit {call : Call} (h : call.isEdit = true) (rest : List Call) :
    initial (call :: rest) = none := by
  rw [initial, List.takeWhile_cons_of_neg (by simp [h])]
  rfl

theorem initial_cons_of_not_isEdit {call : Call} (h : call.isEdit = false) (rest : List Call) :
    initial (call :: rest) = call.settings?.or (initial rest) := by
  rw [initial, List.takeWhile_cons_of_pos (by simp [h]), List.findSome?_cons, initial]
  cases call.settings? <;> rfl

end Call

section Settings

open Call

variable {α : Type} {read : Call → Option α} {field : ColumnSettings → Option α} {m : Member}

/-- Settings that are there are edited in place, so the last call counts. -/
theorem columnSettings_applyAll_of_some (h : Sets read field) {s : ColumnSettings}
    (hm : m.columnSettings = some s) (calls : List Call) :
    (m.applyAll calls).columnSettings.bind field = (last? read calls).or (field s) := by
  induction calls generalizing m s with
  | nil =>
    rw [applyAll_nil, hm]
    rfl
  | cons call rest ih =>
    have hcall : (call.apply m).columnSettings = some (call.edit s) := by
      rw [columnSettings_apply, hm, settle]
    rw [applyAll_cons, ih hcall, h.edit, last?_cons, Option.or_assoc]

/-- The first edit makes the settings, unless a column annotation comes before it. -/
theorem columnSettings_applyAll_of_none (h : Sets read field) (hm : m.columnSettings = none)
    (calls : List Call) :
    (m.applyAll calls).columnSettings.bind field = setting read field calls := by
  induction calls generalizing m with
  | nil =>
    rw [applyAll_nil, hm]
    rfl
  | cons call rest ih =>
    have hcall := columnSettings_apply call m
    rw [hm, settle] at hcall
    rw [applyAll_cons, setting, last?_cons]
    cases hedit : call.isEdit with
    | true =>
      rw [hedit, if_pos rfl] at hcall
      rw [columnSettings_applyAll_of_some h hcall, h.edit, h.unset, initial_cons_of_isEdit hedit,
        Option.or_assoc, Option.bind_none]
    | false =>
      rw [hedit, if_neg (by simp)] at hcall
      rw [h.read_eq_none hedit, Option.or_none, initial_cons_of_not_isEdit hedit]
      cases hsettings : call.settings? with
      | some s =>
        rw [hsettings] at hcall
        rw [columnSettings_applyAll_of_some h hcall, Option.some_or, Option.bind_some]
      | none =>
        rw [hsettings] at hcall
        rw [ih hcall, setting, Option.none_or]

theorem columnSettings_declare (h : Sets read field) (ident : String) (type : FieldType)
    (calls : List Call) :
    (declare ident type calls).columnSettings.bind field = setting read field calls :=
  columnSettings_applyAll_of_none h rfl calls

/-- A whole column annotation counts before an edit, not after it. -/
example : setting column? ColumnSettings.name [.settings { name := some "mail" }, .order 3]
      = some "mail" ∧
    setting column? ColumnSettings.name [.order 3, .settings { name := some "mail" }] = none := by
  decide

end Settings

/-! ## The declared column -/

@[simp] theorem ident_apply (call : Call) (m : Member) : (call.apply m).ident = m.ident := by
  cases call <;> rfl

@[simp] theorem type_apply (call : Call) (m : Member) : (call.apply m).type = m.type := by
  cases call <;> rfl

@[simp] theorem ident_applyAll (m : Member) (calls : List Call) :
    (m.applyAll calls).ident = m.ident := by
  induction calls generalizing m with
  | nil => rfl
  | cons call rest ih => rw [applyAll_cons, ih, ident_apply]

@[simp] theorem type_applyAll (m : Member) (calls : List Call) :
    (m.applyAll calls).type = m.type := by
  induction calls generalizing m with
  | nil => rfl
  | cons call rest ih => rw [applyAll_cons, ih, type_apply]

theorem isMapped_declare (ident : String) (type : FieldType) (calls : List Call) :
    (declare ident type calls).isMapped = !calls.contains .notMapped := by
  rw [isMapped, contains_declare Call.flags_notMapped]

/-- The column that a member declares is the one that its calls tell. -/
theorem declaredColumn_declare (ident : String) (type : FieldType) (calls : List Call) :
    (declare ident type calls).declaredColumn = Column.ofCalls ident type calls := by
  have hident : (declare ident type calls).ident = ident := ident_applyAll _ calls
  have htype : (declare ident type calls).type = type := type_applyAll _ calls
  have hunique : ∀ kind : Option Bool, kind.getD false = decide (kind = some true) := by
    rintro (_ | _ | _) <;> rfl
  simp only [declaredColumn, columnName, Column.ofMember, Column.ofCalls, hident, htype, hunique,
    columnSettings_declare Call.sets_name, columnSettings_declare Call.sets_order,
    columnSettings_declare Call.sets_typeName, contains_declare Call.flags_key,
    contains_declare Call.flags_autoIncrement, contains_declare Call.flags_required,
    contains_declare Call.flags_unique, findSome?_declare Call.appends_index,
    findSome?_declare Call.appends_foreignKey, findSome?_declare Call.appends_maxLength,
    findSome?_declare Call.appends_stringLength, findSome?_declare Call.appends_defaultValue,
    findSome?_declare Call.appends_computed]

/-! ## Calls of different kinds change places -/

namespace Call

variable {α : Type} {read : Call → Option α} {kind : Kind} {calls calls' : List Call}

/-- Only calls of the kind are read. -/
def ReadsOnly (kind : Kind) (read : Call → Option α) : Prop :=
  ∀ call : Call, call.kind ≠ kind → read call = none

theorem findSome?_filter_kind (h : ReadsOnly kind read) (calls : List Call) :
    (calls.filter fun call => call.kind = kind).findSome? read = calls.findSome? read := by
  rw [← List.head?_filterMap, List.filterMap_filter, List.head?_filterMap]
  congr 1
  funext call
  by_cases hkind : call.kind = kind
  · rw [if_pos (by simpa using hkind)]
  · rw [if_neg (by simpa using hkind), h call hkind]

namespace Reordered

theorem findSome?_eq (h : Reordered calls calls') (hread : ReadsOnly kind read) :
    calls.findSome? read = calls'.findSome? read := by
  rw [← findSome?_filter_kind hread, h, findSome?_filter_kind hread]

theorem last?_eq (h : Reordered calls calls') (hread : ReadsOnly kind read) :
    last? read calls = last? read calls' := by
  rw [last?, last?, ← findSome?_filter_kind hread, ← findSome?_filter_kind hread calls'.reverse,
    List.filter_reverse, List.filter_reverse, h]

theorem mem_iff (h : Reordered calls calls') (call : Call) : call ∈ calls ↔ call ∈ calls' := by
  have hkind := congrArg (call ∈ ·) (h call.kind)
  simpa using hkind

theorem contains_eq (h : Reordered calls calls') (call : Call) :
    calls.contains call = calls'.contains call := by
  rw [Bool.eq_iff_iff, List.contains_iff_mem, List.contains_iff_mem, h.mem_iff]

end Reordered

theorem initial_eq_none (h : ∀ s, settings s ∉ calls) : initial calls = none := by
  refine List.findSome?_eq_none_iff.2 fun call hcall => ?_
  have hmem : call ∈ calls := List.takeWhile_subset _ hcall
  cases call with
  | settings s => exact absurd hmem (h s)
  | _ => rfl

/-- Without whole column annotations a setting is what the last call of its kind makes it. -/
theorem Reordered.setting_eq (h : Reordered calls calls') (hread : ReadsOnly kind read)
    (hplain : ∀ s, settings s ∉ calls) (field : ColumnSettings → Option α) :
    setting read field calls = setting read field calls' := by
  have hplain' : ∀ s, settings s ∉ calls' := fun s hs => hplain s ((h.mem_iff _).2 hs)
  rw [setting, setting, initial_eq_none hplain, initial_eq_none hplain', h.last?_eq hread]

end Call

end Member

namespace Column

open Member (declare)

variable {calls calls' : List Call}

/-- What is told kind by kind does not depend on the order of calls of different kinds. -/
theorem ofCalls_eq_of_reordered (h : Call.Reordered calls calls')
    (hplain : ∀ s, Call.settings s ∉ calls) (ident : String) (type : FieldType) :
    ofCalls ident type calls = ofCalls ident type calls' := by
  have hname : Call.ReadsOnly .column Call.column? := fun call => by
    cases call <;> simp [Call.kind, Call.column?]
  have horder : Call.ReadsOnly .order Call.order? := fun call => by
    cases call <;> simp [Call.kind, Call.order?]
  have htypeName : Call.ReadsOnly .typeName Call.typeName? := fun call => by
    cases call <;> simp [Call.kind, Call.typeName?]
  have hindex : Call.ReadsOnly .index Call.index? := fun call => by
    cases call <;> simp [Call.kind, Call.index?]
  have hforeignKey : Call.ReadsOnly .foreignKey Call.foreignKey? := fun call => by
    cases call <;> simp [Call.kind, Call.foreignKey?]
  have hmaxLength : Call.ReadsOnly .maxLength Call.maxLength? := fun call => by
    cases call <;> simp [Call.kind, Call.maxLength?]
  have hstringLength : Call.ReadsOnly .stringLength Call.stringLength? := fun call => by
    cases call <;> simp [Call.kind, Call.stringLength?]
  have hdefault : Call.ReadsOnly .defaultValue Call.defaultValue? := fun call => by
    cases call <;> simp [Call.kind, Call.defaultValue?]
  have hcomputed : Call.ReadsOnly .computed Call.computed? := fun call => by
    cases call <;> simp [Call.kind, Call.computed?]
  simp only [ofCalls, h.setting_eq hname hplain, h.setting_eq horder hplain,
    h.setting_eq htypeName hplain, h.contains_eq, h.findSome?_eq hindex,
    h.findSome?_eq hforeignKey, h.findSome?_eq hmaxLength, h.findSome?_eq hstringLength,
    h.findSome?_eq hdefault, h.findSome?_eq hcomputed]

/-- A new resolver describes a member that is declared by calls as they tell kind by kind, and so
does the extraction of a model that has no other member, unless a call keeps the member from being
mapped.  Without whole column annotations, calls of different kinds may change places. -/
theorem describe_declare (catalog : Catalog) (m : Model) (ident : String) (type : FieldType) :
    (∀ calls, (describe (.new catalog) m (declare ident type calls)).1 = ofCalls ident type calls ∧
      (extract (.new catalog) { m with members := [declare ident type calls] }).1
        = if Call.notMapped ∈ calls then [] else [ofCalls ident type calls]) ∧
    ∀ calls calls', Call.Reordered calls calls' → (∀ s, Call.settings s ∉ calls) →
      (describe (.new catalog) m (declare ident type calls)).1
        = (describe (.new catalog) m (declare ident type calls')).1 := by
  refine ⟨fun calls => ⟨?_, ?_⟩, fun calls calls' hreordered hplain => ?_⟩
  · rw [describe_new, Member.declaredColumn_declare]
  · rw [extract_new_of_members catalog rfl, Member.isMapped_declare,
      Member.declaredColumn_declare]
    by_cases hmapped : Call.notMapped ∈ calls <;> simp [hmapped]
  · rw [describe_new, describe_new, Member.declaredColumn_declare, Member.declaredColumn_declare,
      ofCalls_eq_of_reordered hreordered hplain]

/-- Lengths, names and orders in two orders. -/
theorem describe_declare_reordered :
    let calls : List Call :=
      [.column "mail", .order 3, .stringLength 40, .maxLength 50, .order 1]
    let calls' : List Call :=
      [.maxLength 50, .order 3, .order 1, .stringLength 40, .column "mail"]
    Call.Reordered calls calls' ∧ (∀ s, Call.settings s ∉ calls) ∧
      (describe (.new .ofId) (.named "User") (declare "email" (.scalar .string) calls)).1
        = (describe (.new .ofId) (.named "User") (declare "email" (.scalar .string) calls')).1 := by
  intro calls calls'
  have hreordered : Call.Reordered calls calls' := fun kind => by cases kind <;> rfl
  have hplain : ∀ s, Call.settings s ∉ calls := by simp [calls]
  exact ⟨hreordered, hplain,
    (describe_declare .ofId (.named "User") "email" (.scalar .string)).2 calls calls' hreordered
      hplain⟩

/-- A column name that is blank is not used, although its call is the last one. -/
theorem not_describe_last_column :
    ¬ ∀ (catalog : Catalog) (m : Model) (ident : String) (type : FieldType) (calls : List Call)
      (name : String), Call.last? Call.column? calls = some name →
        (describe (.new catalog) m (declare ident type calls)).1.name = name := by
  intro h
  have hblank := h .ofId (.named "User") "email" (.scalar .string) [.column " "] " " rfl
  revert hblank
  decide +kernel

end Column
end SchemaDdl
