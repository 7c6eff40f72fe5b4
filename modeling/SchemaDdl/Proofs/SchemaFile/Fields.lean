import SchemaDdl.Proofs.Model.Calls
import SchemaDdl.SchemaFile.Apply

/-!
# What fields declare

The member of a field is declared by calls, one for each key that the field has, in a fixed order
(`FieldDecl.toMember_eq_ok_iff_declare`).  Column, order and type name share one annotation, all
other keys have annotations of their own (`FieldDecl.toMember_eq_ok_iff`), and no two keys but the
two lengths are read as one property.  So the column of the field gives its keys back
(`FieldDecl.extract_of_toMember`).
-/

namespace SchemaDdl

open Member (Call)
open SchemaDdl.Text (nonBlank)

/-! ## Calls for keys -/

namespace Member.Call

variable {α β : Type}

/-- The call for a value, if there is one. -/
def optional (call : α → Call) (value : Option α) : List Call :=
  (value.map call).toList

def flag (call : Call) (set : Bool) : List Call :=
  if set then [call] else []

theorem applyAll_optional (m : Member) (call : α → Call) (value : Option α) :
    m.applyAll (optional call value) = m.applyOptional (fun m a => (call a).apply m) value := by
  cases value <;> rfl

theorem applyAll_flag (m : Member) (call : Call) (set : Bool) :
    m.applyAll (flag call set) = m.applyFlag call.apply set := by
  cases set <;> rfl

@[simp] theorem findSome?_optional (read : Call → Option β) (call : α → Call)
    (value : Option α) :
    (optional call value).findSome? read = value.bind fun a => read (call a) := by
  cases value with
  | none => rfl
  | some a => exact List.findSome?_singleton

@[simp] theorem findSome?_flag (read : Call → Option β) (call : Call) (set : Bool) :
    (flag call set).findSome? read = if set then read call else none := by
  cases set with
  | false => rfl
  | true => exact List.findSome?_singleton

@[simp] theorem last?_append (read : Call → Option β) (calls more : List Call) :
    last? read (calls ++ more) = (last? read more).or (last? read calls) := by
  rw [last?, List.reverse_append, List.findSome?_append, last?, last?]

@[simp] theorem last?_optional (read : Call → Option β) (call : α → Call)
    (value : Option α) :
    last? read (optional call value) = value.bind fun a => read (call a) := by
  rw [← findSome?_optional, last?]
  cases value <;> rfl

@[simp] theorem last?_flag (read : Call → Option β) (call : Call) (set : Bool) :
    last? read (flag call set) = if set then read call else none := by
  rw [← findSome?_flag, last?]
  cases set <;> rfl

@[simp] theorem mem_optional {c : Call} {call : α → Call} {value : Option α} :
    c ∈ optional call value ↔ ∃ a, value = some a ∧ call a = c := by
  simp [optional]

@[simp] theorem mem_flag {c call : Call} {set : Bool} :
    c ∈ flag call set ↔ set = true ∧ c = call := by
  cases set <;> simp [flag]

end Member.Call

/-! ## Defaults as text -/

/-- The text of a scalar: a text itself, an integer in decimal with a minus sign below zero, a float
as the shortest decimal that reads back in double precision, a truth value by its name, and a
date-time as RFC 3339 writes it. -/
inductive Toml.Scalar.Spells : Toml.Scalar → String → Prop
  | text (s : String) : Spells (.text s) s
  | integer (n : Int) : Spells (.integer n) (toString n)
  | float (x : Number.Binary) : Spells (.float x) (x.text .double)
  | yes : Spells (.boolean true) "true"
  | no : Spells (.boolean false) "false"
  | datetime (d : Toml.Datetime) : Spells (.datetime d) d.text

theorem Number.signedDecimal_eq_toString (n : Int) : signedDecimal n = toString n := by
  cases n with
  | ofNat n => rfl
  | negSucc n => rfl

theorem Toml.Scalar.spells_display (s : Toml.Scalar) : s.Spells s.display := by
  cases s with
  | text s => exact .text s
  | integer n =>
    rw [display, Number.signedDecimal_eq_toString]
    exact .integer n
  | float x => exact .float x
  | boolean b =>
    cases b with
    | false => exact .no
    | true => exact .yes
  | datetime d => exact .datetime d

/-- A scalar has one text. -/
theorem Toml.Scalar.Spells.eq_display {s : Toml.Scalar} {text : String} (h : s.Spells text) :
    text = s.display := by
  cases h with
  | integer n => exact (Number.signedDecimal_eq_toString n).symm
  | _ => rfl

namespace FieldDecl

open Member.Call (optional flag)

/-- The default of a field as text, if it has one: that of a scalar. -/
inductive Defaults (f : FieldDecl) : Option String → Prop
  | none (h : f.default = none) : Defaults f none
  | scalar {s : Toml.Scalar} {text : String} (h : f.default = some (.scalar s))
      (htext : s.Spells text) : Defaults f (some text)

theorem defaultText_eq_ok_iff {f : FieldDecl} (model : String) {text : Option String} :
    f.defaultText model = .ok text ↔ f.Defaults text := by
  constructor
  · intro h
    unfold defaultText at h
    cases hdefault : f.default with
    | none =>
      rw [hdefault] at h
      cases h
      exact .none hdefault
    | some value =>
      rw [hdefault] at h
      cases value with
      | scalar s =>
        cases h
        exact .scalar hdefault s.spells_display
      | array | tables | table => cases h
  · intro h
    cases h with
    | none hdefault => rw [defaultText, hdefault]
    | scalar hdefault htext =>
      rw [defaultText, hdefault, htext.eq_display]
      rfl

/-! ## The calls of a field -/

/-- The calls that a field stands for, its default being given as text. -/
def calls (f : FieldDecl) (text : Option String) : List Call :=
  optional .column f.column ++ optional .order f.order ++ optional .typeName f.typeName
    ++ flag .key f.key ++ flag .autoIncrement f.autoIncrement ++ flag .required f.required
    ++ flag .unique f.unique ++ flag .index (f.index = some .plain)
    ++ flag .uniqueIndex (f.index = some .unique) ++ optional .maxLength f.maxLength
    ++ optional .stringLength f.stringLength ++ optional .defaultValue text
    ++ optional .computed f.computed
    ++ optional (fun target => .references target.1 target.2) f.foreignKey
    ++ flag .notMapped f.notMapped

theorem applyOptional_index (m : Member) (value : Option IndexKind) :
    m.applyOptional (fun m kind => m.annotate (.index (kind = .unique))) value
      = (m.applyFlag Member.index (value = some .plain)).applyFlag Member.uniqueIndex
          (value = some .unique) := by
  rcases value with _ | _ | _ <;> rfl

theorem applyAll_calls (f : FieldDecl) (text : Option String) (m : Member) :
    m.applyAll (f.calls text)
      = f.annotateRest ((f.annotateColumn m).applyOptional Member.defaultValue text) := by
  simp only [calls, Member.applyAll_append, Member.Call.applyAll_optional,
    Member.Call.applyAll_flag, annotateColumn, applyOptional_index]
  rfl

/-- The member of a field, from its type and its default. -/
theorem toMember_eq (f : FieldDecl) (model : String) (enums : EnumTable) :
    f.toMember model enums
      = (FieldType.parse enums f.type).bind fun type =>
          (f.defaultText model).map fun text => Member.declare f.name type (f.calls text) := by
  unfold toMember
  cases FieldType.parse enums f.type with
  | error e => rfl
  | ok type =>
    cases f.defaultText model with
    | error e => rfl
    | ok text =>
      simp only [Except.bind, Except.map, Member.declare, applyAll_calls]

/-- A field is accepted just when its type can be read and its default, if it has one, is a scalar;
then its member is declared by its calls. -/
theorem toMember_eq_ok_iff_declare {f : FieldDecl} {model : String} {enums : EnumTable}
    {member : Member} :
    f.toMember model enums = .ok member ↔
      ∃ type text, FieldType.parse enums f.type = .ok type ∧ f.Defaults text ∧
        member = Member.declare f.name type (f.calls text) := by
  simp only [← defaultText_eq_ok_iff model]
  rw [toMember_eq]
  cases FieldType.parse enums f.type with
  | error e => simp [Except.bind]
  | ok type =>
    cases f.defaultText model with
    | error e => simp [Except.bind, Except.map]
    | ok text => simp [Except.bind, Except.map, eq_comm]

/-! ## The member of a field -/

/-- An annotation that stands where it is asked for. -/
def whenAsked (asked : Bool) (a : Annotation) : List Annotation :=
  if asked then [a] else []

/-- The annotations that the keys of a field ask for: one for column, order and type name together,
then one for each other key that is set. -/
def declaredAnnotations (f : FieldDecl) (text : Option String) : List Annotation :=
  whenAsked (f.column.isSome || f.order.isSome || f.typeName.isSome)
      (.column { name := f.column, order := f.order, typeName := f.typeName })
    ++ whenAsked f.key .key ++ whenAsked f.autoIncrement .autoIncrement
    ++ whenAsked f.required .required ++ whenAsked f.unique .unique
    ++ (f.index.map fun kind => Annotation.index (kind = .unique)).toList
    ++ (f.maxLength.map Annotation.maxLength).toList
    ++ (f.stringLength.map Annotation.stringLength).toList
    ++ (text.map Annotation.defaultValue).toList ++ (f.computed.map Annotation.computed).toList
    ++ (f.foreignKey.map fun target => Annotation.foreignKey
        { model := { id := ⟨target.1⟩, typed := false }, member := target.2 }).toList
    ++ whenAsked f.notMapped .notMapped

/-- The member is what the field says: its name, the type that its text denotes, and the annotations
of its keys. -/
structure Declares (enums : EnumTable) (f : FieldDecl) (member : Member) : Prop where
  ident : member.ident = f.name
  type : FieldType.parse enums f.type = .ok member.type
  annotations : ∃ text, f.Defaults text ∧ member.annotations = f.declaredAnnotations text

theorem annotations_applyFlag (edit : Member → Member) (a : Annotation)
    (hedit : ∀ m, edit m = m.annotate a) (set : Bool) (m : Member) :
    (m.applyFlag edit set).annotations = m.annotations ++ whenAsked set a := by
  cases set with
  | false => exact (List.append_nil _).symm
  | true => exact congrArg Member.annotations (hedit m)

theorem annotations_applyOptional {α : Type} (edit : Member → α → Member) (a : α → Annotation)
    (hedit : ∀ m x, edit m x = m.annotate (a x)) (value : Option α) (m : Member) :
    (m.applyOptional edit value).annotations = m.annotations ++ (value.map a).toList := by
  cases value with
  | none => exact (List.append_nil _).symm
  | some x => exact congrArg Member.annotations (hedit m x)

/-- Column, order and type name end up in one annotation. -/
theorem annotations_settings (ident : String) (type : FieldType) (column typeName : Option String)
    (order : Option Nat) :
    ((((({ ident, type } : Member).applyOptional Member.column column).applyOptional Member.order
        order).applyOptional Member.typeName typeName)).annotations
      = whenAsked (column.isSome || order.isSome || typeName.isSome)
          (.column { name := column, order, typeName }) := by
  cases column <;> cases order <;> cases typeName <;> rfl

theorem annotations_declare (f : FieldDecl) (type : FieldType) (text : Option String) :
    (f.annotateRest ((f.annotateColumn { ident := f.name, type }).applyOptional
      Member.defaultValue text)).annotations = f.declaredAnnotations text := by
  unfold annotateRest annotateColumn declaredAnnotations
  rw [annotations_applyFlag Member.notMapped .notMapped fun _ => rfl,
    annotations_applyOptional (fun m (target : String × String) => m.references target.1 target.2)
      (fun target =>
        .foreignKey { model := { id := ⟨target.1⟩, typed := false }, member := target.2 })
      fun _ _ => rfl,
    annotations_applyOptional Member.computed .computed fun _ _ => rfl,
    annotations_applyOptional Member.defaultValue .defaultValue fun _ _ => rfl,
    annotations_applyOptional Member.stringLength .stringLength fun _ _ => rfl,
    annotations_applyOptional Member.maxLength .maxLength fun _ _ => rfl,
    annotations_applyOptional (fun m (kind : IndexKind) => m.annotate (.index (kind = .unique)))
      (fun kind => .index (kind = .unique)) fun _ _ => rfl,
    annotations_applyFlag Member.unique .unique fun _ => rfl,
    annotations_applyFlag Member.required .required fun _ => rfl,
    annotations_applyFlag Member.autoIncrement .autoIncrement fun _ => rfl,
    annotations_applyFlag Member.key .key fun _ => rfl, annotations_settings]

theorem declare_eq (f : FieldDecl) (type : FieldType) (text : Option String) :
    Member.declare f.name type (f.calls text)
      = { ident := f.name, type, annotations := f.declaredAnnotations text } := by
  have hident : (Member.declare f.name type (f.calls text)).ident = f.name :=
    Member.ident_applyAll _ _
  have htype : (Member.declare f.name type (f.calls text)).type = type :=
    Member.type_applyAll _ _
  have hannotations : (Member.declare f.name type (f.calls text)).annotations
      = f.declaredAnnotations text := by
    rw [Member.declare, applyAll_calls]
    exact f.annotations_declare type text
  rw [← hannotations]
  cases hmember : Member.declare f.name type (f.calls text)
  rw [hmember] at hident htype
  cases hident
  cases htype
  rfl

/-- The members that a field can have are what it says. -/
theorem toMember_eq_ok_iff {f : FieldDecl} (model : String) {enums : EnumTable}
    {member : Member} : f.toMember model enums = .ok member ↔ f.Declares enums member := by
  rw [toMember_eq_ok_iff_declare]
  constructor
  · rintro ⟨type, text, htype, htext, hmember⟩
    rw [hmember, declare_eq]
    exact ⟨rfl, htype, text, htext, rfl⟩
  · rintro ⟨hident, htype, text, htext, hannotations⟩
    refine ⟨member.type, text, htype, htext, ?_⟩
    rw [declare_eq, ← hident, ← hannotations]

/-! ## The column of a field -/

/-- The column that a field declares under a type and with a default. -/
def declaredColumn (f : FieldDecl) (type : FieldType) (default : Option String) : Column where
  name := (nonBlank f.column).getD f.name
  member := f.name
  type := type
  order := f.order
  typeName := f.typeName
  primaryKey := f.key
  autoIncrement := f.autoIncrement
  foreignKey := f.foreignKey.map fun target =>
    { model := { id := ⟨target.1⟩, typed := false }, member := target.2 }
  index := f.index.isSome
  indexUnique := f.index = some .unique
  required := f.required
  unique := f.unique
  maxLength := f.maxLength.or f.stringLength
  defaultValue := default
  computed := f.computed

theorem contains_notMapped (f : FieldDecl) (text : Option String) :
    (f.calls text).contains .notMapped = f.notMapped := by
  simp [calls]

/-- Every key of a field is read back from its calls. -/
theorem ofCalls_calls (f : FieldDecl) (type : FieldType) (text : Option String) :
    Column.ofCalls f.name type (f.calls text) = f.declaredColumn type text := by
  have hplain : ∀ s, Call.settings s ∉ f.calls text := by simp [calls]
  have hcolumn : Call.last? Call.column? (f.calls text) = f.column := by
    simp [calls, Call.column?]
  have horder : Call.last? Call.order? (f.calls text) = f.order := by
    simp [calls, Call.order?]
  have htypeName : Call.last? Call.typeName? (f.calls text) = f.typeName := by
    simp [calls, Call.typeName?]
  have hkey : (f.calls text).contains .key = f.key := by simp [calls]
  have hautoIncrement : (f.calls text).contains .autoIncrement = f.autoIncrement := by
    simp [calls]
  have hrequired : (f.calls text).contains .required = f.required := by simp [calls]
  have hunique : (f.calls text).contains .unique = f.unique := by simp [calls]
  have hindex : (f.calls text).findSome? Call.index?
      = f.index.map fun kind => decide (kind = .unique) := by
    rcases hvalue : f.index with _ | _ | _ <;> simp [calls, Call.index?, hvalue]
  have hforeignKey : (f.calls text).findSome? Call.foreignKey? = f.foreignKey.map fun target =>
      { model := { id := ⟨target.1⟩, typed := false }, member := target.2 } := by
    cases hvalue : f.foreignKey <;> simp [calls, Call.foreignKey?, hvalue]
  have hmaxLength : (f.calls text).findSome? Call.maxLength? = f.maxLength := by
    simp [calls, Call.maxLength?]
  have hstringLength : (f.calls text).findSome? Call.stringLength? = f.stringLength := by
    simp [calls, Call.stringLength?]
  have hdefault : (f.calls text).findSome? Call.defaultValue? = text := by
    simp [calls, Call.defaultValue?]
  have hcomputed : (f.calls text).findSome? Call.computed? = f.computed := by
    simp [calls, Call.computed?]
  simp only [Column.ofCalls, declaredColumn, Call.setting, Call.initial_eq_none hplain,
    Option.bind_none, Option.or_none, hcolumn, horder, htypeName, hkey, hautoIncrement, hrequired,
    hunique, hindex, hforeignKey, hmaxLength, hstringLength, hdefault, hcomputed]
  rcases f.index with _ | _ | _ <;> rfl

/-- A field survives as the only one of a model: its member is mapped unless the field says
otherwise, and a new resolver describes and extracts the column that gives back every key of the
field, under the type that the field's text denotes and with the default as text. -/
theorem extract_of_toMember {f : FieldDecl} {model : String} {enums : EnumTable} {member : Member}
    (h : f.toMember model enums = .ok member) (catalog : Catalog) {m : Model}
    (hm : m.members = [member]) :
    member.isMapped = !f.notMapped ∧
    ∃ type default, FieldType.parse enums f.type = .ok type ∧ f.Defaults default ∧
      (Column.describe (.new catalog) m member).1 = f.declaredColumn type default ∧
      (Column.extract (.new catalog) m).1
        = if f.notMapped then [] else [f.declaredColumn type default] := by
  obtain ⟨type, default, htype, hdefault, hmember⟩ := toMember_eq_ok_iff_declare.1 h
  have hmapped : member.isMapped = !f.notMapped := by
    rw [hmember, Member.isMapped_declare, contains_notMapped]
  have hcolumn : member.declaredColumn = f.declaredColumn type default := by
    rw [hmember, Member.declaredColumn_declare, ofCalls_calls]
  refine ⟨hmapped, type, default, htype, hdefault, ?_, ?_⟩
  · rw [Column.describe_new, hcolumn]
  · rw [Column.extract_new_of_members catalog hm, hmapped, hcolumn]
    cases f.notMapped <;> rfl

end FieldDecl

/-! ## A field with most keys -/

namespace Mail

def field (default : Toml.Scalar) : FieldDecl where
  name := "email"
  type := "Option<String>"
  unique := true
  column := some "mail"
  order := some 2
  index := some .unique
  maxLength := some 50
  stringLength := some 40
  default := some (.scalar default)
  computed := some " "
  foreignKey := some ("Account", "email")

def member (default : String) : Member where
  ident := "email"
  type := .nullable (.scalar .string)
  annotations :=
    [.column { name := some "mail", order := some 2 }, .unique, .index true, .maxLength 50,
     .stringLength 40, .defaultValue default, .computed " ",
     .foreignKey { model := { id := ⟨"Account"⟩, typed := false }, member := "email" }]

def model (default : String) : Model :=
  (Model.named "User").withMember (member default)

/-- A scalar of each kind with its text. -/
def defaults : List (Toml.Scalar × String) :=
  [(.text "n/a", "n/a"), (.integer (-40), "-40"),
   (.float (.ofDecimal .double false 1 (-1)), "0.1"), (.boolean true, "true"),
   (.datetime { date := some ⟨2024, 5, 1⟩, time := some ⟨9, 30, 0, 0⟩, offset := some .utc },
    "2024-05-01T09:30:00Z")]

theorem extract_of_toMember_mail :
    (∀ d ∈ defaults, (field d.1).toMember "User" [] = .ok (member d.2) ∧
      (model d.2).members = [member d.2]) ∧
    ∀ d ∈ defaults, d.1.Spells d.2 ∧
      ∃ type, FieldType.parse [] (field d.1).type = .ok type ∧
        (Column.extract (.new .ofId) (model d.2)).1
          = [(field d.1).declaredColumn type (some d.2)] := by
  have hmembers : ∀ d ∈ defaults, (field d.1).toMember "User" [] = .ok (member d.2) := by
    decide +kernel
  have htexts : ∀ d ∈ defaults,
      (Column.extract (.new .ofId) (model d.2)).1.map Column.defaultValue = [some d.2] := by
    decide +kernel
  refine ⟨fun d hd => ⟨hmembers d hd, rfl⟩, fun d hd => ?_⟩
  obtain ⟨-, type, default, htype, hdefault, -, hextract⟩ :=
    FieldDecl.extract_of_toMember (hmembers d hd) .ofId (m := model d.2) rfl
  have htext := htexts d hd
  rw [hextract] at htext
  obtain rfl : default = some d.2 := by simpa [FieldDecl.declaredColumn, field] using htext
  refine ⟨?_, type, htype, hextract⟩
  cases hdefault with
  | scalar hscalar hspells =>
    cases hscalar
    exact hspells

end Mail
end SchemaDdl
