import Mathlib.Data.List.Forall2
import Mathlib.Data.List.InsertIdx
import SchemaDdl.Proofs.Model.Declared

/-!
# Extraction up to names

A resolver gives the columns of a model their names and nothing else.  It keeps one name for each
identifier, so naming a member decides the name of all later ones with its identifier
(`getD_resolveColumn`), and the columns of a list of members can be told at once (`ofMembers_fst`).
Without their names the extracted columns are those that the model declares (`extract_anonymous`),
in the same order, so what does not look at names can be said of the model alone, and two resolvers
give columns that differ in their names at most (`extract_up_to_names`).
-/

namespace SchemaDdl

/-! ## Naming one member after another -/

/-- The column name that is declared first, among some members, under the identifier of a member;
where none of them has it, the member's own. -/
def Member.nameAmong (member : Member) (members : List Member) : String :=
  ((members.find? fun x => x.ident = member.ident).map Member.columnName).getD member.columnName

theorem Member.nameAmong_cons (member x : Member) (rest : List Member) :
    member.nameAmong (x :: rest)
      = if x.ident = member.ident then x.columnName else member.nameAmong rest := by
  unfold nameAmong
  rw [List.find?_cons]
  by_cases h : x.ident = member.ident <;> simp [h]

namespace Column

/-- Naming a member decides the name of the others with its identifier, unless one is held. -/
theorem getD_resolveColumn (r : Resolver) (m : Model) (x y : Member) (name : String) :
    ((r.resolveColumn m x).2.columns.get? (m.id, y.ident)).getD name
      = (r.columns.get? (m.id, y.ident)).getD
          (if x.ident = y.ident then x.columnName else name) := by
  by_cases hident : x.ident = y.ident
  · rw [← hident, Resolver.resolveColumn_get?, Resolver.resolveColumn_fst, if_pos rfl,
      Option.getD_some]
  · have hne : (m.id, y.ident) ≠ (m.id, x.ident) := fun h => hident (Prod.mk.inj h).2.symm
    have hkept : (r.resolveColumn m x).2.columns.get? (m.id, y.ident)
        = r.columns.get? (m.id, y.ident) := Cache.get?_hold_of_ne r.columns x.columnName hne
    rw [hkept, if_neg hident]

/-- Members get the names that are held for them, the others the first name declared under their
identifiers. -/
theorem ofMembers_fst (r : Resolver) (m : Model) (members : List Member) :
    (ofMembers r m members).1 = members.map fun member =>
      ofMember ((r.columns.get? (m.id, member.ident)).getD (member.nameAmong members)) member := by
  induction members generalizing r with
  | nil => rfl
  | cons x rest ih =>
    rw [ofMembers_cons, List.map_cons, ih, Resolver.resolveColumn_fst]
    simp only [getD_resolveColumn, Member.nameAmong_cons, if_true]

/-! ## Ordering looks at orders only -/

section Map

variable {α β : Type} (order : β → Option Nat) (f : α → β)

theorem scan_map (n i : Nat) (placed stack : List α) :
    scan order n i (placed.map f) (stack.map f)
      = (scan (order ∘ f) n i placed stack).map f := by
  induction n generalizing i placed stack with
  | zero => rfl
  | succ n ih =>
    cases stack with
    | nil => rfl
    | cons top stack =>
      rw [List.map_cons, scan, scan, List.getElem?_map]
      cases placed[i]? with
      | none => simp
      | some c =>
        simp only [Option.map_some, Function.comp_apply]
        split
        · rw [← List.map_insertIdx, ih]
        · rw [← List.map_cons, ih]

theorem arrange_map (columns : List α) :
    arrange order (columns.map f) = (arrange (order ∘ f) columns).map f := by
  have hordered : (columns.map f).filter (fun c => (order c).isSome)
      = (columns.filter fun c => ((order ∘ f) c).isSome).map f := List.filter_map
  have hstacked : (columns.map f).filter (fun c => (order c).isNone)
      = (columns.filter fun c => ((order ∘ f) c).isNone).map f := List.filter_map
  unfold arrange
  simp only [hordered, hstacked, List.isEmpty_map, List.length_map]
  split
  · rfl
  · rw [← List.map_reverse, ← scan_map]
    congr 1
    exact (List.map_mergeSort (f := f) fun _ _ _ _ => rfl).symm

end Map

/-! ## Columns without their names -/

/-- A column without its name. -/
def anonymous (c : Column) : Column :=
  { c with name := "" }

theorem anonymous_arrange (columns : List Column) :
    (arrange Column.order columns).map anonymous
      = arrange Column.order (columns.map anonymous) :=
  (arrange_map Column.order anonymous columns).symm

theorem ofMembers_anonymous (r : Resolver) (m : Model) (members : List Member) :
    (ofMembers r m members).1.map anonymous
      = members.map fun member => member.declaredColumn.anonymous := by
  rw [ofMembers_fst, List.map_map]
  rfl

/-- Without their names the columns of a model are those that it declares. -/
theorem extract_anonymous (r : Resolver) (m : Model) :
    (extract r m).1.map anonymous = m.declaredColumns.map anonymous := by
  rw [extract_eq, Model.declaredColumns, anonymous_arrange, anonymous_arrange, ofMembers_anonymous,
    List.map_map]
  rfl

theorem anonymous_eq_iff {c d : Column} :
    c.anonymous = d.anonymous ↔ { c with name := d.name } = d := by
  cases c
  cases d
  simp [anonymous]

theorem mappedMembers_eq (m : Model) :
    m.mappedMembers = m.members.filter fun member => Annotation.notMapped ∉ member.annotations := by
  refine List.filter_congr fun member _ => ?_
  simp [Member.isMapped]

/-- Two resolvers give as many columns of a model, in the same order, and two columns at one place
differ in their names at most.  Names aside, the columns are what any resolver describes of the
members that are not kept from being mapped, one column for each of them. -/
theorem extract_up_to_names (r s : Resolver) (m : Model) :
    List.Forall₂ (fun c d => { c with name := d.name } = d) (extract r m).1 (extract s m).1 ∧
    ((extract r m).1.map anonymous).Perm
      ((m.members.filter fun member => Annotation.notMapped ∉ member.annotations).map
        fun member => (describe s m member).1.anonymous) := by
  constructor
  · have hsame : (extract r m).1.map anonymous = (extract s m).1.map anonymous := by
      rw [extract_anonymous, extract_anonymous]
    simp only [← anonymous_eq_iff]
    rwa [← List.forall₂_eq_eq_eq, List.forall₂_map_left_iff, List.forall₂_map_right_iff] at hsame
  · rw [extract_anonymous, Model.declaredColumns, anonymous_arrange, List.map_map, mappedMembers_eq]
    exact arrange_perm _

theorem keys_anonymous (columns : List Column) : keys (columns.map anonymous) = keys columns := by
  simp only [keys, List.filterMap_map]
  rfl

/-- The foreign keys of a model's columns do not depend on the resolver. -/
theorem keys_extract (r : Resolver) (m : Model) :
    keys (extract r m).1 = keys m.declaredColumns := by
  rw [← keys_anonymous, extract_anonymous, keys_anonymous]

/-! ## New resolvers -/

theorem describe_new (catalog : Catalog) (m : Model) (member : Member) :
    (describe (.new catalog) m member).1 = member.declaredColumn := rfl

/-- The only member of a model gets the column that it declares, if it is mapped. -/
theorem extract_new_of_members (catalog : Catalog) {m : Model} {member : Member}
    (h : m.members = [member]) :
    (extract (.new catalog) m).1 = if member.isMapped then [member.declaredColumn] else [] := by
  rw [extract_eq, ofMembers_fst, Model.mappedMembers, h]
  cases hmapped : member.isMapped with
  | true =>
    rw [List.filter_cons_of_pos hmapped, List.filter_nil, List.map_singleton,
      List.perm_singleton.1 (arrange_perm _), Member.nameAmong_cons, if_pos rfl]
    rfl
  | false =>
    rw [List.filter_cons_of_neg (by simp [hmapped])]
    rfl

/-! ## Extraction looks at column names only -/

theorem ofMembers_congr {r s : Resolver} (h : r.columns = s.columns) (m : Model)
    (members : List Member) : (ofMembers r m members).1 = (ofMembers s m members).1 := by
  rw [ofMembers_fst, ofMembers_fst, h]

theorem extract_congr {r s : Resolver} (h : r.columns = s.columns) (m : Model) :
    (extract r m).1 = (extract s m).1 := by
  rw [extract_eq, extract_eq, ofMembers_congr h]

end Column

end SchemaDdl
