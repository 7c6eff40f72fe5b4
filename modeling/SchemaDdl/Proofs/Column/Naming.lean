import SchemaDdl.Proofs.Column.Extraction

/-!
# Whose name a column gets

A new resolver names every member as the first mapped member with its identifier declares.  Nothing
keeps two members of a model from having one identifier, so a name can come from another member, and
it does exactly where such members declare different names (`Column.extract_names`).
-/

namespace SchemaDdl

open SchemaDdl.Text (isBlank)

/-! ## The first member with an identifier -/

namespace Member

variable {member x : Member} {members : List Member}

/-- The name that a member declares: the one in its first column annotation or, where there is none
or it is blank, its identifier. -/
def ownName (member : Member) : String :=
  match member.annotations.filterMap Annotation.column? with
  | { name := some name, .. } :: _ => if isBlank name then member.ident else name
  | _ => member.ident

theorem ownName_eq_columnName (member : Member) : member.ownName = member.columnName := by
  unfold ownName columnName columnSettings
  rw [← List.head?_filterMap]
  rcases member.annotations.filterMap Annotation.column? with _ | ⟨⟨_ | name, order, type⟩, rest⟩
  · rfl
  · rfl
  · by_cases hblank : isBlank name = true <;> simp [Text.nonBlank, Option.filter_some, hblank]

/-- The name declared first under the identifier of a member is that of the first member with it. -/
theorem ownName_find? (member : Member) (members : List Member) :
    ((members.find? fun x => x.ident = member.ident).getD member).ownName
      = member.nameAmong members := by
  rw [nameAmong, ownName_eq_columnName]
  cases members.find? fun x => x.ident = member.ident <;> rfl

/-- Some member with the identifier declares the name. -/
theorem exists_nameAmong (h : member ∈ members) :
    ∃ x ∈ members, x.ident = member.ident ∧ x.columnName = member.nameAmong members := by
  induction members with
  | nil => cases h
  | cons first rest ih =>
    rw [nameAmong_cons]
    by_cases hident : first.ident = member.ident
    · exact ⟨first, List.mem_cons_self, hident, (if_pos hident).symm⟩
    · have hrest : member ∈ rest := by
        rcases List.mem_cons.1 h with rfl | hrest
        · exact absurd rfl hident
        · exact hrest
      obtain ⟨x, hx, hsame, hname⟩ := ih hrest
      exact ⟨x, List.mem_cons_of_mem _ hx, hsame, by rw [hname, if_neg hident]⟩

theorem nameAmong_congr (h : x.ident = member.ident) (hmem : member ∈ members) :
    x.nameAmong members = member.nameAmong members := by
  induction members with
  | nil => cases hmem
  | cons first rest ih =>
    rw [nameAmong_cons, nameAmong_cons, h]
    by_cases hident : first.ident = member.ident
    · rw [if_pos hident, if_pos hident]
    · rw [if_neg hident, if_neg hident]
      rcases List.mem_cons.1 hmem with rfl | hrest
      · exact absurd rfl hident
      · exact ih hrest

/-- Members get their own names when members with one identifier declare one name. -/
theorem nameAmong_eq_iff :
    (∀ x ∈ members, x.nameAmong members = x.columnName) ↔
      ∀ x ∈ members, ∀ y ∈ members, x.ident = y.ident → x.columnName = y.columnName := by
  constructor
  · intro h x hx y hy hident
    rw [← h x hx, ← h y hy, nameAmong_congr hident hy]
  · intro h x hx
    obtain ⟨y, hy, hident, hname⟩ := exists_nameAmong hx
    rw [← hname]
    exact h y hy x hx hident

end Member

namespace Column

/-! ## Own names -/

theorem arrange_map_inj {α β : Type} {order : β → Option Nat} {f g : α → β}
    (h : order ∘ f = order ∘ g) {l : List α} :
    arrange order (l.map f) = arrange order (l.map g) ↔ ∀ x ∈ l, f x = g x := by
  rw [arrange_map, arrange_map, h, List.map_inj_left]
  simp only [mem_arrange]

theorem ofMember_inj {name name' : String} {member : Member} :
    ofMember name member = ofMember name' member ↔ name = name' :=
  ⟨congrArg Column.name, fun h => by rw [h]⟩

/-- A new resolver names the column of each mapped member as the first of them with its identifier
declares.  So the columns are the declared ones, each under its own name, if and only if members
with one identifier declare one name. -/
theorem extract_names (catalog : Catalog) (m : Model) :
    (extract (.new catalog) m).1 = arrange Column.order (m.mappedMembers.map fun member =>
      ofMember ((m.mappedMembers.find? fun x => x.ident = member.ident).getD member).ownName
        member) ∧
    ((extract (.new catalog) m).1
        = arrange Column.order (m.mappedMembers.map fun member =>
          ofMember member.ownName member) ↔
      ∀ x ∈ m.mappedMembers, ∀ y ∈ m.mappedMembers, x.ident = y.ident → x.ownName = y.ownName) := by
  simp only [Member.ownName_find?]
  simp only [Member.ownName_eq_columnName]
  have hnew : (extract (.new catalog) m).1 = arrange Column.order (m.mappedMembers.map fun member =>
      ofMember (member.nameAmong m.mappedMembers) member) := by
    rw [extract_eq, ofMembers_fst]
    rfl
  refine ⟨hnew, ?_⟩
  rw [hnew, arrange_map_inj, ← Member.nameAmong_eq_iff]
  · simp only [ofMember_inj]
  · rfl

/-- The second member of a model loses its name to the first one. -/
theorem not_extract_own_names :
    ¬ ∀ (catalog : Catalog) (m : Model), ∀ member ∈ m.mappedMembers,
      ofMember member.ownName member ∈ (extract (.new catalog) m).1 := by
  intro h
  let account : Member :=
    { ident := "id", type := .scalar .i32, annotations := [.column { name := some "account_id" }] }
  let owner : Member :=
    { ident := "id", type := .scalar .i64, annotations := [.column { name := some "owner_id" }] }
  have hlost := h (fun id => { id, ident := id.text })
    { Model.named "Account" with members := [account, owner] } owner (by decide)
  revert hlost
  decide +kernel

end Column

end SchemaDdl
