import Mathlib.Data.List.Forall2

/-!
# Lists related element by element

Facts about lists in general: what `List.Forall₂` says of single elements, how an element is found
under its key, and how far a function that may fail gets along a list.
-/

namespace SchemaDdl

section Forall₂

variable {α β γ : Type} {R : α → β → Prop} {as : List α} {bs : List β}

theorem exists_left_of_forall₂ (h : List.Forall₂ R as bs) {b : β} (hb : b ∈ bs) :
    ∃ a ∈ as, R a b := by
  induction h with
  | nil => cases hb
  | @cons a b' as bs hhead _ ih =>
    rcases List.mem_cons.1 hb with rfl | hb
    · exact ⟨a, List.mem_cons_self, hhead⟩
    · obtain ⟨x, hx, hxb⟩ := ih hb
      exact ⟨x, List.mem_cons_of_mem _ hx, hxb⟩

theorem exists_forall₂_iff :
    (∃ bs, List.Forall₂ R as bs) ↔ ∀ a ∈ as, ∃ b, R a b := by
  induction as with
  | nil => exact ⟨fun _ _ h => (by cases h), fun _ => ⟨[], .nil⟩⟩
  | cons a rest ih =>
    rw [List.forall_mem_cons, ← ih]
    constructor
    · rintro ⟨bs, h⟩
      cases h with
      | cons hhead htail => exact ⟨⟨_, hhead⟩, _, htail⟩
    · rintro ⟨⟨b, hhead⟩, bs, htail⟩
      exact ⟨b :: bs, .cons hhead htail⟩

theorem map_eq_map_of_forall₂ {f : α → γ} {g : β → γ}
    (h : List.Forall₂ (fun a b => g b = f a) as bs) : bs.map g = as.map f := by
  have hmaps : List.Forall₂ Eq (as.map f) (bs.map g) :=
    List.forall₂_map_left_iff.2 (List.forall₂_map_right_iff.2 (h.imp fun _ _ => Eq.symm))
  rw [List.forall₂_eq_eq_eq] at hmaps
  exact hmaps.symm

/-- A list is the image of the other if the relation allows each element its image only. -/
theorem eq_map_of_forall₂ {f : α → β} (h : List.Forall₂ R as bs)
    (hf : ∀ a ∈ as, ∀ b, R a b → b = f a) : bs = as.map f := by
  induction h with
  | nil => rfl
  | @cons a b as bs hhead _ ih =>
    obtain ⟨hfirst, hrest⟩ := List.forall_mem_cons.1 hf
    rw [List.map_cons, hfirst b hhead, ih hrest]

end Forall₂

/-- Filtering and reading a list through a function depends on the values of the function only. -/
theorem map_filter_eq_of_map_eq {α β γ : Type} {f : α → β} {as bs : List α}
    (h : as.map f = bs.map f) (p : β → Bool) (g : β → γ) :
    (as.filter (p ∘ f)).map (g ∘ f) = (bs.filter (p ∘ f)).map (g ∘ f) := by
  rw [← List.map_map, ← List.map_map, ← List.filter_map, ← List.filter_map, h]

/-- Where keys tell elements apart, an element is found under its own key. -/
theorem find?_key_of_mem {α κ : Type} [DecidableEq κ] (key : α → κ) {as : List α}
    (hkey : ∀ a ∈ as, ∀ b ∈ as, key a = key b → a = b) {a : α} (ha : a ∈ as) :
    (as.find? fun x => key x = key a) = some a := by
  have hfound : (as.find? fun x => key x = key a).isSome :=
    List.find?_isSome.2 ⟨a, ha, by simp⟩
  obtain ⟨x, hx⟩ := Option.isSome_iff_exists.1 hfound
  have hsame : key x = key a := by simpa using List.find?_some hx
  rw [hx, hkey x (List.mem_of_find?_eq_some hx) a ha hsame]

section Except

variable {α β γ ε : Type}

/-- Results with the same reading are the same failure, or values with the same reading. -/
theorem cases_of_map_eq {f : α → γ} {g : β → γ} {x : Except ε α} {y : Except ε β}
    (h : x.map f = y.map g) :
    (∃ e, x = .error e ∧ y = .error e) ∨ ∃ a b, x = .ok a ∧ y = .ok b ∧ f a = g b := by
  cases x with
  | error e =>
    cases y with
    | error e' => exact .inl ⟨e, rfl, congrArg Except.error (Except.error.inj h).symm⟩
    | ok b => cases h
  | ok a =>
    cases y with
    | error e => cases h
    | ok b => exact .inr ⟨a, b, rfl, rfl, Except.ok.inj h⟩

/-- Two readings of a result agree where they agree on values. -/
theorem map_map_eq_of_forall {f : α → β} {g : β → γ} {δ : Type} {f' : α → δ} {g' : δ → γ}
    (h : ∀ a, g (f a) = g' (f' a)) (x : Except ε α) : (x.map f).map g = (x.map f').map g' := by
  cases x with
  | error e => rfl
  | ok a => exact congrArg Except.ok (h a)

/-- Reading each element of a list that is put together from results reads each result. -/
theorem map_bind_cons (g : α → β) (x : Except ε α) (xs : Except ε (List α)) :
    (x.bind fun a => xs.map (a :: ·)).map (List.map g)
      = (x.map g).bind fun b => (xs.map (List.map g)).map (b :: ·) := by
  cases x with
  | error e => rfl
  | ok a => cases xs <;> rfl

variable {f : α → Except ε β}

theorem mapM_cons_eq (a : α) (rest : List α) :
    (a :: rest).mapM f = (f a).bind fun b => (rest.mapM f).map (b :: ·) := by
  rw [List.mapM_cons]
  rcases f a with _ | b
  · rfl
  · cases rest.mapM f <;> rfl

theorem mapM_eq_ok_iff {as : List α} {bs : List β} :
    as.mapM f = .ok bs ↔ List.Forall₂ (fun a b => f a = .ok b) as bs := by
  induction as generalizing bs with
  | nil => cases bs <;> simp [pure, Except.pure]
  | cons a rest ih =>
    rw [mapM_cons_eq, List.forall₂_cons_left_iff]
    simp only [← ih]
    rcases f a with _ | b
    · simp [Except.bind]
    · cases rest.mapM f <;> simp [Except.bind, Except.map, eq_comm]

theorem exists_of_mapM_eq_error {as : List α} {e : ε} (h : as.mapM f = .error e) :
    ∃ a ∈ as, f a = .error e := by
  induction as with
  | nil => cases h
  | cons a rest ih =>
    rw [mapM_cons_eq] at h
    cases ha : f a with
    | error e' =>
      rw [ha] at h
      cases h
      exact ⟨a, List.mem_cons_self, ha⟩
    | ok b =>
      rw [ha] at h
      cases hrest : rest.mapM f with
      | error e' =>
        rw [hrest] at h
        cases h
        obtain ⟨x, hx, hfails⟩ := ih hrest
        exact ⟨x, List.mem_cons_of_mem _ hx, hfails⟩
      | ok bs =>
        rw [hrest] at h
        cases h

end Except

end SchemaDdl
