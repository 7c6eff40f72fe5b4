import SchemaDdl.Proofs.Column.Arrangement

/-!
# Putting columns in order again

Where the columns with an order stand follows from their orders and from how many others there are,
not from which (`SamePlaces.weave`).  Arranging sorts the former, which a second time changes
nothing (`sorted_arrange`), and turns the latter around (`stacked_arrange`).  So arranging a second
time moves only the columns without an order, back into declaration order, and a third time gives
what the first gave (`arrange_period_two`).
-/

namespace SchemaDdl.Column

variable {α : Type} {order : α → Option Nat}

/-! ## Places -/

/-- Two lists have the same columns with an order, at the same indices. -/
def SamePlaces (order : α → Option Nat) (l l' : List α) : Prop :=
  ∀ (i : Nat) (c : α), order c ≠ none → (l[i]? = some c ↔ l'[i]? = some c)

namespace SamePlaces

theorem refl (l : List α) : SamePlaces order l l :=
  fun _ _ _ => Iff.rfl

theorem of_none_ordered {l l' : List α} (h : ∀ c ∈ l, order c = none)
    (h' : ∀ c ∈ l', order c = none) : SamePlaces order l l' := by
  intro i c hc
  constructor
  · intro hi
    exact absurd (h c (List.mem_of_getElem? hi)) hc
  · intro hi
    exact absurd (h' c (List.mem_of_getElem? hi)) hc

theorem cons {l l' : List α} (h : SamePlaces order l l') (c : α) :
    SamePlaces order (c :: l) (c :: l') := by
  intro i d hd
  cases i with
  | zero => simp
  | succ i => simpa using h i d hd

theorem cons_of_none {l l' : List α} (h : SamePlaces order l l') {u u' : α}
    (hu : order u = none) (hu' : order u' = none) : SamePlaces order (u :: l) (u' :: l') := by
  intro i d hd
  cases i with
  | zero =>
    have hne : ∀ {x : α}, order x = none → x ≠ d := by
      rintro x hx rfl
      exact hd hx
    simp [hne hu, hne hu']
  | succ i => simpa using h i d hd

/-- A weaving puts its columns with an order where it would put them among any as many others. -/
theorem weave (i : Nat) (placed : List α) {others others' : List α}
    (hlen : others.length = others'.length) (hothers : ∀ c ∈ others, order c = none)
    (hothers' : ∀ c ∈ others', order c = none) :
    SamePlaces order (weave order i placed others) (weave order i placed others') := by
  fun_induction Column.weave order i placed others generalizing others' with
  | case1 i others =>
    rw [Column.weave]
    exact .of_none_ordered hothers hothers'
  | case2 i c rest =>
    have hnil : others' = [] := List.eq_nil_of_length_eq_zero hlen.symm
    rw [hnil, weave_nil_right]
    exact .refl _
  | case3 i c rest u others hgap ih =>
    cases others' with
    | nil => simp at hlen
    | cons u' others' =>
      -- whether another goes in depends on the next column with an order only
      rw [List.forall_mem_cons] at hothers hothers'
      rw [weave_insert hgap]
      exact (ih (by simpa using hlen) hothers.2 hothers'.2).cons_of_none hothers.1 hothers'.1
  | case4 i c rest u others hgap ih =>
    cases others' with
    | nil => simp at hlen
    | cons u' others' =>
      rw [weave_advance hgap]
      exact (ih hlen hothers hothers').cons c

end SamePlaces

/-! ## Arranging again -/

theorem exists_ordered_arrange {columns : List α} (h : ∃ c ∈ columns, order c ≠ none) :
    ∃ c ∈ arrange order columns, order c ≠ none := by
  obtain ⟨c, hc, horder⟩ := h
  exact ⟨c, (arrange_perm columns).mem_iff.2 hc, horder⟩

theorem arranged_arrange {columns : List α} (h : ∃ c ∈ columns, order c ≠ none) :
    Arranged order columns (arrange order columns) := by
  rw [arrange_eq_weave h]
  exact .weave_sorted_stacked h

/-- Arranged columns are sorted already. -/
theorem sorted_arrange {columns : List α} (h : ∃ c ∈ columns, order c ≠ none) :
    sorted order (arrange order columns) = sorted order columns := by
  have hpair := (ascending_iff_pairwise_rank fun c hc => (mem_sorted.1 hc).2).1
    (@ascending_sorted _ order columns)
  conv_lhs => rw [sorted, (arranged_arrange h).filter_isSome]
  exact List.mergeSort_of_pairwise (hpair.imp decide_eq_true)

/-- Arranging takes the columns without an order from the stack, so it turns them around. -/
theorem stacked_arrange {columns : List α} (h : ∃ c ∈ columns, order c ≠ none) :
    stacked order (arrange order columns) = (stacked order columns).reverse := by
  rw [stacked, stacked, filter_isNone, filter_isNone, (arranged_arrange h).reversed h]

/-- Arranging twice weaves the columns without an order in declaration order. -/
theorem arrange_arrange {columns : List α} (h : ∃ c ∈ columns, order c ≠ none) :
    arrange order (arrange order columns)
      = weave order 0 (sorted order columns) (stacked order columns).reverse := by
  rw [arrange_eq_weave (exists_ordered_arrange h), sorted_arrange h, stacked_arrange h]

/-- Arranging has period two: arranging three times is arranging once.  Arranging twice leaves the
columns with an order where arranging once puts them, and fills the places between with the others
in declaration order. -/
theorem arrange_period_two (columns : List α) :
    arrange order (arrange order (arrange order columns)) = arrange order columns ∧
    SamePlaces order (arrange order (arrange order columns)) (arrange order columns) ∧
    (arrange order (arrange order columns)).filter (fun c => order c = none)
      = columns.filter fun c => order c = none := by
  by_cases h : ∃ c ∈ columns, order c ≠ none
  · have hstacked : ∀ c ∈ stacked order columns, order c = none := fun c hc => (mem_stacked.1 hc).2
    have hsorted : ∀ c ∈ sorted order columns, order c ≠ none := fun c hc => (mem_sorted.1 hc).2
    refine ⟨?_, ?_, ?_⟩
    · rw [arrange_arrange (exists_ordered_arrange h), sorted_arrange h, stacked_arrange h, List.reverse_reverse,
        ← arrange_eq_weave h]
    · rw [arrange_arrange h, arrange_eq_weave h]
      exact .weave 0 _ (List.length_reverse) (fun c hc => hstacked c (List.mem_reverse.1 hc))
        hstacked
    · rw [arrange_arrange h, filter_weave_right 0 fun c hc => by simpa using hsorted c hc,
        stacked, List.reverse_reverse, filter_isNone, List.filter_filter]
      simp
  · have hnone : ∀ c ∈ columns, order c = none := by simpa using h
    rw [arrange_of_none_ordered hnone, arrange_of_none_ordered hnone, arrange_of_none_ordered hnone]
    exact ⟨rfl, .refl _, rfl⟩

/-- The column with an order stays, the others change places with each other. -/
example : arrange Prod.snd [("d", none), ("c", none), ("a", some 2), ("b", none)]
    = [("b", none), ("c", none), ("a", some 2), ("d", none)] := by
  cbv

end SchemaDdl.Column
