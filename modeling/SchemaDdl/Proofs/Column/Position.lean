import SchemaDdl.Proofs.Column.Arrangement

/-!
# Declared orders as positions

Where orders are distinct and none reaches past the end of the list, every column with an order
stands at it.  The scan never computes a position, so this rests on the stack: it must not run out
while a column with an order is still short of its place.  What carries the induction is that the
columns to come fit between the position and the end (`Fits`).
-/

namespace SchemaDdl.Column

variable {α : Type} {order : α → Option Nat}

/-- Columns with distinct ascending orders, none below `low` and all below `high`. -/
structure Fits (order : α → Option Nat) (low high : Nat) (columns : List α) : Prop where
  ascending : columns.Pairwise fun a b => ∀ j k, order a = some j → order b = some k → j < k
  within : ∀ c ∈ columns, ∃ k, order c = some k ∧ low ≤ k ∧ k < high

/-- Past its first column a list has the same columns one position on. -/
theorem getElem?_cons_sub {low k : Nat} (h : low < k) (c : α) (rest : List α) :
    (c :: rest)[k - low]? = rest[k - (low + 1)]? := by
  have hsucc : k - low = (k - (low + 1)) + 1 := by omega
  rw [hsucc, List.getElem?_cons_succ]

namespace Fits

variable {low high k : Nat} {c : α} {columns rest : List α}

theorem low_le (h : Fits order low high columns) (hc : c ∈ columns) (hk : order c = some k) :
    low ≤ k := by
  obtain ⟨j, hj, hlow, -⟩ := h.within c hc
  rw [hk] at hj
  cases hj
  exact hlow

/-- The orders behind the first column lie above its own. -/
theorem tail (h : Fits order low high (c :: rest)) (hc : order c = some k) :
    Fits order (k + 1) high rest := by
  refine ⟨h.ascending.tail, fun d hd => ?_⟩
  obtain ⟨j, hj, -, hhigh⟩ := h.within d (List.mem_cons_of_mem _ hd)
  exact ⟨j, hj, List.rel_of_pairwise_cons h.ascending hd k j hc hj, hhigh⟩

theorem raise (h : Fits order low high (c :: rest)) (hc : order c = some k) (hlow : low < k) :
    Fits order (low + 1) high (c :: rest) := by
  refine ⟨h.ascending, fun d hd => ?_⟩
  obtain ⟨j, hj, -, hhigh⟩ := h.within d hd
  refine ⟨j, hj, ?_, hhigh⟩
  rcases List.mem_cons.1 hd with rfl | hd
  · rw [hc] at hj
    cases hj
    exact hlow
  · exact Nat.le_trans (Nat.succ_le_succ (Nat.le_of_lt hlow)) ((h.tail hc).low_le hd hj)

/-- There is room for all. -/
theorem length_le (h : Fits order low high columns) (hle : low ≤ high) :
    low + columns.length ≤ high := by
  induction columns generalizing low with
  | nil => exact hle
  | cons c rest ih =>
    obtain ⟨k, hk, hlow, hhigh⟩ := h.within c List.mem_cons_self
    have := ih (h.tail hk) hhigh
    simp only [List.length_cons]
    omega

/-- Without room to spare the first column stands at the lower end. -/
theorem eq_low (h : Fits order low high (c :: rest)) (hfull : high = low + (c :: rest).length)
    (hc : order c = some k) : k = low := by
  have hlow := h.low_le List.mem_cons_self hc
  obtain ⟨j, hj, -, hhigh⟩ := h.within c List.mem_cons_self
  rw [hc] at hj
  cases hj
  have hroom := (h.tail hc).length_le hhigh
  rw [List.length_cons] at hfull
  omega

/-- Without room to spare every column stands at its order. -/
theorem getElem?_sub (h : Fits order low high columns) (hfull : high = low + columns.length)
    (hc : c ∈ columns) (hk : order c = some k) : columns[k - low]? = some c := by
  induction columns generalizing low with
  | nil => cases hc
  | cons d rest ih =>
    obtain ⟨j, hj, -⟩ := h.within d List.mem_cons_self
    obtain rfl := h.eq_low hfull hj
    rcases List.mem_cons.1 hc with rfl | hc
    · rw [hj] at hk
      cases hk
      simp
    · have htail := h.tail hj
      rw [getElem?_cons_sub (htail.low_le hc hk)]
      refine ih htail ?_ hc
      rw [hfull, List.length_cons]
      omega

end Fits

/-- A weaving whose columns with an order fit puts each at its order. -/
theorem getElem?_weave {i high k : Nat} {placed others : List α} {c : α}
    (h : Fits order i high placed) (hfull : high = i + placed.length + others.length)
    (hc : c ∈ placed) (hk : order c = some k) :
    (weave order i placed others)[k - i]? = some c := by
  fun_induction weave order i placed others with
  | case1 => cases hc
  | case2 i d rest => exact h.getElem?_sub hfull hc hk
  | case3 i d rest u others hgap ih =>
    -- the column on top of the stack takes the position, all orders lie above it
    obtain ⟨j, hj, hij⟩ : ∃ j, order d = some j ∧ i < j := by
      simpa [Option.any_eq_true] using hgap
    have hraise := h.raise hj hij
    rw [getElem?_cons_sub (hraise.low_le hc hk)]
    refine ih hraise ?_ hc
    simp only [List.length_cons] at hfull ⊢
    omega
  | case4 i d rest u others hgap ih =>
    obtain ⟨j, hj, hij, -⟩ := h.within d List.mem_cons_self
    -- the column does not declare more than the position, and not less
    obtain rfl : j = i := by
      have : ¬ i < j := fun hlt => hgap (by simp [hj, hlt])
      omega
    rcases List.mem_cons.1 hc with rfl | hc
    · rw [hj] at hk
      cases hk
      simp
    · have htail := h.tail hj
      rw [getElem?_cons_sub (htail.low_le hc hk)]
      refine ih htail ?_ hc
      simp only [List.length_cons] at hfull ⊢
      omega

variable {columns : List α}

/-- Distinct orders below the number of columns fit. -/
theorem fits_sorted (hdistinct : (columns.filterMap order).Nodup)
    (hlt : ∀ k ∈ columns.filterMap order, k < columns.length) :
    Fits order 0 columns.length (sorted order columns) := by
  have hperm := (@sorted_append_stacked_perm _ order columns).filterMap order
  have hnodup : ((sorted order columns).filterMap order).Nodup := by
    have hboth := hperm.nodup_iff.2 hdistinct
    rw [List.filterMap_append] at hboth
    exact hboth.sublist (List.sublist_append_left _ _)
  refine ⟨?_, fun c hc => ?_⟩
  · refine ((ascending_sorted columns).and (List.pairwise_filterMap.1 hnodup)).imp ?_
    rintro a b ⟨hle, hne⟩ j k hj hk
    exact Nat.lt_of_le_of_ne (hle j k hj hk) (hne j hj k hk)
  · obtain ⟨hmem, hne⟩ := mem_sorted.1 hc
    obtain ⟨k, hk⟩ := Option.ne_none_iff_exists'.1 hne
    exact ⟨k, hk, Nat.zero_le k, hlt k (List.mem_filterMap.2 ⟨c, hmem, hk⟩)⟩

/-- Declared orders are positions: where they are pairwise distinct and smaller than the number of
columns, each column with an order stands at it. -/
theorem arrange_placed_at_order (hdistinct : (columns.filterMap order).Nodup)
    (hlt : ∀ k ∈ columns.filterMap order, k < columns.length) {c : α} (hc : c ∈ columns) {k : Nat}
    (hk : order c = some k) : (arrange order columns)[k]? = some c := by
  have hne : order c ≠ none := by simp [hk]
  have hfits := fits_sorted hdistinct hlt
  have hfull : columns.length
      = 0 + (sorted order columns).length + (stacked order columns).length := by
    rw [← (@sorted_append_stacked_perm _ order columns).length_eq, List.length_append,
      Nat.zero_add]
  rw [arrange_eq_weave ⟨c, hc, hne⟩]
  exact getElem?_weave hfits hfull (mem_sorted.2 ⟨hc, hne⟩) hk

/-- Two columns with an order among five, one of them last. -/
theorem arrange_placed_at_order_gaps :
    let columns := [("a", some 4), ("b", none), ("c", some 1), ("d", none), ("e", none)]
    (columns.filterMap Prod.snd).Nodup ∧
      (∀ k ∈ columns.filterMap Prod.snd, k < columns.length) ∧
      (arrange Prod.snd columns)[4]? = some ("a", some 4) ∧
      (arrange Prod.snd columns)[1]? = some ("c", some 1) := by
  intro columns
  have hdistinct : (columns.filterMap Prod.snd).Nodup := by decide
  have hlt : ∀ k ∈ columns.filterMap Prod.snd, k < columns.length := by decide
  exact ⟨hdistinct, hlt, arrange_placed_at_order hdistinct hlt (c := ("a", some 4)) (by decide) rfl,
    arrange_placed_at_order hdistinct hlt (c := ("c", some 1)) (by decide) rfl⟩

end SchemaDdl.Column
