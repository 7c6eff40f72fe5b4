import Mathlib.Data.List.Basic
import SchemaDdl.Column.Order

/-!
# The order of columns, characterised

The scan inserts into the list that it reads.  Its invariant: what stands before the position is
final, and what stands from it on are the columns with an order that are still to come
(`scan_eq_weave`).  So the scan weaves two lists, the columns with an order, ascending, and the
others from last to first.  `arranged_iff` says which lists come out in words that mention
neither the scan nor the stack.
-/

namespace SchemaDdl.Column

variable {α : Type} {order : α → Option Nat}

/-! ## The scan weaves -/

/-- Weaves the columns with an order and the others from position `i` on: while both are left,
another goes in exactly where the next column with an order declares more than the position. -/
def weave (order : α → Option Nat) : Nat → List α → List α → List α
  | _, [], others => others
  | _, c :: rest, [] => c :: rest
  | i, c :: rest, u :: others =>
    if (order c).any (i < ·) then u :: weave order (i + 1) (c :: rest) others
    else c :: weave order (i + 1) rest (u :: others)
termination_by _ placed others => placed.length + others.length

@[simp] theorem weave_nil_right (i : Nat) (placed : List α) : weave order i placed [] = placed := by
  cases placed <;> simp [weave]

theorem weave_insert {i : Nat} {c : α} (h : (order c).any (i < ·) = true) (rest others : List α)
    (u : α) : weave order i (c :: rest) (u :: others)
      = u :: weave order (i + 1) (c :: rest) others := by
  rw [weave, if_pos h]

theorem weave_advance {i : Nat} {c : α} (h : ¬ (order c).any (i < ·) = true) (rest others : List α)
    (u : α) : weave order i (c :: rest) (u :: others)
      = c :: weave order (i + 1) rest (u :: others) := by
  rw [weave, if_neg h]

theorem insertIdx_length_append (done rest : List α) (u : α) :
    (done ++ rest).insertIdx done.length u = done ++ u :: rest := by
  induction done with
  | nil => simp
  | cons c done ih => simp [ih]

/-- The invariant of the scan: the columns in front of the position stay as they are. -/
theorem scan_eq_weave (n : Nat) (done rest stack : List α) (hn : rest.length + stack.length ≤ n) :
    scan order n done.length (done ++ rest) stack
      = done ++ weave order done.length rest stack := by
  induction n generalizing done rest stack with
  | zero =>
    have hrest : rest = [] := List.eq_nil_of_length_eq_zero (by omega)
    have hstack : stack = [] := List.eq_nil_of_length_eq_zero (by omega)
    subst hrest hstack
    simp [scan]
  | succ n ih =>
    cases stack with
    | nil => simp [scan]
    | cons u stack =>
      cases rest with
      | nil => simp [scan, weave]
      | cons c rest =>
        have hc : (done ++ c :: rest)[done.length]? = some c := by simp
        simp only [List.length_cons] at hn
        rw [scan, hc]
        by_cases hgap : (order c).any (done.length < ·) = true
        · have := ih (done ++ [u]) (c :: rest) stack (by simp only [List.length_cons]; omega)
          simp only [List.length_append, List.length_singleton, List.append_assoc,
            List.cons_append, List.nil_append] at this
          simp only [hgap, if_true, insertIdx_length_append, this]
          rw [weave_insert hgap]
        · have := ih (done ++ [c]) rest (u :: stack) (by simp only [List.length_cons]; omega)
          simp only [List.length_append, List.length_singleton, List.append_assoc,
            List.cons_append, List.nil_append] at this
          simp only [hgap, if_false, this, Bool.false_eq_true]
          rw [weave_advance hgap]

/-! ## What a weaving contains -/

theorem weave_perm (i : Nat) (placed others : List α) :
    (weave order i placed others).Perm (placed ++ others) := by
  fun_induction weave order i placed others with
  | case1 _ others => exact .refl _
  | case2 _ c rest => simp
  | case3 i c rest u others hgap ih => exact (ih.cons u).trans List.perm_middle.symm
  | case4 i c rest u others hgap ih => exact ih.cons c

theorem filter_weave_left {p : α → Bool} (i : Nat) {placed others : List α}
    (hothers : ∀ c ∈ others, p c = false) :
    (weave order i placed others).filter p = placed.filter p := by
  fun_induction weave order i placed others with
  | case1 _ others => simpa using hothers
  | case2 _ c rest => rfl
  | case3 i c rest u others hgap ih =>
    rw [List.filter_cons_of_neg (by simpa using hothers u List.mem_cons_self)]
    exact ih fun c hc => hothers c (List.mem_cons_of_mem _ hc)
  | case4 i c rest u others hgap ih =>
    rw [List.filter_cons, List.filter_cons, ih hothers]

theorem filter_weave_right {p : α → Bool} (i : Nat) {placed others : List α}
    (hplaced : ∀ c ∈ placed, p c = false) :
    (weave order i placed others).filter p = others.filter p := by
  fun_induction weave order i placed others with
  | case1 _ others => rfl
  | case2 _ c rest => simpa using hplaced
  | case3 i c rest u others hgap ih =>
    rw [List.filter_cons, List.filter_cons, ih hplaced]
  | case4 i c rest u others hgap ih =>
    rw [List.filter_cons_of_neg (by simpa using hplaced c List.mem_cons_self)]
    exact ih fun c hc => hplaced c (List.mem_cons_of_mem _ hc)

/-! ## Where a weaving puts columns -/

/-- From position `i` on, a column whose order is greater than its position has no column without
an order behind it, and behind a column without an order every order is greater than its
position. -/
def GapsFilled (order : α → Option Nat) : Nat → List α → Prop
  | _, [] => True
  | i, c :: rest =>
    (match order c with
      | some k => i < k → ∀ d ∈ rest, order d ≠ none
      | none => ∀ d ∈ rest, ∀ k, order d = some k → i < k)
    ∧ GapsFilled order (i + 1) rest

theorem gapsFilled_of_all_ordered {i : Nat} {l : List α} (h : ∀ c ∈ l, order c ≠ none) :
    GapsFilled order i l := by
  induction l generalizing i with
  | nil => trivial
  | cons c rest ih =>
    have hrest : ∀ d ∈ rest, order d ≠ none := fun d hd => h d (List.mem_cons_of_mem _ hd)
    refine ⟨?_, ih hrest⟩
    cases hc : order c with
    | none => exact absurd hc (h c List.mem_cons_self)
    | some k => exact fun _ => hrest

theorem gapsFilled_of_none_ordered {i : Nat} {l : List α} (h : ∀ c ∈ l, order c = none) :
    GapsFilled order i l := by
  induction l generalizing i with
  | nil => trivial
  | cons c rest ih =>
    have hrest : ∀ d ∈ rest, order d = none := fun d hd => h d (List.mem_cons_of_mem _ hd)
    refine ⟨?_, ih hrest⟩
    rw [h c List.mem_cons_self]
    intro d hd k hk
    rw [hrest d hd] at hk
    cases hk

/-- Orders do not descend along a list. -/
def Ascending (order : α → Option Nat) (l : List α) : Prop :=
  l.Pairwise fun a b => ∀ j k, order a = some j → order b = some k → j ≤ k

theorem gapsFilled_weave {i : Nat} {placed others : List α}
    (hplaced : ∀ c ∈ placed, order c ≠ none) (hothers : ∀ c ∈ others, order c = none)
    (hasc : Ascending order placed) : GapsFilled order i (weave order i placed others) := by
  fun_induction weave order i placed others with
  | case1 _ others => exact gapsFilled_of_none_ordered hothers
  | case2 _ c rest => exact gapsFilled_of_all_ordered hplaced
  | case3 i c rest u others hgap ih =>
    refine ⟨?_, ih hplaced (fun d hd => hothers d (List.mem_cons_of_mem _ hd)) hasc⟩
    obtain ⟨k, hk, hik⟩ : ∃ k, order c = some k ∧ i < k := by
      simpa [Option.any_eq_true] using hgap
    rw [hothers u List.mem_cons_self]
    intro d hd j hj
    rcases List.mem_append.1 ((weave_perm _ _ _).mem_iff.1 hd) with hd | hd
    · rcases List.mem_cons.1 hd with rfl | hd
      · rw [hk] at hj
        cases hj
        exact hik
      · exact Nat.lt_of_lt_of_le hik (List.rel_of_pairwise_cons hasc hd k j hk hj)
    · rw [hothers d (List.mem_cons_of_mem _ hd)] at hj
      cases hj
  | case4 i c rest u others hgap ih =>
    refine ⟨?_, ih (fun d hd => hplaced d (List.mem_cons_of_mem _ hd)) hothers hasc.tail⟩
    cases hc : order c with
    | none => exact absurd hc (hplaced c List.mem_cons_self)
    | some k =>
      intro hik
      simp [hc, hik] at hgap

/-- A list without gaps is the weaving of its two parts. -/
theorem eq_weave_of_gapsFilled {i : Nat} {l : List α} (h : GapsFilled order i l) :
    l = weave order i (l.filter fun c => (order c).isSome) (l.filter fun c => (order c).isNone) := by
  induction l generalizing i with
  | nil => simp
  | cons c rest ih =>
    obtain ⟨hc, hrest⟩ := h
    have ih := ih hrest
    cases horder : order c with
    | some k =>
      simp only [horder] at hc
      simp only [List.filter_cons, horder, Option.isSome_some, if_true, Option.isNone_some,
        Bool.false_eq_true, if_false]
      cases hothers : rest.filter fun d => (order d).isNone with
      | nil =>
        rw [hothers, weave_nil_right] at ih
        rw [weave_nil_right, ← ih]
      | cons u others =>
        have hu : u ∈ rest ∧ (order u).isNone := List.mem_filter.1 (hothers ▸ List.mem_cons_self)
        have hgap : ¬ (order c).any (i < ·) = true := by
          intro hgap
          rw [horder] at hgap
          exact hc (by simpa using hgap) u hu.1 (Option.isNone_iff_eq_none.1 hu.2)
        rw [weave_advance hgap, ← hothers, ← ih]
    | none =>
      simp only [horder] at hc
      simp only [List.filter_cons, horder, Option.isSome_none, if_true, Option.isNone_none,
        Bool.false_eq_true, if_false]
      cases hplaced : rest.filter fun d => (order d).isSome with
      | nil =>
        rw [hplaced, weave] at ih
        rw [weave, ← ih]
      | cons d placed =>
        have hd : d ∈ rest ∧ (order d).isSome := List.mem_filter.1 (hplaced ▸ List.mem_cons_self)
        obtain ⟨k, hk⟩ := Option.isSome_iff_exists.1 hd.2
        have hgap : (order d).any (i < ·) = true := by simpa [hk] using hc d hd.1 k hk
        rw [weave_insert hgap, ← hplaced, ← ih]

/-- The same at indices. -/
theorem gapsFilled_iff {i : Nat} {l : List α} :
    GapsFilled order i l ↔ ∀ a b c d, a < b → l[a]? = some c → l[b]? = some d →
      (∀ k, order c = some k → i + a < k → order d ≠ none) ∧
      (order c = none → ∀ k, order d = some k → i + a < k) := by
  induction l generalizing i with
  | nil => simp [GapsFilled]
  | cons x rest ih =>
    rw [GapsFilled, ih]
    constructor
    · rintro ⟨hx, hrest⟩ a b c d hab ha hb
      obtain ⟨b, rfl⟩ : ∃ b', b = b' + 1 := ⟨b - 1, by omega⟩
      rw [List.getElem?_cons_succ] at hb
      cases a with
      | zero =>
        simp only [List.getElem?_cons_zero, Option.some.injEq] at ha
        subst ha
        have hd : d ∈ rest := List.mem_of_getElem? hb
        refine ⟨fun k hk hik => ?_, fun hnone k hk => ?_⟩
        · rw [hk] at hx
          exact hx hik d hd
        · rw [hnone] at hx
          exact hx d hd k hk
      | succ a =>
        rw [List.getElem?_cons_succ] at ha
        obtain ⟨h₁, h₂⟩ := hrest a b c d (by omega) ha hb
        refine ⟨fun k hk hik => h₁ k hk (by omega), fun hnone k hk => ?_⟩
        have := h₂ hnone k hk
        omega
    · intro h
      refine ⟨?_, fun a b c d hab ha hb => ?_⟩
      · cases hx : order x with
        | some k =>
          intro hik d hd
          obtain ⟨b, hb⟩ := List.getElem?_of_mem hd
          exact (h 0 (b + 1) x d (by omega) rfl hb).1 k hx hik
        | none =>
          intro d hd k hk
          obtain ⟨b, hb⟩ := List.getElem?_of_mem hd
          exact (h 0 (b + 1) x d (by omega) rfl hb).2 hx k hk
      · obtain ⟨h₁, h₂⟩ := h (a + 1) (b + 1) c d (by omega) ha hb
        refine ⟨fun k hk hik => h₁ k hk (by omega), fun hnone k hk => ?_⟩
        have := h₂ hnone k hk
        omega

/-! ## Stable sorting -/

/-- A list that ascends by rank is determined by its parts of one rank. -/
theorem eq_of_filter_rank_eq (rank : α → Nat) {l l' : List α}
    (h : l.Pairwise fun a b => rank a ≤ rank b) (h' : l'.Pairwise fun a b => rank a ≤ rank b)
    (hfilter : ∀ k, l.filter (fun c => rank c = k) = l'.filter fun c => rank c = k) : l = l' := by
  have hmem : ∀ c, c ∈ l ↔ c ∈ l' := by
    intro c
    have := congrArg (c ∈ ·) (hfilter (rank c))
    simpa using this
  induction l generalizing l' with
  | nil =>
    cases l' with
    | nil => rfl
    | cons b l' => exact absurd ((hmem b).2 List.mem_cons_self) (by simp)
  | cons a l ih =>
    cases l' with
    | nil => exact absurd ((hmem a).1 List.mem_cons_self) (by simp)
    | cons b l' =>
      have hab : rank a ≤ rank b := by
        rcases List.mem_cons.1 ((hmem b).2 List.mem_cons_self) with rfl | hb
        · exact Nat.le_refl _
        · exact List.rel_of_pairwise_cons h hb
      have hba : rank b ≤ rank a := by
        rcases List.mem_cons.1 ((hmem a).1 List.mem_cons_self) with rfl | ha
        · exact Nat.le_refl _
        · exact List.rel_of_pairwise_cons h' ha
      have hrank : rank b = rank a := Nat.le_antisymm hba hab
      have hhead := hfilter (rank a)
      simp only [List.filter_cons, hrank, decide_true, if_true, List.cons.injEq] at hhead
      obtain ⟨rfl, -⟩ := hhead
      have htail : ∀ k, l.filter (fun c => rank c = k) = l'.filter fun c => rank c = k := by
        intro k
        have := hfilter k
        simp only [List.filter_cons] at this
        split at this
        · exact (List.cons.inj this).2
        · exact this
      congr 1
      refine ih h.tail h'.tail htail fun c => ?_
      have := congrArg (c ∈ ·) (htail (rank c))
      simpa using this

theorem rank_trans (rank : α → Nat) (a b c : α) (hab : decide (rank a ≤ rank b) = true)
    (hbc : decide (rank b ≤ rank c) = true) : decide (rank a ≤ rank c) = true := by
  simp only [decide_eq_true_eq] at *
  omega

theorem rank_total (rank : α → Nat) (a b : α) :
    (decide (rank a ≤ rank b) || decide (rank b ≤ rank a)) = true := by
  simp only [Bool.or_eq_true, decide_eq_true_eq]
  omega

/-- Sorting keeps the columns of one rank as they are. -/
theorem filter_mergeSort_rank (rank : α → Nat) (l : List α) (k : Nat) :
    (l.mergeSort fun a b => rank a ≤ rank b).filter (fun c => rank c = k)
      = l.filter fun c => rank c = k := by
  have hpair : (l.filter fun c => rank c = k).Pairwise fun a b => decide (rank a ≤ rank b) = true := by
    refine List.pairwise_of_forall_mem_list fun a ha b hb => ?_
    have ha : rank a = k := by simpa using (List.mem_filter.1 ha).2
    have hb : rank b = k := by simpa using (List.mem_filter.1 hb).2
    simp [ha, hb]
  have hsub := (List.sublist_mergeSort (rank_trans rank) (rank_total rank) hpair
    List.filter_sublist).filter fun c => rank c = k
  rw [List.filter_filter] at hsub
  simp only [Bool.and_self] at hsub
  exact (hsub.eq_of_length ((List.mergeSort_perm l _).filter _).length_eq.symm).symm

/-! ## The order of columns -/

/-- The columns of a list that declare an order, ascending and ties in declaration order. -/
def sorted (order : α → Option Nat) (columns : List α) : List α :=
  (columns.filter fun c => (order c).isSome).mergeSort
    fun a b => (order a).getD 0 ≤ (order b).getD 0

/-- The columns of a list that declare no order, from last to first. -/
def stacked (order : α → Option Nat) (columns : List α) : List α :=
  (columns.filter fun c => (order c).isNone).reverse

theorem filter_isNone (l : List α) :
    l.filter (fun c => (order c).isNone) = l.filter fun c => order c = none := by
  refine List.filter_congr fun c _ => ?_
  cases order c <;> rfl

theorem mem_sorted {columns : List α} {c : α} :
    c ∈ sorted order columns ↔ c ∈ columns ∧ order c ≠ none := by
  simp [sorted, Option.isSome_iff_ne_none]

theorem mem_stacked {columns : List α} {c : α} :
    c ∈ stacked order columns ↔ c ∈ columns ∧ order c = none := by
  simp [stacked]

theorem sorted_append_stacked_perm (columns : List α) :
    (sorted order columns ++ stacked order columns).Perm columns := by
  have hnot : (fun c => (order c).isNone) = fun c => !(order c).isSome := by
    funext c
    cases order c <;> rfl
  refine ((List.mergeSort_perm _ _).append (List.reverse_perm _)).trans ?_
  rw [hnot]
  exact List.filter_append_perm _ columns

/-- Columns without an order do not matter to whether orders ascend. -/
theorem ascending_filter_isSome {l : List α} :
    Ascending order (l.filter fun c => (order c).isSome) ↔ Ascending order l := by
  rw [Ascending, List.pairwise_filter]
  refine List.Pairwise.iff fun a b => ⟨fun h j k ha hb => ?_, fun h _ _ => h⟩
  exact h (by simp [ha]) (by simp [hb]) j k ha hb

theorem ascending_iff_pairwise_rank {l : List α} (h : ∀ c ∈ l, order c ≠ none) :
    Ascending order l ↔ l.Pairwise fun a b => (order a).getD 0 ≤ (order b).getD 0 := by
  refine List.Pairwise.iff_of_mem fun {a b} ha hb => ?_
  obtain ⟨j, hj⟩ := Option.ne_none_iff_exists'.1 (h a ha)
  obtain ⟨k, hk⟩ := Option.ne_none_iff_exists'.1 (h b hb)
  simp [hj, hk]

theorem filter_rank_eq_filter_order {l : List α} (h : ∀ c ∈ l, order c ≠ none) (k : Nat) :
    l.filter (fun c => (order c).getD 0 = k) = l.filter fun c => order c = some k := by
  refine List.filter_congr fun c hc => ?_
  obtain ⟨j, hj⟩ := Option.ne_none_iff_exists'.1 (h c hc)
  simp [hj]

theorem filter_isSome_filter_order (l : List α) (k : Nat) :
    (l.filter fun c => (order c).isSome).filter (fun c => order c = some k)
      = l.filter fun c => order c = some k := by
  rw [List.filter_filter]
  refine List.filter_congr fun c _ => ?_
  cases order c <;> simp

theorem ascending_sorted (columns : List α) : Ascending order (sorted order columns) := by
  refine (ascending_iff_pairwise_rank fun c hc => (mem_sorted.1 hc).2).2 ?_
  have hpair := List.pairwise_mergeSort (rank_trans fun c => (order c).getD 0)
    (rank_total fun c => (order c).getD 0) (columns.filter fun c => (order c).isSome)
  simp only [decide_eq_true_eq] at hpair
  exact hpair

/-- Sorting keeps ties in declaration order. -/
theorem filter_sorted (columns : List α) (k : Nat) :
    (sorted order columns).filter (fun c => order c = some k)
      = columns.filter fun c => order c = some k := by
  have hsome : ∀ c ∈ columns.filter (fun c => (order c).isSome), order c ≠ none := fun c hc =>
    Option.isSome_iff_ne_none.1 (List.mem_filter.1 hc).2
  rw [← filter_rank_eq_filter_order fun c hc => (mem_sorted.1 hc).2, sorted,
    filter_mergeSort_rank (fun c => (order c).getD 0), filter_rank_eq_filter_order hsome,
    filter_isSome_filter_order]

/-- Arranging weaves the sorted columns and the stack, unless no column declares an order. -/
theorem arrange_eq_weave {columns : List α} (h : ∃ c ∈ columns, order c ≠ none) :
    arrange order columns = weave order 0 (sorted order columns) (stacked order columns) := by
  obtain ⟨c, hc, horder⟩ := h
  have hne : (columns.filter fun c => (order c).isSome).isEmpty = false := by
    rw [List.isEmpty_eq_false_iff_exists_mem]
    exact ⟨c, List.mem_filter.2 ⟨hc, Option.isSome_iff_ne_none.2 horder⟩⟩
  have hlen : (sorted order columns).length + (stacked order columns).length ≤ columns.length := by
    rw [← List.length_append]
    exact Nat.le_of_eq (sorted_append_stacked_perm columns).length_eq
  rw [arrange, hne, if_neg (by simp)]
  exact scan_eq_weave columns.length [] _ _ hlen

theorem arrange_of_none_ordered {columns : List α} (h : ∀ c ∈ columns, order c = none) :
    arrange order columns = columns := by
  have hempty : columns.filter (fun c => (order c).isSome) = [] := by
    refine List.filter_eq_nil_iff.2 fun c hc => ?_
    simp [h c hc]
  rw [arrange, hempty]
  rfl

/-- Arranging loses and adds nothing. -/
theorem arrange_perm (columns : List α) : (arrange order columns).Perm columns := by
  by_cases h : ∃ c ∈ columns, order c ≠ none
  · rw [arrange_eq_weave h]
    exact (weave_perm _ _ _).trans (sorted_append_stacked_perm columns)
  · rw [arrange_of_none_ordered (by simpa using h)]

/-- What it means for one list of columns to put another in order. -/
structure Arranged (order : α → Option Nat) (columns out : List α) : Prop where
  perm : out.Perm columns
  plain : (∀ c ∈ columns, order c = none) → out = columns
  ascending : Ascending order out
  ties : ∀ k, out.filter (fun c => order c = some k) = columns.filter fun c => order c = some k
  reversed : (∃ c ∈ columns, order c ≠ none) →
    out.filter (fun c => order c = none) = (columns.filter fun c => order c = none).reverse
  /-- Behind a column that stands before its order, every column has an order. -/
  exhausted : ∀ i j c d k, i < j → out[i]? = some c → out[j]? = some d →
    order c = some k → i < k → order d ≠ none
  /-- Behind a column without an order, every order is greater than its index. -/
  filled : ∀ i j c d k, i < j → out[i]? = some c → out[j]? = some d →
    order c = none → order d = some k → i < k

theorem gapsFilled_zero_iff {out : List α} : GapsFilled order 0 out ↔
    (∀ i j c d k, i < j → out[i]? = some c → out[j]? = some d →
      order c = some k → i < k → order d ≠ none) ∧
    (∀ i j c d k, i < j → out[i]? = some c → out[j]? = some d →
      order c = none → order d = some k → i < k) := by
  simp only [gapsFilled_iff, Nat.zero_add]
  constructor
  · intro h
    exact ⟨fun i j c d k hij hi hj hk => (h i j c d hij hi hj).1 k hk,
      fun i j c d k hij hi hj hnone => (h i j c d hij hi hj).2 hnone k⟩
  · rintro ⟨h₁, h₂⟩ i j c d hij hi hj
    exact ⟨fun k => h₁ i j c d k hij hi hj, fun hnone k => h₂ i j c d k hij hi hj hnone⟩

namespace Arranged

variable {columns out : List α}

theorem of_none_ordered (h : ∀ c ∈ columns, order c = none) : Arranged order columns columns := by
  refine ⟨.refl _, fun _ => rfl, ?_, fun _ => rfl, fun ⟨c, hc, hne⟩ => absurd (h c hc) hne, ?_, ?_⟩
  · refine List.pairwise_of_forall_mem_list fun a ha b _ j k hj => ?_
    rw [h a ha] at hj
    cases hj
  · intro i j c d k _ hi _ hk
    rw [h c (List.mem_of_getElem? hi)] at hk
    cases hk
  · intro i j c d k _ _ hj _ hk
    rw [h d (List.mem_of_getElem? hj)] at hk
    cases hk

theorem weave_sorted_stacked (h : ∃ c ∈ columns, order c ≠ none) :
    Arranged order columns (weave order 0 (sorted order columns) (stacked order columns)) := by
  have hsorted : ∀ c ∈ sorted order columns, order c ≠ none := fun c hc => (mem_sorted.1 hc).2
  have hstacked : ∀ c ∈ stacked order columns, order c = none := fun c hc => (mem_stacked.1 hc).2
  have hasc : Ascending order (sorted order columns) := ascending_sorted columns
  have hgaps := gapsFilled_zero_iff.1 (gapsFilled_weave (i := 0) hsorted hstacked hasc)
  refine ⟨(weave_perm _ _ _).trans (sorted_append_stacked_perm columns), fun hnone => ?_, ?_,
    fun k => ?_, fun _ => ?_, hgaps.1, hgaps.2⟩
  · obtain ⟨c, hc, hne⟩ := h
    exact absurd (hnone c hc) hne
  · have hall : ∀ c ∈ sorted order columns, (order c).isSome = true := fun c hc =>
      Option.isSome_iff_ne_none.2 (hsorted c hc)
    rw [← ascending_filter_isSome,
      filter_weave_left 0 fun c hc => by simp [hstacked c hc], List.filter_eq_self.2 hall]
    exact hasc
  · rw [filter_weave_left 0 fun c hc => by simp [hstacked c hc], filter_sorted]
  · rw [filter_weave_right 0 fun c hc => by simpa using hsorted c hc,
      List.filter_eq_self.2 fun c hc => by simpa using hstacked c hc, stacked, filter_isNone]

/-- The columns with an order come out sorted. -/
theorem filter_isSome (h : Arranged order columns out) :
    out.filter (fun c => (order c).isSome) = sorted order columns := by
  have hout : ∀ c ∈ out.filter (fun c => (order c).isSome), order c ≠ none := fun c hc =>
    Option.isSome_iff_ne_none.1 (List.mem_filter.1 hc).2
  have hsorted : ∀ c ∈ sorted order columns, order c ≠ none := fun c hc => (mem_sorted.1 hc).2
  refine eq_of_filter_rank_eq (fun c => (order c).getD 0)
    ((ascending_iff_pairwise_rank hout).1 (ascending_filter_isSome.2 h.ascending))
    ((ascending_iff_pairwise_rank hsorted).1 (ascending_sorted columns)) fun k => ?_
  rw [filter_rank_eq_filter_order hout, filter_rank_eq_filter_order hsorted,
    filter_isSome_filter_order, filter_sorted, h.ties]

theorem eq_weave (h : Arranged order columns out) (hsome : ∃ c ∈ columns, order c ≠ none) :
    out = weave order 0 (sorted order columns) (stacked order columns) := by
  have hgaps : GapsFilled order 0 out := gapsFilled_zero_iff.2 ⟨h.exhausted, h.filled⟩
  have hnone : out.filter (fun c => (order c).isNone) = stacked order columns := by
    rw [stacked, filter_isNone, filter_isNone, h.reversed hsome]
  rw [← h.filter_isSome, ← hnone]
  exact eq_weave_of_gapsFilled hgaps

end Arranged

/-- Arranging is the one way to put columns in order. -/
theorem arranged_iff (columns out : List α) :
    Arranged order columns out ↔ out = arrange order columns := by
  by_cases hsome : ∃ c ∈ columns, order c ≠ none
  · rw [arrange_eq_weave hsome]
    constructor
    · intro h
      exact h.eq_weave hsome
    · rintro rfl
      exact .weave_sorted_stacked hsome
  · have hnone : ∀ c ∈ columns, order c = none := by simpa using hsome
    rw [arrange_of_none_ordered hnone]
    constructor
    · intro h
      exact h.plain hnone
    · rintro rfl
      exact .of_none_ordered hnone

/-- The last unordered column fills the first gap. -/
example : arrange Prod.snd [("a", some 2), ("b", none), ("c", none), ("d", none)]
    = [("d", none), ("c", none), ("a", some 2), ("b", none)] := by
  cbv

end SchemaDdl.Column
