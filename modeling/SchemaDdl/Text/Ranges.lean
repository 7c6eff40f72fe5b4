/-!
# Sets of characters as code point ranges

A property of characters is a list of closed ranges of code points, in ascending order and
without overlap.  The order lets a search stop at the first range that starts above the
character.
-/

namespace SchemaDdl.Text

/-- Closed ranges of code points, ascending and disjoint. -/
abbrev Ranges := List (Nat × Nat)

def Ranges.holds : Ranges → Nat → Bool
  | [], _ => false
  | (low, high) :: rest, n => if n < low then false else n ≤ high || Ranges.holds rest n

theorem Ranges.exists_mem_of_holds {ranges : Ranges} {n : Nat} (h : ranges.holds n = true) :
    ∃ range ∈ ranges, range.1 ≤ n ∧ n ≤ range.2 := by
  induction ranges with
  | nil => cases h
  | cons range rest ih =>
    obtain ⟨low, high⟩ := range
    rw [holds] at h
    split at h
    · cases h
    · next hlow =>
      rcases Bool.or_eq_true_iff.1 h with hhigh | hrest
      · exact ⟨(low, high), List.mem_cons_self, Nat.le_of_not_lt hlow, of_decide_eq_true hhigh⟩
      · obtain ⟨range, hmem, hrange⟩ := ih hrest
        exact ⟨range, List.mem_cons_of_mem _ hmem, hrange⟩

end SchemaDdl.Text
