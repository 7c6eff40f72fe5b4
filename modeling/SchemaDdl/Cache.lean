/-!
# Caches in which the first entry wins

A cache is a list of keys with values.  An entry is added only under a key that has none, so an
answer once given stays.
-/

namespace SchemaDdl

structure Cache (κ α : Type) where
  entries : List (κ × α) := []
  deriving Repr, Inhabited

namespace Cache

variable {κ α : Type} [DecidableEq κ]

def empty : Cache κ α := {}

def get? (c : Cache κ α) (k : κ) : Option α :=
  c.entries.lookup k

/-- The value held under a key, after adding the given one if none was held. -/
def hold (c : Cache κ α) (k : κ) (v : α) : α × Cache κ α :=
  match c.get? k with
  | some held => (held, c)
  | none => (v, { entries := (k, v) :: c.entries })

@[simp] theorem get?_empty (k : κ) : (empty : Cache κ α).get? k = none := rfl

theorem hold_of_some {c : Cache κ α} {k : κ} {held : α} (h : c.get? k = some held) (v : α) :
    c.hold k v = (held, c) := by
  simp only [hold, h]

theorem hold_of_none {c : Cache κ α} {k : κ} (h : c.get? k = none) (v : α) :
    c.hold k v = (v, { entries := (k, v) :: c.entries }) := by
  simp only [hold, h]

/-- What is returned is what is held from then on. -/
theorem get?_hold_self (c : Cache κ α) (k : κ) (v : α) :
    (c.hold k v).2.get? k = some (c.hold k v).1 := by
  cases h : c.get? k with
  | some held => simp only [hold_of_some h, h]
  | none => simp [hold_of_none h, get?]

theorem get?_hold_of_ne (c : Cache κ α) {k k' : κ} (v : α) (hne : k' ≠ k) :
    (c.hold k v).2.get? k' = c.get? k' := by
  cases h : c.get? k with
  | some held => simp only [hold_of_some h]
  | none =>
    have hb : (k' == k) = false := by simpa using hne
    simp [hold_of_none h, get?, List.lookup_cons, hb]

theorem hold_fst (c : Cache κ α) (k : κ) (v : α) : (c.hold k v).1 = (c.get? k).getD v := by
  cases h : c.get? k with
  | some held => simp only [hold_of_some h, Option.getD_some]
  | none => simp only [hold_of_none h, Option.getD_none]

/-- What is held after an addition was held before, or is the value added under its free key. -/
theorem get?_hold_eq_some_iff {c : Cache κ α} {k k' : κ} {v a : α} :
    (c.hold k v).2.get? k' = some a ↔
      c.get? k' = some a ∨ k' = k ∧ c.get? k = none ∧ v = a := by
  by_cases hk : k' = k
  · subst hk
    rw [get?_hold_self, hold_fst]
    cases c.get? k' <;> simp
  · rw [get?_hold_of_ne c v hk]
    simp [hk]

end Cache
end SchemaDdl
