/-!
# Column order

Columns with an explicit order come ascending, ties in declaration order.  The others wait on a
stack in declaration order.  Positions are scanned from the first: where the column at a position
declares a greater order, the top of the stack goes in before it, and once the columns with an
order are passed the rest of the stack follows top first.  Because it is a stack, unordered
columns come out in reverse as soon as any column has an order; without one the declaration order
stays.
-/

namespace SchemaDdl.Column

variable {α : Type}

/-- Scans `n` positions from `i` on, and puts the top of the stack in before each column whose
order is greater than its position. -/
def scan (order : α → Option Nat) : (n i : Nat) → (placed stack : List α) → List α
  | 0, _, placed, _ => placed
  | _ + 1, _, placed, [] => placed
  | n + 1, i, placed, top :: stack =>
    match placed[i]? with
    | none => placed ++ top :: stack
    | some c =>
      if (order c).any (i < ·) then scan order n (i + 1) (placed.insertIdx i top) stack
      else scan order n (i + 1) placed (top :: stack)

/-- Puts columns in order. -/
def arrange (order : α → Option Nat) (columns : List α) : List α :=
  let ordered := columns.filter fun c => (order c).isSome
  let unordered := columns.filter fun c => (order c).isNone
  let rank := fun c => (order c).getD 0
  if ordered.isEmpty then columns
  else scan order columns.length 0 (ordered.mergeSort fun a b => rank a ≤ rank b) unordered.reverse

end SchemaDdl.Column
