import SchemaDdl.Number.Binary
import SchemaDdl.Number.Digits

/-!
# The shortest decimal text that reads back

Every real number in an interval around a finite value rounds to that value; the ends belong to
it exactly when the significand is even.  Among the decimals of the interval the text shows one
with the fewest digits, and of those the one nearest to the value; a tie goes up.  The search
walks the grids of multiples of `10 ^ k` from the coarsest down and tests on each the two
multiples around the value.

The text is positional, whatever the size, with no point for a whole number.
-/

namespace SchemaDdl.Number

/-- The reals `low / den … high / den` that round to `mid / den`. -/
structure Interval where
  low : Nat
  mid : Nat
  high : Nat
  den : Nat
  closed : Bool
  deriving DecidableEq, Repr, Inhabited

namespace Interval

/-- What rounds to `significand * 2 ^ exponent`, in units of a quarter of the last place.  Below
a power of two the neighbour is only half as far. -/
def around (f : Format) (significand : Nat) (exponent : Int) : Interval :=
  let unit := Nat.pow 2 (exponent - 2).toNat
  let below := if significand = Nat.pow 2 (f.precision - 1) ∧ f.minExponent < exponent then 1 else 2
  { low := (4 * significand - below) * unit
    mid := 4 * significand * unit
    high := (4 * significand + 2) * unit
    den := Nat.pow 2 (2 - exponent).toNat
    closed := significand % 2 = 0 }

/-- Whether `a` comes before `b`, or at `b` if the end counts. -/
def reaches (i : Interval) (a b : Nat) : Bool :=
  if i.closed then a ≤ b else a < b

/-- The multiple of `10 ^ k` nearest to the middle, as a multiplier, if one of the two around
the middle lies in the interval. -/
def onGrid (i : Interval) (k : Int) : Option Nat :=
  let scale := Nat.pow 10 (-k).toNat
  let step := i.den * Nat.pow 10 k.toNat
  let c := i.mid * scale / step
  let down := i.reaches (i.low * scale) (c * step)
  let up := i.reaches ((c + 1) * step) (i.high * scale)
  if down && up then
    if 2 * (i.mid * scale - c * step) < step then some c else some (c + 1)
  else if down then some c
  else if up then some (c + 1)
  else none

/-- The first grid with a hit, from `10 ^ k` downwards; after `n` grids the middle itself is a
multiple. -/
def firstHit (i : Interval) : Nat → Int → Nat × Int
  | 0, k => (i.mid * Nat.pow 10 (-k).toNat / (i.den * Nat.pow 10 k.toNat), k)
  | n + 1, k =>
    match i.onGrid k with
    | some c => (c, k)
    | none => i.firstHit n (k - 1)

end Interval

/-- Digits `d` and exponent `k` of the shortest decimal `d * 10 ^ k` that rounds to
`significand * 2 ^ exponent`. -/
def shortest (f : Format) (significand : Nat) (exponent : Int) : Nat × Int :=
  let i := Interval.around f significand exponent
  let top : Int := (Nat.toDigits 10 (i.high / i.den)).length
  i.firstHit (top - min exponent 0).toNat top

/-- Positional text of `digits * 10 ^ k`. -/
def positional (digits : Nat) (k : Int) : List Char :=
  let ds := Nat.toDigits 10 digits
  if 0 ≤ k then ds ++ List.replicate k.toNat '0'
  else
    let places := (-k).toNat
    if places < ds.length then
      ds.take (ds.length - places) ++ '.' :: ds.drop (ds.length - places)
    else '0' :: '.' :: (List.replicate (places - ds.length) '0' ++ ds)

def Binary.text (f : Format) : Binary → String
  | nan => "NaN"
  | infinite negative => if negative then "-inf" else "inf"
  | finite negative significand exponent =>
    let body :=
      if significand = 0 then ['0']
      else
        let (digits, k) := shortest f significand exponent
        positional digits k
    String.ofList (if negative then '-' :: body else body)

end SchemaDdl.Number
