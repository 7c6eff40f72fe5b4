/-!
# Binary floating-point numbers, exactly

A finite number of a binary format is `significand * 2 ^ exponent` with a bounded significand
and a bounded exponent.  `Binary.nearest` rounds a fraction to the nearest such number, a tie to
the even significand, in exact arithmetic on naturals.  A result above the largest finite number
is infinite.
-/

namespace SchemaDdl.Number

/-- A binary format: significands are below `2 ^ precision`. -/
structure Format where
  precision : Nat
  minExponent : Int
  maxExponent : Int
  deriving DecidableEq, Repr, Inhabited

def Format.double : Format := ⟨53, -1074, 971⟩

inductive Binary
  | nan
  | infinite (negative : Bool)
  | finite (negative : Bool) (significand : Nat) (exponent : Int)
  deriving DecidableEq, Repr, Inhabited

namespace Binary

/-- The quotient rounded to the nearest natural, a tie to the even one. -/
def divNearestEven (num den : Nat) : Nat :=
  let q := num / den
  let r := num % den
  if 2 * r < den then q
  else if den < 2 * r then q + 1
  else if q % 2 = 0 then q else q + 1

/-- The exponent `e` with `2 ^ e ≤ num / den < 2 ^ (e + 1)`. -/
def floorLog (num den : Nat) : Int :=
  let e : Int := (num.log2 : Int) - den.log2
  if num * Nat.pow 2 (-e).toNat < den * Nat.pow 2 e.toNat then e - 1 else e

/-- The value of the format nearest to the fraction `num / den`, with the given sign. -/
def nearest (f : Format) (negative : Bool) (num den : Nat) : Binary :=
  if num = 0 then finite negative 0 f.minExponent
  else
    let q := max (floorLog num den + 1 - f.precision) f.minExponent
    let m := divNearestEven (num * Nat.pow 2 (-q).toNat) (den * Nat.pow 2 q.toNat)
    let (m, q) :=
      if m = Nat.pow 2 f.precision then (Nat.pow 2 (f.precision - 1), q + 1) else (m, q)
    if f.maxExponent < q then infinite negative else finite negative m q

/-- Magnitudes outside `10 ^ -400 … 10 ^ 400` lie outside double precision and all below it. -/
def decimalReach : Int := 400

/-- The value nearest to `digits * 10 ^ exponent`. -/
def ofDecimal (f : Format) (negative : Bool) (digits : Nat) (exponent : Int) : Binary :=
  let magnitude : Int := (Nat.toDigits 10 digits).length + exponent
  if digits = 0 ∨ magnitude < -decimalReach then finite negative 0 f.minExponent
  else if decimalReach < magnitude then infinite negative
  else nearest f negative (digits * Nat.pow 10 exponent.toNat) (Nat.pow 10 (-exponent).toNat)

end Binary
end SchemaDdl.Number
