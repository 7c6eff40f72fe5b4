import SchemaDdl.Number.Binary
import SchemaDdl.Number.Digits

/-!
# Reading a decimal floating-point text

A number is an optional sign and either one of the words `inf`, `infinity` and `nan` in any case,
or digits with at most one point and at least one digit, then an optional exponent.  The value is
the one of the format nearest to the decimal.
-/

namespace SchemaDdl.Number

/-- An optional sign: whether it is a minus, and the rest. -/
def splitSign : List Char → Bool × List Char
  | '-' :: rest => (true, rest)
  | '+' :: rest => (false, rest)
  | s => (false, s)

/-- The whole text as an exponent: nothing, or `e`, a sign and digits. -/
def readExponent : List Char → Option Int
  | [] => some 0
  | e :: rest =>
    if e = 'e' ∨ e = 'E' then
      let (negative, digits) := splitSign rest
      if digits.isEmpty ∨ !digits.all isDigit then none
      else
        let n : Int := ofDigits 10 digits
        some (if negative then -n else n)
    else none

/-- The fraction digits after a point, and the rest. -/
def splitFraction : List Char → List Char × List Char
  | '.' :: rest => (rest.takeWhile isDigit, rest.dropWhile isDigit)
  | s => ([], s)

def readMagnitude (f : Format) (negative : Bool) (s : List Char) : Option Binary :=
  let whole := s.takeWhile isDigit
  let (fraction, rest) := splitFraction (s.dropWhile isDigit)
  if whole.isEmpty ∧ fraction.isEmpty then none
  else (readExponent rest).map fun e =>
    Binary.ofDecimal f negative (ofDigits 10 (whole ++ fraction)) (e - fraction.length)

def Binary.read (f : Format) (s : List Char) : Option Binary :=
  let (negative, body) := splitSign s
  let word := String.ofList (body.map Char.toLower)
  if word = "inf" ∨ word = "infinity" then some (.infinite negative)
  else if word = "nan" then some .nan
  else readMagnitude f negative body

end SchemaDdl.Number
