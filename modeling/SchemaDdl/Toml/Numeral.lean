import SchemaDdl.Number.Reading
import SchemaDdl.Toml.Value

/-!
# Numbers in TOML

Underscores may stand between digits.  An integer has 64 bits with a sign and is decimal without
leading zeros, or has a base mark and no sign.  A float has a fraction or an exponent or is one
of the words `inf` and `nan`; a finite text must not exceed the largest finite value above zero.
-/

namespace SchemaDdl.Toml

open SchemaDdl.Number (Binary isDigit isHexDigit ofDigits splitSign)

/-- The digits after the first, underscores between digits dropped. -/
def readMoreDigits (accept : Char → Bool) : List Char → List Char × List Char
  | '_' :: c :: rest =>
    if accept c then
      let (digits, rest) := readMoreDigits accept rest
      (c :: digits, rest)
    else ([], '_' :: c :: rest)
  | c :: rest =>
    if accept c then
      let (digits, rest) := readMoreDigits accept rest
      (c :: digits, rest)
    else ([], c :: rest)
  | [] => ([], [])

def readDigits (accept : Char → Bool) : List Char → Option (List Char × List Char)
  | c :: rest =>
    if accept c then
      let (digits, rest) := readMoreDigits accept rest
      some (c :: digits, rest)
    else none
  | [] => none

def readWhole : List Char → Option (List Char × List Char)
  | '0' :: rest => some (['0'], rest)
  | s => readDigits isDigit s

/-- Whether an integer has 64 bits with a sign. -/
def fits64 (n : Int) : Bool :=
  -0x8000000000000000 ≤ n && n < 0x8000000000000000

/-- Digits of a base, as an integer. -/
def readBased (base : Nat) (accept : Char → Bool) (s : List Char) : Option (Scalar × List Char) :=
  match readDigits accept s with
  | some (digits, rest) =>
    let n : Int := ofDigits base digits
    if fits64 n then some (.integer n, rest) else none
  | none => none

def readDecimal (s : List Char) : Option (Scalar × List Char) :=
  let (negative, body) := splitSign s
  match readWhole body with
  | some (digits, rest) =>
    let n : Int := ofDigits 10 digits
    let n := if negative then -n else n
    if fits64 n then some (.integer n, rest) else none
  | none => none

def readInteger : List Char → Option (Scalar × List Char)
  | '0' :: 'x' :: rest => readBased 16 isHexDigit rest
  | '0' :: 'o' :: rest => readBased 8 (fun c => '0' ≤ c && c ≤ '7') rest
  | '0' :: 'b' :: rest => readBased 2 (fun c => '0' ≤ c && c ≤ '1') rest
  | s => readDecimal s

def readPoint : List Char → Option (List Char × List Char)
  | '.' :: rest => (readDigits isDigit rest).map fun (digits, rest) => ('.' :: digits, rest)
  | _ => none

def readPower : List Char → Option (List Char × List Char)
  | e :: rest =>
    if e = 'e' ∨ e = 'E' then
      let (negative, body) := splitSign rest
      (readDigits isDigit body).map fun (digits, rest) =>
        ('e' :: (if negative then ['-'] else []) ++ digits, rest)
    else none
  | [] => none

/-- What makes a number a float: a fraction, an exponent or both. -/
def readFloatTail (s : List Char) : Option (List Char × List Char) :=
  match readPoint s with
  | some (point, rest) =>
    match readPower rest with
    | some (power, rest) => some (point ++ power, rest)
    | none => some (point, rest)
  | none => readPower s

def readFloat (s : List Char) : Option (Scalar × List Char) := do
  let (negative, body) := splitSign s
  let (whole, rest) ← readWhole body
  let (tail, rest) ← readFloatTail rest
  let x ← Binary.read .double ((if negative then ['-'] else []) ++ whole ++ tail)
  if x = .infinite false then none else some (.float x, rest)

/-- The words for values that are not finite. -/
def readSpecial (s : List Char) : Option (Scalar × List Char) :=
  let (negative, body) := splitSign s
  match body with
  | 'i' :: 'n' :: 'f' :: rest => some (.float (.infinite negative), rest)
  | 'n' :: 'a' :: 'n' :: rest => some (.float .nan, rest)
  | _ => none

/-- A date-time or a number: the first of the readings, in this order, that fits. -/
def readNumeral (s : List Char) : Option (Scalar × List Char) :=
  ((Datetime.read s).map fun (d, rest) => (.datetime d, rest))
    <|> readFloat s <|> readSpecial s <|> readInteger s

end SchemaDdl.Toml
