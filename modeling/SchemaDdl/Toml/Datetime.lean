import SchemaDdl.Number.Digits

/-!
# Dates and times

A TOML date-time has a date, a time or both, and an offset only with both.  It is written as in
RFC 3339, with at most nine fraction digits and no zeros at the end of the fraction.
-/

namespace SchemaDdl.Toml

open SchemaDdl.Number (isDigit ofDigits decimal)

structure Date where
  year : Nat
  month : Nat
  day : Nat
  deriving DecidableEq, Repr, Inhabited

structure Time where
  hour : Nat
  minute : Nat
  second : Nat
  nanosecond : Nat := 0
  deriving DecidableEq, Repr, Inhabited

inductive Offset
  | utc
  | minutes (n : Int)
  deriving DecidableEq, Repr, Inhabited

structure Datetime where
  date : Option Date := none
  time : Option Time := none
  offset : Option Offset := none
  deriving DecidableEq, Repr, Inhabited

/-! ## Writing -/

/-- Decimal text filled up with zeros to a width. -/
def padded (width n : Nat) : List Char :=
  let digits := Nat.toDigits 10 n
  List.replicate (width - digits.length) '0' ++ digits

def Date.text (d : Date) : List Char :=
  padded 4 d.year ++ '-' :: padded 2 d.month ++ '-' :: padded 2 d.day

/-- A fraction of a second in nanoseconds, without zeros at the end. -/
def fractionText (nanosecond : Nat) : List Char :=
  if nanosecond = 0 then []
  else '.' :: ((padded 9 nanosecond).reverse.dropWhile (· = '0')).reverse

def Time.text (t : Time) : List Char :=
  padded 2 t.hour ++ ':' :: padded 2 t.minute ++ ':' :: padded 2 t.second
    ++ fractionText t.nanosecond

def Offset.text : Offset → List Char
  | utc => ['Z']
  | minutes n =>
    (if n < 0 then '-' else '+') :: (padded 2 (n.natAbs / 60) ++ ':' :: padded 2 (n.natAbs % 60))

def Datetime.text (d : Datetime) : String :=
  let date := (d.date.map Date.text).getD []
  let time := (d.time.map Time.text).getD []
  let mark := if d.date.isSome && d.time.isSome then ['T'] else []
  String.ofList (date ++ mark ++ time ++ (d.offset.map Offset.text).getD [])

/-! ## Reading -/

def readFixed (n : Nat) (s : List Char) : Option (Nat × List Char) :=
  let digits := s.take n
  if digits.length = n ∧ digits.all isDigit then some (ofDigits 10 digits, s.drop n) else none

def readTwo (bound : Nat) (s : List Char) : Option (Nat × List Char) :=
  (readFixed 2 s).filter fun found => found.1 ≤ bound

def dropChar (c : Char) : List Char → Option (List Char)
  | d :: rest => if d = c then some rest else none
  | [] => none

def isLeapYear (year : Nat) : Bool :=
  year % 4 = 0 && (year % 100 ≠ 0 || year % 400 = 0)

def daysIn (year month : Nat) : Nat :=
  if month = 2 then (if isLeapYear year then 29 else 28)
  else if month = 4 ∨ month = 6 ∨ month = 9 ∨ month = 11 then 30
  else 31

def readDate (s : List Char) : Option (Date × List Char) := do
  let (year, s) ← readFixed 4 s
  let s ← dropChar '-' s
  let (month, s) ← readTwo 12 s
  let s ← dropChar '-' s
  let (day, s) ← readTwo 31 s
  if 1 ≤ month ∧ 1 ≤ day ∧ day ≤ daysIn year month then some (⟨year, month, day⟩, s) else none

/-- Fraction digits in nanoseconds; digits past the ninth do not count. -/
def nanoseconds (digits : List Char) : Nat :=
  ofDigits 10 ((digits ++ List.replicate 9 '0').take 9)

/-- An optional fraction of a second, in nanoseconds. -/
def readFraction : List Char → Nat × List Char
  | '.' :: rest =>
    match rest.takeWhile isDigit with
    | [] => (0, '.' :: rest)
    | digits => (nanoseconds digits, rest.dropWhile isDigit)
  | s => (0, s)

/-- A time of day; second 60 is a leap second. -/
def readTime (s : List Char) : Option (Time × List Char) := do
  let (hour, s) ← readTwo 23 s
  let s ← dropChar ':' s
  let (minute, s) ← readTwo 59 s
  let s ← dropChar ':' s
  let (second, s) ← readTwo 60 s
  let (nanosecond, s) := readFraction s
  some (⟨hour, minute, second, nanosecond⟩, s)

def readOffsetMinutes (s : List Char) : Option (Nat × List Char) := do
  let (hours, s) ← readTwo 23 s
  let s ← dropChar ':' s
  let (minutes, s) ← readTwo 59 s
  some (60 * hours + minutes, s)

def readOffset : List Char → Option (Offset × List Char)
  | 'Z' :: rest => some (.utc, rest)
  | 'z' :: rest => some (.utc, rest)
  | '+' :: rest => (readOffsetMinutes rest).map fun (n, s) => (.minutes n, s)
  | '-' :: rest => (readOffsetMinutes rest).map fun (n, s) => (.minutes (-n), s)
  | _ => none

/-- The time after a date, behind its mark. -/
def readTimeAfterDate : List Char → Option (Time × List Char)
  | c :: rest => if c = 'T' ∨ c = 't' ∨ c = ' ' then readTime rest else none
  | [] => none

/-- The longest date-time at the start of a text. -/
def Datetime.read (s : List Char) : Option (Datetime × List Char) :=
  match readDate s with
  | some (date, s) =>
    match readTimeAfterDate s with
    | some (time, s) =>
      match readOffset s with
      | some (offset, s) => some ({ date, time, offset }, s)
      | none => some ({ date, time }, s)
    | none => some ({ date }, s)
  | none => (readTime s).map fun (time, s) => ({ time }, s)

def Datetime.parse (text : String) : Option Datetime :=
  match Datetime.read text.toList with
  | some (d, []) => some d
  | _ => none

end SchemaDdl.Toml
