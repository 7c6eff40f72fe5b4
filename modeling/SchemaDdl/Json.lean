import SchemaDdl.Number.Digits

/-!
# JSON text

A small JSON value type and its text over several lines: two blanks for each level, one entry a
line, empty arrays and objects on one line.  Texts escape quotes, backslashes and controls only.
-/

namespace SchemaDdl

inductive Json
  | null
  | bool (b : Bool)
  | number (n : Int)
  | text (s : String)
  | array (items : List Json)
  | object (entries : List (String × Json))
  deriving Repr, Inhabited

namespace Json

/-- The escapes that have a letter of their own. -/
def shortEscapes : List (Char × Char) :=
  [('"', '"'), ('\\', '\\'), ('\x08', 'b'), ('\x0c', 'f'), ('\n', 'n'), ('\r', 'r'), ('\t', 't')]

def fourHex (n : Nat) : List Char :=
  let digits := Nat.toDigits 16 n
  List.replicate (4 - digits.length) '0' ++ digits

def escape (c : Char) : List Char :=
  match shortEscapes.lookup c with
  | some e => ['\\', e]
  | none => if c < ' ' then '\\' :: 'u' :: fourHex c.toNat else [c]

def quote (s : String) : String :=
  String.ofList ('"' :: (s.toList.flatMap escape ++ ['"']))

def newLine (level : Nat) : String :=
  String.ofList ('\n' :: List.replicate (2 * level) ' ')

mutual

/-- The text of a value whose first line stands at a level of nesting. -/
def pretty (level : Nat) : Json → String
  | null => "null"
  | bool b => if b then "true" else "false"
  | number n => Number.signedDecimal n
  | text s => quote s
  | array [] => "[]"
  | array (v :: rest) =>
    "[" ++ newLine (level + 1) ++ v.pretty (level + 1) ++ prettyItems (level + 1) rest
      ++ newLine level ++ "]"
  | object [] => "\x7b\x7d"
  | object ((key, v) :: rest) =>
    "\x7b" ++ newLine (level + 1) ++ quote key ++ ": " ++ v.pretty (level + 1)
      ++ prettyEntries (level + 1) rest ++ newLine level ++ "\x7d"

/-- Further elements of an array, each after a comma. -/
def prettyItems (level : Nat) : List Json → String
  | [] => ""
  | v :: rest => "," ++ newLine level ++ v.pretty level ++ prettyItems level rest

/-- Further entries of an object, each after a comma. -/
def prettyEntries (level : Nat) : List (String × Json) → String
  | [] => ""
  | (key, v) :: rest =>
    "," ++ newLine level ++ quote key ++ ": " ++ v.pretty level ++ prettyEntries level rest

end

end Json
end SchemaDdl
