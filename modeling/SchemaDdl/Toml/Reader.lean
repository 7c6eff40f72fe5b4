import SchemaDdl.Toml.Assembly
import SchemaDdl.Toml.Numeral
import SchemaDdl.Toml.Text

/-!
# Reading TOML

Brackets and braces may nest up to a limit, and so may the parts of a dotted key; the budget for
nesting is what the reading of values recurses on.  Loops over elements and lines go on only
while the text gets shorter, which every element and line makes it.
-/

namespace SchemaDdl.Toml

open SchemaDdl.Number (isDigit)

/-- The limit of nesting and of the parts of a key. -/
def nestingLimit : Nat := 80

/-! ## Keys -/

def isBareKeyChar (c : Char) : Bool :=
  isDigit c || ('a' ≤ c && c ≤ 'z') || ('A' ≤ c && c ≤ 'Z') || c = '_' || c = '-'

def readKeyPart : List Char → Option (List Char × List Char)
  | '"' :: rest => readBasic rest
  | '\'' :: rest => readLiteral rest
  | s =>
    match s.takeWhile isBareKeyChar with
    | [] => none
    | part => some (part, s.dropWhile isBareKeyChar)

/-- The parts of a key, with blanks around each. -/
def readKeyParts (s : List Char) : Option (List String × List Char) :=
  match readKeyPart (skipBlanks s) with
  | none => none
  | some (part, rest) =>
    match skipBlanks rest with
    | '.' :: more =>
      if _h : more.length < s.length then
        (readKeyParts more).map fun (parts, rest) => (String.ofList part :: parts, rest)
      else none
    | rest => some ([String.ofList part], rest)
termination_by s.length

def readPath (s : List Char) : Option (Path × List Char) :=
  match readKeyParts s with
  | none => none
  | some (parts, rest) =>
    if nestingLimit ≤ parts.length then none
    else parts.getLast?.map fun key => (⟨parts.dropLast, key⟩, rest)

/-! ## Values -/

def readPair (value : List Char → Option (Value × List Char)) (s : List Char) :
    Option ((Path × Value) × List Char) :=
  match readPath s with
  | some (path, '=' :: rest) =>
    (value (skipBlanks rest)).map fun (v, rest) => ((path, v), rest)
  | _ => none

/-- The elements of an array up to its closing bracket. -/
def readItems (value : List Char → Option (Value × List Char)) (s : List Char) :
    Option (List Value × List Char) :=
  match skipLines s with
  | ']' :: rest => some ([], rest)
  | s' =>
    match value s' with
    | none => none
    | some (v, rest) =>
      match skipLines rest with
      | ']' :: rest => some ([v], rest)
      | ',' :: rest =>
        if _h : rest.length < s.length then
          (readItems value rest).map fun (vs, rest) => (v :: vs, rest)
        else none
      | _ => none
termination_by s.length

/-- The pairs between braces after the first, up to the closing brace. -/
def readMorePairs (value : List Char → Option (Value × List Char)) (s : List Char) :
    Option (List (Path × Value) × List Char) :=
  match skipBlanks s with
  | '\x7d' :: rest => some ([], rest)
  | ',' :: rest =>
    match readPair value rest with
    | none => none
    | some (pair, rest) =>
      if _h : rest.length < s.length then
        (readMorePairs value rest).map fun (pairs, rest) => (pair :: pairs, rest)
      else none
  | _ => none
termination_by s.length

def readPairs (value : List Char → Option (Value × List Char)) (s : List Char) :
    Option (List (Path × Value) × List Char) :=
  match skipBlanks s with
  | '\x7d' :: rest => some ([], rest)
  | s =>
    match readPair value s with
    | none => none
    | some (pair, rest) =>
      (readMorePairs value rest).map fun (pairs, rest) => (pair :: pairs, rest)

def readScalar : List Char → Option (Value × List Char)
  | 't' :: 'r' :: 'u' :: 'e' :: rest => some (.scalar (.boolean true), rest)
  | 'f' :: 'a' :: 'l' :: 's' :: 'e' :: rest => some (.scalar (.boolean false), rest)
  | s =>
    match readText s with
    | some (text, rest) => some (.scalar (.text (String.ofList text)), rest)
    | none => (readNumeral s).map fun (x, rest) => (.scalar x, rest)

/-- A value, with a budget for the brackets and braces that it may open. -/
def readValue : Nat → List Char → Option (Value × List Char)
  | budget + 1, '[' :: rest =>
    (readItems (readValue budget) rest).map fun (items, rest) => (.array items, rest)
  | budget + 1, '\x7b' :: rest =>
    (readPairs (readValue budget) rest).bind fun (pairs, rest) =>
      (Table.ofPairs pairs {}).map fun t => (.table .braces t.entries, rest)
  | _, s => readScalar s

/-! ## Documents -/

/-- A header up to its closing brackets. -/
def readHeader (close : List Char) (s : List Char) : Option (Path × List Char) :=
  match readPath s with
  | some (path, rest) =>
    if rest.take close.length = close then some (path, rest.drop close.length) else none
  | none => none

/-- The content of a line, if it has any. -/
def readContent : List Char → Option (Option Line × List Char)
  | [] => some (none, [])
  | '[' :: '[' :: rest =>
    (readHeader [']', ']'] rest).map fun (path, rest) => (some (.element path), rest)
  | '[' :: rest => (readHeader [']'] rest).map fun (path, rest) => (some (.header path), rest)
  | c :: rest =>
    if c = '#' ∨ c = '\n' ∨ c = '\r' then some (none, c :: rest)
    else
      (readPair (readValue (nestingLimit - 1)) (c :: rest)).map fun ((path, value), rest) =>
        (some (.assign path value), rest)

def readDocument (s : List Char) : Option (List Line) :=
  if s.isEmpty then some []
  else
    match readContent (skipBlanks s) with
    | none => none
    | some (line, rest) =>
      match endLine rest with
      | none => none
      | some rest =>
        if _h : rest.length < s.length then
          (readDocument rest).map fun lines => line.toList ++ lines
        else none
termination_by s.length

def skipMark : List Char → List Char
  | '\ufeff' :: rest => rest
  | s => s

/-- The root table of a document, if the text is one. -/
def parse (text : String) : Option Value :=
  match readDocument (skipMark text.toList) with
  | some lines => (Table.addLines [] lines {}).map Table.toValue
  | none => none

end SchemaDdl.Toml
