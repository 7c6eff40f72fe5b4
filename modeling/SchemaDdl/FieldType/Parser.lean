import SchemaDdl.Error
import SchemaDdl.Text.Alphanumeric
import SchemaDdl.Text.Blank

/-!
# Reading field types

The grammar, with `ws` for spaces, tabs and line ends and `id` for a run of alphanumeric
characters and underscores:

    T ::= ws '&'? (A | P)
    A ::= ('char' | 'u8' | 'byte') ws '[' ws ']'
    P ::= id ('::' id)* (ws '<' T ws '>')?

A path means what its last segment and its argument say.  An argument that does not read through
to its closing bracket is no argument: the path then ends before it, and the text from there on
is left over.
-/

namespace SchemaDdl.FieldType

open SchemaDdl.Text (trim isAlphanumeric)

/-- Characters between the tokens of a type. -/
def isGap (c : Char) : Bool :=
  c = ' ' || c = '\t' || c = '\r' || c = '\n'

def skipGap (s : List Char) : List Char :=
  s.dropWhile isGap

def isIdent (c : Char) : Bool :=
  isAlphanumeric c || c = '_'

def skipReference : List Char → List Char
  | '&' :: rest => rest
  | s => s

/-- The names that mean a scalar by themselves. -/
def plainNames : List (String × Scalar) :=
  [("i16", .i16), ("i32", .i32), ("i64", .i64), ("u8", .u8), ("bool", .bool), ("f32", .f32),
   ("f64", .f64), ("Decimal", .decimal), ("String", .string), ("str", .string), ("Uuid", .uuid),
   ("NaiveDateTime", .dateTime), ("DateTime", .dateTime), ("NaiveTime", .time), ("Xml", .xml)]

/-- What a plain name means: a scalar, else a declared enumeration, else a custom type. -/
def ofName (enums : EnumTable) (name : String) : FieldType :=
  match plainNames.lookup name with
  | some s => scalar s
  | none =>
    match enums.lookup name with
    | some repr => enumeration name repr
    | none => custom name

def ofGeneric (name : String) (argument : FieldType) : FieldType :=
  if name = "Option" then nullable argument
  else if name = "Vec" ∧ argument = scalar .u8 then scalar .bytes
  else if name = "Vec" ∧ argument = custom "char" then scalar .chars
  else if name = "DateTime" then scalar .dateTime
  else custom (name ++ "<" ++ argument.display ++ ">")

/-- Drops `word` from the start of a text, if it is there. -/
def dropWord : List Char → List Char → Option (List Char)
  | [], s => some s
  | _ :: _, [] => none
  | w :: word, c :: s => if w = c then dropWord word s else none

/-- Drops an empty pair of square brackets, gaps allowed. -/
def dropBrackets (s : List Char) : Option (List Char) :=
  match skipGap s with
  | '[' :: inner =>
    match skipGap inner with
    | ']' :: rest => some rest
    | _ => none
  | _ => none

def arrayElements : List (List Char × Scalar) :=
  [("char".toList, .chars), ("u8".toList, .bytes), ("byte".toList, .bytes)]

def readArray (s : List Char) : Option (FieldType × List Char) :=
  arrayElements.findSome? fun (word, element) =>
    ((dropWord word s).bind dropBrackets).map fun rest => (scalar element, rest)

/-- Follows a path while `::` and another segment come, and gives its last segment. -/
def readSegments (name s : List Char) : List Char × List Char :=
  match s with
  | ':' :: ':' :: t =>
    match t.takeWhile isIdent with
    | [] => (name, s)
    | segment => readSegments segment (t.dropWhile isIdent)
  | _ => (name, s)
termination_by s.length
decreasing_by
  have := (List.dropWhile_sublist isIdent (l := t)).length_le
  simp only [List.length_cons]
  omega

/-- The last segment of a path and the text after the path. -/
def readPath (s : List Char) : Option (List Char × List Char) :=
  match s.takeWhile isIdent with
  | [] => none
  | name => some (readSegments name (s.dropWhile isIdent))

theorem length_skipGap_le (s : List Char) : (skipGap s).length ≤ s.length :=
  (List.dropWhile_sublist isGap).length_le

theorem length_skipReference_le (s : List Char) : (skipReference s).length ≤ s.length := by
  unfold skipReference
  split <;> simp

theorem length_readSegments_le (name s : List Char) :
    (readSegments name s).2.length ≤ s.length := by
  fun_induction readSegments name s with
  | case1 => simp
  | case2 name t _ ih =>
    have := (List.dropWhile_sublist isIdent (l := t)).length_le
    simp only [List.length_cons]
    omega
  | case3 => simp

theorem length_readPath_le {s name rest : List Char} (h : readPath s = some (name, rest)) :
    rest.length ≤ s.length := by
  unfold readPath at h
  split at h
  · simp at h
  · rename_i segment _
    have hr := length_readSegments_le (s.takeWhile isIdent) (s.dropWhile isIdent)
    have hd := (List.dropWhile_sublist isIdent (l := s)).length_le
    simp only [Option.some.injEq] at h
    rw [h] at hr
    exact Nat.le_trans hr hd

/-- Reads one type from the start of a text: its meaning and the text after it. -/
def readType (enums : EnumTable) (s : List Char) : Option (FieldType × List Char) :=
  let start := skipReference (skipGap s)
  match readArray start with
  | some found => some found
  | none =>
    match _hp : readPath start with
    | none => none
    | some (name, rest) =>
      match _hg : skipGap rest with
      | '<' :: inner =>
        match readType enums inner with
        | some (argument, after) =>
          match skipGap after with
          | '>' :: after => some (ofGeneric (String.ofList name) argument, after)
          | _ => some (ofName enums (String.ofList name), rest)
        | none => some (ofName enums (String.ofList name), rest)
      | _ => some (ofName enums (String.ofList name), rest)
termination_by s.length
decreasing_by
  have h1 := length_skipGap_le s
  have h2 := length_skipReference_le (skipGap s)
  have h3 : rest.length ≤ (skipReference (skipGap s)).length := length_readPath_le _hp
  have h4 := length_skipGap_le rest
  rw [_hg] at h4
  simp only [List.length_cons] at h4
  omega

/-- Bytes that a text takes in UTF-8. -/
def utf8Size : List Char → Nat
  | [] => 0
  | c :: rest => c.utf8Size + utf8Size rest

/-- The type that a whole text denotes, white space around it aside. -/
def parse (enums : EnumTable) (text : String) : Except DdlError FieldType :=
  let s := trim text.toList
  match readType enums s with
  | some (type, []) => .ok type
  | some (_, rest) => .error (.parse (utf8Size s - utf8Size rest) (.trailing rest))
  | none => .error (.parse 0 (.noType (skipReference (skipGap s))))

/-- The type that represents an enumeration, which must be an integer type. -/
def parseRepr (text : String) : Except DdlError FieldType :=
  match parse [] text with
  | .error e => .error e
  | .ok type => if type.isInteger then .ok type else .error (.parse 0 (.notInteger type))

end SchemaDdl.FieldType
