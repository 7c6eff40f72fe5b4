import SchemaDdl.Toml.Value

/-!
# Putting tables together

A document is a list of lines: headers that open a table or add an element to an array, and
assignments under the last header.  Which tables a line may enter or extend depends on what
created them.  A header passes through every table that is not written between braces and
through the last element of an array that headers build; a dotted key passes only through tables
that no header of their own opened, and assigns only into tables that dotted keys created.  No
key is assigned twice.
-/

namespace SchemaDdl.Toml

structure Table where
  origin : Origin := .header
  entries : List (String × Value) := []
  deriving Repr, Inhabited

/-- A key and the keys before it. -/
structure Path where
  parents : List String
  key : String
  deriving DecidableEq, Repr, Inhabited

inductive Line
  | header (path : Path)
  /-- Adds an element to an array of tables. -/
  | element (path : Path)
  | assign (path : Path) (value : Value)
  deriving Repr, Inhabited

namespace Table

def toValue (t : Table) : Value := .table t.origin t.entries

/-- Changes what stands under a key; a new key comes last. -/
def alterEntries (key : String) (f : Option Value → Option Value) :
    List (String × Value) → Option (List (String × Value))
  | [] => (f none).map fun v => [(key, v)]
  | (k, v) :: rest =>
    if k = key then (f (some v)).map fun v => (k, v) :: rest
    else (alterEntries key f rest).map ((k, v) :: ·)

def alter (t : Table) (key : String) (f : Option Value → Option Value) : Option Table :=
  (alterEntries key f t.entries).map fun entries => { t with entries }

/-- Whether a header, or a dotted key, may pass through a table. -/
def admits (dotted : Bool) : Origin → Bool
  | .braces => false
  | .header => !dotted
  | .implied | .dotted => true

/-- Applies a change to the table at a path, creating the tables on the way. -/
def within (dotted : Bool) (change : Table → Option Table) : List String → Table → Option Table
  | [], t => change t
  | key :: path, t =>
    t.alter key fun
      | none =>
        let fresh : Table := { origin := if dotted then .dotted else .implied }
        (within dotted change path fresh).map toValue
      | some (.table origin entries) =>
        if admits dotted origin then
          (within dotted change path { origin, entries }).map toValue
        else none
      | some (.tables earlier last) =>
        (within dotted change path { entries := last }).map fun t => .tables earlier t.entries
      | some (.array _) => none
      | some (.scalar _) => none

def insertNew (t : Table) (key : String) (value : Value) : Option Table :=
  t.alter key fun
    | none => some value
    | some _ => none

/-- Assigns to a key, below a dotted path if one is given. -/
def assign (t : Table) (path : Path) (value : Value) : Option Table :=
  within true
    (fun target =>
      if target.origin = .dotted ↔ path.parents.isEmpty then none
      else target.insertNew path.key value)
    path.parents t

/-- Opens a table under a key: a new one, or one that headers only passed through, which then
comes last. -/
def openTable (t : Table) (key : String) : Option Table :=
  match t.entries.lookup key with
  | none => some { t with entries := t.entries ++ [(key, .table .header [])] }
  | some (.table .implied entries) =>
    let others := t.entries.filter fun e => e.1 ≠ key
    some { t with entries := others ++ [(key, .table .header entries)] }
  | some _ => none

/-- Adds an element to the array of tables under a key. -/
def addElement (t : Table) (key : String) : Option Table :=
  t.alter key fun
    | none => some (.tables [] [])
    | some (.tables earlier last) => some (.tables (earlier ++ [.table .header last]) [])
    | some _ => none

/-- The table of a list of pairs between braces. -/
def ofPairs : List (Path × Value) → Table → Option Table
  | [], t => some t
  | (path, value) :: rest, t => (t.assign path value).bind (ofPairs rest)

/-- Adds the lines of a document, the assignments below the header `above`. -/
def addLines (above : List String) : List Line → Table → Option Table
  | [], t => some t
  | .header path :: rest, t =>
    (within false (openTable · path.key) path.parents t).bind
      (addLines (path.parents ++ [path.key]) rest)
  | .element path :: rest, t =>
    (within false (addElement · path.key) path.parents t).bind
      (addLines (path.parents ++ [path.key]) rest)
  | .assign path value :: rest, t =>
    (within false (assign · path value) above t).bind (addLines above rest)

end Table
end SchemaDdl.Toml
