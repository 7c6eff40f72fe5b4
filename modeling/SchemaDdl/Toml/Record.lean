import SchemaDdl.Toml.Value

/-!
# Records in TOML

A record with named fields is written as a table of these names, or as an array of the fields in
their order, in which fields may be missing at the end.  A name from a fixed set is written as a
text, or as a table with the name as its only key and nothing below.
-/

namespace SchemaDdl.Toml

/-- The fields of a record that are there. -/
abbrev Fields := List (String × Value)

namespace Value

def isVoid : Value → Bool
  | array [] => true
  | table _ [] => true
  | _ => false

def text? : Value → Option String
  | scalar (.text s) => some s
  | _ => none

def boolean? : Value → Option Bool
  | scalar (.boolean b) => some b
  | _ => none

def integer? : Value → Option Int
  | scalar (.integer n) => some n
  | _ => none

/-- An integer of 32 bits without a sign. -/
def natural? : Value → Option Nat
  | scalar (.integer n) => if 0 ≤ n ∧ n < 0x100000000 then some n.toNat else none
  | _ => none

/-- A name, as a text or as the only key of a table. -/
def name? : Value → Option String
  | scalar (.text s) => some s
  | table _ [(key, v)] => if v.isVoid then some key else none
  | _ => none

/-- The fields of a record with the given names.  A table must hold no other key; elements of an
array after the last name do not count. -/
def record? (names : List String) (v : Value) : Option Fields :=
  match v.entries? with
  | some entries => if entries.all fun e => names.contains e.1 then some entries else none
  | none => v.items?.map fun items => names.zip items

end Value

namespace Fields

def required {α : Type} (f : Fields) (name : String) (read : Value → Option α) : Option α :=
  (f.lookup name).bind read

def optional {α : Type} (f : Fields) (name : String) (read : Value → Option α) :
    Option (Option α) :=
  match f.lookup name with
  | none => some none
  | some v => (read v).map some

/-- A field with a value for when it is missing. -/
def withDefault {α : Type} (f : Fields) (name : String) (missing : α)
    (read : Value → Option α) : Option α :=
  (f.optional name read).map (·.getD missing)

end Fields

def Value.list? {α : Type} (read : Value → Option α) (v : Value) : Option (List α) :=
  v.items?.bind fun items => items.mapM read

mutual

/-- Whether a date-time written as a table, wherever one stands in a value, has a date-time as
its text. -/
def Value.datetimesRead : Value → Bool
  | .scalar _ => true
  | .array items => itemsRead items
  | .tables earlier last => itemsRead earlier && tableRead last
  | .table _ entries => tableRead entries

def itemsRead : List Value → Bool
  | [] => true
  | v :: rest => v.datetimesRead && itemsRead rest

def tableRead : List (String × Value) → Bool
  | [] => true
  | (key, v) :: rest =>
    if key = datetimeKey then
      match v with
      | .scalar (.text s) => (Datetime.parse s).isSome
      | _ => false
    else v.datetimesRead && entriesRead rest

def entriesRead : List (String × Value) → Bool
  | [] => true
  | (_, v) :: rest => v.datetimesRead && entriesRead rest

end

/-- A value of any kind; a table that starts with the key of date-times is one. -/
def Value.any? (v : Value) : Option Value :=
  if v.datetimesRead then
    match v with
    | .table _ ((key, .scalar (.text s)) :: _) =>
      if key = datetimeKey then (Datetime.parse s).map fun d => .scalar (.datetime d) else some v
    | _ => some v
  else none

end SchemaDdl.Toml
