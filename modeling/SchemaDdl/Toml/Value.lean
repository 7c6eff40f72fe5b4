import SchemaDdl.Number.Shortest
import SchemaDdl.Toml.Datetime

/-!
# TOML values

A value is a scalar, an array or a table.  A table remembers how it came to be, because that
decides which later lines may extend it; an array that headers build up keeps its last element
apart, which is the one that headers and keys below it extend.
-/

namespace SchemaDdl.Toml

inductive Scalar
  | text (s : String)
  | integer (n : Int)
  | float (x : Number.Binary)
  | boolean (b : Bool)
  | datetime (d : Datetime)
  deriving DecidableEq, Repr, Inhabited

inductive Origin
  /-- Written between braces; closed. -/
  | braces
  /-- Opened by a header of its own. -/
  | header
  /-- A step in a longer header. -/
  | implied
  /-- A step in a dotted key. -/
  | dotted
  deriving DecidableEq, Repr, Inhabited

inductive Value
  | scalar (s : Scalar)
  /-- Written between brackets; closed. -/
  | array (items : List Value)
  /-- Built up by headers: the earlier elements, and the entries of the last one. -/
  | tables (earlier : List Value) (last : List (String × Value))
  | table (origin : Origin) (entries : List (String × Value))
  deriving Repr, Inhabited

/-- The key under which a date-time counts as a table. -/
def datetimeKey : String := "$__toml_private_datetime"

/-- A scalar as text: a text as it is, everything else as TOML writes it, floats without an
exponent. -/
def Scalar.display : Scalar → String
  | text s => s
  | integer n => Number.signedDecimal n
  | float x => x.text .double
  | boolean b => if b then "true" else "false"
  | datetime d => d.text

namespace Value

def items? : Value → Option (List Value)
  | array items => some items
  | tables earlier last => some (earlier ++ [table .header last])
  | _ => none

/-- The entries of a table; a date-time counts as a table with one. -/
def entries? : Value → Option (List (String × Value))
  | table _ entries => some entries
  | scalar (.datetime d) => some [(datetimeKey, scalar (.text d.text))]
  | _ => none

end Value
end SchemaDdl.Toml
