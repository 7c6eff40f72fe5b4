import SchemaDdl.Dialect.MsSql
import SchemaDdl.Dialect.Postgres

/-!
# Choosing a built-in dialect

A dialect is chosen by name: on the command line by its own name, in a file also by its long
name, elsewhere by any of its names in any case.
-/

namespace SchemaDdl

inductive Builtin
  | mssql
  | postgres
  deriving DecidableEq, Repr, Inhabited

namespace Builtin

def dialect : Builtin → Dialect
  | mssql => .mssql
  | postgres => .postgres

def name : Builtin → String
  | mssql => "mssql"
  | postgres => "postgres"

def ofName? (s : String) : Option Builtin :=
  if s = "mssql" then some mssql else if s = "postgres" then some postgres else none

/-- By own or long name, as files spell it. -/
def ofFileName? (s : String) : Option Builtin :=
  if s = "sqlserver" then some mssql
  else if s = "postgresql" then some postgres
  else ofName? s

/-- Letters of ASCII in lower case. -/
def lowerAscii (s : List Char) : List Char :=
  s.map Char.toLower

/-- By any name, white space around it and the case of ASCII letters aside. -/
def parse (s : String) : Except DdlError Builtin :=
  let name := String.ofList (lowerAscii (Text.trim s.toList))
  if name = "pg" then .ok postgres
  else
    match ofFileName? name with
    | some b => .ok b
    | none => .error (.config (.unknownDialect name))

end Builtin
end SchemaDdl
