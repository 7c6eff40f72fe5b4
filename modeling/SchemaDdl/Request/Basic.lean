import SchemaDdl.Model
import SchemaDdl.Sequence

/-!
# Requests

A request asks for one schema object to be created, dropped or emptied, or for a text to be
passed through.
-/

namespace SchemaDdl

inductive Request
  | createTable (model : Model) (ifNotExists : Bool)
  | dropTable (model : Model) (ifExists : Bool)
  | truncateTable (model : Model)
  | createSchema (name : String)
  | dropSchema (name : String)
  | createSequence (sequence : Sequence)
  | dropSequence (name : SequenceName)
  | customSql (text : String)
  deriving DecidableEq, Repr, Inhabited

namespace Request

def kind : Request → String
  | createTable .. => "create_table"
  | dropTable .. => "drop_table"
  | truncateTable .. => "truncate_table"
  | createSchema .. => "create_schema"
  | dropSchema .. => "drop_schema"
  | createSequence .. => "create_sequence"
  | dropSequence .. => "drop_sequence"
  | customSql .. => "custom_sql"

/-- The model whose table a request is about. -/
def model? : Request → Option Model
  | createTable m _ | dropTable m _ | truncateTable m => some m
  | _ => none

/-- The model of a table to create. -/
def created? : Request → Option Model
  | createTable m _ => some m
  | _ => none

end Request
end SchemaDdl
