import SchemaDdl.Dialect.Builtin
import SchemaDdl.Request.Render

/-!
# Builders

A builder holds a queue of requests and the dialect to render them in.  Building leaves the queue
as it is; the resolver, which several builders may share, is passed in and returned.
-/

namespace SchemaDdl

structure Builder where
  dialect : Dialect
  queue : List Request := []

namespace Builder

def new : Builder := { dialect := Builtin.mssql.dialect }

def withDialect (b : Builder) (d : Dialect) : Builder :=
  { b with dialect := d }

def push (b : Builder) (request : Request) : Builder :=
  { b with queue := b.queue ++ [request] }

/-- Empties the queue and keeps the dialect. -/
def clear (b : Builder) : Builder :=
  { b with queue := [] }

def build (b : Builder) (r : Resolver) : Except DdlError String × Resolver :=
  Request.renderAll b.dialect r b.queue

/-- The tables of some models under a default schema, each with its columns. -/
def describeAll (defaultSchema : String) (r : Resolver) : List Model → List Table × Resolver
  | [] => ([], r)
  | m :: rest =>
    let (table, r) := Table.describe r m defaultSchema
    let (tables, r) := describeAll defaultSchema r rest
    (table :: tables, r)

/-- The tables that the queue creates, in queue order. -/
def describeTables (b : Builder) (r : Resolver) : List Table × Resolver :=
  describeAll b.dialect.defaultSchema r (b.queue.filterMap Request.created?)

end Builder
end SchemaDdl
