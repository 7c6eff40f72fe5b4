import SchemaDdl.Request.Basic
import SchemaDdl.Statement

/-!
# Rendering a queue of requests

Requests are rendered in queue order, each as one block and a line end.  A request about a table
first claims its model, so that two different models under one identity fail instead of mixing
their cached names.  The first failure ends the rendering; what the requests before it did to
the resolver stays, and those after it do nothing.
-/

namespace SchemaDdl.Request

/-- The block of a request whose model, if any, has been claimed. -/
def block (d : Dialect) (r : Resolver) : Request → Except DdlError String × Resolver
  | createTable m ifNotExists =>
    let (table, r) := Table.describe r m d.defaultSchema
    Statement.createTable d r table ifNotExists
  | dropTable m ifExists =>
    let (table, r) := Table.resolve r m d.defaultSchema
    (.ok (Statement.dropTable table ifExists), r)
  | truncateTable m =>
    let (table, r) := Table.resolve r m d.defaultSchema
    (.ok (Statement.truncateTable table), r)
  | createSchema name => (.ok (Statement.createSchema name), r)
  | dropSchema name => (.ok (Statement.dropSchema name), r)
  | createSequence s => (.ok (Statement.createSequence d s), r)
  | dropSequence name => (.ok (Statement.dropSequence d name), r)
  | customSql text => (.ok text, r)

/-- The block of a request, its model claimed first. -/
def render (d : Dialect) (r : Resolver) (request : Request) : Except DdlError String × Resolver :=
  match request.model? with
  | none => request.block d r
  | some m =>
    match r.claim m with
    | (.error e, r) => (.error e, r)
    | (.ok _, r) => request.block d r

/-- The text of a queue: the whole of it, or the first failure. -/
def renderAll (d : Dialect) (r : Resolver) : List Request → Except DdlError String × Resolver
  | [] => (.ok "", r)
  | request :: rest =>
    match request.render d r with
    | (.error e, r) => (.error e, r)
    | (.ok block, r) =>
      match renderAll d r rest with
      | (.error e, r) => (.error e, r)
      | (.ok text, r) => (.ok (block ++ "\n" ++ text), r)

end SchemaDdl.Request
