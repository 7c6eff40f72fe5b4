import SchemaDdl.SchemaFile.Apply

/-!
# Builders that share a resolver

A workspace is one resolver and any number of named builders over it.  A step works on one of
the builders, or on the resolver itself, and answers what it found.  A step that fails leaves its
builder as it was; what it did to the resolver stays.
-/

namespace SchemaDdl

/-- What a table operation is about: a model, or an identity of the catalog. -/
inductive Target
  | model (m : Model)
  | entity (id : ModelId)
  deriving Repr, Inhabited

/-- One resolver and named builders; a name without a builder stands for an empty one. -/
structure Workspace where
  resolver : Resolver
  builders : List (String × Builder) := []

/-- One step over a workspace; the text is the name of the builder. -/
inductive Step
  /-- Puts a new builder under a name. -/
  | start (name : String)
  /-- Puts a copy of a builder under a name. -/
  | copy (name source : String)
  | queue (name : String) (request : Request)
  | createTable (name : String) (target : Target) (ifNotExists : Bool)
  | dropTable (name : String) (target : Target) (ifExists : Bool)
  | truncateTable (name : String) (target : Target)
  | useDialect (name : String) (dialect : Dialect)
  | clear (name : String)
  | apply (name : String) (file : SchemaFile)
  | build (name : String)
  | describe (name : String)
  | register (m : Model)
  | claim (m : Model)
  | entity (id : ModelId)
  | lookup (ref : ModelRef)
  | resolveTable (m : Model)
  | resolveColumn (m : Model) (member : Member)
  | reference (key : ForeignKey)

inductive Answer
  /-- The builder after a step that changes one. -/
  | builder (b : Builder)
  | text (s : String)
  | tables (ts : List Table)
  | model (m : Option Model)
  | tableName (t : TableName)
  | column (name : String)
  | reference (target : ReferencedColumn)
  | failure (e : DdlError)

namespace Workspace

/-- A workspace with a resolver that holds nothing and no builders. -/
def new (catalog : Catalog) : Workspace := { resolver := .new catalog }

def builder (w : Workspace) (name : String) : Builder :=
  (w.builders.lookup name).getD .new

def setBuilder (w : Workspace) (name : String) (b : Builder) : Workspace :=
  { w with builders := (name, b) :: w.builders.filter fun entry => entry.1 ≠ name }

/-- The model of a target; an identity of the catalog is registered at once. -/
def target (r : Resolver) : Target → Model × Resolver
  | .model m => (m, r)
  | .entity id => r.entity id

/-- Puts a builder under a name and answers it. -/
def answerBuilder (w : Workspace) (name : String) (b : Builder) : Answer × Workspace :=
  (.builder b, w.setBuilder name b)

/-- Adds a request about the table of a target to a builder. -/
def queueTable (w : Workspace) (name : String) (t : Target) (request : Model → Request) :
    Answer × Workspace :=
  let (m, resolver) := target w.resolver t
  { w with resolver }.answerBuilder name ((w.builder name).push (request m))

def step (w : Workspace) : Step → Answer × Workspace
  | .start name => w.answerBuilder name .new
  | .copy name source => w.answerBuilder name (w.builder source)
  | .queue name request => w.answerBuilder name ((w.builder name).push request)
  | .createTable name t flag => w.queueTable name t (.createTable · flag)
  | .dropTable name t flag => w.queueTable name t (.dropTable · flag)
  | .truncateTable name t => w.queueTable name t .truncateTable
  | .useDialect name d => w.answerBuilder name ((w.builder name).withDialect d)
  | .clear name => w.answerBuilder name (w.builder name).clear
  | .apply name file =>
    match file.apply (w.builder name) w.resolver with
    | (.error e, resolver) => (.failure e, { w with resolver })
    | (.ok b, resolver) => { w with resolver }.answerBuilder name b
  | .build name =>
    match (w.builder name).build w.resolver with
    | (.error e, resolver) => (.failure e, { w with resolver })
    | (.ok text, resolver) => (.text text, { w with resolver })
  | .describe name =>
    let (tables, resolver) := (w.builder name).describeTables w.resolver
    (.tables tables, { w with resolver })
  | .register m =>
    let (held, resolver) := w.resolver.register m
    (.model (some held), { w with resolver })
  | .claim m =>
    match w.resolver.claim m with
    | (.error e, resolver) => (.failure e, { w with resolver })
    | (.ok held, resolver) => (.model (some held), { w with resolver })
  | .entity id =>
    let (held, resolver) := w.resolver.entity id
    (.model (some held), { w with resolver })
  | .lookup ref =>
    let (found, resolver) := w.resolver.lookup ref
    (.model found, { w with resolver })
  | .resolveTable m =>
    let (name, resolver) := w.resolver.resolveTable m
    (.tableName name, { w with resolver })
  | .resolveColumn m member =>
    let (name, resolver) := w.resolver.resolveColumn m member
    (.column name, { w with resolver })
  | .reference key =>
    let (found, resolver) := w.resolver.resolveReference key
    (.reference found, { w with resolver })

def run (w : Workspace) : List Step → List Answer × Workspace
  | [] => ([], w)
  | s :: rest =>
    let (answer, w) := w.step s
    let (answers, w) := w.run rest
    (answer :: answers, w)

end Workspace
end SchemaDdl
