import SchemaDdl.CommandLine.Arguments
import SchemaDdl.Config
import SchemaDdl.SchemaFile.Apply
import SchemaDdl.Report

/-!
# Running a command

A command reads the configuration first, then the schema file, and gives its text out in the end.
The configuration is the file asked for, which must exist, else the first of the usual files that
exists, else empty.

The program is the same over every `Platform`, which reads the arguments and acts on files and
streams for it.
-/

namespace SchemaDdl.CommandLine

/-- What the program uses of the system around it. -/
structure Platform (m : Type → Type) where
  /-- The command that the arguments ask for, the environment considered. -/
  parse : List String → m (Except Exit Invocation)
  /-- The directory of the user's configuration, if it is known. -/
  configDirectory : m (Option String)
  /-- Something stands at a path, readable or not. -/
  holds : String → m Bool
  /-- The text of the file at a path, or the reason why it cannot be read. -/
  read : String → m (Except String String)
  /-- Makes a text the content of the file at a path, or gives the reason why not. -/
  write : String → String → m (Except String Unit)
  /-- Puts a text on standard output. -/
  print : String → m Unit
  /-- Tells the user a line besides the output. -/
  tell : String → m Unit

/-- A failure with the failures behind it. -/
def causes : DdlError → String
  | .file reason => DdlError.message (.file reason) ++ ": " ++ reason
  | e => e.message

/-- Puts the configured header line in front of a text. -/
def withHeader (config : Config) (text : String) : String :=
  match config.header with
  | some header => header ++ "\n" ++ text
  | none => text

/-- The usual files of a configuration, the most specific one first. -/
def configPaths (directory : Option String) : List String :=
  "ddlkit.toml" :: (directory.map fun dir => dir ++ "/ddlkit/config.toml").toList

namespace Platform

variable {m : Type → Type} [Monad m] (P : Platform m)

/-! ## Reading -/

/-- Reads the file at a path and then what its text says. -/
def load {α : Type} (parse : String → Except DdlError α) (path : String) : ExceptT DdlError m α := do
  let content ← ExceptT.adapt DdlError.file (ExceptT.mk (P.read path))
  ExceptT.mk (pure (parse content))

def findHeld : List String → m (Option String)
  | [] => pure none
  | path :: rest => do
    if ← P.holds path then pure (some path) else findHeld rest

def loadConfig (asked : Option String) : ExceptT DdlError m Config := do
  match asked with
  | some path =>
    if ← P.holds path then P.load Config.parse path else throw (.config (.notFound path))
  | none =>
    match ← P.findHeld (configPaths (← P.configDirectory)) with
    | some path => P.load Config.parse path
    | none => pure {}

/-- A builder with the requests of a schema file, and the resolver after them. -/
def loadBuilder (config : Config) (path : String) (asked : Option Builtin) :
    ExceptT String m (Builder × Resolver) := do
  let file ←
    (P.load SchemaFile.parse path).adapt fun e => "reading " ++ path ++ ": " ++ causes e
  let dialect := (config.resolveDialect asked file.dialect).dialect
  match file.apply { dialect } (.new fun id => .ofId id) with
  | (.ok b, r) => pure (b, r)
  | (.error e, _) => throw (causes e)

/-! ## Commands -/

def printLines : List String → m Unit
  | [] => pure ()
  | line :: rest => do
    P.print (line ++ "\n")
    printLines rest

/-- Gives a text of some statement blocks out: to the file asked for, or on standard output. -/
def deliver (output : Option String) (text : String) (blocks : Nat) : ExceptT String m Unit := do
  match output with
  | some target =>
    ExceptT.adapt (fun reason => "writing " ++ target ++ ": " ++ reason)
      (ExceptT.mk (P.write target text))
    P.tell ("✓ Wrote " ++ Number.decimal blocks ++ " statement block(s) to " ++ target)
  | none => P.print text

def build (config : Config) (path : String) (asked : Option Builtin) (output : Option String) :
    ExceptT String m Unit := do
  let (b, r) ← P.loadBuilder config path asked
  let sql ← ExceptT.adapt causes (ExceptT.mk (pure (b.build r).1))
  P.deliver output (withHeader config sql) b.queue.length

def explain (config : Config) (path : String) (asked : Option Builtin) (format : Format) :
    ExceptT String m Unit := do
  let (b, r) ← P.loadBuilder config path asked
  let tables := (b.describeTables r).1
  match format with
  | .json => P.printLines [(Json.array (tables.map Table.toJson)).pretty 0]
  | .text => P.printLines (b.dialect.reportTables tables)

def command (config : Config) : Command → ExceptT String m Unit
  | .build schema dialect output => P.build config schema dialect output
  | .explain schema dialect format => P.explain config schema dialect format
  | .types dialect => P.printLines (config.resolveDialect dialect none).dialect.reportTypes

def execute (invocation : Invocation) : ExceptT String m Unit := do
  let config ←
    (P.loadConfig invocation.config).adapt fun e => "loading configuration: " ++ causes e
  P.command config invocation.command

/-- Runs the program on some arguments, and gives its exit code. -/
def run (args : List String) : m Nat := do
  match ← P.parse args with
  | .error (.shown text) =>
    P.print text
    pure 0
  | .error (.refused complaint) =>
    P.tell complaint
    pure 2
  | .ok invocation =>
    match ← (P.execute invocation).run with
    | .ok () => pure 0
    | .error message =>
      P.tell ("Error: " ++ message)
      pure 1

end Platform
end SchemaDdl.CommandLine
