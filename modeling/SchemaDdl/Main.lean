import SchemaDdl.CommandLine.Run

/-!
# The program

The command line over the files, the environment and the streams of the system.
-/

namespace SchemaDdl

open SchemaDdl.CommandLine

/-- The variable that may name a configuration. -/
def configVariable : String := "DDLKIT_CONFIG"

/-- The number of a refusal, which may come with its sign turned. -/
def errorNumber (code : UInt32) : Nat :=
  if code.toNat < 0x80000000 then code.toNat else 0x100000000 - code.toNat

/-- What a refusal of the operating system says, with its number. -/
def refusal (e : IO.Error) : String :=
  match e with
  | .noFileOrDirectory .. => "No such file or directory (os error 2)"
  | .inappropriateType _ code text =>
    let text := if errorNumber code = 20 then "Not a directory" else
      if errorNumber code = 21 then "Is a directory" else text
    text ++ " (os error " ++ Number.decimal (errorNumber code) ++ ")"
  | .permissionDenied _ code text | .resourceExhausted _ code text
  | .invalidArgument _ code text =>
    text ++ " (os error " ++ Number.decimal (errorNumber code) ++ ")"
  | e => toString e

/-- A path leads nowhere. -/
def leadsNowhere : IO.Error → Bool
  | .noFileOrDirectory .. => true
  | .inappropriateType _ code _ => errorNumber code = 20
  | .invalidArgument _ code _ => errorNumber code = 36
  | _ => false

def attempt {α : Type} (act : IO α) : IO (Except String α) := do
  try
    return .ok (← act)
  catch e => return .error (refusal e)

def existsAt (path : String) : IO Bool := do
  try
    IO.FS.withFile path .read fun _ => pure true
  catch e => return !leadsNowhere e

def writeFile (path text : String) : IO Unit :=
  IO.FS.withFile path .write fun file => do
    file.putStr text
    file.flush

/-- The directory that the system keeps for the user's configuration. -/
def userDirectory : IO (Option String) := do
  let named ← IO.getEnv "XDG_CONFIG_HOME"
  let home ← IO.getEnv "HOME"
  return (named.filter fun dir => "/".isPrefixOf dir)
    <|> (home.filter fun dir => !dir.isEmpty).map (· ++ "/.config")

def system : Platform IO where
  parse args := do
    let preset ← IO.getEnv configVariable
    return (Invocation.parse args preset).mapError Stop.exit
  configDirectory := userDirectory
  holds := existsAt
  read path := attempt (IO.FS.readFile path)
  write path text := attempt (writeFile path text)
  print text := IO.print text
  tell line := IO.eprintln line

end SchemaDdl

open SchemaDdl in
def main (args : List String) : IO UInt32 := do
  let code ← system.run args
  return code.toUInt32
