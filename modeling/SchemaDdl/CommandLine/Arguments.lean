import SchemaDdl.Dialect.Builtin

/-!
# Arguments of the command line

Options are long (`--name value`, `--name=value`) or short (`-n value`, `-nvalue`, `-n=value`),
and short flags may be joined.  What comes after `--` is no option.  The first word names the
command; options that every command takes may also come before it, and then what follows the
command goes before what precedes it.  Each option may come once on either side.

Arguments are read in order.  The first that is wrong ends the reading, and so does the first that
asks for help or for the version: that is shown instead of running a command.  What is missing is
noticed in the end.
-/

namespace SchemaDdl.CommandLine

inductive Format
  | text
  | json
  deriving DecidableEq, Repr, Inhabited

def Format.ofName? (s : String) : Option Format :=
  if s = "text" then some text else if s = "json" then some json else none

inductive Command
  | build (schema : String) (dialect : Option Builtin) (output : Option String)
  | explain (schema : String) (dialect : Option Builtin) (format : Format)
  | types (dialect : Option Builtin)
  deriving DecidableEq, Repr, Inhabited

/-- A command with the path of the configuration, if one was given. -/
structure Invocation where
  config : Option String
  command : Command
  deriving DecidableEq, Repr, Inhabited

/-- Why no command is run. -/
inductive Stop
  /-- The arguments make no command. -/
  | wrongUse
  /-- Help was asked for, about a command or about the program. -/
  | help (command : Option String)
  | version
  deriving DecidableEq, Repr, Inhabited

/-! ## Options -/

/-- What the value of an option must be. -/
inductive ValueKind
  /-- Any text but the empty one. -/
  | path
  | dialect
  | format
  deriving DecidableEq, Repr, Inhabited

def ValueKind.accepts : ValueKind → String → Bool
  | path, value => !value.isEmpty
  | dialect, value => (Builtin.ofName? value).isSome
  | format, value => (Format.ofName? value).isSome

structure OptionForm where
  long : String
  short : Char
  /-- What its value must be; a flag takes none. -/
  value : Option ValueKind := none
  deriving DecidableEq, Repr, Inhabited

def configOption : OptionForm := ⟨"config", 'c', some .path⟩
def verboseOption : OptionForm := ⟨"verbose", 'v', none⟩
def helpOption : OptionForm := ⟨"help", 'h', none⟩
def versionOption : OptionForm := ⟨"version", 'V', none⟩
def dialectOption : OptionForm := ⟨"dialect", 'd', some .dialect⟩
def outputOption : OptionForm := ⟨"output", 'o', some .path⟩
def formatOption : OptionForm := ⟨"format", 'f', some .format⟩

def commonOptions : List OptionForm := [configOption, verboseOption, helpOption]

/-- What some arguments are read against: the options that may come, how many words, and what help
is about. -/
structure Scope where
  options : List OptionForm
  words : Nat
  page : Option String
  deriving DecidableEq, Repr, Inhabited

/-- Options with their values, a flag having none, and words, the last one first. -/
structure Parsed where
  options : List (String × String) := []
  words : List String := []
  deriving DecidableEq, Repr, Inhabited

namespace Parsed

def value? (p : Parsed) (form : OptionForm) : Option String :=
  p.options.lookup form.long

def addOption (scope : Scope) (p : Parsed) (form : OptionForm) (value : String) :
    Except Stop Parsed :=
  if form = helpOption then .error (.help scope.page)
  else if form = versionOption then .error .version
  else if (p.value? form).isSome then .error .wrongUse
  else if form.value.all fun kind => kind.accepts value then
    .ok { p with options := (form.long, value) :: p.options }
  else .error .wrongUse

/-- A word is a path, so it must not be empty. -/
def addWord (scope : Scope) (p : Parsed) (word : String) : Except Stop Parsed :=
  if p.words.length < scope.words ∧ !word.isEmpty then .ok { p with words := word :: p.words }
  else .error .wrongUse

end Parsed

/-! ## Reading -/

/-- Whether an argument can be the value of the option before it. -/
def isValue (arg : List Char) : Bool :=
  match arg with
  | '-' :: _ :: _ => false
  | _ => true

def skipEquals : List Char → List Char
  | '=' :: rest => rest
  | s => s

/-- A long option, its dashes dropped.  One whose value is still to come is given back. -/
def readLong (scope : Scope) (p : Parsed) (arg : List Char) :
    Except Stop (Parsed × Option OptionForm) :=
  let name := String.ofList (arg.takeWhile (· ≠ '='))
  let joined := arg.dropWhile (· ≠ '=')
  match scope.options.find? fun form => form.long = name with
  | none => .error .wrongUse
  | some form =>
    if joined.isEmpty then
      if form.value.isSome then .ok (p, some form)
      else (p.addOption scope form "").map (·, none)
    else if form.value.isSome then
      (p.addOption scope form (String.ofList (skipEquals joined))).map (·, none)
    else .error .wrongUse

/-- Joined short options, their dash dropped.  One whose value is still to come is given back. -/
def readShort (scope : Scope) (p : Parsed) :
    List Char → Except Stop (Parsed × Option OptionForm)
  | [] => .ok (p, none)
  | c :: more =>
    match scope.options.find? fun form => form.short = c with
    | none => .error .wrongUse
    | some form =>
      if form.value.isSome then
        if more.isEmpty then .ok (p, some form)
        else (p.addOption scope form (String.ofList (skipEquals more))).map (·, none)
      else
        match p.addOption scope form "" with
        | .error stop => .error stop
        | .ok p => readShort scope p more

/-- What one argument is: options, a word, or the mark after which all are words. -/
inductive Head
  | options (p : Parsed) (waiting : Option OptionForm)
  | word
  | wordsOnly

def readHead (scope : Scope) (p : Parsed) (arg : String) : Except Stop Head :=
  match arg.toList with
  | '-' :: '-' :: [] => .ok .wordsOnly
  | '-' :: '-' :: name => (readLong scope p name).map fun (p, waiting) => .options p waiting
  | '-' :: c :: more => (readShort scope p (c :: more)).map fun (p, waiting) => .options p waiting
  | _ => .ok .word

/-- The value of an option that waits for one. -/
def readValue (scope : Scope) (p : Parsed) (form : OptionForm) (arg : String) :
    Except Stop Parsed :=
  if isValue arg.toList then p.addOption scope form arg else .error .wrongUse

def readWords (scope : Scope) (p : Parsed) : List String → Except Stop Parsed
  | [] => .ok p
  | word :: rest => (p.addWord scope word).bind fun p => readWords scope p rest

/-- Reads all arguments; an option may wait for the first one as its value. -/
def readAll (scope : Scope) (p : Parsed) (waiting : Option OptionForm) :
    List String → Except Stop Parsed
  | [] => if waiting.isSome then .error .wrongUse else .ok p
  | arg :: rest =>
    match waiting with
    | some form => (readValue scope p form arg).bind fun p => readAll scope p none rest
    | none =>
      match readHead scope p arg with
      | .error stop => .error stop
      | .ok (.options p waiting) => readAll scope p waiting rest
      | .ok .word => (p.addWord scope arg).bind fun p => readAll scope p none rest
      | .ok .wordsOnly => readWords scope p rest

/-- The options before the first word, that word, and what follows it. -/
def readUntilWord (scope : Scope) (p : Parsed) (waiting : Option OptionForm) :
    List String → Except Stop (Parsed × String × List String)
  | [] => .error .wrongUse
  | arg :: rest =>
    match waiting with
    | some form => (readValue scope p form arg).bind fun p => readUntilWord scope p none rest
    | none =>
      match readHead scope p arg with
      | .error stop => .error stop
      | .ok (.options p waiting) => readUntilWord scope p waiting rest
      | .ok .word => .ok (p, arg, rest)
      | .ok .wordsOnly => .error .wrongUse

/-! ## Commands -/

structure CommandForm where
  name : String
  /-- Its own options. -/
  options : List OptionForm
  words : Nat
  read : Parsed → Option Command

def readDialect (p : Parsed) : Option Builtin :=
  (p.value? dialectOption).bind Builtin.ofName?

def readFormat (p : Parsed) : Format :=
  ((p.value? formatOption).bind Format.ofName?).getD .text

def commandForms : List CommandForm :=
  [{ name := "build", options := [dialectOption, outputOption], words := 1
     read := fun p =>
       p.words.head?.map fun schema => .build schema (readDialect p) (p.value? outputOption) },
   { name := "explain", options := [dialectOption, formatOption], words := 1
     read := fun p =>
       p.words.head?.map fun schema => .explain schema (readDialect p) (readFormat p) },
   { name := "types", options := [dialectOption], words := 0
     read := fun p => some (.types (readDialect p)) }]

def programScope : Scope := { options := versionOption :: commonOptions, words := 0, page := none }

def CommandForm.scope (form : CommandForm) : Scope :=
  { options := commonOptions ++ form.options, words := form.words, page := some form.name }

/-- The word that asks for help about the command named after it, or about the program. -/
def helpWord : String := "help"

def readHelp : List String → Stop
  | [] => .help none
  | [name] =>
    if name = helpWord ∨ (commandForms.map CommandForm.name).contains name then .help (some name)
    else .wrongUse
  | _ => .wrongUse

/-- The path of the configuration on one side of the command: given there, else by the
environment. -/
def readConfigPath (p : Parsed) (preset : Option String) : Except Stop (Option String) :=
  match p.value? configOption with
  | some path => .ok (some path)
  | none => if preset = some "" then .error .wrongUse else .ok preset

/-- The path given after the command, else the one given before it, else the environment's. -/
def chooseConfig (before after : Parsed) (preset : Option String) : Except Stop (Option String) :=
  (readConfigPath before preset).bind fun outer =>
    (readConfigPath after preset).map fun inner =>
      if (after.value? configOption).isSome then inner else outer

/-- The command that some arguments ask for, the environment naming a configuration or not. -/
def Invocation.parse (args : List String) (preset : Option String) : Except Stop Invocation :=
  match readUntilWord programScope {} none args with
  | .error stop => .error stop
  | .ok (before, name, rest) =>
    if name = helpWord then .error (readHelp rest)
    else
      match commandForms.find? fun form => form.name = name with
      | none => .error .wrongUse
      | some form =>
        (readAll form.scope {} none rest).bind fun after =>
          (chooseConfig before after preset).bind fun config =>
            match form.read after with
            | some command => .ok { config, command }
            | none => .error .wrongUse

/-! ## Pages -/

def OptionForm.page (form : OptionForm) : String :=
  "  -" ++ String.singleton form.short ++ ", --" ++ form.long
    ++ (if form.value.isSome then " <VALUE>" else "") ++ "\n"

/-- Help about a command, or about the program. -/
def helpPage (command : Option String) : String :=
  match commandForms.find? fun form => command = some form.name with
  | some form =>
    "Usage: ddlkit " ++ form.name ++ " [OPTIONS]" ++ (if form.words = 0 then "" else " <SCHEMA>")
      ++ "\n\nOptions:\n" ++ String.join (form.scope.options.map OptionForm.page)
  | none =>
    "Usage: ddlkit [OPTIONS] <COMMAND>\n\nCommands:\n"
      ++ String.join ((commandForms.map CommandForm.name ++ [helpWord]).map fun name =>
        "  " ++ name ++ "\n")
      ++ "\nOptions:\n" ++ String.join (programScope.options.map OptionForm.page)

def versionPage : String := "ddlkit 0.1.0\n"

/-- How the program ends that runs no command. -/
inductive Exit
  /-- With a text that was asked for. -/
  | shown (text : String)
  /-- With a complaint. -/
  | refused (complaint : String)
  deriving DecidableEq, Repr, Inhabited

def Stop.exit : Stop → Exit
  | wrongUse => .refused (helpPage none)
  | help command => .shown (helpPage command)
  | version => .shown versionPage

end SchemaDdl.CommandLine
