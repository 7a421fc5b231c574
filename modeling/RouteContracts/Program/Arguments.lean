import RouteContracts.Config
import RouteContracts.Program.Environment

/-! # Arguments
The command line of the program: options of the project, then a command with its own flags. An option can
also be given by a variable of the environment; the command line comes first.

* `Arguments.parse`: what a command line asks for. -/

namespace RouteContracts

/-- The options of the project. -/
inductive ProjectOption where
  | root
  | config
  | routesDir
  | artifact
  | runtime
  | window
deriving DecidableEq, Repr

namespace ProjectOption

/-- All options. -/
def all : List ProjectOption := [.root, .config, .routesDir, .artifact, .runtime, .window]

/-- The name on the command line. -/
def name : ProjectOption → String
  | .root => "root"
  | .config => "config"
  | .routesDir => "routes-dir"
  | .artifact => "artifact"
  | .runtime => "runtime-crate"
  | .window => "debounce-ms"

/-- The variable of the environment. -/
def environmentName : ProjectOption → String
  | .root => "ROUTEGEN_ROOT"
  | .config => "ROUTEGEN_CONFIG"
  | .routesDir => "ROUTEGEN_ROUTES_DIR"
  | .artifact => "ROUTEGEN_ARTIFACT"
  | .runtime => "ROUTEGEN_RUNTIME_CRATE"
  | .window => "ROUTEGEN_DEBOUNCE_MS"

/-- The option of a name. -/
def ofName? (name : String) : Option ProjectOption := all.find? fun o => o.name == name

end ProjectOption

/-- A number as arguments write it: digits, after an optional plus sign. -/
def wholeNumber? (s : String) : Option Nat :=
  match Config.withoutPlus s.toList with
  | [] => none
  | digits =>
    if digits.all Char.isDigit then Config.inRange (Config.digitsValue? 10 digits) else none

/-- What is given for the project, on the command line or by variables. -/
structure ProjectArguments where
  root : Path
  config : Option Path
  routesDir : Option Path
  artifact : Option Path
  runtime : Option String
  window : Option Nat
deriving DecidableEq, Repr

namespace ProjectArguments

/-- Nothing is given: the project is where the program runs. -/
def default : ProjectArguments := ⟨⟨"."⟩, none, none, none, none, none⟩

/-- A path as a value; it may not be empty. -/
def path? (value : String) : Option Path := if value.isEmpty then none else some ⟨value⟩

/-- Takes the value of an option. -/
def set? (a : ProjectArguments) (o : ProjectOption) (value : String) : Option ProjectArguments :=
  match o with
  | .root => (path? value).map fun p => { a with root := p }
  | .config => (path? value).map fun p => { a with config := some p }
  | .routesDir => (path? value).map fun p => { a with routesDir := some p }
  | .artifact => (path? value).map fun p => { a with artifact := some p }
  | .runtime => some { a with runtime := some value }
  | .window => (wholeNumber? value).map fun n => { a with window := some n }

end ProjectArguments

/-- The commands. -/
inductive Command where
  /-- Writes the artifact once, or only checks that it is up to date. -/
  | generate (check : Bool)
  /-- Keeps the artifact up to date while changed paths are received. -/
  | watch (skipScan : Bool)
deriving DecidableEq, Repr

/-- What a command line asks for. -/
inductive Invocation where
  /-- An explanation, or the version. -/
  | information
  /-- Nothing that is known. -/
  | unknown
  /-- A command for a project. -/
  | command (project : ProjectArguments) (command : Command)
deriving DecidableEq, Repr

namespace Arguments

/-- How an argument is written. -/
inductive Form where
  /-- Two hyphens. -/
  | separator
  /-- A name after two hyphens, perhaps with a value after an equals sign. -/
  | long (name : String) (value : Option String)
  /-- A letter after a hyphen, and what follows it. -/
  | short (letter : Char)
  /-- Anything else. -/
  | word
deriving DecidableEq, Repr

/-- A name and the value after the first equals sign. -/
def nameAndValue (s : List Char) : String × Option String :=
  (String.ofList (s.takeWhile (· ≠ '=')),
    match s.dropWhile (· ≠ '=') with
    | _ :: value => some (String.ofList value)
    | [] => none)

/-- The form of an argument. -/
def formOf (argument : String) : Form :=
  match argument.toList with
  | ['-', '-'] => .separator
  | '-' :: '-' :: s => let (name, value) := nameAndValue s; .long name value
  | '-' :: letter :: _ => .short letter
  | _ => .word

/-- The flag that a command has. -/
def flagOf : Command → String
  | .generate _ => "check"
  | .watch _ => "no-initial-scan"

/-- The command with its flag. -/
def withFlag : Command → Command
  | .generate _ => .generate true
  | .watch _ => .watch true

/-- The command of a name. -/
def command? (name : String) : Option Command :=
  if name = "generate" then some (.generate false)
  else if name = "watch" then some (.watch false)
  else none

/-- What the arguments of a command ask for: itself, given its flag or not. -/
inductive CommandInvocation where
  | information
  | unknown
  | command (c : Command)
deriving DecidableEq, Repr

/-- The arguments after a command. -/
def parseCommand (c : Command) (flagged : Bool) : List String → CommandInvocation
  | [] => .command c
  | argument :: rest =>
    match formOf argument with
    | .separator => if rest = [] then .command c else .unknown
    | .long name none =>
      if name = "help" then .information
      else if name = flagOf c ∧ flagged = false then parseCommand (withFlag c) true rest
      else .unknown
    | .short letter => if letter = 'h' then .information else .unknown
    | _ => .unknown

/-- What has been read of a command line. -/
structure State where
  /-- The options that are complete, each with the project as they leave it. -/
  given : List ProjectOption
  project : ProjectArguments
  /-- An option that is not complete: it may not have its value yet. -/
  pending : Option (ProjectOption × Option String)

namespace State

/-- Nothing has been read. -/
def empty : State := ⟨[], .default, none⟩

/-- Takes an option with its value; none of them can be given twice. -/
def take? (s : State) (o : ProjectOption) (value : String) : Option State :=
  if s.given.contains o then none
  else (s.project.set? o value).map fun project => { s with given := o :: s.given, project }

/-- Completes the pending option. -/
def settled? (s : State) : Option State :=
  match s.pending with
  | none => some s
  | some (_, none) => none
  | some (o, some value) => { s with pending := none }.take? o value

/-- Takes the variables of the environment for options that are not given. -/
def withVariables? (s : State) (environment : Variables) : Option State :=
  ProjectOption.all.foldlM (fun s o =>
    if s.given.contains o then some s
    else match environment.get? o.environmentName with
      | some value => s.take? o value
      | none => some s) s

/-- Asks for information, if what was read before is in order. -/
def information (s : State) : Invocation := if s.settled?.isSome then .information else .unknown

end State

/-- What follows the word `help`: at most the name of a command. -/
def parseHelp : List String → Invocation
  | [] => .information
  | [name] => if (command? name).isSome ∨ name = "help" then .information else .unknown
  | _ => .unknown

/-- The invocation of a command, after what was read before it. -/
def invocationOf (environment : Variables) (s : State) : CommandInvocation → Invocation
  | .information => .information
  | .unknown => .unknown
  | .command c =>
    match s.settled?.bind fun s => s.withVariables? environment with
    | some s => .command s.project c
    | none => .unknown

/-- The arguments in front of the command, after some of them. -/
def parseFrom (environment : Variables) (s : State) : List String → Invocation
  | [] => .unknown
  | argument :: rest =>
    -- an option without its value takes the next argument, even one that looks like a command
    let awaits := s.pending.any fun p => p.2.isNone
    if !awaits && argument == "help" then parseHelp rest
    else match if awaits then none else command? argument with
      | some c => invocationOf environment s (parseCommand c false rest)
      | none =>
        match formOf argument with
        | .separator => .unknown
        | .long name value =>
          match ProjectOption.ofName? name, value with
          | some o, some value =>
            -- the option before is complete only now
            match s.settled?.bind fun s => s.take? o value with
            | some s => parseFrom environment s rest
            | none => .unknown
          | some o, none =>
            match s.settled? with
            | some s => parseFrom environment { s with pending := some (o, none) } rest
            | none => .unknown
          | none, none => if name = "help" ∨ name = "version" then s.information else .unknown
          | none, some _ => .unknown
        | .short letter => if letter = 'h' ∨ letter = 'V' then s.information else .unknown
        | .word =>
          match s.pending with
          | some (o, none) => parseFrom environment { s with pending := some (o, some argument) } rest
          | _ => .unknown

/-- **The invocation that a command line is** in an environment. -/
def parse (environment : Variables) (arguments : List String) : Invocation :=
  parseFrom environment State.empty arguments

end Arguments

end RouteContracts
