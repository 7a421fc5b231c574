import RouteContracts.Controller
import RouteContracts.Program.Arguments

/-! # The program
One run of the program, as a function of the files, the environment, the arguments and the input.

* `Program.config`: the settings of the project. Settings on the command line win over a settings file.
* `Program.generate`, `Program.check`, `Program.watch`: the commands.
* `Program.run`: the whole run. `Program.notices`: what a developer should know about it. -/

namespace RouteContracts

/-- Why a command fails. -/
inductive ProgramError where
  /-- The root of the project is not there. -/
  | root (why : FileError)
  /-- The settings cannot be used. -/
  | config (why : ConfigError)
  /-- The artifact cannot be written. -/
  | emit (why : EmitError)
  /-- The artifact is not up to date. -/
  | outdated (artifact : Path)
deriving DecidableEq, Repr

/-- How a run ends. -/
inductive Exit where
  | success
  /-- The command line is not understood. -/
  | misuse
  /-- The command fails. -/
  | failure (why : ProgramError)
deriving DecidableEq, Repr

/-- The number by which a run tells how it ended. -/
def Exit.code : Exit → Nat
  | .success => 0
  | .failure _ => 1
  | .misuse => 2

/-- What is reported for an artifact that is not up to date. -/
def outdatedMessage (artifact : Path) : String :=
  artifact.text ++ " is out of date, run \x60routegen generate\x60"

/-- **The line that reports a failure.** -/
def ProgramError.line : ProgramError → String
  | .root why => "Error: Io(" ++ Text.quoted why.message ++ ")"
  | .config why => "Error: Core(" ++ Text.quoted (why.message?.getD "Config Error") ++ ")"
  | .emit .unwritable => "Error: Core(" ++ Text.quoted "Codegen Error" ++ ")"
  | .emit (.failed why) => "Error: Core(" ++ Text.quoted ("IO Error: " ++ why.message) ++ ")"
  | .outdated artifact => "Error: General(" ++ Text.quoted (outdatedMessage artifact) ++ ")"

namespace Program

/-! ## Settings -/

/-- The settings with those of the command line. -/
def overridden (a : ProjectArguments) (c : Config) : Config :=
  { c with
    routesDir := a.routesDir.getD c.routesDir
    artifact := a.artifact.getD c.artifact
    runtime := a.runtime.getD c.runtime
    window := a.window.getD c.window }

/-- The settings file of a project: the one that is given, else the one in the root. -/
def settingsFile? (files : Files) (a : ProjectArguments) (root : Path) : Option Path :=
  match a.config with
  | some file => some file
  | none =>
    let file := root.join ⟨Config.fileName⟩
    if files.isFile file then some file else none

/-- `Config.load` of the settings file, or `Config.forRoot` without one. -/
def fileConfig (files : Files) (root : Path) : Option Path → Except ConfigError Config
  | some file => Config.load file (files.read file).toOption
  | none => .ok (Config.forRoot root)

/-- **The settings of the project**: `fileConfig`, `overridden` by the command line. -/
def config (files : Files) (a : ProjectArguments) : Except ProgramError Config :=
  match files.canonical a.root with
  | .error e => .error (.root e)
  | .ok root =>
    match fileConfig files root (settingsFile? files a root) with
    | .error e => .error (.config e)
    | .ok c =>
      -- the command line goes before the file
      let c := overridden a c
      match c.check with
      | .error e => .error (.config e)
      | .ok () => .ok c

/-! ## Commands -/

/-- The controller of a project, with nothing scanned yet. -/
def controller (files : Files) (c : Config) : Controller :=
  Controller.new (Project.ofConfig files.workingDirectory.path c) c.window

/-- The exit of a command that may fail to emit. -/
def exitOf : Except EmitError Unit → Exit
  | .ok () => .success
  | .error e => .failure (.emit e)

/-- The sink of the artifact. -/
def artifactSink (s : EmitSurroundings) (c : Config) : Sink Files EmitError :=
  Sink.file s c.artifactPath c.runtime

/-- **Writes the artifact once**: `Controller.start` with the artifact as its sink. -/
def generate (s : EmitSurroundings) (files : Files) (c : Config) : Exit × Files :=
  let (result, _, files) := (controller files c).start (artifactSink s c) files
  (exitOf result, files)

/-- **Checks that the artifact is up to date**: `Controller.start` with `Sink.check`. -/
def check (files : Files) (c : Config) : Exit :=
  match (controller files c).start (Sink.check c.artifactPath c.runtime) (files, false) with
  | (.error e, _, _) => .failure (.emit e)
  | (.ok (), _, (_, true)) => .success
  | (.ok (), _, (_, false)) => .failure (.outdated c.artifactPath)

/-- The lines of a text. -/
def inputLines (input : String) : List String := input.splitOn "\n"

/-- The changed paths that lines of the input name. Blank ones name none. -/
def changedPaths (input : String) : List Path :=
  ((inputLines input).map Text.trim).filterMap fun s => if s.isEmpty then none else some ⟨s⟩

/-- The controller after `start`, or without the full scan. -/
def started (s : EmitSurroundings) (files : Files) (c : Config) (skipScan : Bool) :
    Except EmitError Unit × Controller × Files :=
  if skipScan then (.ok (), controller files c, files)
  else (controller files c).start (artifactSink s c) files

/-- **Keeps the artifact up to date** with the changed paths of the input: `started`, and `Controller.run` of one event
for each of them. -/
def watch (s : EmitSurroundings) (files : Files) (c : Config) (skipScan : Bool) (input : String) :
    Exit × Files :=
  match started s files c skipScan with
  | (.error e, _, files) => (.failure (.emit e), files)
  | (.ok (), k, files) =>
    let events := (changedPaths input).map fun path => Controller.Event.changed path 0
    let (result, _, files) := k.run (artifactSink s c) events files
    (exitOf result, files)

/-- Carries out a command. -/
def execute (s : EmitSurroundings) (files : Files) (c : Config) (input : String) : Command → Exit × Files
  | .generate true => (check files c, files)
  | .generate false => generate s files c
  | .watch skipScan => watch s files c skipScan input

/-- The environment with the variables of an environment file. -/
def environmentOf (files : Files) (environment : Variables) : Variables :=
  match EnvironmentFile.find? files files.workingDirectory with
  | some text => environment.extended text
  | none => environment

/-- **The whole run**: how it ends, and the files after it. `execute` of the command that the arguments give, with
`config`. -/
def run (s : EmitSurroundings) (files : Files) (environment : Variables) (arguments : List String)
    (input : String) : Exit × Files :=
  match Arguments.parse (environmentOf files environment) arguments with
  | .information => (.success, files)
  | .unknown => (.misuse, files)
  | .command a command =>
    match config files a with
    | .error e => (.failure e, files)
    | .ok c => execute s files c input command

/-! ## Notices -/

/-- The notices of a full scan. -/
def scanNotices (files : Files) (p : Project) : List Notice := (p.discover files).flatMap (p.noticesOf files)

/-- The notices of a changed path. -/
def changeNotices (files : Files) (p : Project) (path : Path) : List Notice :=
  if p.isEndpoint files path && files.holds (p.absolute path) then p.noticesOf files (p.absolute path)
  else []

/-- The notices of a command. -/
def commandNotices (files : Files) (c : Config) (input : String) : Command → List Notice
  | .generate _ => scanNotices files (controller files c).project
  | .watch skipScan =>
    let p := (controller files c).project
    (if skipScan then [] else scanNotices files p) ++ (changedPaths input).flatMap (changeNotices files p)

/-- **The notices of a run.** -/
def notices (files : Files) (environment : Variables) (arguments : List String) (input : String) :
    List Notice :=
  match Arguments.parse (environmentOf files environment) arguments with
  | .command a command =>
    match config files a with
    | .ok c => commandNotices files c input command
    | .error _ => []
  | _ => []

end Program

end RouteContracts
