import RouteContracts.Analysis.Contracts
import RouteContracts.Companion.File
import RouteContracts.Project

/-! # Analysis of a project
Endpoint files and their companion files, read from the files of a project and analyzed.

* `Project.analyze`: one endpoint file.
* `Project.outcomes`: what becomes of all of them. -/

namespace RouteContracts

/-- Why a file cannot be analyzed. -/
inductive AnalysisError where
  /-- It is no endpoint file. -/
  | notEndpoint (file : Path)
  /-- It or its companion file cannot be read. -/
  | unreadable (why : FileError)
  /-- It is no source file. -/
  | unparsable (file : Path)
deriving DecidableEq, Repr

/-- What is reported when a file cannot be analyzed; none where it is what the parser says. -/
def AnalysisError.message? : AnalysisError → Option String
  | .notEndpoint file => some ("General Error: " ++ Text.quoted file.text ++ " is not an endpoint file")
  | .unreadable why => some ("IO Error: " ++ why.message)
  | .unparsable _ => none

namespace Project

/-- **What a companion file tells**: `RouteTypes.ofText`; nothing when there is no such file. -/
def companionTypes (files : Files) (companion : Option Path) :
    Except FileError (Option RouteTypes × List Notice) :=
  match companion with
  | none => .ok (none, [])
  | some file =>
    match files.read file with
    | .ok code => let (types, notices) := RouteTypes.ofText file code; .ok (some types, notices)
    | .error .notFound => .ok (none, [])
    | .error e => .error e

/-- The notice for a companion file that declares another route. -/
def disagreement (file : Path) (routeId : String) (types : Option RouteTypes) : List Notice :=
  match types.bind RouteTypes.routeId with
  | some declared => if declared = routeId then [] else [.routeDisagrees file.text declared routeId]
  | none => []

/-- **The analysis of an endpoint file**, with notices: `Analysis.ofSource?` under its `routeId?`, with the route
parameters of its companion file. -/
def analyze (files : Files) (p : Project) (file : Path) :
    Except AnalysisError (Analysis × List Notice) :=
  match p.routeId? files file with
  | none => .error (.notEndpoint file)
  | some routeId =>
    match files.read file with
    | .error e => .error (.unreadable e)
    | .ok code =>
      match companionTypes files (p.companion? files file) with
      | .error e => .error (.unreadable e)
      | .ok (types, notices) =>
        match Analysis.ofSource? routeId file (types.bind RouteTypes.descriptor?) code with
        | none => .error (.unparsable file)
        | some (a, more) => .ok (a, notices ++ disagreement file routeId types ++ more)

/-- What became of an endpoint file: its analysis, if there is one. -/
structure Outcome where
  /-- The endpoint file. -/
  file : Path
  /-- Its analysis. -/
  analysis : Option Analysis

/-- `p.analyze` of an endpoint file, without its notices. -/
def outcome (files : Files) (p : Project) (file : Path) : Outcome :=
  match p.analyze files file with
  | .ok (a, _) => ⟨file, some a⟩
  | .error _ => ⟨file, none⟩

/-- **What becomes of all endpoint files**: the `outcome` of each that `discover` finds. -/
def outcomes (files : Files) (p : Project) : List Outcome := (p.discover files).map (p.outcome files)

/-- The notices about an endpoint file. -/
def noticesOf (files : Files) (p : Project) (file : Path) : List Notice :=
  match p.analyze files file with
  | .ok (_, notices) => notices
  | .error _ => [.analysisFailed file.text]

end Project

end RouteContracts
