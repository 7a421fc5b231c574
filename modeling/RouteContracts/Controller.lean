import RouteContracts.Analysis.Project
import RouteContracts.Artifact.Emission
import RouteContracts.Debouncer

/-! # Incremental updates
A controller owns the registry of a project. A full scan rebuilds it and emits it once; afterwards each
changed file is analyzed on its own, and a burst of changes is emitted once, when it is over. Instants are
supplied by the caller, in milliseconds.

* `Sink`: where registries go. `Sink.file`, `Sink.check`: to the artifact, or to a comparison with it.
* `Controller.start`: the full scan. `Controller.adopt`: its results, in whatever order they come.
* `Controller.handleChange`, `Controller.tick`: one change, one look at the clock.
* `Controller.run`: a stream of both, up to its end. -/

namespace RouteContracts

/-- Where registries go, in a world that can change. -/
structure Sink (ω ε : Type) where
  /-- The files of the world. -/
  files : ω → Files
  /-- Takes a registry, or fails. -/
  emit : Registry → ω → Except ε Unit × ω

namespace Sink

/-- The artifact as a sink: `Registry.emit` to the files. -/
def file (s : EmitSurroundings) (artifact : Path) (runtime : String) : Sink Files EmitError where
  files := id
  emit r f := r.emit s f artifact runtime

/-- A sink that writes nothing, and notes whether the artifact `holdsText` of the registry. -/
def check (artifact : Path) (runtime : String) : Sink (Files × Bool) EmitError where
  files := Prod.fst
  emit r w :=
    match r.artifactText? runtime with
    | none => (.error .unwritable, w)
    | some text => (.ok (), (w.1, w.1.holdsText artifact text))

end Sink

/-- The registry of a project, and what is pending. -/
structure Controller where
  /-- Where the endpoint files are. -/
  project : Project
  /-- The contracts of all routes. -/
  registry : Registry
  /-- When changes are to be emitted. -/
  debouncer : Debouncer

namespace Controller

variable {ω ε : Type}

/-- A controller with `Registry.empty`, and nothing pending. -/
def new (project : Project) (window : Nat) : Controller := ⟨project, Registry.empty, Debouncer.new window⟩

/-! ## The full scan -/

/-- The analyses among outcomes, sorted by `Path.before` of their sources. -/
def analysesOf (outcomes : List Project.Outcome) : List Analysis :=
  (outcomes.filterMap Project.Outcome.analysis).mergeSort fun a b => a.source.before b.source

/-- **Takes over the outcomes of a scan**, which come in any order: `replaceAll` of their `analysesOf`, and an emission
in any case. -/
def adopt (sink : Sink ω ε) (outcomes : List Project.Outcome) (w : ω) (c : Controller) :
    Except ε Unit × Controller × ω :=
  -- the first emission does not wait for a change
  let c := { c with registry := (c.registry.replaceAll (analysesOf outcomes)).2 }
  let (result, w) := sink.emit c.registry w
  (result, c, w)

/-- **The full scan**: `adopt` of the outcomes of the project. Files that cannot be analyzed are left out. -/
def start (sink : Sink ω ε) (w : ω) (c : Controller) : Except ε Unit × Controller × ω :=
  c.adopt sink (c.project.outcomes (sink.files w)) w

/-! ## Changes -/

/-- What is found at the path of a change. -/
inductive Finding where
  /-- The file is gone. -/
  | gone
  /-- The file cannot be analyzed. -/
  | unfit
  /-- The analysis of the file. -/
  | analyzed (a : Analysis)

/-- What is found at a path, where `files.holds` anything: `.analyzed` or `.unfit`, by the outcome of the file; and
`.gone` else. -/
def finding (files : Files) (p : Project) (path : Path) : Finding :=
  if files.holds path then
    match (p.outcome files path).analysis with
    | some a => .analyzed a
    | none => .unfit
  else .gone

/-- Applies a finding, and tells whether the routes changed: `removeSource` for `.gone`, nothing for `.unfit`, and
`merge` for `.analyzed`. -/
def applyFinding (routeId : String) (path : Path) (r : Registry) : Finding → Bool × Registry
  | .gone => r.removeSource path
  | .unfit => (false, r)
  | .analyzed a => r.merge routeId a

/-- **One change** at an instant: `applyFinding` for a path with a `routeId?`, and `notify` if the routes changed. Tells
whether they did. -/
def handleChange (files : Files) (path : Path) (now : Int) (c : Controller) : Bool × Controller :=
  match c.project.routeId? files path with
  | none => (false, c)
  | some routeId =>
    let path := c.project.absolute path
    let (changed, registry) := applyFinding routeId path c.registry (finding files c.project path)
    -- only a change of the routes is worth an emission
    if changed then (true, { c with registry, debouncer := c.debouncer.notify now })
    else (false, { c with registry })

/-- **One look at the clock**: emits when `poll` says that the quiet period is over, and tells whether it did. -/
def tick (sink : Sink ω ε) (now : Int) (w : ω) (c : Controller) : Except ε Bool × Controller × ω :=
  let (due, debouncer) := c.debouncer.poll now
  let c := { c with debouncer }
  -- what was due is pending no more, whether or not the emission succeeds
  if due then
    let (result, w) := sink.emit c.registry w
    (result.map fun _ => true, c, w)
  else (.ok false, c, w)

/-! ## Streams of changes -/

/-- What can happen while a controller runs in a world. -/
inductive Event (ω : Type) where
  /-- A changed path is received. -/
  | changed (path : Path) (now : Int)
  /-- A pending flush may be due. -/
  | woken (now : Int)
  /-- The world changes by itself. -/
  | passed (change : ω → ω)

/-- Takes one event: `handleChange`, `tick`, or the change of the world. -/
def step (sink : Sink ω ε) (event : Event ω) (w : ω) (c : Controller) :
    Except ε Unit × Controller × ω :=
  match event with
  | .changed path now => (.ok (), (c.handleChange (sink.files w) path now).2, w)
  | .woken now =>
    let (result, c, w) := c.tick sink now w
    (result.map fun _ => (), c, w)
  | .passed change => (.ok (), c, change w)

/-- Takes events with `step`, up to the first failure. -/
def steps (sink : Sink ω ε) : List (Event ω) → ω → Controller → Except ε Unit × Controller × ω
  | [], w, c => (.ok (), c, w)
  | event :: rest, w, c =>
    match c.step sink event w with
    | (.ok (), c, w) => steps sink rest w c
    | (.error e, c, w) => (.error e, c, w)

/-- Emits what `takePending` gives. -/
def finish (sink : Sink ω ε) (w : ω) (c : Controller) : Except ε Unit × Controller × ω :=
  let (pending, debouncer) := c.debouncer.takePending
  let c := { c with debouncer }
  if pending then
    let (result, w) := sink.emit c.registry w
    (result, c, w)
  else (.ok (), c, w)

/-- **A stream of events**: `steps`, and `finish` at its end, where all that is pending is emitted. -/
def run (sink : Sink ω ε) (events : List (Event ω)) (w : ω) (c : Controller) :
    Except ε Unit × Controller × ω :=
  match c.steps sink events w with
  | (.ok (), c, w) => c.finish sink w
  | (.error e, c, w) => (.error e, c, w)

end Controller

end RouteContracts
