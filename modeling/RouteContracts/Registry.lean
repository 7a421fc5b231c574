import RouteContracts.Contract
import RouteContracts.Path

/-! # The registry
The contracts of all routes, by URL pattern, with a **generation** that moves exactly when the routes
change.

* `Registry.merge`, `Registry.replaceAll`, `Registry.removeSource`: the changes; each tells whether it
  had an effect.
* `Registry.get?`, `Registry.contractsFor`: look-up by pattern and by method. -/

namespace RouteContracts

/-- What the analysis of one endpoint file found. -/
structure Analysis where
  /-- The URL pattern that the file serves. -/
  routeId : String
  /-- The endpoint file. -/
  source : Path
  /-- The contract of each method that the file exports. -/
  methods : Contracts
deriving Inhabited

/-- The routes of one URL pattern. -/
structure Route where
  /-- The URL pattern. -/
  pattern : String
  /-- The endpoint file they come from. -/
  source : Path
  /-- The contract of each method. -/
  methods : Contracts
deriving Inhabited

namespace Route

/-- The route of an analysis under a pattern: its source and its methods. -/
def ofAnalysis (pattern : String) (a : Analysis) : Route := ⟨pattern, a.source, a.methods⟩

/-- Equality of routes: `pattern` as it is, `Path.same` sources, and `Contract.same` methods. -/
def same (a b : Route) : Bool :=
  a.pattern == b.pattern && a.source.same b.source && a.methods.same Contract.same b.methods

end Route

/-- Routes in ascending order of their patterns. -/
abbrev Routes := List Route

namespace Routes

/-- The first route with this pattern. -/
def get? (pattern : String) (routes : Routes) : Option Route :=
  routes.find? fun r => r.pattern == pattern

/-- Puts a route in front of the first one with a greater pattern, or instead of the one with its own. -/
def insert (route : Route) : Routes → Routes
  | [] => [route]
  | r :: rest =>
    if route.pattern < r.pattern then route :: r :: rest
    else if route.pattern = r.pattern then route :: rest
    else r :: insert route rest

/-- `Route.same`, one by one. -/
def same : Routes → Routes → Bool
  | [], [] => true
  | a :: as, b :: bs => a.same b && same as bs
  | _, _ => false

end Routes

/-- The contracts of all routes and the number of changes that led to them. -/
structure Registry where
  /-- The routes, ascending by pattern. -/
  routes : Routes
  /-- How many changes had an effect. -/
  generation : Nat
deriving Inhabited

namespace Registry

/-- A registry without routes. -/
def empty : Registry := ⟨[], 0⟩

/-- The registry with other routes, and one more `generation`. -/
def advance (r : Registry) (routes : Routes) : Registry := ⟨routes, r.generation + 1⟩

/-- **Merges an analysis** under a pattern: `Routes.insert` of its route, unless the one that is there is the `same`. -/
def merge (r : Registry) (pattern : String) (a : Analysis) : Bool × Registry :=
  let route := Route.ofAnalysis pattern a
  match Routes.get? pattern r.routes with
  | some old => if old.same route then (false, r) else (true, r.advance (Routes.insert route r.routes))
  | none => (true, r.advance (Routes.insert route r.routes))

/-- The routes of some analyses, by `Routes.insert` under their `routeId`; of two with one pattern the later one
stays. -/
def routesOf (results : List Analysis) : Routes :=
  results.foldl (fun routes a => Routes.insert (Route.ofAnalysis a.routeId a) routes) []

/-- **Replaces all routes** by `routesOf results`, as after a full scan, unless these are the `same`. -/
def replaceAll (r : Registry) (results : List Analysis) : Bool × Registry :=
  let routes := routesOf results
  if Routes.same routes r.routes then (false, r) else (true, r.advance routes)

/-- **Removes the routes of a source**, by `Path.same`. -/
def removeSource (r : Registry) (source : Path) : Bool × Registry :=
  let kept := r.routes.filter fun route => !route.source.same source
  -- nothing was left out
  if kept.length = r.routes.length then (false, r) else (true, r.advance kept)

/-- `Routes.get?` in the routes. -/
def get? (r : Registry) (pattern : String) : Option Route := Routes.get? pattern r.routes

/-- The routes with a contract for a method, in order: their patterns and these contracts. -/
def contractsFor (r : Registry) (m : Method) : List (String × Contract) :=
  r.routes.filterMap fun route => (route.methods.get? m).map (route.pattern, ·)

end Registry

end RouteContracts
