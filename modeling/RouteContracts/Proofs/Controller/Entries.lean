import RouteContracts.Proofs.Analysis.Shapes
import RouteContracts.Proofs.Controller.Rescan
import RouteContracts.Proofs.Files.Links

/-! # Where routes come from
Every route of a controller is the analysis of its source at a moment when the controller looked at the files. What holds
of analyses therefore holds of all routes: they are under the patterns of their sources, and their contracts have the
shapes that requests need. Where links lead can change, though, and the pattern of a source with it; nothing else gives
a source that can be read a second pattern.

* `Controller.Seen`: the states of a controller, with the files that it has looked at.
* `Controller.Holds`: the invariant. Full scans, handled changes and looks at the clock keep it.
* `Controller.entries_of_seen`: **what holds of every route**, and when two of them can have one source. -/

namespace RouteContracts

namespace Controller

/-- **The states of a controller**, with the files that it has looked at, the latest first. In any order there are
`adopt`s, whose outcomes come in any order and which are emitted to any sink, `handleChange`s, and `tick`s. In between
files come, change and go at will. -/
inductive Seen (p : Project) (window : Nat) : List Files → Controller → Prop where
  /-- A controller that knows nothing yet. -/
  | new : Seen p window [] (.new p window)
  /-- A full scan. -/
  | scanned {seen : List Files} {c : Controller} (before : Seen p window seen c) {ω ε : Type} (sink : Sink ω ε) (w : ω)
      {outcomes : List Project.Outcome} (scanned : outcomes.Perm (c.project.outcomes (sink.files w))) :
      Seen p window (sink.files w :: seen) (c.adopt sink outcomes w).2.1
  /-- One change. -/
  | handled {seen : List Files} {c : Controller} (before : Seen p window seen c) (files : Files) (path : Path)
      (now : Int) : Seen p window (files :: seen) (c.handleChange files path now).2
  /-- One look at the clock. -/
  | ticked {seen : List Files} {c : Controller} (before : Seen p window seen c) {ω ε : Type} (sink : Sink ω ε) (w : ω)
      (now : Int) : Seen p window seen (c.tick sink now w).2.1

end Controller

/-! ## Routes of analyses -/

/-- **A route that comes from files**: it is `Route.ofAnalysis` of the analysis of its source, an absolute path, in one
of `seen`. -/
structure Route.ComesFrom (p : Project) (seen : List Files) (route : Route) : Prop where
  absolute : p.absolute route.source = route.source
  analyzed : ∃ files ∈ seen, ∃ a, (p.outcome files route.source).analysis = some a ∧
    route = Route.ofAnalysis a.routeId a

namespace Route.ComesFrom

variable {p : Project} {seen : List Files} {route : Route}

theorem cons (h : route.ComesFrom p seen) (files : Files) : route.ComesFrom p (files :: seen) := by
  obtain ⟨before, hbefore, ha⟩ := h.analyzed
  exact ⟨h.absolute, before, List.mem_cons_of_mem _ hbefore, ha⟩

/-- `Route.ofAnalysis a.routeId a` `ComesFrom` the files in which `a` is the analysis of an absolute path. -/
theorem of_analysis {files : Files} {path : Path} {a : Analysis} (hpath : p.absolute path = path)
    (ha : (p.outcome files path).analysis = some a) : (Route.ofAnalysis a.routeId a).ComesFrom p (files :: seen) := by
  have hsource : a.source = path := Project.source_of_outcome ha
  refine ⟨?_, files, List.mem_cons_self, a, ?_, rfl⟩
  · show p.absolute a.source = a.source
    rw [hsource, hpath]
  · show (p.outcome files a.source).analysis = some a
    rw [hsource, ha]

/-- A route that `ComesFrom` files is under the `routeId?` that its source had in one of them, where it could be
read. -/
theorem exists_routeId? (h : route.ComesFrom p seen) :
    ∃ files ∈ seen, p.routeId? files route.source = some route.pattern ∧ ∃ code, files.read route.source = .ok code := by
  obtain ⟨files, hfiles, a, ha, rfl⟩ := h.analyzed
  have hsource : (Route.ofAnalysis a.routeId a).source = a.source := rfl
  rw [hsource] at ha ⊢
  obtain ⟨code, -, -, hid, hread, -⟩ := Project.exists_of_outcome ha
  exact ⟨files, hfiles, hid, code, hread⟩

/-- The contracts of a route that `ComesFrom` files are `Shaped`. -/
theorem exists_shaped (h : route.ComesFrom p seen) : ∃ params, route.methods.Shaped params := by
  obtain ⟨files, -, a, ha, hroute⟩ := h.analyzed
  obtain ⟨code, notices, types, -, -, hsource⟩ := Project.exists_of_outcome ha
  refine ⟨types.bind RouteTypes.descriptor?, ?_⟩
  rw [hroute]
  refine Analysis.shaped_ofSource? (fun d hd => ?_) hsource
  obtain ⟨types, -, hd⟩ := Option.bind_eq_some_iff.mp hd
  exact types.isObject_descriptor? d hd

end Route.ComesFrom

namespace Controller

/-! ## The invariant -/

/-- **What holds of a controller** that has looked at `seen`: its routes are in order, and each `ComesFrom` them. -/
structure Holds (p : Project) (seen : List Files) (c : Controller) : Prop where
  project : c.project = p
  ascending : c.registry.routes.Ascending
  routes : ∀ route ∈ c.registry.routes, route.ComesFrom p seen

variable {p : Project} {seen : List Files} {c : Controller}

/-- **`adopt` keeps `Holds`.** -/
theorem Holds.adopt (h : c.Holds p seen) (hp : p.Anchored) {ω ε : Type} (sink : Sink ω ε) (w : ω)
    {outcomes : List Project.Outcome} (houtcomes : outcomes.Perm (p.outcomes (sink.files w))) :
    (c.adopt sink outcomes w).2.1.Holds p (sink.files w :: seen) := by
  have hscan : ∀ route ∈ Registry.routesOf (analysesOf outcomes), route.ComesFrom p (sink.files w :: seen) := by
    intro route hroute
    obtain ⟨path, hpath, a, ha, rfl⟩ := Project.exists_of_mem_scan houtcomes hroute
    obtain ⟨names, -, rfl⟩ := Project.exists_of_mem_discover hpath
    exact .of_analysis (hp names) ha
  refine ⟨h.project, ?_, ?_⟩
  all_goals
    unfold Controller.adopt Registry.replaceAll
    dsimp only
    split
  · exact h.ascending
  · exact Registry.ascending_routesOf _
  · exact fun route hroute => (h.routes route hroute).cons _
  · exact hscan

/-- `handleChange` keeps the project, and the registry becomes that of `applyFinding`, unless the path has no
`routeId?`. -/
theorem registry_handleChange (files : Files) (path : Path) (now : Int) (c : Controller) :
    (c.handleChange files path now).2.project = c.project ∧ (c.handleChange files path now).2.registry =
      match c.project.routeId? files path with
      | none => c.registry
      | some id => (applyFinding id (c.project.absolute path) c.registry
          (finding files c.project (c.project.absolute path))).2 := by
  unfold Controller.handleChange
  cases c.project.routeId? files path with
  | none => exact ⟨rfl, rfl⟩
  | some id =>
    dsimp only
    split <;> exact ⟨rfl, rfl⟩

/-- `applyFinding` keeps the routes `Ascending`, and adds at most `Route.ofAnalysis id a` for a finding `.analyzed
a`. -/
theorem routes_applyFinding (id : String) (path : Path) {r : Registry} (hr : r.routes.Ascending) (f : Finding) :
    (applyFinding id path r f).2.routes.Ascending ∧ ∀ route ∈ (applyFinding id path r f).2.routes,
      route ∈ r.routes ∨ ∃ a, f = .analyzed a ∧ route = Route.ofAnalysis id a := by
  cases f with
  | unfit => exact ⟨hr, fun _ hroute => .inl hroute⟩
  | gone =>
    rw [applyFinding, Registry.routes_removeSource]
    exact ⟨hr.filter _, fun _ hroute => .inl (List.mem_of_mem_filter hroute)⟩
  | analyzed a =>
    have hinsert : ∀ route ∈ Routes.insert (Route.ofAnalysis id a) r.routes,
        route ∈ r.routes ∨ ∃ b, Finding.analyzed a = .analyzed b ∧ route = Route.ofAnalysis id b := by
      intro route hroute
      rcases Routes.mem_insert hroute with rfl | hroute
      · exact .inr ⟨a, rfl, rfl⟩
      · exact .inl hroute
    unfold applyFinding Registry.merge
    dsimp only
    split
    · split
      · exact ⟨hr, fun _ hroute => .inl hroute⟩
      · exact ⟨hr.insert _, hinsert⟩
    · exact ⟨hr.insert _, hinsert⟩

/-- `finding files p path = .analyzed a` only where `a` is the analysis of `path`. -/
theorem outcome_of_finding {files : Files} {path : Path} {a : Analysis} (h : finding files p path = .analyzed a) :
    (p.outcome files path).analysis = some a := by
  unfold finding at h
  split at h
  · split at h
    · next ha => rw [ha, Finding.analyzed.inj h]
    · cases h
  · cases h

/-- **`handleChange` keeps `Holds`.** -/
theorem Holds.handleChange (h : c.Holds p seen) (hp : p.Rooted) (files : Files) (path : Path) (now : Int) :
    (c.handleChange files path now).2.Holds p (files :: seen) := by
  obtain ⟨hproject, hregistry⟩ := registry_handleChange files path now c
  rw [h.project] at hproject hregistry
  cases hid : p.routeId? files path with
  | none =>
    rw [hid] at hregistry
    dsimp only at hregistry
    refine ⟨hproject, hregistry ▸ h.ascending, fun route hroute => ?_⟩
    exact (h.routes route (hregistry ▸ hroute)).cons files
  | some id =>
    rw [hid] at hregistry
    dsimp only at hregistry
    obtain ⟨hascending, hroutes⟩ := routes_applyFinding id (p.absolute path) h.ascending
      (finding files p (p.absolute path))
    refine ⟨hproject, hregistry ▸ hascending, fun route hroute => ?_⟩
    rcases hroutes route (hregistry ▸ hroute) with hroute | ⟨a, hfinding, rfl⟩
    · exact (h.routes route hroute).cons files
    · -- the path and its absolute form have one pattern, so the route is under that of its analysis
      have ha := outcome_of_finding hfinding
      have hpattern : some a.routeId = some id := by
        rw [← Project.Orderly.routeId?_of_analysis ha, Project.routeId?_absolute hp hid]
      obtain rfl := Option.some.inj hpattern
      exact .of_analysis (Project.absolute_absolute hp path) ha

/-- **`tick` keeps `Holds`.** -/
theorem Holds.tick (h : c.Holds p seen) {ω ε : Type} (sink : Sink ω ε) (w : ω) (now : Int) :
    (c.tick sink now w).2.1.Holds p seen := by
  unfold Controller.tick
  dsimp only
  split <;> exact ⟨h.project, h.ascending, h.routes⟩

/-- **Every state that is `Seen` `Holds`**, by induction on its steps. -/
theorem Seen.holds {window : Nat} (hanchored : p.Anchored) (hrooted : p.Rooted) (h : c.Seen p window seen) :
    c.Holds p seen := by
  induction h with
  | new => exact ⟨rfl, List.Pairwise.nil, fun _ hroute => nomatch hroute⟩
  | scanned before sink w scanned ih => exact ih.adopt hanchored sink w (ih.project ▸ scanned)
  | handled before files path now ih => exact ih.handleChange hrooted files path now
  | ticked before sink w now ih => exact ih.tick sink w now

/-! ## Every route -/

/-- **What holds of every route of a controller.** It is under `route.pattern`, which is the `routeId?` that its source
had when the controller looked at the files; where the source is below the routes directory by its names (`IsShown`), it
has that `routeId?` in all files. Its contracts are `Shaped`, with the same parameters of the route.

Two routes `a ≠ b` can have one source only if the controller looked at files `before` and `after` in which the
`routeId?` of that source was `a.pattern` and `b.pattern`, and these differ. Then the source is not `IsShown`, and
`¬before.SameLinks after`: some link is in one of them only, or relative paths start elsewhere. -/
theorem entries_of_seen {here : Path} (hhere : here.isAbsolute = true) {config : Config} {window : Nat}
    (h : c.Seen (Project.ofConfig here config) window seen) :
    (∀ pattern route, c.registry.get? pattern = some route → route.pattern = pattern ∧
      (∃ files ∈ seen, (Project.ofConfig here config).routeId? files route.source = some pattern) ∧
      ((Project.ofConfig here config).IsShown route.source →
        ∀ files, (Project.ofConfig here config).routeId? files route.source = some pattern) ∧
      ∃ params, route.methods.Shaped params) ∧
    ∀ a ∈ c.registry.routes, ∀ b ∈ c.registry.routes, a.source.same b.source = true → a ≠ b →
      ¬(Project.ofConfig here config).IsShown a.source ∧ ∃ before ∈ seen, ∃ after ∈ seen,
        (Project.ofConfig here config).routeId? before a.source = some a.pattern ∧
        (Project.ofConfig here config).routeId? after a.source = some b.pattern ∧ a.pattern ≠ b.pattern ∧
        ¬before.SameLinks after := by
  have hholds := h.holds (Project.anchored_ofConfig hhere config) (Project.rooted_ofConfig hhere config)
  constructor
  · intro pattern route hroute
    obtain rfl := Routes.pattern_of_get? hroute
    have hfrom := hholds.routes route (Routes.mem_of_get? hroute)
    obtain ⟨files, hfiles, hpattern, -⟩ := hfrom.exists_routeId?
    refine ⟨rfl, ⟨files, hfiles, hpattern⟩, fun hshown other => ?_, hfrom.exists_shaped⟩
    rw [hshown.routeId?_eq other files, hpattern]
  · intro a ha b hb hsame hne
    have hfroma := hholds.routes a ha
    have hfromb := hholds.routes b hb
    obtain ⟨before, hbefore, hpattern, code, hread⟩ := hfroma.exists_routeId?
    obtain ⟨after, hafter, hother, code', hread'⟩ := hfromb.exists_routeId?
    -- two routes under one pattern would be one
    have hpatterns : a.pattern ≠ b.pattern := by
      intro heq
      have hget := hholds.ascending.get?_of_mem ha
      rw [heq, hholds.ascending.get?_of_mem hb] at hget
      exact hne (Option.some.inj hget).symm
    have hlinks : ¬before.SameLinks after := fun hlinks =>
      hpatterns (hlinks.routeId?_eq hfroma.absolute hfromb.absolute hsame hread hread' hpattern hother)
    rw [← Project.routeId?_congr hfroma.absolute hfromb.absolute hsame after] at hother
    refine ⟨fun hshown => hpatterns ?_, before, hbefore, after, hafter, hpattern, hother, hpatterns, hlinks⟩
    rw [hshown.routeId?_eq before after, hother] at hpattern
    exact (Option.some.inj hpattern).symm

end Controller

/-! ## A link that becomes a directory

The routes directory is a link, so a path behind it does not show by its names that it is below. A directory on the way
to an endpoint file is a link to another one at first, then a directory itself. -/

namespace Relinked

open Controller (Seen registry_handleChange)
open Session.Displacement (config project code IsWalked isWalked_routes locate_of_isWalked exists_outcome)

/-- The endpoint file that is handled twice, by a path through a link. -/
def path : Path := ⟨"/all/s/server.rs"⟩

/-- The directories and files that stay. -/
def kept : List (Location × Entry) :=
  [(["routes"], .link ⟨"/all"⟩), (["all"], .directory), (["all", "a"], .directory),
    (["all", "a", "server.rs"], .text code)]

/-- The files with a link on the way to `path`. -/
def before : Files := ⟨kept ++ [(["all", "s"], .link ⟨"/all/a"⟩)], []⟩

/-- The files with a directory in place of that link. -/
def after : Files := ⟨kept ++ [(["all", "s"], .directory), (["all", "s", "server.rs"], .text code)], []⟩

/-- The controller after `handleChange` of `path` on `before` and on `after`. -/
def twice : Controller := (((Controller.new project 300).handleChange before path 0).2.handleChange after path 1).2

theorem seen_twice : twice.Seen project 300 [after, before] := (Seen.new.handled before path 0).handled after path 1

/-! ### What is where -/

theorem sizes : "routes".utf8ByteSize = 6 ∧ "all".utf8ByteSize = 3 ∧ "a".utf8ByteSize = 1 ∧ "s".utf8ByteSize = 1 ∧
    "server.rs".utf8ByteSize = 9 ∧ ".routegen".utf8ByteSize = 9 := ⟨rfl, rfl, rfl, rfl, rfl, rfl⟩

/-- The `names` in the targets of the links. -/
theorem names_targets : (Path.mk "/all").names = ["", "all"] ∧ (Path.mk "/all/a").names = ["", "all", "a"] ∧
    (Path.mk "/all").isAbsolute = true ∧ (Path.mk "/all/a").isAbsolute = true := ⟨rfl, rfl, rfl, rfl⟩

theorem isWalked_path : IsWalked path ["all", "s", "server.rs"] := ⟨rfl, rfl, rfl⟩

theorem locate_routes {f : Files} (h : f = before ∨ f = after) :
    f.locate true project.routesDir = .ok (.found ["all"] .directory) := by
  rw [locate_of_isWalked f isWalked_routes]
  rcases h with rfl | rfl <;>
    simp [Files.walk, Files.entry?, before, after, kept, Files.maxNameBytes, Files.maxLinks, sizes, names_targets]

theorem locate_before : before.locate true path = .ok (.found ["all", "a", "server.rs"] (.text code)) := by
  rw [locate_of_isWalked before isWalked_path]
  simp [Files.walk, Files.entry?, before, kept, Files.maxNameBytes, Files.maxLinks, sizes, names_targets]

theorem locate_after : after.locate true path = .ok (.found ["all", "s", "server.rs"] (.text code)) := by
  rw [locate_of_isWalked after isWalked_path]
  simp [Files.walk, Files.entry?, after, kept, Files.maxNameBytes, Files.maxLinks, sizes]

/-! ### Two patterns of one path -/

/-- `routeId?` of `path`, by where it leads. -/
theorem routeId?_of_locate {f : Files} {l : Location} {e : Entry} {id : String}
    (hroutes : f.locate true project.routesDir = .ok (.found ["all"] .directory))
    (hpath : f.locate true path = .ok (.found l e))
    (hid : ((l.path.within? (Location.path ["all"])).bind Path.parent?).map Project.patternOf = some id) :
    project.routeId? f path = some id := by
  have hname : path.fileName? = some project.endpointFile := by decide +kernel
  have hshown : (project.absolute path).withoutDots = path ∧ project.routesDir.withoutDots = project.routesDir ∧
      path.within? project.routesDir = none := by decide +kernel
  have hwithin : project.withinRoutes? f path = l.path.within? (Location.path ["all"]) := by
    unfold Project.withinRoutes? Project.canonicalOrNew? Files.canonical
    dsimp only
    rw [hshown.1, hshown.2.1, hshown.2.2, hroutes, hpath]
    rfl
  rw [Project.routeId?, if_pos hname, hwithin, hid]

theorem routeId?_before : project.routeId? before path = some "/a" :=
  routeId?_of_locate (locate_routes (.inl rfl)) locate_before (by decide +kernel)

theorem routeId?_after : project.routeId? after path = some "/s" :=
  routeId?_of_locate (locate_routes (.inr rfl)) locate_after (by decide +kernel)

/-- `path` has an analysis whenever it leads to the endpoint file, as there is no companion file. -/
theorem exists_outcome_of_locate {f : Files} {l : Location} {id : String}
    (hpath : f.locate true path = .ok (.found l (.text code))) (hid : project.routeId? f path = some id)
    (hcompanion : project.companion? f path = some ⟨"/.routegen/types/all/s/types.rs"⟩)
    (hnone : f.entry? [".routegen"] = none) (hsource : (Analysis.ofSource? id path none code).isSome = true) :
    ∃ a, (project.outcome f path).analysis = some a ∧ a.routeId = id := by
  have hread : f.read path = .ok code := by rw [Files.read, hpath]
  have hwalked : IsWalked ⟨"/.routegen/types/all/s/types.rs"⟩ [".routegen", "types", "all", "s", "types.rs"] :=
    ⟨rfl, rfl, rfl⟩
  exact exists_outcome hid hread hcompanion (Session.Displacement.read_companion hnone hwalked) hsource

theorem exists_outcome_before : ∃ a, (project.outcome before path).analysis = some a ∧ a.routeId = "/a" :=
  exists_outcome_of_locate locate_before routeId?_before (by decide +kernel) rfl (by decide +kernel)

theorem exists_outcome_after : ∃ a, (project.outcome after path).analysis = some a ∧ a.routeId = "/s" :=
  exists_outcome_of_locate locate_after routeId?_after (by decide +kernel) rfl (by decide +kernel)

/-- `handleChange` of `path` is `merge` with its analysis. -/
theorem registry_handled {f : Files} {a : Analysis} (ha : (project.outcome f path).analysis = some a) {c : Controller}
    (hc : c.project = project) (now : Int) :
    (c.handleChange f path now).2.project = project ∧
      (c.handleChange f path now).2.registry = (c.registry.merge a.routeId a).2 := by
  obtain ⟨hproject, hregistry⟩ := registry_handleChange f path now c
  have habsolute : project.absolute path = path := by decide +kernel
  rw [hc, Project.Orderly.routeId?_of_analysis ha] at hregistry
  dsimp only at hregistry
  rw [habsolute, Session.finding_of_analysis ha] at hregistry
  exact ⟨hproject.trans hc, hregistry⟩

/-- After `merge`, `get?` finds a route with the source of the analysis. -/
theorem exists_merged {f : Files} {a : Analysis} (ha : (project.outcome f path).analysis = some a) (r : Registry) :
    ∃ route, (r.merge a.routeId a).2.get? a.routeId = some route ∧ route.source.same path = true := by
  obtain ⟨route, hroute, hsame⟩ := r.exists_get?_merge a.routeId (Project.Orderly.distinct ha)
  have hsource : route.source.same a.source = true := (Route.same_iff.mp hsame).2.1
  exact ⟨route, hroute, Project.source_of_outcome ha ▸ hsource⟩

/-- In `twice`, `get?` finds routes of `path` under `/a` and under `/s`. -/
theorem exists_get?_twice : ∃ a b, twice.registry.get? "/a" = some a ∧ twice.registry.get? "/s" = some b ∧
    a.source.same path = true ∧ b.source.same path = true := by
  obtain ⟨a, ha, hida⟩ := exists_outcome_before
  obtain ⟨b, hb, hidb⟩ := exists_outcome_after
  obtain ⟨hproject, hfirst⟩ := registry_handled ha (c := .new project 300) rfl 0
  obtain ⟨-, hsecond⟩ := registry_handled hb hproject 1
  obtain ⟨old, hold, holdsource⟩ := exists_merged ha Registry.empty
  obtain ⟨new, hnew, hnewsource⟩ := exists_merged hb (Registry.empty.merge a.routeId a).2
  have hregistry : twice.registry = ((Registry.empty.merge a.routeId a).2.merge b.routeId b).2 :=
    hsecond.trans (by rw [hfirst]; rfl)
  have hne : b.routeId ≠ a.routeId := by rw [hida, hidb]; decide
  refine ⟨old, new, ?_, ?_, holdsource, hnewsource⟩
  · rw [hregistry, ← hida, Registry.get?_merge_of_ne _ hne, hold]
  · rw [hregistry, ← hidb, hnew]

/-- What `entries_of_seen` says of `twice`: the two routes have one source, so it is not `IsShown`, and `before` and
`after` do not have the `SameLinks`. -/
theorem entries_twice : (Path.mk "/").isAbsolute = true ∧ twice.Seen (Project.ofConfig ⟨"/"⟩ config) 300 [after, before] ∧
    ∃ a b, twice.registry.get? "/a" = some a ∧ b ∈ twice.registry.routes ∧ a.source.same b.source = true ∧ a ≠ b ∧
      (∃ files ∈ [after, before], project.routeId? files a.source = some "/a") ∧
      (∃ params, a.methods.Shaped params) ∧ ¬project.IsShown a.source ∧
      ∃ f ∈ [after, before], ∃ g ∈ [after, before], ¬f.SameLinks g := by
  obtain ⟨a, b, ha, hb, hsourcea, hsourceb⟩ := exists_get?_twice
  have hboth : a.source.same b.source = true :=
    Path.same_iff.mpr ((Path.same_iff.mp hsourcea).trans (Path.same_iff.mp hsourceb).symm)
  obtain ⟨hroutes, htwo⟩ := Controller.entries_of_seen rfl seen_twice
  obtain ⟨hpatterna, hpattern, -, hshaped⟩ := hroutes "/a" a ha
  obtain ⟨hpatternb, -⟩ := hroutes "/s" b hb
  have hne : a ≠ b := fun heq => absurd (hpatterna.symm.trans (heq ▸ hpatternb)) (by decide)
  obtain ⟨hshown, f, hf, g, hg, -, -, -, hlinks⟩ :=
    htwo a (Routes.mem_of_get? ha) b (Routes.mem_of_get? hb) hboth hne
  exact ⟨rfl, seen_twice, a, b, ha, Routes.mem_of_get? hb, hboth, hne, hpattern, hshaped, hshown, f, hf, g, hg, hlinks⟩

/-- **Two routes of one source**, of which one is not under the `routeId?` that the source has. -/
theorem exists_routes_twice : twice.Seen project 300 [after, before] ∧
    ∃ a b, twice.registry.get? "/a" = some a ∧ twice.registry.get? "/s" = some b ∧
      a.source.same b.source = true ∧ project.routeId? after a.source ≠ some "/a" := by
  obtain ⟨a, b, ha, hb, hsourcea, hsourceb⟩ := exists_get?_twice
  have hboth : a.source.same b.source = true :=
    Path.same_iff.mpr ((Path.same_iff.mp hsourcea).trans (Path.same_iff.mp hsourceb).symm)
  have hrooted : project.Rooted := Project.rooted_ofConfig rfl config
  have habsolute : project.absolute path = path := by decide +kernel
  have hfrom := (seen_twice.holds Session.Displacement.anchored hrooted).routes a (Routes.mem_of_get? ha)
  refine ⟨seen_twice, a, b, ha, hb, hboth, ?_⟩
  rw [Project.routeId?_congr hfrom.absolute habsolute hsourcea after, routeId?_after]
  decide

end Relinked

end RouteContracts
