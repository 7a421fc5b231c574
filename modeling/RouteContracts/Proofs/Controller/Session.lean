import RouteContracts.Controller
import RouteContracts.Proofs.Analysis.DistinctNames
import RouteContracts.Proofs.Project.Discovery

/-! # Sessions
A controller after a full scan, while endpoint files come, change and go around it and changes are handled
late, repeatedly and in any order.

* `Project.Orderly`: what holds of the files at every moment. `Project.Edited`: what an edit is.
* `Session`: a controller, the files, and which files wait to be handled. `Session.Reached`: **the runs.**
* `Session.Faithful`: the invariant. A file that does not wait has its route, and every route has a file, unless
  it waits or something else stands in its place.
* `Session.Reached.faithful`: **every run keeps it.** -/

namespace RouteContracts

namespace Project

/-! ## Files at a moment -/

/-- What holds of the files of a project at every moment: each path of `p.discover files` has an analysis in `p.outcome
files`, and no two have the same `routeId?`. -/
structure Orderly (p : Project) (files : Files) : Prop where
  /-- The tree of files is one. -/
  proper : files.Proper
  /-- Every endpoint file can be analyzed. -/
  analyzed : ∀ path ∈ p.discover files, ∃ a, (p.outcome files path).analysis = some a
  /-- No two endpoint files serve one pattern. -/
  apart : ∀ path ∈ p.discover files, ∀ other ∈ p.discover files,
    p.routeId? files path = p.routeId? files other → path = other

/-- An edit of `path`: it is in only one of `p.discover before` and `p.discover after`, or it is in the latter and
`read` gives another result. -/
def Edited (p : Project) (before after : Files) (path : Path) : Prop :=
  ¬(path ∈ p.discover before ↔ path ∈ p.discover after) ∨
    (path ∈ p.discover after ∧ before.read path ≠ after.read path)

/-- The companion files (`p.companion?`) of the endpoint files that stay read the same in `before` and in `after`. -/
def KeepsCompanions (p : Project) (before after : Files) : Prop :=
  ∀ path, path ∈ p.discover before → path ∈ p.discover after →
    ∀ companion, p.companion? before path = some companion → before.read companion = after.read companion

variable {p : Project} {files before after : Files} {path other : Path} {a : Analysis}

theorem mem_of_not_edited (h : ¬p.Edited before after path) :
    path ∈ p.discover before ↔ path ∈ p.discover after :=
  not_not.mp fun hiff => h (.inl hiff)

theorem read_of_not_edited (h : ¬p.Edited before after path) (hpath : path ∈ p.discover after) :
    before.read path = after.read path :=
  not_not.mp fun hread => h (.inr ⟨hpath, hread⟩)

namespace Orderly

theorem discoverable (h : p.Orderly files) (hpath : path ∈ p.discover files) : p.IsDiscoverable path :=
  ⟨files, h.proper, hpath⟩

/-- `p.routeId? files path = some a.routeId` where `a` is the analysis of `path`: the pattern is that of the
analysis. -/
theorem routeId?_of_analysis (ha : (p.outcome files path).analysis = some a) :
    p.routeId? files path = some a.routeId := by
  obtain ⟨_, _, _, hroute, -, -⟩ := exists_of_outcome ha
  exact hroute

theorem distinct (ha : (p.outcome files path).analysis = some a) : Contracts.Distinct a.methods := by
  obtain ⟨_, _, types, -, -, hsource⟩ := exists_of_outcome ha
  refine Analysis.distinct_ofSource? (fun d hd => ?_) hsource
  obtain ⟨types, -, hd⟩ := Option.bind_eq_some_iff.mp hd
  exact types.distinct_descriptor? d hd

/-- Two paths of `p.discover files` whose analyses have one `routeId` are equal. -/
theorem path_unique (h : p.Orderly files) {b : Analysis} (hpath : path ∈ p.discover files)
    (hother : other ∈ p.discover files) (ha : (p.outcome files path).analysis = some a)
    (hb : (p.outcome files other).analysis = some b) (hid : a.routeId = b.routeId) : path = other := by
  refine h.apart path hpath other hother ?_
  rw [routeId?_of_analysis ha, routeId?_of_analysis hb, hid]

/-- What `isFile` denies is not in `p.discover files`. -/
theorem not_mem_of_not_isFile (h : p.Orderly files) (hfile : files.isFile path = false) :
    path ∉ p.discover files := by
  intro hpath
  obtain ⟨a, ha⟩ := h.analyzed path hpath
  exact Bool.false_ne_true (hfile.symm.trans (isFile_of_outcome ha))

end Orderly

/-! ## Full scans -/

/-- `Controller.analysesOf outcomes` has the analyses of the paths in `p.discover files`, in whatever order the outcomes
come. -/
theorem mem_analysesOf {outcomes : List Outcome} (h : outcomes.Perm (p.outcomes files)) :
    a ∈ Controller.analysesOf outcomes ↔
      ∃ path ∈ p.discover files, (p.outcome files path).analysis = some a := by
  rw [Controller.analysesOf, List.mem_mergeSort, List.mem_filterMap]
  constructor
  · rintro ⟨o, ho, ha⟩
    obtain ⟨path, hpath, rfl⟩ := List.mem_map.mp (h.mem_iff.mp ho)
    exact ⟨path, hpath, ha⟩
  · rintro ⟨path, hpath, ha⟩
    exact ⟨_, h.mem_iff.mpr (List.mem_map_of_mem hpath), ha⟩

/-- **A full scan finds every route.** The registry of `analysesOf outcomes` has `Route.ofAnalysis a.routeId a` under
`a.routeId`, for the analysis `a` of each endpoint file. -/
theorem Orderly.get?_scan (h : p.Orderly files) {outcomes : List Outcome}
    (houtcomes : outcomes.Perm (p.outcomes files)) (hpath : path ∈ p.discover files)
    (ha : (p.outcome files path).analysis = some a) :
    Routes.get? a.routeId (Registry.routesOf (Controller.analysesOf outcomes)) =
      some (Route.ofAnalysis a.routeId a) := by
  refine Registry.get?_routesOf ((mem_analysesOf houtcomes).mpr ⟨path, hpath, ha⟩) fun b hb hid => ?_
  obtain ⟨other, hother, hb⟩ := (mem_analysesOf houtcomes).mp hb
  obtain rfl := h.path_unique hother hpath hb ha hid
  exact Option.some.inj (hb.symm.trans ha)

/-- Every route of a full scan is `Route.ofAnalysis a.routeId a` for the analysis `a` of a path in `p.discover
files`. -/
theorem exists_of_mem_scan {outcomes : List Outcome} (houtcomes : outcomes.Perm (p.outcomes files))
    {route : Route} (hroute : route ∈ Registry.routesOf (Controller.analysesOf outcomes)) :
    ∃ path ∈ p.discover files, ∃ a, (p.outcome files path).analysis = some a ∧
      route = Route.ofAnalysis a.routeId a := by
  obtain ⟨a, ha, rfl⟩ := Registry.exists_of_mem_routesOf hroute
  obtain ⟨path, hpath, ha⟩ := (mem_analysesOf houtcomes).mp ha
  exact ⟨path, hpath, a, ha, rfl⟩

theorem distinct_of_scan {outcomes : List Outcome} (houtcomes : outcomes.Perm (p.outcomes files)) :
    ∀ a ∈ Controller.analysesOf outcomes, Contracts.Distinct a.methods := by
  intro a ha
  obtain ⟨path, -, ha⟩ := (mem_analysesOf houtcomes).mp ha
  exact Orderly.distinct ha

end Project

/-! ## Runs -/

/-- A controller and the files around it, with the paths that remain to be handled (`pending`) and those whose deletion
went unnoticed (`displaced`). -/
structure Session where
  /-- The files. -/
  files : Files
  /-- The controller. -/
  controller : Controller
  /-- The endpoint files that were edited since they were last handled. -/
  pending : Path → Prop
  /-- The endpoint files that were gone when they were last handled, with something else in their place. -/
  displaced : Path → Prop

namespace Session

/-- The files become `after`, and every path that is `Edited` is `pending`. -/
def edit (s : Session) (after : Files) : Session :=
  { s with
    files := after
    pending := fun path => s.pending path ∨ s.controller.project.Edited s.files after path }

/-- The controller handles `path` with `handleChange` at the instant `now`, and `path` is `pending` no more. -/
def handle (s : Session) (path : Path) (now : Int) : Session :=
  { s with
    controller := (s.controller.handleChange s.files path now).2
    pending := fun other => s.pending other ∧ other ≠ path
    displaced := fun other =>
      (other = path ∧ s.files.isFile path = false ∧ s.files.holds path = true) ∨
        (other ≠ path ∧ s.displaced other) }

/-- **The sessions of a project.** They begin with `Controller.adopt` on the outcomes of a full scan in any order. Then,
in any order, there are `edit`s that keep the companion files, and `handle`s of endpoint files, present or gone. -/
inductive Reached (p : Project) : Session → Prop
  /-- A full scan, successfully emitted. -/
  | started {ω ε : Type} (sink : Sink ω ε) (w w' : ω) (c c' : Controller) (outcomes : List Project.Outcome)
      (project : c.project = p) (wellFormed : c.registry.WellFormed) (orderly : p.Orderly (sink.files w))
      (scanned : outcomes.Perm (p.outcomes (sink.files w))) (adopted : c.adopt sink outcomes w = (.ok (), c', w')) :
      Reached p ⟨sink.files w, c', fun _ => False, fun _ => False⟩
  /-- Edits, of any number of files. -/
  | edited {s : Session} (before : Reached p s) (after : Files) (orderly : p.Orderly after)
      (companions : p.KeepsCompanions s.files after) : Reached p (s.edit after)
  /-- One change, of an endpoint file that is there or is gone. -/
  | handled {s : Session} (before : Reached p s) (path : Path) (now : Int)
      (discoverable : p.IsDiscoverable path)
      (noticed : path ∈ p.discover s.files ∨ s.files.isFile path = false) : Reached p (s.handle path now)

/-! ## The invariant -/

/-- **What holds of a session after every step** of `Reached`. -/
structure Faithful (p : Project) (s : Session) : Prop where
  project : s.controller.project = p
  orderly : p.Orderly s.files
  wellFormed : s.controller.registry.WellFormed
  /-- An endpoint file that does not wait has its route. -/
  current : ∀ path ∈ p.discover s.files, ¬s.pending path → ∀ a, (p.outcome s.files path).analysis = some a →
    ∃ route, s.controller.registry.get? a.routeId = some route ∧
      route.same (Route.ofAnalysis a.routeId a) = true
  /-- Every route has its endpoint file, unless that waits or something else stands in its place. -/
  sources : ∀ route ∈ s.controller.registry.routes, ∃ path, p.IsDiscoverable path ∧
    path.same route.source = true ∧ p.routeId? s.files path = some route.pattern ∧
    (path ∈ p.discover s.files ∨ s.pending path ∨ s.displaced path)
  /-- A file with something else in its place is gone, unless it waits. -/
  gone : ∀ path, s.displaced path → p.IsDiscoverable path ∧ (path ∉ p.discover s.files ∨ s.pending path)

/-! ## Full scans keep it -/

/-- **A full scan establishes `Faithful`**: the registry is `replaceAll` of the analyses of the scan. -/
theorem Faithful.started {p : Project} {files : Files} {c : Controller} {r : Registry}
    {outcomes : List Project.Outcome} (hc : c.project = p) (hr : r.WellFormed) (hfiles : p.Orderly files)
    (houtcomes : outcomes.Perm (p.outcomes files))
    (hregistry : c.registry = (r.replaceAll (Controller.analysesOf outcomes)).2) :
    Faithful p ⟨files, c, fun _ => False, fun _ => False⟩ := by
  have hdistinct := Project.distinct_of_scan houtcomes
  have hwell : c.registry.WellFormed := hregistry ▸ hr.replaceAll hdistinct
  have hsame : Routes.same (Registry.routesOf (Controller.analysesOf outcomes)) c.registry.routes = true :=
    hregistry ▸ r.same_replaceAll hdistinct
  have hrel := ((Registry.ascending_routesOf _).same_iff hwell.ascending).mp hsame
  refine ⟨hc, hfiles, hwell, fun path hpath _ a ha => ?_, fun route hroute => ?_, fun _ h => h.elim⟩
  · -- an analyzed file has the route of its analysis: only one file is for the pattern
    have hat := hrel a.routeId
    rw [hfiles.get?_scan houtcomes hpath ha] at hat
    obtain ⟨route, hget, hroute⟩ := exists_of_option_rel_some hat
    exact ⟨route, hget, Route.same_symm (Project.Orderly.distinct ha) hroute⟩
  · -- a route comes from a file that was analyzed
    have hat := hrel route.pattern
    rw [hwell.ascending.get?_of_mem hroute] at hat
    obtain ⟨scanned, hget, hscanned⟩ := exists_of_some_option_rel hat
    obtain ⟨path, hpath, a, ha, rfl⟩ := Project.exists_of_mem_scan houtcomes (Routes.mem_of_get? hget)
    obtain ⟨hpattern, hsource, -⟩ := Route.same_iff.mp hscanned
    refine ⟨path, hfiles.discoverable hpath, ?_, ?_, .inl hpath⟩
    · rwa [← Project.source_of_outcome ha]
    · rw [Project.Orderly.routeId?_of_analysis ha, ← hpattern]
      rfl

/-! ## Edits keep it -/

variable {p : Project} {s : Session}

/-- **`Session.edit` keeps `Faithful`.** What is not `Edited` has the analysis that it had. -/
theorem Faithful.edit (h : Faithful p s) (hp : p.Anchored) {after : Files} (hafter : p.Orderly after)
    (hcompanions : p.KeepsCompanions s.files after) : Faithful p (s.edit after) := by
  refine ⟨h.project, hafter, h.wellFormed, fun path hpath hpending a ha => ?_, fun route hroute => ?_,
    fun path hdisplaced => ?_⟩
  · -- a file that does not wait was there before, with the same analysis
    rw [Session.edit, h.project] at hpending
    obtain ⟨hwaits, hedited⟩ := not_or.mp hpending
    have hbefore : path ∈ p.discover s.files := (Project.mem_of_not_edited hedited).mpr hpath
    have hoffered : p.IsDiscoverable path := hafter.discoverable hpath
    have houtcome : p.outcome s.files path = p.outcome after path :=
      hoffered.outcome_congr hp (Project.read_of_not_edited hedited hpath)
        (hcompanions path hbefore hpath)
    exact h.current path hbefore hwaits a (houtcome ▸ ha)
  · -- the source of a route is there, or its edit waits to be handled
    obtain ⟨path, hpath, hsource, hpattern, hstate⟩ := h.sources route hroute
    refine ⟨path, hpath, hsource, hpath.routeId?_eq hp s.files after ▸ hpattern, ?_⟩
    by_cases hedited : p.Edited s.files after path
    · exact .inr (.inl (.inr (h.project.symm ▸ hedited)))
    · rcases hstate with hthere | hwaits | hdisplaced
      · exact .inl ((Project.mem_of_not_edited hedited).mp hthere)
      · exact .inr (.inl (.inl hwaits))
      · exact .inr (.inr hdisplaced)
  · -- a file that was displaced is still gone, or its edit waits
    obtain ⟨hpath, hstate⟩ := h.gone path hdisplaced
    refine ⟨hpath, ?_⟩
    by_cases hedited : p.Edited s.files after path
    · exact .inr (.inr (h.project.symm ▸ hedited))
    · exact hstate.imp (fun hnot hthere => hnot ((Project.mem_of_not_edited hedited).mpr hthere)) .inl

/-! ## Handled changes keep it -/

/-- What `Session.handle` does to the registry: `applyFinding` with the `finding` at the path, under the `routeId?` that
the path has. -/
theorem registry_handle (h : Faithful p s) (hp : p.Anchored) {path : Path} (hpath : p.IsDiscoverable path)
    (now : Int) : (s.handle path now).controller.project = p ∧
      (s.handle path now).controller.registry =
        match p.routeId? s.files path with
        | none => s.controller.registry
        | some id =>
          (Controller.applyFinding id path s.controller.registry (Controller.finding s.files p path)).2 := by
  have hproject := h.project
  unfold handle Controller.handleChange
  dsimp only
  rw [hproject]
  cases p.routeId? s.files path with
  | none => exact ⟨hproject, rfl⟩
  | some id =>
    dsimp only
    rw [hpath.absolute hp]
    split <;> exact ⟨rfl, rfl⟩

/-- `Controller.finding files p path = .analyzed a` where `a` is the analysis of `path`. -/
theorem finding_of_analysis {path : Path} {files : Files} {a : Analysis}
    (ha : (p.outcome files path).analysis = some a) : Controller.finding files p path = .analyzed a := by
  have hholds : files.holds path = true := by
    have hfile := Project.isFile_of_outcome ha
    unfold Files.isFile at hfile
    unfold Files.holds
    cases hfind : files.find? path with
    | none => rw [hfind] at hfile; exact nomatch hfile
    | some found => rfl
  rw [Controller.finding, if_pos hholds, ha]

/-- Where `isFile` is false, `Controller.finding` is `.gone`, or `.unfit` if the path leads to something else. -/
theorem finding_of_not_isFile {path : Path} {files : Files} (h : files.isFile path = false) :
    Controller.finding files p path = if files.holds path then .unfit else .gone := by
  have hnone : (p.outcome files path).analysis = none := by
    cases ha : (p.outcome files path).analysis with
    | none => rfl
    | some a => exact nomatch h.symm.trans (Project.isFile_of_outcome ha)
  rw [Controller.finding, hnone]

/-- `Session.handle` of an endpoint file that is there is `Registry.merge` with its analysis. -/
theorem registry_handle_present (h : Faithful p s) (hp : p.Anchored) {path : Path}
    (hpath : path ∈ p.discover s.files) {a : Analysis} (ha : (p.outcome s.files path).analysis = some a)
    (now : Int) :
    (s.handle path now).controller.registry = (s.controller.registry.merge a.routeId a).2 := by
  rw [(registry_handle h hp (h.orderly.discoverable hpath) now).2, Project.Orderly.routeId?_of_analysis ha,
    finding_of_analysis ha]
  rfl

/-- **`Session.handle` of an endpoint file that is there keeps `Faithful`.** Its route is merged, and no other route is
under its pattern afterwards. -/
theorem Faithful.handle_present (h : Faithful p s) (hp : p.Anchored) {path : Path}
    (hpath : path ∈ p.discover s.files) (now : Int) : Faithful p (s.handle path now) := by
  have hoffered := h.orderly.discoverable hpath
  obtain ⟨a, ha⟩ := h.orderly.analyzed path hpath
  have hdistinct := Project.Orderly.distinct ha
  have hid := Project.Orderly.routeId?_of_analysis ha
  have hmerged := registry_handle_present h hp hpath ha now
  have hwell : (s.handle path now).controller.registry.WellFormed :=
    hmerged ▸ h.wellFormed.merge a.routeId hdistinct
  obtain ⟨route, hroute, hsame⟩ := s.controller.registry.exists_get?_merge a.routeId hdistinct
  refine ⟨(registry_handle h hp hoffered now).1, h.orderly, hwell, fun other hother hpending b hb => ?_,
    fun r hr => ?_, fun other hdisplaced => ?_⟩
  · -- the file itself has the merged route, every other file keeps its own
    by_cases hne : other = path
    · subst hne
      obtain rfl := Option.some.inj (ha.symm.trans hb)
      exact ⟨route, hmerged ▸ hroute, hsame⟩
    · have hidne : a.routeId ≠ b.routeId := fun hideq =>
        hne (h.orderly.path_unique hpath hother ha hb hideq).symm
      have hwaits : ¬s.pending other := fun hwaits => hpending ⟨hwaits, hne⟩
      obtain ⟨r, hr, hrsame⟩ := h.current other hother hwaits b hb
      exact ⟨r, by rw [hmerged, Registry.get?_merge_of_ne _ hidne]; exact hr, hrsame⟩
  · -- the merged route comes from the file, every other one from where it came from
    have hget : (s.handle path now).controller.registry.get? r.pattern = some r := hwell.ascending.get?_of_mem hr
    by_cases hpattern : a.routeId = r.pattern
    · rw [hmerged, ← hpattern] at hget
      obtain rfl := Option.some.inj (hroute.symm.trans hget)
      refine ⟨path, hoffered, ?_, hpattern ▸ hid, .inl hpath⟩
      have hsource := (Route.same_iff.mp hsame).2.1
      rw [Path.same_iff] at hsource ⊢
      rw [hsource]
      exact congrArg Path.components (Project.source_of_outcome ha).symm
    · rw [hmerged, Registry.get?_merge_of_ne _ hpattern] at hget
      obtain ⟨other, hother, hsource, hotherid, hstate⟩ := h.sources r (Routes.mem_of_get? hget)
      have hne : other ≠ path := by
        rintro rfl
        exact hpattern (Option.some.inj (hid.symm.trans hotherid))
      refine ⟨other, hother, hsource, hotherid, ?_⟩
      exact hstate.imp_right (Or.imp (⟨·, hne⟩) fun hd => .inr ⟨hne, hd⟩)
  · -- the file is there, so it is not among the displaced ones
    rcases hdisplaced with ⟨rfl, hgone, -⟩ | ⟨hne, hdisplaced⟩
    · exact absurd hpath (h.orderly.not_mem_of_not_isFile hgone)
    · obtain ⟨hother, hstate⟩ := h.gone other hdisplaced
      exact ⟨hother, hstate.imp_right (⟨·, hne⟩)⟩

/-- `Session.handle` of a file that is gone is `Registry.removeSource`, unless the path has no `routeId?` or still
`holds` something. -/
theorem registry_handle_gone (h : Faithful p s) (hp : p.Anchored) {path : Path}
    (hpath : p.IsDiscoverable path) (hgone : s.files.isFile path = false) (now : Int) :
    (s.handle path now).controller.registry =
      if p.routeId? s.files path = none ∨ s.files.holds path = true then s.controller.registry
      else (s.controller.registry.removeSource path).2 := by
  rw [(registry_handle h hp hpath now).2, finding_of_not_isFile hgone]
  cases p.routeId? s.files path with
  | none => exact (if_pos (.inl rfl)).symm
  | some id => cases hholds : s.files.holds path <;> simp [Controller.applyFinding]

/-- After `Session.handle` of a file that is gone, a route stays if its source is another path, or if the path still
`holds` something. -/
theorem mem_routes_handle_gone (h : Faithful p s) (hp : p.Anchored) {path : Path}
    (hpath : p.IsDiscoverable path) (hgone : s.files.isFile path = false) (now : Int) (route : Route) :
    route ∈ (s.handle path now).controller.registry.routes ↔
      route ∈ s.controller.registry.routes ∧ (s.files.holds path = true ∨ path.same route.source = false) := by
  rw [registry_handle_gone h hp hpath hgone now]
  by_cases hholds : s.files.holds path = true
  · rw [if_pos (.inr hholds)]
    exact ⟨fun hroute => ⟨hroute, .inl hholds⟩, And.left⟩
  by_cases hid : p.routeId? s.files path = none
  · rw [if_pos (.inl hid)]
    refine ⟨fun hroute => ⟨hroute, .inr ?_⟩, And.left⟩
    -- A path without a pattern has no route.
    obtain ⟨other, hother, hsource, hpattern, -⟩ := h.sources route hroute
    rw [Bool.eq_false_iff]
    intro hsame
    have hboth : path.same other = true :=
      Path.same_iff.mpr ((Path.same_iff.mp hsame).trans (Path.same_iff.mp hsource).symm)
    obtain rfl := hpath.eq_of_same hother hboth
    exact nomatch hid.symm.trans hpattern
  · have hcomm : route.source.same path = path.same route.source := by
      rw [Path.same, Path.same, Bool.beq_comm]
    rw [if_neg (not_or.mpr ⟨hid, hholds⟩), Registry.routes_removeSource, List.mem_filter, hcomm,
      Bool.not_eq_true']
    exact and_congr_right fun _ => (or_iff_right hholds).symm

/-- **`Session.handle` of an endpoint file that is gone keeps `Faithful`.** Its routes are removed, unless the path
still `holds` something; then it is `displaced`. -/
theorem Faithful.handle_gone (h : Faithful p s) (hp : p.Anchored) {path : Path}
    (hpath : p.IsDiscoverable path) (hgone : s.files.isFile path = false) (now : Int) :
    Faithful p (s.handle path now) := by
  have hmem := mem_routes_handle_gone h hp hpath hgone now
  have hthere := h.orderly.not_mem_of_not_isFile hgone
  have hwell : (s.handle path now).controller.registry.WellFormed := by
    rw [registry_handle_gone h hp hpath hgone now]
    split
    · exact h.wellFormed
    · exact h.wellFormed.removeSource path
  refine ⟨(registry_handle h hp hpath now).1, h.orderly, hwell, fun other hother hpending b hb => ?_,
    fun route hroute => ?_, fun other hdisplaced => ?_⟩
  · -- a file that is there keeps its route, as its source is another
    have hne : other ≠ path := fun heq => hthere (heq ▸ hother)
    obtain ⟨route, hget, hsame⟩ := h.current other hother (fun hwaits => hpending ⟨hwaits, hne⟩) b hb
    obtain ⟨hpattern, hsource, -⟩ := Route.same_iff.mp hsame
    have hkept : path.same route.source = false := by
      rw [Bool.eq_false_iff]
      intro hpathsame
      have hboth : path.same other = true := by
        rw [Path.same_iff] at hpathsame hsource ⊢
        rw [hpathsame, hsource]
        exact congrArg Path.components (Project.source_of_outcome hb)
      exact hne (hpath.eq_of_same (h.orderly.discoverable hother) hboth).symm
    have hroute := (hmem route).mpr ⟨Routes.mem_of_get? hget, .inr hkept⟩
    have hat : (s.handle path now).controller.registry.get? route.pattern = some route :=
      hwell.ascending.get?_of_mem hroute
    rw [hpattern] at hat
    exact ⟨route, hat, hsame⟩
  · -- a route of the file itself stays only where something else is in its place
    obtain ⟨hbefore, hkept⟩ := (hmem route).mp hroute
    obtain ⟨other, hother, hsource, hpattern, hstate⟩ := h.sources route hbefore
    refine ⟨other, hother, hsource, hpattern, ?_⟩
    by_cases hne : other = path
    · subst hne
      have hholds := hkept.resolve_right fun hsame => nomatch hsource.symm.trans hsame
      exact .inr (.inr (.inl ⟨rfl, hgone, hholds⟩))
    · exact hstate.imp_right (Or.imp (⟨·, hne⟩) fun hd => .inr ⟨hne, hd⟩)
  · -- the file is gone for good, the others are as they were
    rcases hdisplaced with ⟨rfl, -, -⟩ | ⟨hne, hdisplaced⟩
    · exact ⟨hpath, .inl hthere⟩
    · obtain ⟨hother, hstate⟩ := h.gone other hdisplaced
      exact ⟨hother, hstate.imp_right (⟨·, hne⟩)⟩

/-! ## Every run keeps it -/

/-- **Every session that is `Reached` is `Faithful`**, by induction on the steps. -/
theorem Reached.faithful (hp : p.Anchored) (h : s.Reached p) : Faithful p s := by
  induction h with
  | started sink w w' c c' outcomes project wellFormed orderly scanned adopted =>
    obtain rfl : { c with registry := (c.registry.replaceAll (Controller.analysesOf outcomes)).2 } = c' :=
      congrArg (fun result => result.2.1) adopted
    exact .started project wellFormed orderly scanned rfl
  | edited before after orderly companions ih => exact ih.edit hp orderly companions
  | handled before path now discoverable noticed ih =>
    rcases noticed with hthere | hgone
    · exact ih.handle_present hp hthere now
    · exact ih.handle_gone hp discoverable hgone now

end Session

end RouteContracts
