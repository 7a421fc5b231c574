import RouteContracts.Proofs.Controller.Session

/-! # Changes one by one and scans of all
After every run in which each edited endpoint file was handled at last, a controller has the routes that a full
scan would find, **except for** the routes of endpoint files that were gone when they were last handled, with
something else in their place: then a change is taken for a file that cannot be analyzed, and its routes stay.

* `Session.same_rescan_iff`: **the routes are those of a full scan exactly when no route is left from a
  displaced file.** -/

namespace RouteContracts

namespace Session

variable {p : Project} {s : Session}

/-- For a `Faithful` session with nothing `pending`, the routes are the `same` as those of a full scan exactly when no
route has a `displaced` source. -/
theorem Faithful.same_scan_iff (h : Faithful p s) (hpending : ∀ path, ¬s.pending path)
    {outcomes : List Project.Outcome} (houtcomes : outcomes.Perm (p.outcomes s.files)) :
    Routes.same s.controller.registry.routes (Registry.routesOf (Controller.analysesOf outcomes)) = true ↔
      ∀ route ∈ s.controller.registry.routes, ∀ path, s.displaced path → path.same route.source = false := by
  rw [h.wellFormed.ascending.same_iff (Registry.ascending_routesOf _)]
  constructor
  · intro hsame route hroute path hdisplaced
    rw [Bool.eq_false_iff]
    intro hpath
    obtain ⟨hdiscoverable, hstate⟩ := h.gone path hdisplaced
    have hat := hsame route.pattern
    rw [h.wellFormed.ascending.get?_of_mem hroute] at hat
    -- The scan has the route from another file, which would be the displaced one.
    obtain ⟨scanned, hget, hscanned⟩ := exists_of_option_rel_some hat
    obtain ⟨other, hother, a, ha, rfl⟩ := Project.exists_of_mem_scan houtcomes (Routes.mem_of_get? hget)
    have hsource := (Route.same_iff.mp hscanned).2.1
    have hboth : path.same other = true := by
      rw [Path.same_iff] at hpath hsource ⊢
      rw [hpath, hsource]
      exact congrArg Path.components (Project.source_of_outcome ha)
    obtain rfl := hdiscoverable.eq_of_same (h.orderly.discoverable hother) hboth
    exact hstate.elim (fun hnot => hnot hother) (hpending path)
  · intro hleft pattern
    cases hscan : Routes.get? pattern (Registry.routesOf (Controller.analysesOf outcomes)) with
    | some scanned =>
      obtain ⟨path, hpath, a, ha, rfl⟩ := Project.exists_of_mem_scan houtcomes (Routes.mem_of_get? hscan)
      obtain rfl : a.routeId = pattern := Routes.pattern_of_get? hscan
      obtain ⟨route, hroute, hsame⟩ := h.current path hpath (hpending path) a ha
      have hget : Routes.get? a.routeId s.controller.registry.routes = some route := hroute
      rw [hget]
      exact .some hsame
    | none =>
      -- a route that the scan does not have would come from a displaced file
      cases hget : Routes.get? pattern s.controller.registry.routes with
      | none => exact .none
      | some route =>
        have hroute := Routes.mem_of_get? hget
        obtain ⟨path, -, hsource, hpattern, hstate⟩ := h.sources route hroute
        have hpath : path ∈ p.discover s.files := by
          rcases hstate with hpath | hwaits | hdisplaced
          · exact hpath
          · exact absurd hwaits (hpending path)
          · exact nomatch hsource.symm.trans (hleft route hroute path hdisplaced)
        obtain ⟨a, ha⟩ := h.orderly.analyzed path hpath
        have hid : a.routeId = pattern := by
          rw [Project.Orderly.routeId?_of_analysis ha] at hpattern
          rw [Option.some.inj hpattern, Routes.pattern_of_get? hget]
        have hfound := h.orderly.get?_scan houtcomes hpath ha
        rw [hid, hscan] at hfound
        exact nomatch hfound

/-- **`handleChange` one by one agrees with a full scan exactly when no route is left from a displaced file**: one that
was gone when it was last handled, with something else in its place. The scan is `adopt` of a new controller, on
outcomes in any order, at the end of a run in which every edited file was handled since (`¬s.pending path`). -/
theorem same_rescan_iff {here : Path} (hhere : here.isAbsolute = true) {config : Config}
    (hs : s.Reached (Project.ofConfig here config)) (hpending : ∀ path, ¬s.pending path) (window : Nat)
    {ω ε : Type} (sink : Sink ω ε) (w : ω) {outcomes : List Project.Outcome}
    (houtcomes : outcomes.Perm ((Project.ofConfig here config).outcomes s.files)) :
    Routes.same s.controller.registry.routes
        ((Controller.new (Project.ofConfig here config) window).adopt sink outcomes w).2.1.registry.routes
        = true ↔
      ∀ route ∈ s.controller.registry.routes, ∀ path, s.displaced path → path.same route.source = false := by
  have hfaithful := hs.faithful (Project.anchored_ofConfig hhere config)
  rw [← hfaithful.same_scan_iff hpending houtcomes]
  have hscan : ((Controller.new (Project.ofConfig here config) window).adopt sink outcomes w).2.1.registry.routes =
      Registry.routesOf (Controller.analysesOf outcomes) :=
    Registry.routes_replaceAll_empty _
  rw [hscan]

/-! ## A directory in the place of an endpoint file

An endpoint file is deleted, then one is created below a directory of the same name. The changes are handled in
time, or after both edits. -/

namespace Displacement

/-- Settings with `routes_dir: routes`, so that the endpoint files are below `/routes`. -/
def config : Config := { Config.default with root := ⟨"/"⟩, routesDir := ⟨"routes"⟩ }

/-- The project of `config`, seen from `/`. -/
def project : Project := Project.ofConfig ⟨"/"⟩ config

/-- The endpoint file that is deleted. -/
def upper : Path := ⟨"/routes/server.rs"⟩

/-- The endpoint file that is created. -/
def lower : Path := ⟨"/routes/server.rs/server.rs"⟩

/-- What the endpoint files hold. -/
def code : String := "pub fn GET() {}"

/-- The files at the beginning. -/
def first : Files := ⟨[(["routes"], .directory), (["routes", "server.rs"], .text code)], []⟩

/-- The files after the deletion of `upper`. -/
def bare : Files := ⟨[(["routes"], .directory)], []⟩

/-- The files after the creation of `lower`, where `upper` is a directory. -/
def last : Files :=
  ⟨[(["routes"], .directory), (["routes", "server.rs"], .directory),
    (["routes", "server.rs", "server.rs"], .text code)], []⟩

/-- A sink that writes nothing. -/
def sink : Sink Files Unit := ⟨id, fun _ files => (.ok (), files)⟩

/-! ### What is where -/

theorem sizes : "routes".utf8ByteSize = 6 ∧ "server.rs".utf8ByteSize = 9 ∧ ".routegen".utf8ByteSize = 9 :=
  ⟨rfl, rfl, rfl⟩

/-- `path` is absolute and can be used, and `names` are those between its slashes. -/
def IsWalked (path : Path) (names : List String) : Prop :=
  path.names = "" :: names ∧ path.isAbsolute = true ∧ path.isUnusable = false

theorem isWalked_routes : IsWalked project.routesDir ["routes"] := ⟨rfl, rfl, rfl⟩
theorem isWalked_upper : IsWalked upper ["routes", "server.rs"] := ⟨rfl, rfl, rfl⟩
theorem isWalked_lower : IsWalked lower ["routes", "server.rs", "server.rs"] := ⟨rfl, rfl, rfl⟩

/-- An absolute path is walked along its names from the root: `locate` is `walk` there. -/
theorem locate_of_isWalked (f : Files) {path : Path} {names : List String} (h : IsWalked path names) :
    f.locate true path = f.walk true Files.maxLinks [] names := by
  obtain ⟨hnames, habsolute, husable⟩ := h
  have hempty : path.text.isEmpty = false := by
    rw [Bool.eq_false_iff]
    intro h
    simp [Path.isAbsolute, String.isEmpty_iff.mp h] at habsolute
  simp [Files.locate, Files.start, hnames, husable, habsolute, hempty, Files.walk]

/-- `project.routesDir` leads to the directory `["routes"]`. -/
theorem find?_routes {f : Files} (h : f.entry? ["routes"] = some .directory) :
    f.find? project.routesDir = some (["routes"], .directory) := by
  have hlocate : f.locate true project.routesDir = .ok (.found ["routes"] .directory) := by
    rw [locate_of_isWalked f isWalked_routes]
    simp [Files.walk, h, Files.maxNameBytes, sizes]
  rw [Files.find?, hlocate]

theorem locate_upper_first : first.locate true upper = .ok (.found ["routes", "server.rs"] (.text code)) := by
  rw [locate_of_isWalked first isWalked_upper]
  simp [Files.walk, Files.entry?, first, Files.maxNameBytes, sizes]

theorem locate_upper_bare : bare.locate true upper = .ok (.vacant ["routes", "server.rs"]) := by
  rw [locate_of_isWalked bare isWalked_upper]
  simp [Files.walk, Files.entry?, bare, Files.maxNameBytes, sizes]

theorem locate_upper_last : last.locate true upper = .ok (.found ["routes", "server.rs"] .directory) := by
  rw [locate_of_isWalked last isWalked_upper]
  simp [Files.walk, Files.entry?, last, Files.maxNameBytes, sizes]

theorem locate_lower_last :
    last.locate true lower = .ok (.found ["routes", "server.rs", "server.rs"] (.text code)) := by
  rw [locate_of_isWalked last isWalked_lower]
  simp [Files.walk, Files.entry?, last, Files.maxNameBytes, sizes]

/-- Without `.routegen` no companion file can be read. -/
theorem read_companion {f : Files} (h : f.entry? [".routegen"] = none) {path : Path} {name : String}
    {rest : List String} (hwalked : IsWalked path (".routegen" :: name :: rest)) :
    f.read path = .error .notFound := by
  have hlocate : f.locate true path = .error .notFound := by
    rw [locate_of_isWalked f hwalked]
    simp [Files.walk, h, Files.maxNameBytes, sizes]
  rw [Files.read, hlocate]

/-! ### Endpoint files and their analyses -/

theorem discover_eq {f : Files} (h : f.entry? ["routes"] = some .directory) {paths : List Path}
    (hpaths : (Project.filesBelow f (Project.maxDepth f) [] ["routes"] project.routesDir).filter
      (fun path => path.fileName? == some project.endpointFile) = paths) (hsorted : paths.length ≤ 1) :
    project.discover f = paths := by
  rw [Project.discover, Project.filesAt, find?_routes h]
  dsimp only
  rw [hpaths]
  match paths, hsorted with
  | [], _ => exact List.mergeSort_nil
  | [path], _ => exact List.mergeSort_singleton path

theorem discover_first : project.discover first = [upper] :=
  discover_eq rfl rfl (by decide)

theorem discover_bare : project.discover bare = [] :=
  discover_eq rfl rfl (by decide)

theorem discover_last : project.discover last = [lower] :=
  discover_eq rfl rfl (by decide)

/-- An endpoint file without a companion file has an analysis when `Analysis.ofSource?` reads its code. -/
theorem exists_outcome {f : Files} {path companion : Path} {id : String}
    (hid : project.routeId? f path = some id) (hread : f.read path = .ok code)
    (hcompanion : project.companion? f path = some companion) (hnone : f.read companion = .error .notFound)
    (hsource : (Analysis.ofSource? id path none code).isSome = true) :
    ∃ a, (project.outcome f path).analysis = some a ∧ a.routeId = id := by
  obtain ⟨⟨a, notices⟩, ha⟩ := Option.isSome_iff_exists.mp hsource
  refine ⟨a, ?_, (Analysis.ofSource?_fields ha).1⟩
  simp [Project.outcome, Project.analyze, Project.companionTypes, hid, hread, hcompanion, hnone, ha]

theorem exists_outcome_upper : ∃ a, (project.outcome first upper).analysis = some a ∧ a.routeId = "/" := by
  have hread : first.read upper = .ok code := by rw [Files.read, locate_upper_first]
  have hnone : first.read ⟨"/.routegen/types/routes/types.rs"⟩ = .error .notFound :=
    read_companion rfl ⟨rfl, rfl, rfl⟩
  exact exists_outcome (by decide +kernel) hread (by decide +kernel) hnone (by decide +kernel)

theorem exists_outcome_lower :
    ∃ a, (project.outcome last lower).analysis = some a ∧ a.routeId = "/server.rs" := by
  have hread : last.read lower = .ok code := by rw [Files.read, locate_lower_last]
  have hnone : last.read ⟨"/.routegen/types/routes/server.rs/types.rs"⟩ = .error .notFound :=
    read_companion rfl ⟨rfl, rfl, rfl⟩
  exact exists_outcome (by decide +kernel) hread (by decide +kernel) hnone (by decide +kernel)

theorem isName_routes : Path.IsName "routes" := ⟨by decide, by decide, by decide, by decide⟩
theorem isName_server : Path.IsName "server.rs" := ⟨by decide, by decide, by decide, by decide⟩

/-- Files with at most one endpoint file are `Orderly` when that has an analysis. -/
theorem orderly {f : Files} (hproper : f.Proper) {paths : List Path} (hpaths : project.discover f = paths)
    (hone : paths.length ≤ 1) (h : ∀ path ∈ paths, ∃ a, (project.outcome f path).analysis = some a) :
    project.Orderly f := by
  refine ⟨hproper, hpaths ▸ h, fun path hpath other hother _ => ?_⟩
  rw [hpaths] at hpath hother
  match paths, hone with
  | [_], _ => rw [List.mem_singleton.mp hpath, List.mem_singleton.mp hother]

theorem orderly_first : project.Orderly first := by
  refine orderly (by simp [Files.Proper, first, isName_routes, isName_server]) discover_first (by decide) ?_
  intro path hpath
  obtain ⟨a, ha, -⟩ := exists_outcome_upper
  exact ⟨a, List.mem_singleton.mp hpath ▸ ha⟩

theorem orderly_bare : project.Orderly bare :=
  orderly (by simp [Files.Proper, bare, isName_routes]) discover_bare (by decide) (List.forall_mem_nil _)

theorem orderly_last : project.Orderly last := by
  refine orderly (by simp [Files.Proper, last, isName_routes, isName_server]) discover_last (by decide) ?_
  intro path hpath
  obtain ⟨a, ha, -⟩ := exists_outcome_lower
  exact ⟨a, List.mem_singleton.mp hpath ▸ ha⟩

theorem isFile_upper_bare : bare.isFile upper = false := by
  rw [Files.isFile, Files.find?, locate_upper_bare]; rfl

theorem holds_upper_bare : bare.holds upper = false := by
  rw [Files.holds, Files.find?, locate_upper_bare]; rfl

theorem isFile_upper_last : last.isFile upper = false := by
  rw [Files.isFile, Files.find?, locate_upper_last]; rfl

theorem holds_upper_last : last.holds upper = true := by
  rw [Files.holds, Files.find?, locate_upper_last]; rfl

theorem isFile_lower_last : last.isFile lower = true := by
  rw [Files.isFile, Files.find?, locate_lower_last]; rfl

/-! ### The two runs -/

/-- The session after `start` on `first`. -/
def opened : Session :=
  ⟨first, ((Controller.new project 300).start sink first).2.1, fun _ => False, fun _ => False⟩

/-- The session in which the deletion is handled on `bare`, before the creation. -/
def inTime : Session := (((opened.edit bare).handle upper 0).edit last).handle lower 1

/-- The session in which the deletion is handled on `last`, after the creation. -/
def late : Session := (((opened.edit bare).edit last).handle lower 0).handle upper 1

theorem anchored : project.Anchored := Project.anchored_ofConfig rfl config

theorem reached_opened : opened.Reached project :=
  .started sink first first _ _ _ rfl Registry.WellFormed.empty orderly_first (List.Perm.refl _) rfl

theorem reached_bare : (opened.edit bare).Reached project :=
  .edited reached_opened bare orderly_bare fun _ _ hpath => by rw [discover_bare] at hpath; exact nomatch hpath

/-- `KeepsCompanions` from `bare` to `last`: there are no companion files. -/
theorem keepsCompanions_last : project.KeepsCompanions bare last :=
  fun _ hpath => by rw [discover_bare] at hpath; exact nomatch hpath

theorem edited_first_bare {path : Path} (h : project.Edited first bare path) : path = upper := by
  simpa [Project.Edited, discover_first, discover_bare] using h

theorem edited_bare_last {path : Path} (h : project.Edited bare last path) : path = lower := by
  simp [Project.Edited, discover_bare, discover_last] at h
  tauto

theorem discoverable_upper : project.IsDiscoverable upper :=
  orderly_first.discoverable (discover_first ▸ List.mem_singleton_self upper)

theorem mem_discover_last : lower ∈ project.discover last := discover_last ▸ List.mem_singleton_self lower

theorem reached_deleted : ((opened.edit bare).handle upper 0).Reached project :=
  reached_bare.handled upper 0 discoverable_upper (.inr isFile_upper_bare)

theorem reached_inTime : inTime.Reached project :=
  (reached_deleted.edited last orderly_last keepsCompanions_last).handled lower 1
    (orderly_last.discoverable mem_discover_last) (.inl mem_discover_last)

theorem reached_created : ((opened.edit bare).edit last).Reached project :=
  reached_bare.edited last orderly_last keepsCompanions_last

theorem reached_noticed : (((opened.edit bare).edit last).handle lower 0).Reached project :=
  reached_created.handled lower 0 (orderly_last.discoverable mem_discover_last) (.inl mem_discover_last)

theorem reached_late : late.Reached project :=
  reached_noticed.handled upper 1 discoverable_upper (.inr isFile_upper_last)

theorem not_pending_inTime (path : Path) : ¬inTime.pending path := by
  rintro ⟨⟨h | h, hupper⟩ | h, hlower⟩
  · exact h
  · exact hupper (edited_first_bare h)
  · have hproject := (reached_deleted.faithful anchored).project
    exact hlower (edited_bare_last (hproject ▸ h))

theorem not_displaced_inTime (path : Path) : ¬inTime.displaced path := by
  rintro (⟨rfl, hfile, -⟩ | ⟨-, ⟨rfl, -, hholds⟩ | ⟨-, h⟩⟩)
  · exact nomatch isFile_lower_last.symm.trans hfile
  · exact nomatch holds_upper_bare.symm.trans hholds
  · exact h

/-- The routes of `inTime` are the `same` as those of a full scan. -/
theorem same_rescan_inTime :
    inTime.Reached (Project.ofConfig ⟨"/"⟩ config) ∧ (∀ path, ¬inTime.pending path) ∧
      Routes.same inTime.controller.registry.routes
        ((Controller.new (Project.ofConfig ⟨"/"⟩ config) 300).adopt sink
          ((Project.ofConfig ⟨"/"⟩ config).outcomes last) last).2.1.registry.routes = true := by
  have hiff := @same_rescan_iff inTime ⟨"/"⟩ rfl config reached_inTime not_pending_inTime 300 Files Unit sink last
    _ (List.Perm.refl _)
  exact ⟨reached_inTime, not_pending_inTime,
    hiff.mpr fun _ _ path hdisplaced => absurd hdisplaced (not_displaced_inTime path)⟩

theorem not_pending_late (path : Path) : ¬late.pending path := by
  rintro ⟨⟨(h | h) | h, hlower⟩, hupper⟩
  · exact h
  · exact hupper (edited_first_bare h)
  · exact hlower (edited_bare_last h)

theorem displaced_late : late.displaced upper := .inl ⟨rfl, isFile_upper_last, holds_upper_last⟩

/-- The route of `upper` outlives both handled changes of `late`. -/
theorem exists_route_late : ∃ route ∈ late.controller.registry.routes, upper.same route.source = true := by
  obtain ⟨a, ha, hid⟩ := exists_outcome_upper
  obtain ⟨b, hb, hother⟩ := exists_outcome_lower
  have hupper : upper ∈ project.discover first := discover_first ▸ List.mem_singleton_self upper
  obtain ⟨route, hroute, hsame⟩ := (reached_opened.faithful anchored).current upper hupper id a ha
  have hsource : upper.same route.source = true := by
    have h := (Route.same_iff.mp hsame).2.1
    rw [Path.same_iff] at h ⊢
    rw [h]
    exact congrArg Path.components (Project.source_of_outcome ha).symm
  refine ⟨route, ?_, hsource⟩
  have hne : b.routeId ≠ a.routeId := by rw [hid, hother]; decide
  have hmerged := registry_handle_present (reached_created.faithful anchored) anchored mem_discover_last hb 0
  -- merging the other file leaves the route of this pattern as it was
  have hkept : (((opened.edit bare).edit last).handle lower 0).controller.registry.get? a.routeId =
      some route := by
    rw [hmerged, Registry.get?_merge_of_ne _ hne]
    exact hroute
  exact (mem_routes_handle_gone (reached_noticed.faithful anchored) anchored discoverable_upper isFile_upper_last
    1 route).mpr ⟨Routes.mem_of_get? hkept, .inl holds_upper_last⟩

/-- **Handled late, the deletion goes unnoticed**: `late` has nothing pending, and its routes are not the `same` as
those of `start` on `last`, where `upper` is a directory and has no route. -/
theorem stale_route_late :
    late.Reached project ∧ (∀ path, ¬late.pending path) ∧
      Routes.same late.controller.registry.routes
        ((Controller.new project 300).start sink last).2.1.registry.routes = false := by
  refine ⟨reached_late, not_pending_late, Bool.eq_false_iff.mpr fun hsame => ?_⟩
  obtain ⟨route, hroute, hsource⟩ := exists_route_late
  have hscan : ((Controller.new project 300).start sink last).2.1.registry.routes =
      Registry.routesOf (Controller.analysesOf (project.outcomes last)) :=
    Registry.routes_replaceAll_empty _
  rw [hscan] at hsame
  have hleft := ((reached_late.faithful anchored).same_scan_iff not_pending_late (List.Perm.refl _)).mp hsame
  exact nomatch hsource.symm.trans (hleft route hroute upper displaced_late)

end Displacement

end Session

end RouteContracts
