import RouteContracts.Proofs.Controller.Entries
import RouteContracts.Proofs.Controller.Scan

/-! # Deletions
Directories that are groups leave no trace in patterns, so several endpoint files can be for one pattern. The registry has
the pattern from one of them. When that one is deleted the pattern leaves the registry, **also when another file is still
for it**: a full scan of the same files would find it. Which one it is depends on all scans and changes so far.

* `Controller.Look`, `Controller.sourceAfter?`: **the file that a pattern is from**, by what the controller looked at.
* `Controller.Looked`: the states of a controller, with its looks at the files.
* `Controller.Looked.isFrom`: the routes of the registry have these files as their sources. Scans and changes keep that.
* `Controller.get?_of_deleted`: what a handled deletion removes.
* `Controller.absent_of_deleted_iff`: **when a pattern leaves the registry**, and when nothing is for it then. -/

namespace RouteContracts

namespace Controller

/-! ## Looks at the files -/

/-- A look at the files: a full scan, or one change of a path. -/
inductive Look where
  /-- A full scan. -/
  | scan (files : Files)
  /-- One change. -/
  | change (files : Files) (path : Path)

namespace Look

/-- The files that are looked at. -/
def files : Look → Files
  | .scan files => files
  | .change files _ => files

/-- `look.source? p pattern before`: the file that `pattern` is from after `look`, where it was from `before`. A `scan`
takes the last path of `p.discover files` whose analysis has `routeId = pattern`. A `change` takes the changed path when
its finding is `.analyzed a` with `a.routeId = pattern`, and drops it when the finding is `.gone`. -/
def source? (p : Project) (pattern : String) (before : Option Path) : Look → Option Path
  | .scan files => ((p.discover files).filter fun path =>
      (p.outcome files path).analysis.any fun a => a.routeId == pattern).getLast?
  | .change files path =>
    match p.routeId? files path, finding files p (p.absolute path) with
    | none, _ => before
    | some _, .gone => before.filter fun source => !source.same (p.absolute path)
    | some _, .unfit => before
    | some _, .analyzed a => if a.routeId = pattern then some (p.absolute path) else before

end Look

/-- `get?` is `some` exactly if `source?` is, and then `source?` is the `same` path as the source of the route. -/
abbrev IsFrom (source? : Option Path) (route? : Option Route) : Prop :=
  Option.Rel (fun source route => source.same route.source = true) source? route?

/-- **The file that a pattern is from** after some looks, the latest first: `Look.source?` folded over them. -/
def sourceAfter? (p : Project) (pattern : String) : List Look → Option Path
  | [] => none
  | look :: before => look.source? p pattern (sourceAfter? p pattern before)

/-- **The states of a controller**, with its looks at the files, the latest first. In any order there are `adopt`s,
whose outcomes come in any order and which are emitted to any sink, `handleChange`s, and `tick`s. In between files come,
change and go at will. -/
inductive Looked (p : Project) (window : Nat) : List Look → Controller → Prop where
  /-- A controller that knows nothing yet. -/
  | new : Looked p window [] (.new p window)
  /-- A full scan. -/
  | scanned {looks : List Look} {c : Controller} (before : Looked p window looks c) {ω ε : Type} (sink : Sink ω ε) (w : ω)
      {outcomes : List Project.Outcome} (proper : (sink.files w).Proper)
      (scanned : outcomes.Perm (c.project.outcomes (sink.files w))) :
      Looked p window (.scan (sink.files w) :: looks) (c.adopt sink outcomes w).2.1
  /-- One change. -/
  | handled {looks : List Look} {c : Controller} (before : Looked p window looks c) (files : Files) (path : Path)
      (now : Int) : Looked p window (.change files path :: looks) (c.handleChange files path now).2
  /-- One look at the clock. -/
  | ticked {looks : List Look} {c : Controller} (before : Looked p window looks c) {ω ε : Type} (sink : Sink ω ε) (w : ω)
      (now : Int) : Looked p window looks (c.tick sink now w).2.1

variable {p : Project} {window : Nat} {looks : List Look} {c : Controller}

/-- `Looked` controllers are `Seen`, with the files of their looks. -/
theorem Looked.seen (h : c.Looked p window looks) : c.Seen p window (looks.map Look.files) := by
  induction h with
  | new => exact .new
  | scanned before sink w proper scanned ih => exact ih.scanned sink w scanned
  | handled before files path now ih => exact ih.handled files path now
  | ticked before sink w now ih => exact ih.ticked sink w now

/-! ## Scans -/

/-- The sources of the analyses with `routeId = pattern` are the paths whose analysis has that `routeId`. -/
theorem map_source_filter (files : Files) (p : Project) (pattern : String) (paths : List Path) :
    ((paths.filterMap fun path => (p.outcome files path).analysis).filter fun a => a.routeId == pattern).map
        Analysis.source =
      paths.filter fun path => (p.outcome files path).analysis.any fun a => a.routeId == pattern := by
  induction paths with
  | nil => rfl
  | cons path rest ih =>
    cases ha : (p.outcome files path).analysis with
    | none => simp [ha, ih]
    | some a =>
      have hsource : a.source = path := Project.source_of_outcome ha
      by_cases hid : a.routeId = pattern
      · simp [ha, hid, hsource, ih]
      · simp [ha, hid, ih]

/-- `analysesOf (p.outcomes files)` needs no sorting: `discover` gives the paths in order. -/
theorem analysesOf_outcomes (files : Files) (p : Project) :
    analysesOf (p.outcomes files) = (p.discover files).filterMap fun path => (p.outcome files path).analysis := by
  have htrans : ∀ a b c : Path, a.before b = true → b.before c = true → a.before c = true :=
    fun _ _ _ => Path.before_trans
  have htotal : ∀ a b : Path, (a.before b || b.before a) = true := by
    intro a b
    rw [Bool.or_eq_true]
    exact Path.before_total a b
  have hdiscover : (p.discover files).Pairwise fun a b => a.before b = true :=
    List.pairwise_mergeSort htrans htotal _
  -- the source of an analysis is its path, so the analyses are in order already
  have hanalyses : ((p.discover files).filterMap fun path => (p.outcome files path).analysis).Pairwise
      fun a b => a.source.before b.source = true := by
    refine List.pairwise_filterMap.mpr (hdiscover.imp fun hbefore a ha b hb => ?_)
    rwa [Project.source_of_outcome ha, Project.source_of_outcome hb]
  rw [analysesOf, Project.outcomes, List.filterMap_map]
  exact List.mergeSort_of_pairwise hanalyses

/-- **After `adopt`** a pattern `IsFrom` the last path that is analyzed for it, `(Look.scan _).source?`. -/
theorem isFrom_scanned {ω ε : Type} (sink : Sink ω ε) (w : ω) (hfiles : (sink.files w).Proper)
    {outcomes : List Project.Outcome} (houtcomes : outcomes.Perm (c.project.outcomes (sink.files w))) (pattern : String)
    (before : Option Path) :
    IsFrom ((Look.scan (sink.files w)).source? c.project pattern before)
      ((c.adopt sink outcomes w).2.1.registry.get? pattern) := by
  have hanalyzes := Project.analyzes_outcome (sink.files w) c.project
  have hscanned := Project.outcomes_eq_scanned (sink.files w) c.project
  have hrel := rel_get?_adopt hanalyzes (hscanned ▸ houtcomes) sink w c pattern
  -- whatever the order of the outcomes, their analyses are in the order of discovery
  have hordered : analysesOf outcomes = analysesOf (c.project.outcomes (sink.files w)) :=
    analysesOf_eq hfiles hanalyzes (hscanned ▸ houtcomes) (hscanned ▸ List.Perm.refl _)
  rw [hordered, analysesOf_outcomes] at hrel
  rw [Look.source?, ← map_source_filter, List.getLast?_map]
  generalize (c.adopt sink outcomes w).2.1.registry.get? pattern = found at hrel ⊢
  generalize List.getLast? _ = last at hrel ⊢
  cases hrel with
  | none => exact .none
  | some hsame => exact .some (Route.same_iff.mp hsame).2.1

/-! ## Changes -/

variable {seen : List Files} {path : Path}

/-- `IsFrom` survives dropping a path on both sides. -/
theorem IsFrom.filter {source? : Option Path} {route? : Option Route} (h : IsFrom source? route?) (path : Path) :
    IsFrom (source?.filter fun source => !source.same path) (route?.filter fun route => !route.source.same path) := by
  cases h with
  | none => exact .none
  | @some source route hsame =>
    have hkept : source.same path = route.source.same path := by
      rw [Path.same, Path.same, Path.same_iff.mp hsame]
    rw [Option.filter_some, Option.filter_some, hkept]
    split
    · exact .some hsame
    · exact .none

/-- **After `handleChange`** a pattern `IsFrom` the changed path, or from where it was from, unless that is gone:
`(Look.change _ _).source?`. -/
theorem isFrom_handleChange (h : c.Holds p seen) (hp : p.Rooted) {pattern : String} {before : Option Path}
    (hbefore : IsFrom before (c.registry.get? pattern)) (files : Files) (path : Path) (now : Int) :
    IsFrom ((Look.change files path).source? p pattern before)
      ((c.handleChange files path now).2.registry.get? pattern) := by
  obtain ⟨-, hregistry⟩ := registry_handleChange files path now c
  rw [hregistry, h.project, Look.source?]
  cases hid : p.routeId? files path with
  | none => exact hbefore
  | some id =>
    cases hfinding : finding files p (p.absolute path) with
    | unfit => exact hbefore
    | gone =>
      show IsFrom _ ((c.registry.removeSource (p.absolute path)).2.get? pattern)
      rw [Registry.get?_removeSource h.ascending]
      exact hbefore.filter (p.absolute path)
    | analyzed a =>
      -- the path and its absolute form have one pattern
      have ha := outcome_of_finding hfinding
      have hpattern : some a.routeId = some id := by
        rw [← Project.Orderly.routeId?_of_analysis ha, Project.routeId?_absolute hp hid]
      obtain rfl := Option.some.inj hpattern
      show IsFrom (if a.routeId = pattern then _ else _) ((c.registry.merge a.routeId a).2.get? pattern)
      split
      · next heq =>
        obtain ⟨route, hroute, hsame⟩ := c.registry.exists_get?_merge a.routeId (Project.Orderly.distinct ha)
        have hsource : route.source.same a.source = true := (Route.same_iff.mp hsame).2.1
        rw [Project.source_of_outcome ha, Path.same_iff] at hsource
        rw [← heq, hroute]
        exact .some (Path.same_iff.mpr hsource.symm)
      · next hne =>
        rw [c.registry.get?_merge_of_ne hne a]
        exact hbefore

/-- **Every pattern `IsFrom` the file that the looks tell**, `sourceAfter? p pattern looks`, by induction on
`Looked`. -/
theorem Looked.isFrom (hanchored : p.Anchored) (hrooted : p.Rooted) (h : c.Looked p window looks) (pattern : String) :
    IsFrom (sourceAfter? p pattern looks) (c.registry.get? pattern) := by
  induction h with
  | new => exact .none
  | @scanned looks c before ω ε sink w outcomes proper scanned ih =>
    have hproject := (before.seen.holds hanchored hrooted).project
    subst hproject
    exact isFrom_scanned sink w proper scanned pattern _
  | handled before files path now ih =>
    exact isFrom_handleChange (before.seen.holds hanchored hrooted) hrooted ih files path now
  | @ticked looks c before ω ε sink w now ih =>
    -- a tick leaves the registry as it is
    have hregistry : (c.tick sink now w).2.1.registry = c.registry := by
      unfold tick
      dsimp only
      split <;> rfl
    rw [hregistry]
    exact ih

/-! ## Deletions -/

/-- A route whose source is the `same` as an `IsDiscoverable` path is under the `routeId?` of that path, whatever the
files. -/
theorem Holds.routeId?_of_same (h : c.Holds p seen) (hp : p.Anchored) (hpath : p.IsDiscoverable path) {route : Route}
    (hroute : route ∈ c.registry.routes) (hsame : route.source.same path = true) (files : Files) :
    p.routeId? files path = some route.pattern := by
  obtain ⟨before, -, hid, -⟩ := (h.routes route hroute).exists_routeId?
  rw [hpath.routeId?_eq hp files before, ← hid]
  exact (Project.routeId?_congr (h.routes route hroute).absolute (hpath.absolute hp) hsame before).symm

/-- **After `handleChange` of a path with `isFile` false**, `get?` keeps a route if the path still `holds` something or
its source is another path. -/
theorem get?_of_deleted (h : c.Holds p seen) (hp : p.Anchored) (hpath : p.IsDiscoverable path) {after : Files}
    (hgone : after.isFile path = false) (now : Int) (pattern : String) :
    (c.handleChange after path now).2.registry.get? pattern =
      (c.registry.get? pattern).filter fun route => after.holds path || !route.source.same path := by
  obtain ⟨-, hregistry⟩ := registry_handleChange after path now c
  have hkept : (∀ route, c.registry.get? pattern = some route → (after.holds path || !route.source.same path) = true) →
      c.registry.get? pattern =
        (c.registry.get? pattern).filter fun route => after.holds path || !route.source.same path := by
    intro hall
    cases hget : c.registry.get? pattern with
    | none => rfl
    | some route => rw [Option.filter_some, if_pos (hall route hget)]
  rw [hregistry, h.project, hpath.absolute hp, Session.finding_of_not_isFile hgone]
  cases hid : p.routeId? after path with
  | none =>
    -- a file without a pattern is the source of no route
    refine hkept fun route hroute => ?_
    rw [Bool.or_eq_true, Bool.not_eq_true', Bool.eq_false_iff]
    exact .inr fun hsame =>
      nomatch hid.symm.trans (h.routeId?_of_same hp hpath (Routes.mem_of_get? hroute) hsame after)
  | some id =>
    cases hholds : after.holds path with
    | true =>
      rw [hholds] at hkept
      exact hkept fun _ _ => rfl
    | false =>
      exact Registry.get?_removeSource h.ascending path pattern

/-- A pattern with `sourceAfter?` the `same` as `path` has a route, and it is the `routeId?` of `path`. -/
theorem Looked.of_source (h : c.Looked p window looks) (hanchored : p.Anchored) (hrooted : p.Rooted)
    (hpath : p.IsDiscoverable path) {pattern : String} {source : Path}
    (hsource : sourceAfter? p pattern looks = some source) (hsame : source.same path = true) (files : Files) :
    c.registry.get? pattern ≠ none ∧ p.routeId? files path = some pattern := by
  have hrel := h.isFrom hanchored hrooted pattern
  rw [hsource] at hrel
  cases hroute : c.registry.get? pattern with
  | none => rw [hroute] at hrel; cases hrel
  | some route =>
    rw [hroute] at hrel
    cases hrel with
    | some hroutesource =>
      rw [Path.same_iff] at hroutesource hsame
      have hpathsame : route.source.same path = true := Path.same_iff.mpr (hroutesource.symm.trans hsame)
      have hid := (h.seen.holds hanchored hrooted).routeId?_of_same hanchored hpath (Routes.mem_of_get? hroute)
        hpathsame files
      rw [Routes.pattern_of_get? hroute] at hid
      exact ⟨Option.some_ne_none route, hid⟩

/-- `get?` becomes `none` exactly when nothing is in the place of the deleted path and `sourceAfter?` is that path. -/
theorem Looked.absent_iff (h : c.Looked p window looks) (hanchored : p.Anchored) (hrooted : p.Rooted)
    (hpath : p.IsDiscoverable path) {after : Files} (hgone : after.isFile path = false) (now : Int) {pattern : String}
    (hpattern : c.registry.get? pattern ≠ none) :
    (c.handleChange after path now).2.registry.get? pattern = none ↔
      after.holds path = false ∧ ∃ source ∈ sourceAfter? p pattern looks, source.same path = true := by
  have hrel := h.isFrom hanchored hrooted pattern
  rw [get?_of_deleted (h.seen.holds hanchored hrooted) hanchored hpath hgone now]
  generalize c.registry.get? pattern = route? at hrel hpattern ⊢
  generalize sourceAfter? p pattern looks = source? at hrel ⊢
  cases hrel with
  | none => exact absurd rfl hpattern
  | some hsame =>
    rw [Path.same_iff] at hsame
    simp [Path.same, hsame]

/-- **When a pattern leaves the registry**: by a `handleChange` of a path with `isFile` false, exactly if `after.holds
path = false` and `sourceAfter?` of the pattern is the `same` path. So nothing is for the patterns that leave exactly if
one of the following holds: `after.holds path`; its pattern is not from it; no other endpoint file is for its
pattern. -/
theorem absent_of_deleted_iff {here : Path} (hhere : here.isAbsolute = true) {config : Config}
    (h : c.Looked (Project.ofConfig here config) window looks) (hpath : (Project.ofConfig here config).IsDiscoverable path)
    {after : Files} (hgone : after.isFile path = false) (now : Int) :
    (∀ pattern, c.registry.get? pattern ≠ none →
      ((c.handleChange after path now).2.registry.get? pattern = none ↔ after.holds path = false ∧
        ∃ source ∈ sourceAfter? (Project.ofConfig here config) pattern looks, source.same path = true)) ∧
    ((∀ pattern, c.registry.get? pattern ≠ none → (c.handleChange after path now).2.registry.get? pattern = none →
        ∀ other ∈ (Project.ofConfig here config).discover after,
          (Project.ofConfig here config).routeId? after other ≠ some pattern) ↔
      ∀ id, (Project.ofConfig here config).routeId? after path = some id → after.holds path = true ∨
        (∀ source ∈ sourceAfter? (Project.ofConfig here config) id looks, source.same path = false) ∨
        ∀ other ∈ (Project.ofConfig here config).discover after,
          (Project.ofConfig here config).routeId? after other ≠ some id) := by
  have hanchored := Project.anchored_ofConfig hhere config
  have hrooted := Project.rooted_ofConfig hhere config
  refine ⟨fun pattern hpattern => h.absent_iff hanchored hrooted hpath hgone now hpattern, fun hclaim id hid => ?_,
    fun hone pattern hpattern habsent => ?_⟩
  · -- the pattern of the deleted file leaves, unless one of the first two cases holds
    by_cases hplace : after.holds path = true
    · exact .inl hplace
    by_cases hsource : ∃ source ∈ sourceAfter? (Project.ofConfig here config) id looks, source.same path = true
    · obtain ⟨source, hsource, hsame⟩ := hsource
      have hpresent := (h.of_source hanchored hrooted hpath hsource hsame after).1
      refine .inr (.inr (hclaim id hpresent ?_))
      exact (h.absent_iff hanchored hrooted hpath hgone now hpresent).mpr
        ⟨Bool.eq_false_iff.mpr hplace, source, hsource, hsame⟩
    · exact .inr (.inl fun source hs => Bool.eq_false_iff.mpr fun hsame => hsource ⟨source, hs, hsame⟩)
  · -- no other pattern than that of the deleted file can leave
    obtain ⟨hplace, source, hsource, hsame⟩ :=
      (h.absent_iff hanchored hrooted hpath hgone now hpattern).mp habsent
    have hid := (h.of_source hanchored hrooted hpath hsource hsame after).2
    rcases hone pattern hid with hheld | hother | hnone
    · exact nomatch hplace.symm.trans hheld
    · exact nomatch hsame.symm.trans (hother source hsource)
    · exact hnone

end Controller

/-! ## Two files for one pattern

The directories of two endpoint files are groups, so that both are for the bare root. After the first scan one of them is
deleted, and the deletion is handled. -/

namespace Session.Shared

open Controller (Look Looked sourceAfter?)
open Displacement (config project sink code IsWalked locate_of_isWalked exists_outcome read_companion discover_eq
  find?_routes isName_routes isName_server)
open Groups (inGroup)

/-- The files with both endpoint files of the groups `(a)` and `(b)`. -/
def both : Files :=
  ⟨[(["routes"], .directory),
    (["routes", "(a)"], .directory), (["routes", "(a)", "server.rs"], .text code),
    (["routes", "(b)"], .directory), (["routes", "(b)", "server.rs"], .text code)], []⟩

/-- `both` without the endpoint file of `(a)`. -/
def withoutA : Files :=
  ⟨[(["routes"], .directory),
    (["routes", "(a)"], .directory),
    (["routes", "(b)"], .directory), (["routes", "(b)", "server.rs"], .text code)], []⟩

/-- `both` without the endpoint file of `(b)`. -/
def withoutB : Files :=
  ⟨[(["routes"], .directory),
    (["routes", "(a)"], .directory), (["routes", "(a)", "server.rs"], .text code),
    (["routes", "(b)"], .directory)], []⟩

/-! ### What is where -/

theorem maxNameBytes_names : ¬Files.maxNameBytes < "routes".utf8ByteSize ∧ ¬Files.maxNameBytes < "server.rs".utf8ByteSize :=
  ⟨by decide, by decide⟩

/-- `f` has the directory of `group`, and the endpoint file in it or none. -/
structure HasGroup (f : Files) (group : String) : Prop where
  walked : IsWalked (inGroup group) ["routes", group, "server.rs"]
  plain : group ≠ "" ∧ group ≠ "." ∧ group ≠ ".."
  size : group.utf8ByteSize ≤ Files.maxNameBytes
  routes : f.entry? ["routes"] = some .directory
  directory : f.entry? ["routes", group] = some .directory

theorem hasGroup_both : HasGroup both "(a)" ∧ HasGroup both "(b)" :=
  ⟨⟨⟨rfl, rfl, rfl⟩, by decide, by decide, rfl, rfl⟩, ⟨⟨rfl, rfl, rfl⟩, by decide, by decide, rfl, rfl⟩⟩

theorem hasGroup_withoutA : HasGroup withoutA "(a)" := ⟨⟨rfl, rfl, rfl⟩, by decide, by decide, rfl, rfl⟩

theorem hasGroup_withoutB : HasGroup withoutB "(a)" ∧ HasGroup withoutB "(b)" :=
  ⟨⟨⟨rfl, rfl, rfl⟩, by decide, by decide, rfl, rfl⟩, ⟨⟨rfl, rfl, rfl⟩, by decide, by decide, rfl, rfl⟩⟩

variable {f : Files} {group : String}

theorem HasGroup.read (h : HasGroup f group) (hfile : f.entry? ["routes", group, "server.rs"] = some (.text code)) :
    f.read (inGroup group) = .ok code := by
  have hlocate : f.locate true (inGroup group) = .ok (.found ["routes", group, "server.rs"] (.text code)) := by
    rw [locate_of_isWalked f h.walked]
    simp [Files.walk, h.routes, h.directory, hfile, h.plain, not_lt.mpr h.size, maxNameBytes_names]
  rw [Files.read, hlocate]

theorem HasGroup.find? (h : HasGroup f group) (hfile : f.entry? ["routes", group, "server.rs"] = none) :
    f.find? (inGroup group) = none := by
  have hlocate : f.locate true (inGroup group) = .ok (.vacant ["routes", group, "server.rs"]) := by
    rw [locate_of_isWalked f h.walked]
    simp [Files.walk, h.routes, h.directory, hfile, h.plain, not_lt.mpr h.size, maxNameBytes_names]
  rw [Files.find?, hlocate]

theorem isName_groups : Path.IsName "(a)" ∧ Path.IsName "(b)" :=
  ⟨⟨by decide, by decide, by decide, by decide⟩, ⟨by decide, by decide, by decide, by decide⟩⟩

theorem proper_both : both.Proper := by
  simp [Files.Proper, both, isName_routes, isName_server, isName_groups]

theorem proper_withoutB : withoutB.Proper := by
  simp [Files.Proper, withoutB, isName_routes, isName_server, isName_groups]

theorem discover_both : project.discover both = [inGroup "(a)", inGroup "(b)"] := by
  have hfiles : (Project.filesAt both project.routesDir).filter
      (fun path => path.fileName? == some project.endpointFile) = [inGroup "(a)", inGroup "(b)"] := by
    rw [Project.filesAt, find?_routes rfl]
    rfl
  have hbefore : (inGroup "(a)").before (inGroup "(b)") = true := by decide
  rw [Project.discover, hfiles]
  exact List.mergeSort_of_pairwise (by simp [hbefore])

theorem isDiscoverable_a : project.IsDiscoverable (inGroup "(a)") :=
  ⟨both, proper_both, by rw [discover_both]; exact List.mem_cons_self⟩

theorem isDiscoverable_b : project.IsDiscoverable (inGroup "(b)") :=
  ⟨both, proper_both, by rw [discover_both]; exact List.mem_cons_of_mem _ List.mem_cons_self⟩

theorem discover_withoutB : project.discover withoutB = [inGroup "(a)"] := discover_eq rfl rfl (by decide)

/-! ### Their analyses -/

theorem isWalked_companions :
    IsWalked ⟨"/.routegen/types/routes/(a)/types.rs"⟩ [".routegen", "types", "routes", "(a)", "types.rs"] ∧
      IsWalked ⟨"/.routegen/types/routes/(b)/types.rs"⟩ [".routegen", "types", "routes", "(b)", "types.rs"] :=
  ⟨⟨rfl, rfl, rfl⟩, ⟨rfl, rfl, rfl⟩⟩

/-- The endpoint file of `(a)` has an analysis with `routeId = "/"`, whatever else is there. -/
theorem exists_outcome_a (h : HasGroup f "(a)") (hfile : f.entry? ["routes", "(a)", "server.rs"] = some (.text code))
    (hnone : f.entry? [".routegen"] = none) :
    ∃ a, (project.outcome f (inGroup "(a)")).analysis = some a ∧ a.routeId = "/" := by
  have hid : project.routeId? f (inGroup "(a)") = some "/" := by
    rw [isDiscoverable_a.routeId?_eq Displacement.anchored f both]
    decide +kernel
  have hcompanion : project.companion? f (inGroup "(a)") = some ⟨"/.routegen/types/routes/(a)/types.rs"⟩ := by
    rw [isDiscoverable_a.companion?_eq Displacement.anchored f both]
    decide +kernel
  exact exists_outcome hid (h.read hfile) hcompanion (read_companion hnone isWalked_companions.1) (by decide +kernel)

theorem exists_outcome_b : ∃ a, (project.outcome both (inGroup "(b)")).analysis = some a ∧ a.routeId = "/" :=
  exists_outcome (by decide +kernel) (hasGroup_both.2.read rfl) (by decide +kernel)
    (read_companion rfl isWalked_companions.2) (by decide +kernel)

theorem sourceAfter?_withoutB : sourceAfter? project "/" [.scan withoutB] = some (inGroup "(a)") := by
  obtain ⟨a, ha, hida⟩ := exists_outcome_a hasGroup_withoutB.1 rfl rfl
  simp [sourceAfter?, Look.source?, discover_withoutB, ha, hida]

/-- With `both` there, `/` is from the endpoint file of `(b)`, the last one. -/
theorem sourceAfter?_both : sourceAfter? project "/" [.scan both] = some (inGroup "(b)") := by
  obtain ⟨a, ha, hida⟩ := exists_outcome_a hasGroup_both.1 rfl rfl
  obtain ⟨b, hb, hidb⟩ := exists_outcome_b
  simp [sourceAfter?, Look.source?, discover_both, ha, hida, hb, hidb]

/-! ### The pattern of both -/

/-- The controller after `start` on `f`. -/
def opened (f : Files) : Controller := ((Controller.new project 300).start sink f).2.1

theorem looked_opened (hf : f.Proper) : (opened f).Looked project 300 [.scan f] :=
  Looked.new.scanned sink f hf (List.Perm.refl _)

/-- After `start` the route of `/` has the source that `sourceAfter?` tells. -/
theorem exists_get?_opened (hf : f.Proper) {source : Path} (hsource : sourceAfter? project "/" [.scan f] = some source) :
    ∃ route, (opened f).registry.get? "/" = some route ∧ source.same route.source = true := by
  have hrel := (looked_opened hf).isFrom Displacement.anchored (Project.rooted_ofConfig rfl config) "/"
  rw [hsource] at hrel
  cases hroute : (opened f).registry.get? "/" with
  | none => rw [hroute] at hrel; cases hrel
  | some route =>
    rw [hroute] at hrel
    cases hrel with
    | some hsame => exact ⟨route, rfl, hsame⟩

/-- When the endpoint file of `(a)` is deleted, `/` keeps its route. -/
theorem absent_of_deleted_iff_a : (Path.mk "/").isAbsolute = true ∧
    (opened both).Looked (Project.ofConfig ⟨"/"⟩ config) 300 [.scan both] ∧
    (Project.ofConfig ⟨"/"⟩ config).IsDiscoverable (inGroup "(a)") ∧ withoutA.isFile (inGroup "(a)") = false ∧
    (opened both).registry.get? "/" ≠ none ∧
    ((opened both).handleChange withoutA (inGroup "(a)") 0).2.registry.get? "/" ≠ none := by
  have hhere : (Path.mk "/").isAbsolute = true := rfl
  have hlooked : (opened both).Looked (Project.ofConfig ⟨"/"⟩ config) 300 [.scan both] := looked_opened proper_both
  have hgone : withoutA.isFile (inGroup "(a)") = false := by rw [Files.isFile, hasGroup_withoutA.find? rfl]; rfl
  obtain ⟨route, hroute, -⟩ := exists_get?_opened proper_both sourceAfter?_both
  have hpresent : (opened both).registry.get? "/" ≠ none := Option.ne_none_iff_exists'.mpr ⟨route, hroute⟩
  obtain ⟨hiff, -⟩ := Controller.absent_of_deleted_iff hhere hlooked isDiscoverable_a hgone 0
  refine ⟨hhere, hlooked, isDiscoverable_a, hgone, hpresent, fun habsent => ?_⟩
  obtain ⟨-, source, hsource, hsame⟩ := (hiff "/" hpresent).mp habsent
  obtain rfl := Option.some.inj (sourceAfter?_both.symm.trans hsource)
  exact absurd hsame (by decide)

/-- **When the endpoint file of `(b)` is deleted `/` leaves the registry**, although the one of `(a)` is for it: `start`
on the same files finds it. -/
theorem shared_pattern_left : (opened both).Looked project 300 [.scan both] ∧
    (∀ path ∈ project.discover both, ∃ a, (project.outcome both path).analysis = some a) ∧
    inGroup "(b)" ∈ project.discover both ∧ withoutB.isFile (inGroup "(b)") = false ∧
    (opened both).registry.get? "/" ≠ none ∧
    ((opened both).handleChange withoutB (inGroup "(b)") 0).2.registry.get? "/" = none ∧
    (∃ other ∈ project.discover withoutB, project.routeId? withoutB other = some "/" ∧
      ∃ a, (project.outcome withoutB other).analysis = some a) ∧
    (opened withoutB).registry.get? "/" ≠ none := by
  obtain ⟨a, ha, hida⟩ := exists_outcome_a hasGroup_both.1 rfl rfl
  obtain ⟨b, hb, -⟩ := exists_outcome_b
  obtain ⟨kept, hkept, hkeptid⟩ := exists_outcome_a hasGroup_withoutB.1 rfl rfl
  have hgone : withoutB.isFile (inGroup "(b)") = false := by rw [Files.isFile, hasGroup_withoutB.2.find? rfl]; rfl
  have hplace : withoutB.holds (inGroup "(b)") = false := by rw [Files.holds, hasGroup_withoutB.2.find? rfl]; rfl
  obtain ⟨route, hroute, hsame⟩ := exists_get?_opened proper_both sourceAfter?_both
  obtain ⟨scanned, hscanned, -⟩ := exists_get?_opened proper_withoutB sourceAfter?_withoutB
  have hholds := (looked_opened proper_both).seen.holds Displacement.anchored (Project.rooted_ofConfig rfl config)
  refine ⟨looked_opened proper_both, fun path hpath => ?_, ?_, hgone, Option.ne_none_iff_exists'.mpr ⟨route, hroute⟩, ?_,
    ⟨inGroup "(a)", ?_, ?_, kept, hkept⟩, Option.ne_none_iff_exists'.mpr ⟨scanned, hscanned⟩⟩
  · -- both files are analyzed
    rw [discover_both, List.mem_pair] at hpath
    rcases hpath with rfl | rfl
    · exact ⟨a, ha⟩
    · exact ⟨b, hb⟩
  · rw [discover_both]
    exact List.mem_cons_of_mem _ List.mem_cons_self
  · -- the route is from the deleted file, and nothing stands at its path any more
    rw [Controller.get?_of_deleted hholds Displacement.anchored isDiscoverable_b hgone 0, hroute, Option.filter_some,
      if_neg]
    rw [Path.same_iff] at hsame
    rw [hplace, Path.same, hsame]
    simp
  · rw [discover_withoutB]
    exact List.mem_singleton_self _
  · rw [Project.Orderly.routeId?_of_analysis hkept, hkeptid]

end Session.Shared

end RouteContracts
