import RouteContracts.Proofs.Files.Resolving
import RouteContracts.Proofs.Project.Convention

/-! # Endpoint files by where they are
The URL pattern of a file is meant to be that of the place it leads to, below the routes directory. Without links this
is so, except for paths that stray: paths with the routes directory at their front that go back from there. The pattern
of such a path is that of the names on it, wherever it leads.

* `Project.Strays`: paths that go back from the routes directory. `Project.Present`: directories that are there.
* `Project.exists_names_of_routeId?`: **an endpoint file is below the routes directory**, unless its path strays.
* `Project.routeId?_resolved`: **an endpoint file has the pattern of where it is.** `Project.routeId?_upward`: a path
  with `..` to the routes directory.
* `Project.routeId?_strayed`: an endpoint file outside of the routes directory. -/

namespace RouteContracts

namespace Project

variable {files : Files} {p : Project} {names : List String} {path q : Path} {id : String}

/-- **A path that has the routes directory at its front and goes back from there**, or starts anew. -/
def Strays (p : Project) (path : Path) : Prop :=
  ∃ rest, (p.absolute path).withoutDots.components = p.routesDir.withoutDots.components ++ rest ∧
    (.parent ∈ rest ∨ .root ∈ rest)

/-- The routes directory is there, and so is the directory with these names below it. -/
def Present (p : Project) (files : Files) (names : List String) : Prop :=
  files.holds p.routesDir.withoutDots = true ∧ (files.entry? (files.resolved p.routesDir ++ names)).isSome = true

/-! ## By the files -/

theorem isName_of_fileName? {name : String} (h : path.fileName? = some name) : Path.IsName name := by
  obtain ⟨cs, hcs⟩ := Path.fileName?_eq_some_iff.mp h
  exact Path.isPlain_of_mem_withoutDots (p := path) (c := .normal name)
    (hcs ▸ List.mem_append_right _ (List.mem_singleton.mpr rfl)) Component.noConfusion

section

variable (hfiles : files.IsTree)
include hfiles

theorem isName_of_mem_resolved (q : Path) : ∀ name ∈ files.resolved q, Path.IsName name :=
  Files.isName_of_mem_resolved (fun name hname => (hfiles.names_of_entry hfiles.here name hname).1) q

/-- **In an `IsTree`, `canonicalOrNew?` gives the path of `resolved`**, also for a file that is new. The directory of
the file is there. -/
theorem components_canonicalOrNew? {name : String} (hname : q.fileName? = some name) {c : Path}
    (h : canonicalOrNew? files q = some c) :
    c.components = .root :: (files.resolved q).map .normal ∧
      ∃ dir, files.resolved q = dir ++ [name] ∧ (files.entry? dir).isSome = true := by
  obtain ⟨dir, hdir, hresolved⟩ := Files.resolved_of_fileName? (f := files) hname
  unfold canonicalOrNew? at h
  split at h
  · -- the path is there, and so is its directory
    next c' hcanonical =>
    obtain rfl := Option.some.inj h
    obtain ⟨e, hentry⟩ := Option.isSome_iff_exists.mp (hfiles.entry?_of_canonical hcanonical)
    refine ⟨?_, files.resolved dir, hresolved, ?_⟩
    · rw [hfiles.linkless.canonical_eq hcanonical, Location.components_path (isName_of_mem_resolved hfiles q)]
    · rw [hfiles.parent (hresolved ▸ hentry)]
      rfl
  · rw [hdir, hname, Option.getD_some, Option.getD_some] at h
    split at h
    · -- the path is not there yet, but its directory is
      next c' hcanonical =>
      obtain rfl := Option.some.inj h
      refine ⟨?_, files.resolved dir, hresolved, hfiles.entry?_of_canonical hcanonical⟩
      rw [Path.components_join _ (isName_of_fileName? hname), hfiles.linkless.canonical_eq hcanonical,
        Location.components_path (isName_of_mem_resolved hfiles dir), hresolved, List.map_append]
      rfl
    · cases h

/-- `withinRoutes?` gives names below the routes directory as `resolved` does, as far as the path does not stray. When
it finds them by the files, these are `Present`. -/
theorem exists_of_withinRoutes? (hname : path.fileName? = some p.endpointFile) (hstays : ¬p.Strays path)
    {relative : Path} (h : p.withinRoutes? files path = some relative) :
    ∃ names, (∀ name ∈ names, Path.IsName name) ∧ relative = Path.ofComponents (names.map .normal) ∧
      files.resolved (p.absolute path) = files.resolved p.routesDir ++ names ∧
      (p.IsShown path ∨ files.holds p.routesDir.withoutDots = true ∧
        ∃ dir, files.resolved (p.absolute path) = dir ++ [p.endpointFile] ∧ (files.entry? dir).isSome = true) := by
  unfold withinRoutes? at h
  dsimp only at h
  split at h
  · -- by the names in the paths
    next found hwithin =>
    obtain rfl := Option.some.inj h
    obtain ⟨rest, hrest, rfl⟩ := Path.components_of_within? hwithin
    have hforward : .parent ∉ rest ∧ .root ∉ rest := not_or.mp fun hback => hstays ⟨rest, hrest, hback⟩
    have hplain : ∀ c ∈ rest, Path.IsPlain c := fun c hc =>
      Path.isPlain_of_mem_withoutDots (hrest ▸ List.mem_append_right _ hc) fun hroot => hforward.2 (hroot ▸ hc)
    obtain ⟨names, hnames, rfl⟩ := Path.exists_names_of_plain hplain hforward.1
    exact ⟨names, hnames, rfl, Files.resolved_of_components hrest, .inl (Option.isSome_iff_exists.mpr ⟨_, hwithin⟩)⟩
  · -- by where they lead
    split at h
    · cases h
    next routes hroutes =>
    obtain ⟨c, hc, hwithin⟩ := Option.bind_eq_some_iff.mp h
    obtain ⟨rest, hrest, rfl⟩ := Path.components_of_within? hwithin
    have hjoined : (p.absolute path).fileName? = some p.endpointFile := Path.fileName?_join p.root hname
    obtain ⟨hcomponents, dir, hdir, hthere⟩ := components_canonicalOrNew? hfiles (Path.fileName?_withoutDots hjoined) hc
    rw [hcomponents, hfiles.linkless.canonical_eq hroutes, Location.components_path (isName_of_mem_resolved hfiles _),
      List.cons_append, Files.resolved_withoutDots, Files.resolved_withoutDots] at hrest
    rw [Files.resolved_withoutDots] at hdir
    obtain ⟨front, names, hlocation, hfront, rfl⟩ := List.map_eq_append_iff.mp (List.cons.inj hrest).2
    obtain rfl := Path.map_normal_inj hfront
    have hholds := Files.holds_iff_canonical.mpr ⟨routes, hroutes⟩
    refine ⟨names, fun name hmem => ?_, rfl, hlocation, .inr ⟨hholds, dir, hdir, hthere⟩⟩
    exact isName_of_mem_resolved hfiles _ name (hlocation ▸ List.mem_append_right _ hmem)

/-- **A path with a `routeId?` that does not stray** is `resolved` below the routes directory, and `routeId?` is
`patternOfNames` of the directories down to it. -/
theorem exists_names_of_routeId? (hstays : ¬p.Strays path) (h : p.routeId? files path = some id) :
    ∃ names, (∀ name ∈ names ++ [p.endpointFile], Path.IsName name) ∧
      files.resolved (p.absolute path) = files.resolved p.routesDir ++ (names ++ [p.endpointFile]) ∧
      id = patternOfNames names ∧ (p.IsShown path ∨ p.Present files names) := by
  unfold routeId? at h
  split at h
  case isFalse => cases h
  next hname =>
  obtain ⟨dir, hdir, rfl⟩ := Option.map_eq_some_iff.mp h
  obtain ⟨relative, hwithin, hparent⟩ := Option.bind_eq_some_iff.mp hdir
  obtain ⟨names, hnames, rfl, hlocation, hseen⟩ := exists_of_withinRoutes? hfiles hname hstays hwithin
  rcases names.eq_nil_or_concat with rfl | ⟨front, last, rfl⟩
  · -- nothing is above the routes directory itself
    cases hparent
  rw [List.concat_eq_append] at *
  have hends : ∀ above, files.resolved (p.absolute path) = above ++ [p.endpointFile] →
      files.resolved p.routesDir ++ front = above ∧ last = p.endpointFile := by
    intro above habove
    rw [hlocation, ← List.append_assoc] at habove
    obtain ⟨hfront, hlast⟩ := List.append_inj' habove rfl
    exact ⟨hfront, List.singleton_inj.mp hlast⟩
  obtain ⟨above, -, habove⟩ := Files.resolved_of_fileName? (f := files) (Path.fileName?_join p.root hname)
  obtain ⟨-, rfl⟩ := hends _ habove
  have hpattern := map_patternOf_parent? hnames
  rw [hparent] at hpattern
  refine ⟨front, hnames, hlocation, Option.some.inj hpattern, hseen.imp_right ?_⟩
  rintro ⟨hholds, above, habove, hthere⟩
  exact ⟨hholds, (hends above habove).1 ▸ hthere⟩

/-! ## The path of a place -/

variable (husable : files.Usable)
include husable

/-- `canonicalOrNew?` gives a path when the directory of the file is there. -/
theorem exists_canonicalOrNew? {dir : Location} {name : String} (hnames : ∀ n ∈ dir ++ [name], Path.IsName n)
    (h : (files.entry? dir).isSome = true) : ∃ c, canonicalOrNew? files (Location.path (dir ++ [name])) = some c := by
  obtain ⟨e, hentry⟩ := Option.isSome_iff_exists.mp h
  rw [canonicalOrNew?]
  cases files.canonical (Location.path (dir ++ [name])) with
  | ok c => exact ⟨c, rfl⟩
  | error why =>
    dsimp only
    rw [Location.parent?_path hnames, Option.getD_some, hfiles.canonical_path husable hentry]
    exact ⟨_, rfl⟩

/-- **The `routeId?` of a place below the routes directory** is `patternOfNames names`, if the routes directory is
written without `..`, or the directories are `Present`. -/
theorem routeId?_path (hnames : ∀ name ∈ names ++ [p.endpointFile], Path.IsName name) {l : Location}
    (hl : l = files.resolved p.routesDir ++ (names ++ [p.endpointFile]))
    (hroutes : p.routesDir.isAbsolute = true ∧ .parent ∉ p.routesDir.components ∨ p.Present files names) :
    p.routeId? files l.path = some (patternOfNames names) := by
  have hlocation : ∀ name ∈ l, Path.IsName name := by
    rw [hl]
    exact List.forall_mem_append.mpr ⟨isName_of_mem_resolved hfiles _, hnames⟩
  have hcomponents : l.path.withoutDots.components = .root :: l.map .normal := by
    rw [Location.withoutDots_path hlocation, Location.components_path hlocation]
  have habsolute := absolute_of_isAbsolute (p := p) (Location.isAbsolute_path l)
  have hname : l.path.fileName? = some p.endpointFile := by
    refine Path.fileName?_eq_some_iff.mpr ⟨.root :: (files.resolved p.routesDir ++ names).map .normal, ?_⟩
    rw [hcomponents, hl, ← List.append_assoc, List.map_append, List.cons_append]
    rfl
  by_cases hforward : p.routesDir.isAbsolute = true ∧ .parent ∉ p.routesDir.components
  · refine routeId?_of_components files hname ?_ hnames
    rw [habsolute, hcomponents, Files.components_of_forward files hforward.1 hforward.2, hl, List.map_append,
      List.cons_append]
  · obtain ⟨hholds, hthere⟩ := hroutes.resolve_left hforward
    -- the routes directory is not at the front of the path, as this has no `..`
    have hnone : l.path.withoutDots.within? p.routesDir.withoutDots = none := by
      cases hwithin : l.path.withoutDots.within? p.routesDir.withoutDots with
      | none => rfl
      | some relative =>
        obtain ⟨rest, hrest, -⟩ := Path.components_of_within? hwithin
        rw [hcomponents] at hrest
        exact absurd (Files.forward_of_components hholds hrest) hforward
    obtain ⟨routes, hcanonical⟩ := Files.holds_iff_canonical.mp hholds
    obtain ⟨c, hc⟩ : ∃ c, canonicalOrNew? files l.path = some c := by
      rw [hl, ← List.append_assoc] at hlocation ⊢
      exact exists_canonicalOrNew? hfiles husable hlocation hthere
    have hwithin : p.withinRoutes? files l.path = some (Path.ofComponents ((names ++ [p.endpointFile]).map .normal)) := by
      have hbelow : c.components = routes.components ++ (names ++ [p.endpointFile]).map .normal := by
        rw [(components_canonicalOrNew? hfiles hname hc).1, Location.resolved_path files hlocation,
          hfiles.linkless.canonical_eq hcanonical, Location.components_path (isName_of_mem_resolved hfiles _),
          Files.resolved_withoutDots, hl, List.map_append, List.cons_append]
      unfold withinRoutes?
      dsimp only
      rw [habsolute, hnone, hcanonical, Location.withoutDots_path hlocation]
      dsimp only
      rw [hc, Option.bind_some, Path.within?_eq_some hbelow]
    rw [routeId?, if_pos hname, hwithin, Option.bind_some, map_patternOf_parent? hnames]

/-- **An endpoint file has the `routeId?` of where it is.** In a tree without links, and unless its path `Strays`, it is
`resolved` below the routes directory, and its `routeId?` is `patternOfNames` of the directories down to it. The path of
that place has the same `routeId?`, if the routes directory is written without `..`, or the path not `IsShown`, or the
directories are `Present`. -/
theorem routeId?_resolved (hstays : ¬p.Strays path) (h : p.routeId? files path = some id) :
    ∃ names, (∀ name ∈ names, Path.IsName name) ∧
      files.resolved (p.absolute path) = files.resolved p.routesDir ++ (names ++ [p.endpointFile]) ∧
      id = patternOfNames names ∧
      (p.routesDir.isAbsolute = true ∧ .parent ∉ p.routesDir.components ∨ ¬p.IsShown path ∨ p.Present files names →
        p.routeId? files (Location.path (files.resolved (p.absolute path))) = some id) := by
  obtain ⟨names, hnames, hlocation, rfl, hseen⟩ := exists_names_of_routeId? hfiles hstays h
  refine ⟨names, (List.forall_mem_append.mp hnames).1, hlocation, rfl, fun hroutes => ?_⟩
  refine routeId?_path hfiles husable hnames hlocation ?_
  rcases hroutes with hforward | hhidden | hpresent
  · exact .inl hforward
  · exact .inr (hseen.resolve_left hhidden)
  · exact .inr hpresent

end

/-! ## Paths with `..` -/

/-- A project with an endpoint file, and another directory beside the routes directory. -/
def appFiles : Files :=
  ⟨[(["app"], .directory), (["app", "src"], .directory), (["app", "src", "lib"], .directory),
    (["app", "src", "routes"], .directory), (["app", "src", "routes", "a"], .directory),
    (["app", "src", "routes", "a", "server.rs"], .text "pub fn GET() {}")], []⟩

theorem isTree_appFiles : appFiles.IsTree ∧ appFiles.Usable := by
  have hname : ∀ name ∈ ["app", "src", "lib", "routes", "a", "server.rs"], Path.IsName name := by decide
  have hlooks : ∀ name ∈ ["app", "src", "lib", "routes", "a", "server.rs"], name ≠ "" ∧ name ≠ "." ∧ name ≠ ".." ∧
      name.utf8ByteSize ≤ Files.maxNameBytes := by decide
  have hlocations : ∀ e ∈ appFiles.entries, ∀ name ∈ e.1, name ∈ ["app", "src", "lib", "routes", "a", "server.rs"] := by
    decide
  refine ⟨⟨by decide, fun e he name hmem => ?_, by decide, ?_, ?_, rfl⟩, fun l e h => ?_⟩
  · have hlisted := hlocations e he name hmem
    obtain ⟨hempty, hdot, hdots, hsize⟩ := hlooks name hlisted
    exact ⟨hname name hlisted, hempty, hdot, hdots, hsize⟩
  · simp [appFiles, Files.entry?]
  · simp [appFiles]
  · by_cases hl : l = []
    · rw [hl]
      rfl
    · have husable : ∀ e ∈ appFiles.entries, (Location.path e.1).isUnusable = false := by decide
      exact husable (l, e) (Files.mem_entries_of_entry h hl)

theorem locate_appFiles :
    appFiles.locate true ⟨"/app/src/routes"⟩ = .ok (.found ["app", "src", "routes"] .directory) ∧
      appFiles.locate true ⟨"/app/src/lib/../routes/a/server.rs"⟩ =
        .ok (.found ["app", "src", "routes", "a", "server.rs"] (.text "pub fn GET() {}")) := by
  have hsizes : "app".utf8ByteSize = 3 ∧ "src".utf8ByteSize = 3 ∧ "lib".utf8ByteSize = 3 ∧
      "routes".utf8ByteSize = 6 ∧ "a".utf8ByteSize = 1 ∧ "server.rs".utf8ByteSize = 9 := by decide
  have hroutes : (Path.mk "/app/src/routes").names = ["", "app", "src", "routes"] := rfl
  have hserver : (Path.mk "/app/src/lib/../routes/a/server.rs").names =
      ["", "app", "src", "lib", "..", "routes", "a", "server.rs"] := rfl
  constructor
  · rw [Files.locate, if_neg (by decide), if_neg (by decide +kernel), hroutes]
    simp [Files.start, Path.isAbsolute, Files.walk, Files.entry?, appFiles, Files.maxNameBytes, hsizes]
  · rw [Files.locate, if_neg (by decide), if_neg (by decide +kernel), hserver]
    simp [Files.start, Path.isAbsolute, Files.walk, Files.entry?, appFiles, Files.maxNameBytes, hsizes]

/-- The `routeId?` of a path that goes back before it comes to the routes directory. -/
theorem routeId?_upward :
    app.routeId? appFiles ⟨"/app/src/lib/../routes/a/server.rs"⟩ = some "/a" ∧
      ¬app.Strays ⟨"/app/src/lib/../routes/a/server.rs"⟩ ∧
      app.routeId? appFiles ⟨"/app/src/routes/a/server.rs"⟩ = some "/a" := by
  have hroutes : app.routesDir.withoutDots = ⟨"/app/src/routes"⟩ := by decide +kernel
  -- by its text the path is not below the routes directory, but it leads there
  have habsolute : (app.absolute ⟨"/app/src/lib/../routes/a/server.rs"⟩).withoutDots =
      ⟨"/app/src/lib/../routes/a/server.rs"⟩ := by decide +kernel
  have hnone : Path.within? ⟨"/app/src/lib/../routes/a/server.rs"⟩ ⟨"/app/src/routes"⟩ = none := by decide +kernel
  have hid : app.routeId? appFiles ⟨"/app/src/lib/../routes/a/server.rs"⟩ = some "/a" := by
    have hwithin : app.withinRoutes? appFiles ⟨"/app/src/lib/../routes/a/server.rs"⟩ = some ⟨"a/server.rs"⟩ := by
      unfold withinRoutes? canonicalOrNew? Files.canonical
      dsimp only
      rw [hroutes, habsolute, hnone, locate_appFiles.1, locate_appFiles.2]
      decide +kernel
    rw [routeId?, if_pos (by decide +kernel), hwithin]
    decide +kernel
  have hstays : ¬app.Strays ⟨"/app/src/lib/../routes/a/server.rs"⟩ := by
    rintro ⟨rest, hrest, -⟩
    have hsome := Path.within?_eq_some hrest
    rw [hroutes, habsolute, hnone] at hsome
    cases hsome
  obtain ⟨names, -, -, -, hpath⟩ := routeId?_resolved isTree_appFiles.1 isTree_appFiles.2 hstays hid
  have hresolved : Location.path (appFiles.resolved (app.absolute ⟨"/app/src/lib/../routes/a/server.rs"⟩)) =
      ⟨"/app/src/routes/a/server.rs"⟩ := by decide +kernel
  exact ⟨hid, hstays, hresolved ▸ hpath (.inl ⟨by decide +kernel, by decide +kernel⟩)⟩

/-- **An endpoint file outside of the routes directory**: its path goes back from there, and its `routeId?` is that of
the names behind. -/
theorem routeId?_strayed :
    appFiles.IsTree ∧ appFiles.Usable ∧ app.routeId? appFiles ⟨"/app/src/routes/../lib/server.rs"⟩ = some "/lib" ∧
      appFiles.resolved app.routesDir = ["app", "src", "routes"] ∧
      appFiles.resolved (app.absolute ⟨"/app/src/routes/../lib/server.rs"⟩) = ["app", "src", "lib", "server.rs"] :=
  ⟨isTree_appFiles.1, isTree_appFiles.2, by decide +kernel, by decide +kernel, by decide +kernel⟩

end Project

end RouteContracts
