import RouteContracts.Proofs.Path.Spelling
import RouteContracts.Proofs.Project.Discovery
import RouteContracts.Proofs.Text.Utf8

/-! # The routing convention
The directories below the routes directory are the URL pattern of the endpoint file in them, and the place of its
companion file. This is so however the path of the file is written, and no two endpoint files share their companion
file.

* `Project.patternOfNames`: the pattern of directories. `Project.patternOfNames_inj`: **patterns tell directories
  apart** that are no groups.
* `Project.LiesAt`: where the routes directory lies below the root. `Project.Spells`: the ways to write the path of an
  endpoint file.
* `Project.routeId?_spelled`: **the convention.** `Project.routeId?_members`: two files of a project.
* `Project.routeId?_dots`: names that are none. -/

namespace RouteContracts

namespace Project

variable {files : Files} {p : Project} {names names' : List String} {path : Path} {rel : List Component}

/-! ## Patterns of directories -/

/-- **The URL pattern of directories below each other**: their names, but for groups, with slashes for backslashes. -/
def patternOfNames (names : List String) : String :=
  "/" ++ "/".intercalate ((names.map fun name => name.map fun c => if c = '\\' then '/' else c).filter
    fun s => !isGroup s)

/-- The part of a name that is UTF-8 is the name itself, with `'/'` for `'\\'`. -/
@[simp] theorem segment?_normal (name : String) :
    segment? (.normal name) = some (name.map fun c => if c = '\\' then '/' else c) := by
  rw [segment?, segmentOfBytes, Utf8.decodeLossy_encode]

theorem patternOf_eq {dir : Path} (h : dir.withoutDots.components = names.map .normal) :
    patternOf dir = patternOfNames names := by
  rw [patternOf, ← Path.filterMap_withoutDots rfl dir, h, List.filterMap_map]
  have hsegments : names.filterMap (segment? ∘ .normal) =
      names.map fun name => name.map fun c => if c = '\\' then '/' else c := by
    rw [← List.filterMap_eq_map]
    exact List.filterMap_congr fun name _ => segment?_normal name
  rw [hsegments, patternOfNames]

/-- `patternOf` of the `parent?` of a file below `names` is `patternOfNames names`. -/
theorem map_patternOf_parent? {name : String} (h : ∀ n ∈ names ++ [name], Path.IsName n) :
    (Path.ofComponents ((names ++ [name]).map .normal)).parent?.map patternOf = some (patternOfNames names) := by
  have hwritten := (Path.withoutDots_ofComponents (Path.isPlain_names h)).1
  rw [List.map_append] at hwritten
  obtain ⟨dir, hdir, hcomponents⟩ := Path.exists_parent? (Path.fileName?_eq_some_iff.mpr ⟨_, hwritten⟩)
  rw [hwritten] at hcomponents
  have hnames : dir.withoutDots.components = names.map .normal := (List.append_cancel_right hcomponents).symm
  rw [List.map_append]
  exact (congrArg (Option.map patternOf) hdir).trans (congrArg some (patternOf_eq hnames))

theorem patternOfNames_plain (h : ∀ name ∈ names, isGroup name = false ∧ '\\' ∉ name.toList) :
    patternOfNames names = "/" ++ "/".intercalate names := by
  have hslashes : (names.map fun name => name.map fun c => if c = '\\' then '/' else c) = names := by
    refine (List.map_congr_left fun name hname => ?_).trans (List.map_id names)
    have hchars : name.toList.map (fun c => if c = '\\' then '/' else c) = name.toList := by
      refine (List.map_congr_left fun c hc => if_neg ?_).trans (List.map_id name.toList)
      rintro rfl
      exact (h name hname).2 hc
    exact String.toList_inj.mp ((String.toList_map ..).trans hchars)
  rw [patternOfNames, hslashes, List.filter_eq_self.mpr fun name hname => by rw [(h name hname).1]; rfl]

/-- **`patternOfNames` is injective** on names that are no groups and have no backslashes. -/
theorem patternOfNames_inj (hnames : ∀ name ∈ names, Path.IsName name) (hnames' : ∀ name ∈ names', Path.IsName name)
    (h : ∀ name ∈ names, isGroup name = false ∧ '\\' ∉ name.toList)
    (h' : ∀ name ∈ names', isGroup name = false ∧ '\\' ∉ name.toList)
    (heq : patternOfNames names = patternOfNames names') : names = names' := by
  have hwritten : ∀ names : List String, Path.ofComponents (names.map .normal) = ⟨"/".intercalate names⟩ := by
    intro names
    cases names with
    | nil => rfl
    | cons name names =>
      exact congrArg (fun texts => Path.mk ("/".intercalate texts)) (Path.map_text_names (name :: names))
  rw [patternOfNames_plain h, patternOfNames_plain h'] at heq
  -- the pattern is the text of a path, and the path gives the names back
  have htext : "/".intercalate names = "/".intercalate names' := by
    have hchars := congrArg String.toList heq
    rw [String.toList_append, String.toList_append] at hchars
    exact String.toList_inj.mp (List.append_cancel_left hchars)
  have hcomponents : names.map Component.normal = names'.map Component.normal := by
    rw [← Path.components_ofComponents (Path.isPlain_names hnames), hwritten, htext, ← hwritten,
      Path.components_ofComponents (Path.isPlain_names hnames')]
  exact Path.map_normal_inj hcomponents

/-! ## Ways to write the path of an endpoint file -/

/-- **The routes directory lies below the root**, so many components down. -/
structure LiesAt (p : Project) (rel : List Component) : Prop where
  relative : .root ∉ rel
  components : p.routesDir.withoutDots.components = p.root.withoutDots.components ++ rel

/-- **A way to write the path of the endpoint file** in a directory below the routes directory, absolute or seen from
the root. Dots can stand anywhere. -/
def Spells (p : Project) (rel : List Component) (names : List String) (path : Path) : Prop :=
  path.isAbsolute = true ∧ path.withoutDots.components =
      p.routesDir.withoutDots.components ++ (names ++ [p.endpointFile]).map .normal ∨
    path.isAbsolute = false ∧ path.withoutDots.components = rel ++ (names ++ [p.endpointFile]).map .normal

theorem Spells.fileName? (h : p.Spells rel names path) : path.fileName? = some p.endpointFile := by
  refine Path.fileName?_eq_some_iff.mpr ?_
  rcases h with ⟨-, h⟩ | ⟨-, h⟩ <;> rw [h, List.map_append, ← List.append_assoc] <;> exact ⟨_, rfl⟩

theorem absolute_of_isAbsolute (h : path.isAbsolute = true) : p.absolute path = path := by
  rw [absolute, Path.join, if_pos h]

/-- **However it `Spells` the path**, the file is at one place below the routes directory. -/
theorem Spells.components (h : p.Spells rel names path) (hrel : p.LiesAt rel) :
    (p.absolute path).withoutDots.components =
      p.routesDir.withoutDots.components ++ (names ++ [p.endpointFile]).map .normal := by
  rcases h with ⟨habsolute, h⟩ | ⟨hrelative, h⟩
  · rw [absolute_of_isAbsolute habsolute, h]
  · rw [absolute, Path.components_withoutDots_join _ hrelative, h, hrel.components, List.append_assoc]

/-! ## The convention -/

/-- **The `routeId?` of an endpoint file below the routes directory** is `patternOfNames names`. -/
theorem routeId?_of_components (files : Files) (hname : path.fileName? = some p.endpointFile)
    (h : (p.absolute path).withoutDots.components =
      p.routesDir.withoutDots.components ++ (names ++ [p.endpointFile]).map .normal)
    (hnames : ∀ name ∈ names ++ [p.endpointFile], Path.IsName name) :
    p.routeId? files path = some (patternOfNames names) := by
  have hwithin : p.withinRoutes? files path =
      some (Path.ofComponents ((names ++ [p.endpointFile]).map .normal)) := by
    unfold withinRoutes?
    dsimp only
    rw [Path.within?_eq_some h]
  rw [routeId?, if_pos hname, hwithin, Option.bind_some, map_patternOf_parent? hnames]

/-- **The `companion?` of an endpoint file below the routes directory** is `p.typesFile` in the directory of the same
names below `p.typesDir`. -/
theorem exists_companion? (files : Files) (hrel : p.LiesAt rel)
    (h : (p.absolute path).withoutDots.components =
      p.routesDir.withoutDots.components ++ (names ++ [p.endpointFile]).map .normal)
    (hnames : ∀ name ∈ names, Path.IsName name) :
    ∃ dir : Path, p.companion? files path = some (dir.join ⟨p.typesFile⟩) ∧
      dir.withoutDots.components = p.typesDir.withoutDots.components ++ rel ++ names.map .normal := by
  rw [List.map_append, ← List.append_assoc] at h
  obtain ⟨dir, hdir, hcomponents⟩ := Path.exists_parent? (Path.fileName?_eq_some_iff.mpr ⟨_, h⟩)
  rw [h] at hcomponents
  have hbelow : dir.withoutDots.components = p.root.withoutDots.components ++ (rel ++ names.map .normal) := by
    rw [← List.append_assoc, ← hrel.components]
    exact (List.append_cancel_right hcomponents).symm
  have hplain : ∀ c ∈ rel ++ names.map .normal, Path.IsPlain c := by
    refine List.forall_mem_append.mpr ⟨fun c hc => ?_, Path.isPlain_names hnames⟩
    refine Path.isPlain_of_mem_withoutDots (p := p.routesDir) ?_ fun hroot => hrel.relative (hroot ▸ hc)
    rw [hrel.components]
    exact List.mem_append_right _ hc
  obtain ⟨hwritten, hrelative⟩ := Path.withoutDots_ofComponents hplain
  refine ⟨p.typesDir.join (Path.ofComponents (rel ++ names.map .normal)), ?_, ?_⟩
  · rw [companion?, hdir, Option.bind_eq_bind, Option.bind_some, Path.within?_eq_some hbelow]
    rfl
  · rw [Path.components_withoutDots_join _ hrelative, hwritten, List.append_assoc]

/-- **The routing convention.** The endpoint file in the directories `names` below the routes directory has the
`routeId?` `patternOfNames names`, and its `companion?` is `p.typesFile` in the directories `rel ++ names` below
`p.typesDir`, however its path is written (`Spells`). Files with different `names` have different companion files, and
different patterns if no name is a group or has a backslash. All names are UTF-8, as is every name in a `Path`. -/
theorem routeId?_spelled (files : Files) (hname : Path.IsName p.endpointFile) (hrel : p.LiesAt rel) :
    (∀ names path, (∀ name ∈ names, Path.IsName name) → p.Spells rel names path →
      p.routeId? files path = some (patternOfNames names) ∧
      ∃ dir : Path, p.companion? files path = some (dir.join ⟨p.typesFile⟩) ∧
        dir.withoutDots.components = p.typesDir.withoutDots.components ++ rel ++ names.map .normal) ∧
    ∀ names names' path path', (∀ name ∈ names, Path.IsName name) → (∀ name ∈ names', Path.IsName name) →
      p.Spells rel names path → p.Spells rel names' path' → names ≠ names' →
      ((Path.mk p.typesFile).isAbsolute = false → ∃ companion companion' : Path,
        p.companion? files path = some companion ∧ p.companion? files path' = some companion' ∧
          companion.same companion' = false) ∧
      ((∀ name ∈ names ++ names', isGroup name = false ∧ '\\' ∉ name.toList) →
        p.routeId? files path ≠ p.routeId? files path') := by
  have hroute : ∀ names path, (∀ name ∈ names, Path.IsName name) → p.Spells rel names path →
      p.routeId? files path = some (patternOfNames names) := fun names path hnames hspells =>
    routeId?_of_components files hspells.fileName? (hspells.components hrel)
      (List.forall_mem_append.mpr ⟨hnames, List.forall_mem_singleton.mpr hname⟩)
  refine ⟨fun names path hnames hspells => ⟨hroute names path hnames hspells,
    exists_companion? files hrel (hspells.components hrel) hnames⟩, ?_⟩
  intro names names' path path' hnames hnames' hspells hspells' hne
  constructor
  · -- equal places of the companion files would make the names equal
    intro htypes
    obtain ⟨dir, hdir, hcomponents⟩ := exists_companion? files hrel (hspells.components hrel) hnames
    obtain ⟨dir', hdir', hcomponents'⟩ := exists_companion? files hrel (hspells'.components hrel) hnames'
    refine ⟨_, _, hdir, hdir', Bool.eq_false_iff.mpr fun hsame => hne ?_⟩
    have hwithout : (dir.join ⟨p.typesFile⟩).withoutDots.components =
        (dir'.join ⟨p.typesFile⟩).withoutDots.components := by
      rw [Path.components_withoutDots, Path.components_withoutDots, Path.same_iff.mp hsame]
    rw [Path.components_withoutDots_join _ htypes, Path.components_withoutDots_join _ htypes, hcomponents,
      hcomponents'] at hwithout
    exact Path.map_normal_inj (List.append_cancel_left (List.append_cancel_right hwithout))
  · -- plain names can be read off the pattern
    intro hplain heq
    rw [hroute names path hnames hspells, hroute names' path' hnames' hspells'] at heq
    obtain ⟨h, h'⟩ := List.forall_mem_append.mp hplain
    exact hne (patternOfNames_inj hnames hnames' h h' (Option.some.inj heq))

/-! ## Two endpoint files -/

/-- A project with nothing set but its root. -/
def app : Project := ofConfig ⟨"/"⟩ (Config.forRoot ⟨"/app"⟩)

/-- The routes directory of `app`, below its root. -/
def appRoutes : List Component := [.normal "src", .normal "routes"]

theorem liesAt_app : app.LiesAt appRoutes := ⟨by decide, by decide +kernel⟩

/-- Two endpoint files of `app`, one seen from the root and both written with dots. -/
theorem routeId?_members :
    app.Spells appRoutes ["users", "[id]"] ⟨"./src/routes//users/./[id]/server.rs"⟩ ∧
      app.Spells appRoutes ["(admin)", "stats"] ⟨"/app/./src/routes/(admin)/stats/server.rs/."⟩ ∧
      app.routeId? ⟨[], []⟩ ⟨"./src/routes//users/./[id]/server.rs"⟩ = some "/users/[id]" ∧
      app.routeId? ⟨[], []⟩ ⟨"/app/./src/routes/(admin)/stats/server.rs/."⟩ = some "/stats" ∧
      ∃ companion companion',
        app.companion? ⟨[], []⟩ ⟨"./src/routes//users/./[id]/server.rs"⟩ = some companion ∧
        app.companion? ⟨[], []⟩ ⟨"/app/./src/routes/(admin)/stats/server.rs/."⟩ = some companion' ∧
        companion.same companion' = false := by
  have hnames : ∀ name ∈ ["users", "[id]"], Path.IsName name := by decide
  have hnames' : ∀ name ∈ ["(admin)", "stats"], Path.IsName name := by decide
  have hspells : app.Spells appRoutes ["users", "[id]"] ⟨"./src/routes//users/./[id]/server.rs"⟩ :=
    .inr ⟨by decide +kernel, by decide +kernel⟩
  have hspells' : app.Spells appRoutes ["(admin)", "stats"] ⟨"/app/./src/routes/(admin)/stats/server.rs/."⟩ :=
    .inl ⟨by decide +kernel, by decide +kernel⟩
  obtain ⟨hroute, hdistinct⟩ := routeId?_spelled ⟨[], []⟩ (by decide : Path.IsName app.endpointFile) liesAt_app
  obtain ⟨hcompanions, -⟩ := hdistinct _ _ _ _ hnames hnames' hspells hspells' (by decide)
  have hpattern : patternOfNames ["users", "[id]"] = "/users/[id]" := by decide +kernel
  have hpattern' : patternOfNames ["(admin)", "stats"] = "/stats" := by decide +kernel
  exact ⟨hspells, hspells', hpattern ▸ (hroute _ _ hnames hspells).1, hpattern' ▸ (hroute _ _ hnames' hspells').1,
    hcompanions (by decide +kernel)⟩

/-- **Names that are none.** No file has the name `..`, which the settings may give to endpoint files, an absolute
name of companion files is that of all of them, and names that are no UTF-8 can have one `segmentOfBytes`. -/
theorem routeId?_dots :
    (∃ c : Config, c.check = .ok () ∧ (ofConfig ⟨"/"⟩ c).LiesAt appRoutes ∧
      (ofConfig ⟨"/"⟩ c).routeId? ⟨[], []⟩ ((ofConfig ⟨"/"⟩ c).routesDir.below ["a", c.endpointFile]) = none) ∧
    (∃ (c : Config) (companion : Path), (ofConfig ⟨"/"⟩ c).LiesAt appRoutes ∧
      (ofConfig ⟨"/"⟩ c).companion? ⟨[], []⟩ ((ofConfig ⟨"/"⟩ c).routesDir.below ["a", c.endpointFile]) =
        some companion ∧
      (ofConfig ⟨"/"⟩ c).companion? ⟨[], []⟩ ((ofConfig ⟨"/"⟩ c).routesDir.below ["b", c.endpointFile]) =
        some companion) ∧
    segmentOfBytes [0xFE] = segmentOfBytes [0xFF] := by
  refine ⟨⟨{ Config.forRoot ⟨"/app"⟩ with endpointFile := ".." }, rfl, ⟨by decide, ?_⟩, by decide +kernel⟩,
    ⟨{ Config.forRoot ⟨"/app"⟩ with typesFile := "/x" }, ⟨"/x"⟩, ⟨by decide, ?_⟩, by decide +kernel, by decide +kernel⟩,
    by decide +kernel⟩
  · exact liesAt_app.components
  · exact liesAt_app.components

end Project

end RouteContracts
