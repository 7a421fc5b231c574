import RouteContracts.Analysis.Project
import RouteContracts.Proofs.Path.Components

/-! # Discovered files
What discovery gives, and what can be said of it without looking at the files again.

* `Files.Proper`: every name in a tree of files is one.
* `Project.IsDiscoverable`: **the paths that discovery can give**, in whatever files. Two of them with equal
  components are the same.
* `Project.routeId?_eq`, `Project.companion?_eq`: the URL pattern and the companion file of such a path do not
  depend on the files.
* `Project.routeId?_absolute`, `Project.routeId?_congr`: one pattern for all the ways to write an absolute path.
* `Project.outcome_congr`: its analysis depends on what is read at the path and at its companion file. -/

namespace RouteContracts

/-! ## Paths below a directory -/

namespace Path

/-- The path that leads down from a directory along names. -/
def below (dir : Path) (names : List String) : Path := names.foldl (fun q name => q.join ⟨name⟩) dir

theorem components_below (dir : Path) {names : List String} (h : ∀ name ∈ names, IsName name) :
    (dir.below names).components = dir.components ++ names.map .normal := by
  induction names generalizing dir with
  | nil => exact (List.append_nil _).symm
  | cons name names ih =>
    have hrest : ∀ n ∈ names, IsName n := fun n hn => h n (List.mem_cons_of_mem name hn)
    rw [below, List.foldl_cons]
    exact (ih (dir.join ⟨name⟩) hrest).trans (by
      rw [components_join dir (h name List.mem_cons_self), List.append_assoc, List.map_cons,
        List.singleton_append])

/-- `dir.below` is injective on lists of names, by `same`. -/
theorem below_inj {dir : Path} {names names' : List String} (h : ∀ name ∈ names, IsName name)
    (h' : ∀ name ∈ names', IsName name) (hsame : (dir.below names).same (dir.below names') = true) :
    names = names' := by
  rw [same_iff, components_below dir h, components_below dir h'] at hsame
  exact List.map_injective_iff.mpr (fun _ _ => Component.normal.inj) (List.append_cancel_left hsame)

theorem isAbsolute_join {q : Path} (hq : q.isAbsolute = true) (r : Path) : (q.join r).isAbsolute = true := by
  obtain ⟨s, hs⟩ : ∃ s, q.text.toList = '/' :: s := by
    cases hs : q.text.toList with
    | nil => simp [isAbsolute, hs] at hq
    | cons c s => exact ⟨s, by simp_all [isAbsolute]⟩
  have hne : q.text.isEmpty = false := by
    rw [Bool.eq_false_iff]
    intro h
    simp [String.isEmpty_iff.mp h] at hs
  unfold join
  split
  · assumption
  · rw [if_neg (by simp [hne])]
    split <;> simp [isAbsolute, hs]

theorem isAbsolute_below {dir : Path} (hdir : dir.isAbsolute = true) (names : List String) :
    (dir.below names).isAbsolute = true := by
  induction names generalizing dir with
  | nil => exact hdir
  | cons name names ih => exact ih (isAbsolute_join hdir ⟨name⟩)

/-- `p.absolute here` is absolute unless `p` is empty. -/
theorem isAbsolute_absolute {p here : Path} (hhere : here.isAbsolute = true) (hp : p.text.isEmpty = false) :
    (p.absolute here).isAbsolute = true := by
  -- what is joined to an absolute path is below it or absolute itself
  have hfold : ∀ (cs : List Component) (start : Path), start.isAbsolute = true →
      (cs.foldl (fun q c => q.join ⟨c.text⟩) start).isAbsolute = true := by
    intro cs
    induction cs with
    | nil => exact fun _ h => h
    | cons c cs ih => exact fun start h => ih _ (isAbsolute_join h _)
  unfold absolute
  rw [if_neg (by simp [hp])]
  extract_lets start names whole
  have hstart : start.isAbsolute = true := by
    unfold start
    split
    · exact hhere
    · split
      · split <;> rfl
      · rfl
  have hwhole : whole.isAbsolute = true := hfold names start hstart
  split
  · exact isAbsolute_join hwhole ⟨""⟩
  · exact hwhole

end Path

/-! ## Discovery -/

/-- Every name in a tree of files is one. -/
def Files.Proper (f : Files) : Prop := ∀ e ∈ f.entries, ∀ name ∈ e.1, Path.IsName name

theorem Files.Proper.children {f : Files} (hf : f.Proper) {l : Location} {child : String × Entry}
    (h : child ∈ f.children l) : Path.IsName child.1 := by
  obtain ⟨e, he, hchild⟩ := List.mem_filterMap.mp h
  cases hlast : e.1.getLast? with
  | none => rw [hlast] at hchild; exact nomatch hchild
  | some name =>
    rw [hlast] at hchild
    by_cases hdir : e.1.dropLast = l
    · simp only [hdir, if_true] at hchild
      rw [← Option.some.inj hchild]
      exact hf e he name (List.mem_of_getLast? hlast)
    · simp only [hdir, if_false] at hchild
      exact nomatch hchild

/-- `Analysis.ofSource?` keeps `routeId` and `source`. -/
theorem Analysis.ofSource?_fields {routeId : String} {source : Path} {params : Option Descriptor}
    {code : String} {a : Analysis} {notices : List Notice}
    (h : ofSource? routeId source params code = some (a, notices)) :
    a.routeId = routeId ∧ a.source = source := by
  obtain ⟨file, -, h⟩ := Option.bind_eq_some_iff.mp h
  obtain ⟨rfl, -⟩ := Prod.mk.inj (Option.some.inj h)
  exact ⟨rfl, rfl⟩

namespace Project

variable {files files' : Files} {p : Project}

/-- Paths of `filesBelow` are `dir.below names`, by names of children. -/
theorem exists_of_mem_filesBelow {path : Path} :
    ∀ (depth : Nat) (above : List Location) (l : Location) (dir : Path),
      path ∈ filesBelow files depth above l dir →
      ∃ names, (∀ name ∈ names, ∃ l e, (name, e) ∈ files.children l) ∧ path = dir.below names := by
  intro depth
  induction depth with
  | zero => exact fun _ _ _ h => nomatch h
  | succ depth ih =>
    intro above l dir h
    rw [filesBelow] at h
    obtain ⟨child, hchild, h⟩ := List.mem_flatMap.mp h
    have hname : ∃ l e, (child.1, e) ∈ files.children l := ⟨l, child.2, hchild⟩
    -- a path from below the child has the child's name in front
    have hdeeper : ∀ above l, path ∈ filesBelow files depth above l (dir.join ⟨child.1⟩) →
        ∃ names, (∀ name ∈ names, ∃ l e, (name, e) ∈ files.children l) ∧ path = dir.below names := by
      intro above l h
      obtain ⟨names, hnames, rfl⟩ := ih above l _ h
      exact ⟨child.1 :: names, List.forall_mem_cons.mpr ⟨hname, hnames⟩, rfl⟩
    have hhere : path ∈ [dir.join ⟨child.1⟩] →
        ∃ names, (∀ name ∈ names, ∃ l e, (name, e) ∈ files.children l) ∧ path = dir.below names := by
      intro h
      exact ⟨[child.1], List.forall_mem_singleton.mpr hname, List.mem_singleton.mp h⟩
    dsimp only at h
    split at h
    · split at h
      · split at h
        · exact nomatch h
        · exact hdeeper _ _ h
      · exact hdeeper _ _ h
    · exact hhere h
    · exact hhere h
    · exact nomatch h

/-- Paths of `p.discover files` are `p.routesDir.below names`. -/
theorem exists_of_mem_discover {path : Path} (h : path ∈ p.discover files) :
    ∃ names, (∀ name ∈ names, ∃ l e, (name, e) ∈ files.children l) ∧ path = p.routesDir.below names := by
  have hmem : path ∈ filesAt files p.routesDir :=
    (List.mem_filter.mp (List.mem_mergeSort.mp h)).1
  unfold filesAt at hmem
  split at hmem
  · exact exists_of_mem_filesBelow _ _ _ _ hmem
  · exact ⟨[], List.forall_mem_nil _, List.mem_singleton.mp hmem⟩
  · exact ⟨[], List.forall_mem_nil _, List.mem_singleton.mp hmem⟩
  · exact nomatch hmem

/-- A path that discovery can give, in some files. -/
def IsDiscoverable (p : Project) (path : Path) : Prop := ∃ files : Files, files.Proper ∧ path ∈ p.discover files

/-- **`IsDiscoverable` paths are `p.routesDir.below names`** for some names. -/
theorem IsDiscoverable.exists_names {path : Path} (h : p.IsDiscoverable path) :
    ∃ names, (∀ name ∈ names, Path.IsName name) ∧ path = p.routesDir.below names := by
  obtain ⟨files, hf, h⟩ := h
  obtain ⟨names, hnames, rfl⟩ := exists_of_mem_discover h
  refine ⟨names, fun name hname => ?_, rfl⟩
  obtain ⟨l, e, hchild⟩ := hnames name hname
  exact hf.children hchild

/-- `IsDiscoverable` paths that are the `same` are equal. -/
theorem IsDiscoverable.eq_of_same {a b : Path} (ha : p.IsDiscoverable a) (hb : p.IsDiscoverable b)
    (h : a.same b = true) : a = b := by
  obtain ⟨names, hnames, rfl⟩ := ha.exists_names
  obtain ⟨names', hnames', rfl⟩ := hb.exists_names
  rw [Path.below_inj hnames hnames' h]

/-! ## Projects of settings -/

/-- `IsDiscoverable` paths are their own `p.absolute`. -/
def Anchored (p : Project) : Prop :=
  ∀ names, p.absolute (p.routesDir.below names) = p.routesDir.below names

/-- **`ofConfig` gives projects that are `Anchored`.** -/
theorem anchored_ofConfig {here : Path} (hhere : here.isAbsolute = true) (c : Config) :
    (ofConfig here c).Anchored := by
  intro names
  show (c.root.absolute here).join _ = _
  by_cases hroot : c.root.text.isEmpty = true
  · have habsolute : c.root.absolute here = c.root := by rw [Path.absolute, if_pos hroot]
    rw [habsolute, Path.join, if_pos hroot]
    exact ite_self _
  · have habsolute := Path.isAbsolute_absolute hhere (Bool.eq_false_iff.mpr hroot)
    have hroutes : (ofConfig here c).routesDir.isAbsolute = true := Path.isAbsolute_join habsolute _
    rw [Path.join, if_pos (Path.isAbsolute_below hroutes names)]

/-- A project whose root is absolute, or left out. -/
def Rooted (p : Project) : Prop := p.root.isAbsolute = true ∨ p.root.text.isEmpty = true

/-- **`ofConfig` gives projects that are `Rooted`.** -/
theorem rooted_ofConfig {here : Path} (hhere : here.isAbsolute = true) (c : Config) : (ofConfig here c).Rooted := by
  by_cases hroot : c.root.text.isEmpty = true
  · right
    show (c.root.absolute here).text.isEmpty = true
    rwa [Path.absolute, if_pos hroot]
  · exact .inl (Path.isAbsolute_absolute hhere (Bool.eq_false_iff.mpr hroot))

/-- `p.absolute` is idempotent for `Rooted` projects. -/
theorem absolute_absolute (hp : p.Rooted) (path : Path) : p.absolute (p.absolute path) = p.absolute path := by
  rcases hp with hroot | hroot
  · have habsolute : (p.root.join path).isAbsolute = true := Path.isAbsolute_join hroot path
    show p.root.join (p.root.join path) = _
    rw [Path.join, if_pos habsolute]
    rfl
  · have hjoin : ∀ q : Path, p.root.join q = q := by
      intro q
      rw [Path.join, if_pos hroot]
      exact ite_self _
    show p.root.join (p.root.join path) = _
    rw [hjoin]
    rfl

theorem IsDiscoverable.absolute {path : Path} (h : p.IsDiscoverable path) (hp : p.Anchored) :
    p.absolute path = path := by
  obtain ⟨names, -, rfl⟩ := h.exists_names
  exact hp names

/-! ## Without looking at the files -/

/-- **`withinRoutes?` finds the way to `p.routesDir.below names`** by its components. -/
theorem withinRoutes?_below (hp : p.Anchored) (files : Files) {names : List String}
    (h : ∀ name ∈ names, Path.IsName name) :
    p.withinRoutes? files (p.routesDir.below names) =
      some (Path.ofComponents (names.map .normal)) := by
  have hcomponents : (p.absolute (p.routesDir.below names)).withoutDots.components =
      p.routesDir.withoutDots.components ++ names.map .normal := by
    rw [hp, Path.components_withoutDots, Path.components_withoutDots, Path.components_below _ h,
      List.filter_append]
    congr 1
    refine List.filter_eq_self.mpr fun c hc => ?_
    obtain ⟨name, -, rfl⟩ := List.mem_map.mp hc
    rfl
  unfold withinRoutes?
  dsimp only
  rw [Path.within?_eq_some hcomponents]

theorem IsDiscoverable.withinRoutes?_eq {path : Path} (h : p.IsDiscoverable path) (hp : p.Anchored)
    (files files' : Files) : p.withinRoutes? files path = p.withinRoutes? files' path := by
  obtain ⟨names, hnames, rfl⟩ := h.exists_names
  rw [withinRoutes?_below hp files hnames, withinRoutes?_below hp files' hnames]

/-- The `routeId?` of an `IsDiscoverable` path does not depend on the files. -/
theorem IsDiscoverable.routeId?_eq {path : Path} (h : p.IsDiscoverable path) (hp : p.Anchored)
    (files files' : Files) : p.routeId? files path = p.routeId? files' path := by
  rw [routeId?, routeId?, h.withinRoutes?_eq hp files files']

/-- The `companion?` of an `IsDiscoverable` path does not depend on the files. -/
theorem IsDiscoverable.companion?_eq {path : Path} (h : p.IsDiscoverable path) (hp : p.Anchored)
    (files files' : Files) : p.companion? files path = p.companion? files' path := by
  simp only [companion?, companionByRoutes?, h.withinRoutes?_eq hp files files']

/-! ## Absolute paths -/

/-- **A path and its `p.absolute` have one `routeId?`.** -/
theorem routeId?_absolute (hp : p.Rooted) {path : Path} {id : String} (h : p.routeId? files path = some id) :
    p.routeId? files (p.absolute path) = some id := by
  unfold routeId? at h ⊢
  split at h
  · next hname =>
    have hjoined : (p.absolute path).fileName? = some p.endpointFile := Path.fileName?_join p.root hname
    have hwithin : p.withinRoutes? files (p.absolute path) = p.withinRoutes? files path := by
      unfold withinRoutes?
      rw [absolute_absolute hp]
    rw [if_pos hjoined, hwithin]
    exact h
  · exact nomatch h

/-- **Absolute paths that are the `same` have one `routeId?`.** -/
theorem routeId?_congr {a b : Path} (ha : p.absolute a = a) (hb : p.absolute b = b) (h : a.same b = true)
    (files : Files) : p.routeId? files a = p.routeId? files b := by
  have hcomponents := Path.same_iff.mp h
  have hname : a.fileName? = b.fileName? := by rw [Path.fileName?, Path.fileName?, hcomponents]
  have hdots : a.withoutDots = b.withoutDots := by rw [Path.withoutDots, Path.withoutDots, hcomponents]
  have hwithin : p.withinRoutes? files a = p.withinRoutes? files b := by
    unfold withinRoutes?
    rw [ha, hb, hdots]
  rw [routeId?, routeId?, hname, hwithin]

/-- A path that shows by its names that it is below the routes directory. -/
def IsShown (p : Project) (path : Path) : Prop :=
  ((p.absolute path).withoutDots.within? p.routesDir.withoutDots).isSome = true

/-- The `routeId?` of a path that `IsShown` does not depend on the files. -/
theorem IsShown.routeId?_eq {path : Path} (h : p.IsShown path) (files files' : Files) :
    p.routeId? files path = p.routeId? files' path := by
  obtain ⟨relative, hrelative⟩ := Option.isSome_iff_exists.mp h
  have hwithin : ∀ files, p.withinRoutes? files path = some relative := by
    intro files
    unfold withinRoutes?
    dsimp only
    rw [hrelative]
  rw [routeId?, routeId?, hwithin, hwithin]

/-! ## Analyses -/

/-- What the analysis in `p.outcome` comes from: the `routeId?`, the text that was `read`, and the types of the
companion file. -/
theorem exists_of_outcome {path : Path} {a : Analysis} (h : (p.outcome files path).analysis = some a) :
    ∃ code notices, ∃ types : Option RouteTypes,
      p.routeId? files path = some a.routeId ∧ files.read path = .ok code ∧
      Analysis.ofSource? a.routeId path (types.bind RouteTypes.descriptor?) code = some (a, notices) := by
  unfold outcome at h
  split at h
  · next a' notices hanalyze =>
    obtain rfl := Option.some.inj h
    unfold analyze at hanalyze
    split at hanalyze
    · cases hanalyze
    next routeId hroute =>
    split at hanalyze
    · cases hanalyze
    next code hcode =>
    split at hanalyze
    · cases hanalyze
    next types _ _ =>
    split at hanalyze
    · cases hanalyze
    next found more hsource =>
    obtain ⟨rfl, -⟩ := Prod.mk.inj (Except.ok.inj hanalyze)
    have hid : found.routeId = routeId := (Analysis.ofSource?_fields hsource).1
    exact ⟨code, more, types, hid ▸ hroute, hcode, hid ▸ hsource⟩
  · cases h

theorem source_of_outcome {path : Path} {a : Analysis} (h : (p.outcome files path).analysis = some a) :
    a.source = path := by
  obtain ⟨_, _, _, -, -, hsource⟩ := exists_of_outcome h
  exact (Analysis.ofSource?_fields hsource).2

/-- Where `p.outcome` has an analysis, `isFile` holds. -/
theorem isFile_of_outcome {path : Path} {a : Analysis} (h : (p.outcome files path).analysis = some a) :
    files.isFile path = true := by
  obtain ⟨_, _, _, -, hread, -⟩ := exists_of_outcome h
  unfold Files.read at hread
  split at hread
  case h_3 hlocate => simp [Files.isFile, Files.find?, hlocate, Entry.isFile]
  all_goals exact nomatch hread

/-- `p.outcome` of an `IsDiscoverable` path depends on what is `read` there and at its `companion?`. -/
theorem IsDiscoverable.outcome_congr {path : Path} (h : p.IsDiscoverable path) (hp : p.Anchored)
    (hread : files.read path = files'.read path)
    (hcompanion : ∀ companion, p.companion? files path = some companion →
      files.read companion = files'.read companion) :
    p.outcome files path = p.outcome files' path := by
  have htypes : companionTypes files (p.companion? files path) =
      companionTypes files' (p.companion? files' path) := by
    rw [← h.companion?_eq hp files files']
    cases hc : p.companion? files path with
    | none => rfl
    | some companion => rw [companionTypes, companionTypes, hcompanion companion hc]
  rw [outcome, outcome, analyze, analyze, h.routeId?_eq hp files files', hread, htypes]

end Project

end RouteContracts
