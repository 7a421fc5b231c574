import RouteContracts.Proofs.Files.Trees
import RouteContracts.Proofs.Path.Spelling

/-! # Where paths lead by their names
The dots of a path can be worked off without looking at the files: a name leads down and `..` leads up. Where there are
no links, a path leads there and nowhere else.

* `Files.resolved`: where a path leads by its names.
* `Files.resolved_of_components`: names at the end of a path are names below it.
* `Files.Linkless.canonical_eq`: **without links, canonical paths are those of the resolved locations.**
* `Files.IsTree.entry?_of_walk`, `Files.IsTree.canonical_path`: in a plain tree, **what a walk finds is there**, and the
  path of what is there leads to it. -/

namespace RouteContracts

namespace Files

variable {f : Files} {p q : Path}

/-- **Where a path leads by its names**, as `.` and `..` are worked off one after the other. -/
def resolved (f : Files) (p : Path) : Location := p.components.foldl Component.follow f.workingDirectory

/-! ## Steps -/

/-- `resolved` is the same with and without dots. -/
theorem resolved_withoutDots (f : Files) (p : Path) : f.resolved p.withoutDots = f.resolved p := by
  rw [resolved, resolved, Path.components_withoutDots, List.foldl_filter]
  refine congrArg (fun step => p.components.foldl step f.workingDirectory) (funext fun here => funext fun c => ?_)
  cases c <;> rfl

theorem resolved_eq (f : Files) (p : Path) :
    f.resolved p = ((Path.pieces p.text.toList).filterMap Path.componentOf?).foldl Component.follow (f.start p) := by
  rw [← resolved_withoutDots, resolved, Path.components_withoutDots_eq, List.foldl_append, start]
  cases p.isAbsolute <;> rfl

/-- **Names at the end of a path** are names at the end of `resolved`. -/
theorem resolved_of_components {names : List String}
    (h : p.withoutDots.components = q.withoutDots.components ++ names.map .normal) :
    f.resolved p = f.resolved q ++ names := by
  rw [← resolved_withoutDots f p, ← resolved_withoutDots f q, resolved, h, List.foldl_append, foldl_follow_names]
  rfl

/-- `resolved` of a path that ends in a name is that of `parent?`, and the name behind it. -/
theorem resolved_of_fileName? {name : String} (h : p.fileName? = some name) :
    ∃ dir, p.parent? = some dir ∧ f.resolved p = f.resolved dir ++ [name] := by
  obtain ⟨dir, hdir, hcomponents⟩ := Path.exists_parent? h
  exact ⟨dir, hdir, resolved_of_components hcomponents⟩

/-- **The components of an absolute path without `..`** are the names of `resolved`. -/
theorem components_of_forward (f : Files) (habsolute : p.isAbsolute = true) (hforward : .parent ∉ p.components) :
    p.withoutDots.components = .root :: (f.resolved p).map .normal := by
  have hparent : .parent ∉ p.withoutDots.components := fun h => hforward (Path.mem_withoutDots.mp h).1
  rw [resolved_eq, start, if_pos habsolute]
  rw [Path.components_withoutDots_eq, habsolute] at hparent ⊢
  obtain ⟨names, -, hnames⟩ := Path.exists_names_of_plain (fun c => Path.isPlain_of_mem_pieces)
    fun h => hparent (List.mem_append_right _ h)
  rw [hnames, foldl_follow_names]
  rfl

/-- `resolved` consists of names. -/
theorem isName_of_mem_resolved (hhere : ∀ name ∈ f.workingDirectory, Path.IsName name) (p : Path) :
    ∀ name ∈ f.resolved p, Path.IsName name := by
  -- a step back drops a name, and a step on adds a proper one
  have hsteps : ∀ (cs : List Component) (here : Location), (∀ c ∈ cs, Path.IsPlain c) →
      (∀ name ∈ here, Path.IsName name) → ∀ name ∈ cs.foldl Component.follow here, Path.IsName name := by
    intro cs
    induction cs with
    | nil => exact fun _ _ hhere => hhere
    | cons c cs ih =>
      intro here hcs hhere
      obtain ⟨hc, hrest⟩ := List.forall_mem_cons.mp hcs
      refine ih _ hrest ?_
      cases c with
      | root | current => exact hc.elim
      | parent => exact fun name hname => hhere name (List.dropLast_subset here hname)
      | normal name => exact List.forall_mem_append.mpr ⟨hhere, List.forall_mem_singleton.mpr hc⟩
  rw [resolved_eq]
  exact hsteps _ _ (fun c => Path.isPlain_of_mem_pieces) (isName_of_mem_start hhere p)

/-! ## Walks -/

/-- Where `Linkless`, `walk` leads to `resolved`. -/
theorem Linkless.location_eq_resolved (hf : f.Linkless) {follow : Bool} {links : Nat} {place : Place}
    (h : f.walk follow links (f.start p) p.names = .ok place) : place.location = f.resolved p := by
  have hnames : p.names.filterMap Component.ofName? = (Path.pieces p.text.toList).filterMap Path.componentOf? := by
    rw [Path.names, List.filterMap_map]
    refine List.filterMap_congr fun piece _ => ?_
    rw [Function.comp_apply, Component.ofName?, String.toList_ofList]
  rw [hf.location_eq _ _ _ h, resolved_eq, hnames]

/-- `canonical` is the path of the location that `walk` finds. -/
theorem exists_of_canonical {c : Path} (h : f.canonical p = .ok c) :
    ∃ l e, c = Location.path l ∧ f.walk true maxLinks (f.start p) p.names = .ok (.found l e) := by
  unfold canonical at h
  split at h
  · cases h
  · cases h
  · next l e hlocate =>
    obtain rfl := Except.ok.inj h
    unfold locate at hlocate
    split at hlocate
    · cases hlocate
    split at hlocate
    · cases hlocate
    exact ⟨l, e, rfl, hlocate⟩

/-- **Where `Linkless`, `canonical` is the path of `resolved`.** -/
theorem Linkless.canonical_eq (hf : f.Linkless) {c : Path} (h : f.canonical p = .ok c) :
    c = Location.path (f.resolved p) := by
  obtain ⟨l, e, rfl, hwalk⟩ := exists_of_canonical h
  exact congrArg Location.path (hf.location_eq_resolved hwalk)

/-- `holds` means that there is a `canonical` path. -/
theorem holds_iff_canonical : f.holds p = true ↔ ∃ c, f.canonical p = .ok c := by
  rw [holds, find?, canonical]
  cases f.locate true p with
  | error why => simp
  | ok place => cases place <;> simp

/-- A path that `holds` something and is at the front of names below the root is absolute and without `..`. -/
theorem forward_of_components {names : List String} {rest : List Component} (hp : f.holds p.withoutDots = true)
    (h : Component.root :: names.map .normal = p.withoutDots.components ++ rest) :
    p.isAbsolute = true ∧ .parent ∉ p.components := by
  have hne : p.withoutDots.components ≠ [] := by
    intro hnil
    rw [Path.components_withoutDots] at hnil
    rw [Path.withoutDots, hnil] at hp
    cases hp
  obtain ⟨first, front, hfront⟩ := List.exists_cons_of_ne_nil hne
  rw [hfront] at h
  obtain ⟨rfl, hnames⟩ := List.cons.inj h
  refine ⟨Path.isAbsolute_iff.mpr (Path.mem_withoutDots.mp (hfront ▸ List.mem_cons_self)).1, fun hparent => ?_⟩
  -- a step back would be among the names on the other side
  have hmem : Component.parent ∈ Component.root :: front :=
    hfront ▸ Path.mem_withoutDots.mpr ⟨hparent, Component.noConfusion⟩
  have hname : Component.parent ∈ names.map .normal :=
    hnames ▸ List.mem_append_left _ ((List.mem_cons.mp hmem).resolve_left Component.noConfusion)
  obtain ⟨name, -, hname⟩ := List.mem_map.mp hname
  cases hname

end Files

/-! ## Paths of locations -/

namespace Location

variable {l : Location}

theorem ofComponents_eq_path (l : Location) : Path.ofComponents (.root :: l.map .normal) = path l :=
  congrArg (fun texts => Path.mk ("/" ++ "/".intercalate texts)) (Path.map_text_names l)

theorem components_path (h : ∀ name ∈ l, Path.IsName name) : (path l).components = .root :: l.map .normal := by
  rw [← ofComponents_eq_path, Path.components_ofComponents_root (Path.isPlain_names h)]

/-- The path of a location has no dots. -/
theorem withoutDots_path (h : ∀ name ∈ l, Path.IsName name) : (path l).withoutDots = path l := by
  have hkept : (Component.root :: l.map .normal).filter (· ≠ .current) = .root :: l.map .normal := by
    refine List.filter_eq_self.mpr fun c hc => decide_eq_true ?_
    rintro rfl
    rcases List.mem_cons.mp hc with hroot | hname
    · cases hroot
    · exact Path.isPlain_names h _ hname
  rw [Path.withoutDots, components_path h, hkept, ofComponents_eq_path]

theorem isAbsolute_path (l : Location) : (path l).isAbsolute = true := by simp [Path.isAbsolute, path]

/-- **`resolved` of the path of a location is that location.** -/
theorem resolved_path (f : Files) (h : ∀ name ∈ l, Path.IsName name) : f.resolved (path l) = l := by
  rw [Files.resolved, components_path h, List.foldl_cons, Files.foldl_follow_names]
  rfl

/-! ### Pieces -/

theorem pieces_path (hl : l ≠ []) (h : ∀ name ∈ l, Path.IsName name) :
    Path.pieces (path l).text.toList = [] :: l.map String.toList := by
  have hchars : (path l).text.toList = '/' :: ("/".intercalate ((l.map Component.normal).map Component.text)).toList := by
    rw [Path.map_text_names, path, String.toList_append]
    rfl
  rw [hchars, Path.pieces, Path.pieces_texts (by simpa using hl) (Path.isPlain_names h), List.map_map]
  rfl

/-- **`parent?` of the path of a file** is the path of its directory. -/
theorem parent?_path {name : String} (h : ∀ n ∈ l ++ [name], Path.IsName n) :
    (path (l ++ [name])).parent? = some (path l) := by
  have hvoid : ∀ piece ∈ l.map String.toList ++ [name.toList], Path.isVoid piece = false := by
    intro piece hpiece
    rw [← List.map_singleton, ← List.map_append] at hpiece
    obtain ⟨n, hn, rfl⟩ := List.mem_map.mp hpiece
    simp [Path.isVoid, (h n hn).ne_empty, (h n hn).ne_dot]
  have habsolute := isAbsolute_path (l ++ [name])
  have hsome : (l.map String.toList ++ [name.toList]).all Path.isVoid = false := by
    rw [List.all_append, List.all_cons, hvoid _ (List.mem_append_right _ (List.mem_singleton.mpr rfl)), Bool.false_and,
      Bool.and_false]
  have htext : Path.joinPieces (l.map String.toList) = "/".intercalate l := by
    rw [Path.joinPieces, ← String.toList_inj, String.toList_ofList, String.toList_intercalate]
    rfl
  rw [Path.parent?, pieces_path (by simp) h, List.map_append, List.map_singleton]
  dsimp only
  rw [if_pos habsolute, hsome, if_neg Bool.false_ne_true, Path.piecesBefore_concat hvoid, htext]
  rfl

end Location

/-! ## Plain trees -/

namespace Files

variable {f : Files} {p q : Path} {l : Location} {e : Entry}

/-- Whatever is there has a path that can be used. -/
def Usable (f : Files) : Prop := ∀ l e, f.entry? l = some e → (Location.path l).isUnusable = false

/-- **In an `IsTree`, what `walk` finds is there**, also when it goes back on its way. -/
theorem IsTree.entry?_of_walk (hf : f.IsTree) {follow : Bool} (links : Nat) (here : Location) (names : List String)
    (hhere : f.entry? here = some .directory) (h : f.walk follow links here names = .ok (.found l e)) :
    f.entry? l = some e := by
  have hleads := leads_of_walk h
  clear h
  generalize hplace : Place.found l e = place at hleads
  induction hleads with
  | nil =>
    obtain ⟨rfl, rfl⟩ := Place.found.inj hplace
    exact hhere
  | void _ _ ih => exact ih hhere hplace
  | @up _ here _ _ _ ih =>
    refine ih ?_ hplace
    -- the root has no place above it, and above any other place there is a directory
    by_cases hroot : here = here.dropLast
    · rw [← hroot, hhere]
    · exact hf.directory_of_prefix hhere (List.dropLast_prefix here) (Ne.symm hroot)
  | enter _ hentry _ ih => exact ih hentry hplace
  | link _ hentry => exact absurd hentry (hf.linkless _ _)
  | found _ hentry =>
    obtain ⟨rfl, rfl⟩ := Place.found.inj hplace
    exact hentry
  | vacant => cases hplace

/-- **In an `IsTree`, `walk` finds what is there** along the names of its location. -/
theorem IsTree.walk_entry (hf : f.IsTree) {follow : Bool} (links : Nat) (here : Location) {names : List String}
    (hhere : f.entry? here = some .directory) (h : f.entry? (here ++ names) = some e) :
    f.walk follow links here names = .ok (.found (here ++ names) e) := by
  have hnames : ∀ name ∈ names, LooksUp name := fun name hname =>
    (hf.names_of_entry h name (List.mem_append_right _ hname)).2
  induction names generalizing here with
  | nil =>
    rw [List.append_nil] at h ⊢
    rw [walk_nil, ← Option.some.inj (hhere.symm.trans h)]
  | cons name rest ih =>
    obtain ⟨hname, hrest⟩ := List.forall_mem_cons.mp hnames
    rw [List.append_cons] at h ⊢
    -- all but the last name lead through directories, as something is below them
    by_cases hend : rest = []
    · subst hend
      rw [List.append_nil] at h ⊢
      rw [walk_of_looksUp f _ _ _ hname, h]
      cases e with
      | text | bytes => rfl
      | directory => exact walk_nil f _ _ _
      | link target => exact absurd h (hf.linkless _ target)
    · have hthere : f.entry? (here ++ [name]) = some .directory :=
        hf.directory_of_prefix h (List.prefix_append _ _) fun heq => hend (List.self_eq_append_right.mp heq)
      rw [walk_of_directory f _ _ hname hthere]
      exact ih _ hthere h hrest

/-- **In an `IsTree`, `canonical` of the path of what is there is that path.** -/
theorem IsTree.canonical_path (hf : f.IsTree) (husable : f.Usable) (h : f.entry? l = some e) :
    f.canonical (Location.path l) = .ok (Location.path l) := by
  have hnonempty : (Location.path l).text.isEmpty = false := by
    rw [Bool.eq_false_iff]
    intro hempty
    have habsolute := Location.isAbsolute_path l
    rw [Path.isAbsolute, String.isEmpty_iff.mp hempty] at habsolute
    cases habsolute
  have hwalk : f.walk true maxLinks [] (Location.path l).names = .ok (.found l e) := by
    by_cases hl : l = []
    · -- the root has two empty names
      subst hl
      obtain rfl := Option.some.inj (h.symm.trans (entry?_nil f))
      have hnames : (Location.path []).names = ["", ""] := rfl
      rw [hnames, walk_of_void f _ _ _ (.inl rfl), walk_of_void f _ _ _ (.inl rfl), walk_nil]
    · have hnames : (Location.path l).names = "" :: l := by
        have hsame : String.ofList ∘ String.toList = id := funext fun name => String.ofList_toList
        rw [Path.names, Location.pieces_path hl fun name hname => (hf.names_of_entry h name hname).1, List.map_cons,
          List.map_map, hsame, List.map_id]
      rw [hnames, walk_of_void f _ _ _ (.inl rfl)]
      exact hf.walk_entry _ [] (entry?_nil f) h
  rw [canonical, locate, hnonempty, husable l e h, Files.start, Location.isAbsolute_path, if_pos rfl, hwalk]
  rfl

/-- In an `IsTree`, something is at `resolved` of a path with a `canonical` path. -/
theorem IsTree.entry?_of_canonical (hf : f.IsTree) {c : Path} (h : f.canonical p = .ok c) :
    (f.entry? (f.resolved p)).isSome = true := by
  obtain ⟨l, e, -, hwalk⟩ := exists_of_canonical h
  rw [← hf.linkless.location_eq_resolved hwalk, Place.location, hf.entry?_of_walk _ _ _ (hf.start p) hwalk]
  rfl

end Files

end RouteContracts
