import RouteContracts.Proofs.Artifact.Emitting
import RouteContracts.Proofs.Controller.Session
import RouteContracts.Proofs.Files.Trees

/-! # Projects in growing trees
In a plain tree the endpoint files are the files of their name below the routes directory. So when the artifact
comes into the tree, no endpoint file is edited, unless it is one.

* `Files.IsTree.mem_discover`: **which files are endpoint files**, in a plain tree.
* `Files.Grows.not_edited`, `Files.Grows.keepsCompanions`: **a file that is no endpoint file and aside from the
  companion files edits none of them.**
* `Files.Emits.isTree`, `Files.Emits.grows`: what an emission does to a plain tree. -/

namespace RouteContracts

/-- Where the files are that are named like endpoint files, at or below the routes directory. -/
def Project.IsEndpointPlace (p : Project) (f : Files) (l : Location) : Prop :=
  f.place p.routesDir <+: l ∧ l.getLast? = some p.endpointFile

namespace Files

variable {f g : Files} {l : Location} {e : Entry} {p : Project} {path : Path}

/-- A path that `holds` something in some files is walked in all files. -/
theorem locate_of_holds {dir : Path} (h : g.holds dir = true) (f : Files) :
    f.locate true dir = f.walk true maxLinks (f.start dir) dir.names := by
  have hnot : ∀ e, g.locate true dir ≠ .error e := by
    intro e he
    rw [holds, find?, he] at h
    cases h
  unfold locate at hnot ⊢
  by_cases hempty : dir.text.isEmpty = true
  · exact absurd (if_pos hempty) (hnot .notFound)
  by_cases hunusable : dir.isUnusable = true
  · exact absurd ((if_neg hempty).trans (if_pos hunusable)) (hnot .invalidPath)
  rw [if_neg hempty, if_neg hunusable]

namespace IsTree

/-! ## Endpoint files -/

theorem mem_children (hf : f.IsTree) {name : String} :
    (name, e) ∈ f.children l ↔ f.entry? (l ++ [name]) = some e := by
  rw [children, List.mem_filterMap]
  constructor
  · rintro ⟨old, hold, hchild⟩
    cases hlast : old.1.getLast? with
    | none => rw [hlast] at hchild; cases hchild
    | some last =>
      rw [hlast] at hchild
      by_cases hdir : old.1.dropLast = l
      · simp only [hdir, if_true] at hchild
        obtain ⟨rfl, rfl⟩ := Prod.mk.inj (Option.some.inj hchild)
        have hat : old.1 = l ++ [last] := by
          obtain ⟨front, hfront⟩ := List.getLast?_eq_some_iff.mp hlast
          rw [← hdir, hfront, List.dropLast_concat]
        exact hf.entry?_of_mem (hat ▸ hold)
      · simp only [hdir, if_false] at hchild
        cases hchild
  · intro h
    refine ⟨_, mem_entries_of_entry h (by simp), ?_⟩
    simp

/-- `filesBelow` of an `IsTree` gives the files at most `depth` names below a directory. -/
theorem mem_filesBelow (hf : f.IsTree) (depth : Nat) (above : List Location) (l : Location) (dir : Path) :
    path ∈ Project.filesBelow f depth above l dir ↔
      ∃ names e, names ≠ [] ∧ names.length ≤ depth ∧ path = dir.below names ∧ f.entry? (l ++ names) = some e ∧
        e.isFile = true := by
  induction depth generalizing above l dir with
  | zero =>
    constructor
    · exact fun h => by cases h
    · rintro ⟨names, e, hne, hlength, -⟩
      exact absurd (List.length_eq_zero_iff.mp (Nat.le_zero.mp hlength)) hne
  | succ depth ih =>
    rw [Project.filesBelow, List.mem_flatMap]
    constructor
    · rintro ⟨⟨name, e⟩, hchild, hpath⟩
      have hentry := hf.mem_children.mp hchild
      cases e with
      | directory =>
        obtain ⟨names, e, -, hlength, hnames, hfile⟩ := (ih _ _ _).mp hpath
        refine ⟨name :: names, e, List.cons_ne_nil _ _, Nat.succ_le_succ hlength, hnames, ?_⟩
        rwa [List.append_assoc, List.singleton_append] at hfile
      | text content => exact ⟨[name], _, by simp, by simp, List.mem_singleton.mp hpath, hentry, rfl⟩
      | bytes content => exact ⟨[name], _, by simp, by simp, List.mem_singleton.mp hpath, hentry, rfl⟩
      | link target => exact absurd hentry (hf.linkless _ target)
    · rintro ⟨names, e, hne, hlength, rfl, hentry, hfile⟩
      obtain ⟨name, rest, rfl⟩ := List.exists_cons_of_ne_nil hne
      rw [List.append_cons] at hentry
      -- the last of the names is that of the file, the others are of directories
      by_cases hrest : rest = []
      · subst hrest
        rw [List.append_nil] at hentry
        refine ⟨(name, e), hf.mem_children.mpr hentry, ?_⟩
        cases e with
        | text content => exact List.mem_singleton_self _
        | bytes content => exact List.mem_singleton_self _
        | directory => cases hfile
        | link target => cases hfile
      · have hdirectory : f.entry? (l ++ [name]) = some .directory :=
          hf.directory_of_prefix hentry (List.prefix_append _ _) (by simpa using hrest)
        refine ⟨(name, .directory), hf.mem_children.mpr hdirectory, ?_⟩
        exact (ih _ _ _).mpr ⟨rest, e, hrest, Nat.le_of_succ_le_succ hlength, rfl, hentry, hfile⟩

/-- In an `IsTree` no location is longer than the list of entries. -/
theorem length_le (hf : f.IsTree) (h : f.entry? l = some e) : l.length ≤ f.entries.length := by
  -- every location above it is listed, and they differ in length
  have hnodup : ((List.range l.length).map fun n => l.take (n + 1)).Nodup := by
    refine List.nodup_range.map_on fun a ha b hb heq => ?_
    have hlength := congrArg List.length heq
    rw [List.mem_range] at ha hb
    simp only [List.length_take] at hlength
    omega
  have hsubset : ((List.range l.length).map fun n => l.take (n + 1)) ⊆ f.entries.map Prod.fst := by
    intro above habove
    obtain ⟨n, hn, rfl⟩ := List.mem_map.mp habove
    rw [List.mem_range] at hn
    have hne : l.take (n + 1) ≠ [] := by
      intro hnil
      have hlength := congrArg List.length hnil
      simp only [List.length_take, List.length_nil] at hlength
      omega
    by_cases hat : l.take (n + 1) = l
    · exact List.mem_map.mpr ⟨_, mem_entries_of_entry (hat ▸ h) hne, rfl⟩
    · exact List.mem_map.mpr ⟨_, mem_entries_of_entry (hf.directory_of_prefix h (List.take_prefix _ _) hat) hne, rfl⟩
  have hle := (List.subperm_of_subset hnodup hsubset).length_le
  rwa [List.length_map, List.length_map, List.length_range] at hle

/-- `find?` of an `IsStraight` path finds what is at its `place`. -/
theorem entry?_of_find? (hf : f.IsTree) {dir : Path} (hdir : dir.IsStraight) (h : f.find? dir = some (l, e)) :
    l = f.place dir ∧ f.entry? (f.place dir) = some e := by
  unfold find? at h
  split at h
  · next l' e' hlocate =>
    obtain ⟨rfl, rfl⟩ := Prod.mk.inj (Option.some.inj h)
    unfold locate at hlocate
    split at hlocate
    · cases hlocate
    split at hlocate
    · cases hlocate
    have hlocation : l' = f.place dir := by
      rw [place, ← lookedUp_names hdir]
      exact hf.linkless.location_of_walk _ _ _ (forward_names hdir) hlocate
    have hentry := hf.linkless.entry?_of_walk_found _ _ _ (forward_names hdir) (hf.start dir) hlocate
    exact ⟨hlocation, hlocation ▸ hentry⟩
  · cases h

/-- `find?` of an `IsStraight` path to a directory finds it, if the path can be used. -/
theorem find?_directory (hf : f.IsTree) {dir : Path} (hdir : dir.IsStraight)
    (hentry : f.entry? (f.place dir) = some .directory) (husable : g.holds dir = true) :
    f.find? dir = some (f.place dir, .directory) := by
  have hlocate := locate_of_holds husable f
  have hplace : f.place dir = f.start dir ++ lookedUp dir.names := by rw [place, lookedUp_names hdir]
  rw [hplace] at hentry ⊢
  rw [find?, hlocate, hf.walk_directory _ _ _ _ (forward_names hdir) hentry]

/-- **`discover` in an `IsTree`** gives the files with the name of endpoint files below the routes directory. -/
theorem mem_discover (hf : f.IsTree) (hroutes : p.routesDir.IsStraight) :
    path ∈ p.discover f ↔ path.fileName? = some p.endpointFile ∧ f.holds p.routesDir = true ∧
      ∃ names e, path = p.routesDir.below names ∧ f.entry? (f.place p.routesDir ++ names) = some e ∧
        e.isFile = true := by
  rw [Project.discover, List.mem_mergeSort, List.mem_filter, beq_iff_eq, and_comm]
  refine and_congr_right fun _ => ?_
  rw [Project.filesAt, holds]
  cases hfind : f.find? p.routesDir with
  | none =>
    constructor
    · exact fun h => by cases h
    · exact fun h => by cases h.1
  | some found =>
    obtain ⟨l, e⟩ := found
    obtain ⟨rfl, hentry⟩ := hf.entry?_of_find? hroutes hfind
    -- a file has nothing below it
    have hsingle : e.isFile = true → (path ∈ [p.routesDir] ↔ (some (f.place p.routesDir, e)).isSome = true ∧
        ∃ names e, path = p.routesDir.below names ∧ f.entry? (f.place p.routesDir ++ names) = some e ∧
          e.isFile = true) := by
      intro hfile
      rw [List.mem_singleton]
      constructor
      · rintro rfl
        exact ⟨rfl, [], e, rfl, by rwa [List.append_nil], hfile⟩
      · rintro ⟨-, names, e', rfl, hentry', -⟩
        by_cases hnames : names = []
        · rw [hnames]
          rfl
        · have hdirectory := hf.directory_of_prefix hentry' (List.prefix_append _ _) (by simpa using hnames)
          obtain rfl := Option.some.inj (hentry.symm.trans hdirectory)
          cases hfile
    cases e with
    | text content => exact hsingle rfl
    | bytes content => exact hsingle rfl
    | link target => exact absurd hentry (hf.linkless _ target)
    | directory =>
      dsimp only
      rw [hf.mem_filesBelow]
      constructor
      · rintro ⟨names, e, -, -, hpath, hentry', hfile⟩
        exact ⟨rfl, names, e, hpath, hentry', hfile⟩
      · rintro ⟨-, names, e, hpath, hentry', hfile⟩
        refine ⟨names, e, ?_, ?_, hpath, hentry', hfile⟩
        · rintro rfl
          rw [List.append_nil] at hentry'
          obtain rfl := Option.some.inj (hentry.symm.trans hentry')
          cases hfile
        · have hlength := hf.length_le hentry'
          rw [List.length_append] at hlength
          calc names.length ≤ f.entries.length + 2 := by omega
            _ ≤ Project.maxDepth f := Nat.le_mul_of_pos_left _ (by omega)

/-- The `place` of `dir.below names` is that of `dir`, and `names` behind it. -/
theorem place_below (hf : f.IsTree) (dir : Path) {names : List String}
    (hentry : f.entry? (f.place dir ++ names) = some e) :
    f.place (dir.below names) = f.place dir ++ names ∧ (dir.IsStraight → (dir.below names).IsStraight) := by
  have hnames : ∀ name ∈ names, Path.IsName name ∧ LooksUp name :=
    fun name hname => hf.names_of_entry hentry name (List.mem_append_right _ hname)
  clear hentry
  induction names generalizing dir with
  | nil => exact ⟨(List.append_nil _).symm, id⟩
  | cons name names ih =>
    obtain ⟨⟨hname, hlooks⟩, hrest⟩ := List.forall_mem_cons.mp hnames
    obtain ⟨hplace, hstraight⟩ := ih (dir.join ⟨name⟩) hrest
    have hjoin : f.place (dir.join ⟨name⟩) = f.place dir ++ [name] := by
      rw [place, place, Path.steps_join dir hname, Files.start, Files.start, Path.isAbsolute_join_name dir hname,
        List.append_assoc]
    refine ⟨?_, fun hdir => hstraight (hdir.join hname hlooks.size)⟩
    rw [hjoin, List.append_assoc, List.singleton_append] at hplace
    exact hplace

end IsTree

/-! ## A file that comes -/

namespace Grows

/-- But for `l` the files of `f` and `g` are the same, where `f.Grows g l`. -/
theorem entry?_isFile_iff (h : f.Grows g l) {other : Location} (hne : other ≠ l) (hfile : e.isFile = true) :
    f.entry? other = some e ↔ g.entry? other = some e := by
  refine ⟨h.kept other e hne, fun hg => ?_⟩
  cases hf : f.entry? other with
  | some e' => rw [← hg, h.kept other e' hne hf]
  | none =>
    rcases h.added other hne hf with hnone | ⟨hdirectory, -⟩
    · cases hnone.symm.trans hg
    · obtain rfl := Option.some.inj (hdirectory.symm.trans hg)
      cases hfile

/-- The place of an endpoint file is not `l`, unless `p.IsEndpointPlace f l`. -/
theorem ne_of_fileName (hf : f.IsTree) (hl : ¬p.IsEndpointPlace f l) {names : List String}
    (hname : (p.routesDir.below names).fileName? = some p.endpointFile)
    (hentry : f.entry? (f.place p.routesDir ++ names) = some e) : f.place p.routesDir ++ names ≠ l := by
  rintro rfl
  refine hl ⟨List.prefix_append _ _, ?_⟩
  rw [← (hf.place_below p.routesDir hentry).1]
  exact (List.getLast?_append ..).trans (by rw [Path.getLast?_steps hname]; rfl)

/-- `holds` of a directory is the same in `f` and in `g`, when there is a file at or below it. -/
theorem holds_iff (h : f.Grows g l) (hf : f.IsTree) (hg : g.IsTree) {dir : Path} (hdir : dir.IsStraight)
    {names : List String} (hentry : f.entry? (f.place dir ++ names) = some e) (hfile : e.isFile = true)
    (hne : f.place dir ++ names ≠ l) : f.holds dir = true ↔ g.holds dir = true := by
  -- the directory is the file itself, or it lies above the file and is a directory
  by_cases hnames : names = []
  · rw [hnames, List.append_nil] at hentry hne
    have hseen := h.seen_locate hf hdir (h.aside_of_isFile hf hg hentry hfile hne)
    rw [holds, holds, find?_congr hseen]
  · have hproper : f.place dir ≠ f.place dir ++ names := by simpa using hnames
    have hdirectory := hf.directory_of_prefix hentry (List.prefix_append _ _) hproper
    have hdirectory' : g.entry? (g.place dir) = some .directory :=
      hg.directory_of_prefix (h.place dir ▸ h.kept _ e hne hentry) (h.place dir ▸ List.prefix_append _ _)
        (h.place dir ▸ hproper)
    constructor
    · intro hholds
      rw [holds, hg.find?_directory hdir hdirectory' hholds]
      rfl
    · intro hholds
      rw [holds, hf.find?_directory hdir hdirectory hholds]
      rfl

/-- **`discover` gives the same in `f` and in `g`**, where the file that comes is no endpoint file. -/
theorem mem_discover_iff (h : f.Grows g l) (hf : f.IsTree) (hg : g.IsTree) (hroutes : p.routesDir.IsStraight)
    (hl : ¬p.IsEndpointPlace f l) : path ∈ p.discover f ↔ path ∈ p.discover g := by
  rw [hf.mem_discover hroutes, hg.mem_discover hroutes, h.place]
  have hl' : ¬p.IsEndpointPlace g l := by rwa [Project.IsEndpointPlace, h.place]
  refine and_congr_right fun hname => ?_
  constructor
  · rintro ⟨hholds, names, e, rfl, hentry, hfile⟩
    have hne := ne_of_fileName hf hl hname hentry
    exact ⟨(h.holds_iff hf hg hroutes hentry hfile hne).mp hholds, names, e, rfl,
      (h.entry?_isFile_iff hne hfile).mp hentry, hfile⟩
  · rintro ⟨hholds, names, e, rfl, hentry, hfile⟩
    have hne : f.place p.routesDir ++ names ≠ l :=
      h.place p.routesDir ▸ ne_of_fileName hg hl' hname (h.place p.routesDir ▸ hentry)
    have hbefore := (h.entry?_isFile_iff hne hfile).mpr hentry
    exact ⟨(h.holds_iff hf hg hroutes hbefore hfile hne).mpr hholds, names, e, rfl, hbefore, hfile⟩

/-- **No path is `Edited`** by a file that is no endpoint file. -/
theorem not_edited (h : f.Grows g l) (hf : f.IsTree) (hg : g.IsTree) (hroutes : p.routesDir.IsStraight)
    (hl : ¬p.IsEndpointPlace f l) (path : Path) : ¬p.Edited f g path := by
  have hdiscover : path ∈ p.discover f ↔ path ∈ p.discover g := h.mem_discover_iff hf hg hroutes hl
  rintro (hnot | ⟨hpath, hread⟩)
  · exact hnot hdiscover
  · obtain ⟨hname, -, names, e, rfl, hentry, hfile⟩ := (hf.mem_discover hroutes).mp (hdiscover.mpr hpath)
    obtain ⟨hplace, hstraight⟩ := hf.place_below p.routesDir hentry
    have haside := h.aside_of_isFile hf hg hentry hfile (ne_of_fileName hf hl hname hentry)
    exact hread (read_congr (h.seen_locate hf (hstraight hroutes) (hplace ▸ haside)).symm)

/-- **A file `Aside` from the companion files `KeepsCompanions`.** -/
theorem keepsCompanions (h : f.Grows g l) (hf : f.IsTree)
    (hcompanions : ∀ path ∈ p.discover f, ∀ companion, p.companion? f path = some companion →
      companion.IsStraight ∧ Aside (f.place companion) l) : p.KeepsCompanions f g := by
  intro path hpath _ companion hcompanion
  obtain ⟨hstraight, haside⟩ := hcompanions path hpath companion hcompanion
  exact read_congr (h.seen_locate hf hstraight haside).symm

end Grows

/-! ## Emissions -/

/-- `artifactDirectory` is above the artifact, in all files. -/
theorem place_artifactDirectory {artifact : Path} (hstraight : artifact.IsStraight) {last : String}
    (hlast : LooksUp last) (hname : last ∈ artifact.names) (f : Files) :
    (artifactDirectory artifact).IsStraight ∧ f.place (artifactDirectory artifact) <+: f.place artifact := by
  -- an artifact without a directory of its own lies in the working directory
  have hhere : artifact.isAbsolute = false →
      (Path.mk ".").IsStraight ∧ f.place ⟨"."⟩ <+: f.place artifact := by
    intro habsolute
    refine ⟨⟨by decide, fun name hname => by cases hname⟩, ?_⟩
    have hstart : f.start artifact = f.start ⟨"."⟩ := by
      rw [start, habsolute]
      rfl
    rw [place, place, hstart]
    exact ⟨artifact.steps, congrArg (· ++ _) (List.append_nil _)⟩
  unfold artifactDirectory
  cases hparent : artifact.parent? with
  | none => exact hhere (Path.not_isAbsolute_of_parent? hparent hlast hname)
  | some dir =>
    obtain ⟨hcomponents, habsolute⟩ := Path.components_parent? hparent
    dsimp only
    split
    · next hempty =>
      refine hhere (habsolute ▸ ?_)
      rw [Path.isAbsolute, String.isEmpty_iff.mp hempty]
      rfl
    · exact ⟨hstraight.of_prefix hcomponents, place_of_parent? hparent⟩

/-- `replaceable` of an `IsStraight` path is its `place`, in a directory. -/
theorem Linkless.place_of_replaceable (hf : f.Linkless) {artifact : Path} (hstraight : artifact.IsStraight)
    (hstart : f.entry? (f.start artifact) = some .directory) (h : f.replaceable artifact = .ok l) :
    l = f.place artifact ∧ ∃ d last, l = d ++ [last] ∧ f.entry? d = some .directory ∧ LooksUp last ∧
      last ∈ artifact.names := by
  obtain ⟨-, -, front, d, last, hnames, hlast, hwalk, hl, -⟩ := exists_of_replaceable h
  have hforward : Forward artifact.names := forward_names hstraight
  rw [hnames] at hforward
  have hfront : Forward front := fun name hname => hforward name (List.mem_append_left _ hname)
  have hd : d = f.start artifact ++ lookedUp front := hf.location_of_walk _ _ _ hfront hwalk
  have hsteps : artifact.steps = lookedUp front ++ [last] := by
    rw [← lookedUp_names hstraight, hnames, lookedUp, List.filter_append]
    exact congrArg _ (lookedUp_of_looksUp hlast [])
  refine ⟨?_, d, last, hl, hf.entry?_of_walk_found _ _ _ hfront hstart hwalk, hlast, ?_⟩
  · rw [hl, hd, place, hsteps, List.append_assoc]
  · rw [hnames]
    exact List.mem_append_right front (List.mem_singleton_self last)

namespace Emits

variable {after made : Files} {artifact : Path} {text : String} {temporary : Location}

/-- **What an emission does to an `IsTree`**: it `Grows` by the `place` of the artifact. -/
theorem grows (h : f.Emits after artifact text made temporary l) (hf : f.IsTree) (hstraight : artifact.IsStraight) :
    after.IsTree ∧ l = f.place artifact ∧ f.Grows after l := by
  obtain ⟨-, -, _, _, last, hnames, hlast, -⟩ := exists_of_replaceable h.replaceable
  have hmem : last ∈ artifact.names := hnames ▸ List.mem_append_right _ (List.mem_singleton_self last)
  obtain ⟨hdirectory, habove⟩ := place_artifactDirectory hstraight hlast hmem f
  obtain ⟨hmade, hnew⟩ := hf.furnished h.furnished hdirectory
  -- the temporary file is no link, and not where walks start
  have hlinkless : (made.put temporary (.text text)).Linkless :=
    hmade.linkless.put h.root fun target => Entry.noConfusion
  have hstart : Files.entry? (made.put temporary (.text text)) (made.start artifact) = some .directory := by
    have hne : made.start artifact ≠ temporary := by
      intro heq
      have hfree := h.free.entry? h.root
      rw [← heq, hmade.start artifact] at hfree
      cases hfree
    rw [entry?_put_of_ne made h.root _ hne, hmade.start artifact]
  obtain ⟨hat, d, last, hl, hthere, hlast, hmem⟩ := hlinkless.place_of_replaceable hstraight hstart h.replaceable
  have hplace : l = f.place artifact := by
    rw [hat, place, place, start, start, workingDirectory_put, h.furnished.extends.here]
  have hname : Path.IsName last ∧ LooksUp last := ⟨isName_of_looksUp hlast (no_slash_of_mem_names hmem), hlast⟩
  refine ⟨?_, hplace, h.here, ?_, ⟨text, h.entry?_self⟩, fun other e hne hentry => ?_, fun other hne hnone => ?_⟩
  · rw [h.put, hl]
    have hdirectory : made.entry? d = some .directory := entry?_of_put h.root hthere Entry.noConfusion
    exact hmade.put hdirectory hname (hl ▸ h.not_directory) fun target => Entry.noConfusion
  · exact fun hbefore => h.not_directory (h.furnished.extends.kept _ _ hbefore)
  · rw [h.entry?_of_ne hne, h.furnished.extends.kept other e hentry]
  · rw [h.entry?_of_ne hne]
    rcases h.furnished.extends.added other hnone with hempty | hdirectory
    · exact .inl hempty
    · refine .inr ⟨hdirectory, hplace ▸ (hnew other hnone ?_).trans habove⟩
      rw [hdirectory]
      simp

end Emits

end Files

end RouteContracts
