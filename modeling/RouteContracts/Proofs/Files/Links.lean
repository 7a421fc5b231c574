import RouteContracts.Proofs.Files.Resolving

/-! # Links between two moments
Files can come and go without a change in where paths lead, as long as the links stay: a path that leads to something at
two moments leads to the same location. So an endpoint file that can be read at two moments has another pattern at the
second one only if a link has changed.

* `Files.SameLinks f g`: `f` and `g` have the same links. `Files.SameLinks.location_eq`: **walks along the same names
  through `f` and `g` lead to one location.**
* `Thinned names names'`: `names'` is `names` with some of `""` and `"."` left out. `Files.Leads.thin`: **a walk that
  leads somewhere still does so along `names'`.**
* `Files.canonical_withoutDots`: a path that can be read has a canonical path without its dots.
* `Files.SameLinks.routeId?_eq`: **files with the same links give a path that can be read the same pattern.** -/

namespace RouteContracts

namespace Path

/-! ## Pieces of a path without its dots -/

/-- A character other than `'/'` is in a text when it is in one of its `pieces`. -/
theorem mem_iff_exists_piece {c : Char} (hc : c ≠ '/') (s : List Char) : c ∈ s ↔ ∃ piece ∈ pieces s, c ∈ piece := by
  induction s with
  | nil => simp [pieces]
  | cons d s ih =>
    by_cases hd : d = '/'
    · subst hd
      simp [pieces, hc, ih]
    · obtain ⟨piece, ps, hps⟩ := List.exists_cons_of_ne_nil (pieces_ne_nil s)
      rw [pieces_cons_of_ne hd hps, List.mem_cons, ih, hps]
      simp [or_assoc]

/-- A path has the character that makes it `isUnusable` in one of its `names`. -/
theorem isUnusable_iff {p : Path} : p.isUnusable = true ↔ ∃ name ∈ p.names, '\x00' ∈ name.toList := by
  rw [isUnusable, List.contains_iff_mem, mem_iff_exists_piece (by decide)]
  simp [names]

theorem isAbsolute_withoutDots (p : Path) : p.withoutDots.isAbsolute = p.isAbsolute := by
  rw [Bool.eq_iff_iff, isAbsolute_iff, isAbsolute_iff, mem_withoutDots]
  exact and_iff_left Component.noConfusion

/-- A path without its dots is written from its root and the components of its pieces. -/
theorem withoutDots_eq (p : Path) :
    p.withoutDots = ofComponents (front p.isAbsolute ++ (pieces p.text.toList).filterMap componentOf?) := by
  rw [← components_withoutDots_eq, components_withoutDots, withoutDots]

/-- The `names` of a path without its dots: an empty one for the root, and those of the components. -/
theorem names_withoutDots {p : Path} (h : (pieces p.text.toList).filterMap componentOf? ≠ []) :
    p.withoutDots.names = (if p.isAbsolute then [""] else []) ++
      ((pieces p.text.toList).filterMap componentOf?).map Component.text := by
  have hplain : ∀ c ∈ (pieces p.text.toList).filterMap componentOf?, IsPlain c := fun c => isPlain_of_mem_pieces
  rw [withoutDots_eq]
  generalize (pieces p.text.toList).filterMap componentOf? = cs at h hplain
  have htexts := congrArg (List.map String.ofList) (pieces_texts h hplain)
  have hmap : (cs.map (·.text.toList)).map String.ofList = cs.map Component.text := by
    simp [Function.comp_def]
  rw [hmap] at htexts
  cases p.isAbsolute with
  | true =>
    have hchars : (ofComponents (.root :: cs)).text.toList =
        '/' :: ("/".intercalate (cs.map Component.text)).toList := by
      rw [ofComponents, String.toList_append]
      rfl
    show (pieces (ofComponents (.root :: cs)).text.toList).map String.ofList = "" :: _
    rw [hchars, pieces, List.map_cons, htexts]
    rfl
  | false =>
    have hwritten : ofComponents cs = ⟨"/".intercalate (cs.map Component.text)⟩ := by
      cases cs with
      | nil => rfl
      | cons c cs =>
        -- a plain component is no root
        cases c with
        | root => exact (hplain _ List.mem_cons_self).elim
        | current | parent | normal => rfl
    show (pieces (ofComponents cs).text.toList).map String.ofList = _
    rw [hwritten, htexts]
    rfl

end Path

/-! ## Names that say nothing -/

/-- **The second names are the first ones** with some of `""` and `"."` left out. -/
inductive Thinned : List String → List String → Prop
  | nil : Thinned [] []
  | keep (name : String) {names names' : List String} (h : Thinned names names') :
      Thinned (name :: names) (name :: names')
  | drop {name : String} {names names' : List String} (hvoid : name = "" ∨ name = ".") (h : Thinned names names') :
      Thinned (name :: names) names'

namespace Thinned

variable {names names' : List String} {name : String}

theorem refl (names : List String) : Thinned names names := by
  induction names with
  | nil => exact .nil
  | cons name names ih => exact ih.keep name

/-- `Thinned` with the same names in front. -/
theorem append_left (front : List String) (h : Thinned names names') : Thinned (front ++ names) (front ++ names') := by
  induction front with
  | nil => exact h
  | cons name front ih => exact ih.keep name

theorem subset (h : Thinned names names') : names' ⊆ names := by
  induction h with
  | nil => exact List.Subset.refl _
  | keep name _ ih => exact List.cons_subset_cons name ih
  | drop _ _ ih => exact List.subset_cons_of_subset _ ih

/-- A name that is neither `""` nor `"."` is kept. -/
theorem exists_of_cons (hname : ¬(name = "" ∨ name = ".")) (h : Thinned (name :: names) names') :
    ∃ rest, names' = name :: rest ∧ Thinned names rest := by
  cases h with
  | keep _ h => exact ⟨_, rfl, h⟩
  | drop hvoid _ => exact absurd hvoid hname

/-- The texts of the components of pieces are `Thinned` from the pieces. -/
theorem of_pieces (ps : List (List Char)) :
    Thinned (ps.map String.ofList) ((ps.filterMap Path.componentOf?).map Component.text) := by
  induction ps with
  | nil => exact .nil
  | cons piece ps ih =>
    rw [List.map_cons]
    by_cases hvoid : piece = [] ∨ piece = ['.']
    · rw [List.filterMap_cons_none (by rw [Path.componentOf?, if_pos hvoid])]
      refine .drop ?_ ih
      rcases hvoid with rfl | rfl
      · exact .inl rfl
      · exact .inr rfl
    · obtain ⟨c, hc, htext⟩ : ∃ c, Path.componentOf? piece = some c ∧ c.text = String.ofList piece := by
        rw [Path.componentOf?, if_neg hvoid]
        by_cases hup : piece = ['.', '.']
        · rw [hup]
          exact ⟨.parent, rfl, rfl⟩
        · exact ⟨_, if_neg hup, rfl⟩
      rw [List.filterMap_cons_some hc, List.map_cons, htext]
      exact ih.keep _

/-- **The `names` of `p.withoutDots`** are `Thinned` from those of `p`. -/
theorem of_withoutDots {p : Path} {name : String} (h : p.fileName? = some name) :
    Thinned p.names p.withoutDots.names := by
  have hne : (Path.pieces p.text.toList).filterMap Path.componentOf? ≠ [] := by
    intro hnil
    have hlast := Path.getLast?_pieces h
    rw [hnil] at hlast
    cases hlast
  rw [Path.names_withoutDots hne]
  cases habsolute : p.isAbsolute with
  | false => exact of_pieces _
  | true =>
    -- the piece in front of the first slash stays, as the root
    obtain ⟨s, hs⟩ := List.head?_eq_some_iff.mp (beq_iff_eq.mp habsolute)
    have hpieces : Path.pieces p.text.toList = [] :: Path.pieces s := by rw [hs, Path.pieces]
    rw [Path.names, hpieces, List.filterMap_cons_none rfl]
    exact (of_pieces _).keep ""

end Thinned

namespace Files

variable {f g : Files} {p : Path} {l : Location}

theorem LooksUp.not_void {name : String} (h : LooksUp name) : ¬(name = "" ∨ name = ".") :=
  not_or.mpr ⟨h.ne_empty, h.ne_dot⟩

/-- **`Leads` is kept by `Thinned`.** The other way round it may not be: a name behind that of a file stops a walk, also
when it is `""` or `"."`. -/
theorem Leads.thin {links : Nat} {names names' : List String} {place : Place} (h : f.Leads true links l names place)
    (hthin : Thinned names names') : f.Leads true links l names' place := by
  induction h generalizing names' with
  | nil => cases hthin; exact .nil
  | void hvoid _ ih =>
    cases hthin with
    | keep _ hthin => exact .void hvoid (ih hthin)
    | drop _ hthin => exact ih hthin
  | up _ ih =>
    obtain ⟨rest, rfl, hrest⟩ := hthin.exists_of_cons (by decide)
    exact .up (ih hrest)
  | enter hname hentry _ ih =>
    obtain ⟨rest, rfl, hrest⟩ := hthin.exists_of_cons hname.not_void
    exact .enter hname hentry (ih hrest)
  | link hname hentry _ _ ih =>
    obtain ⟨rest, rfl, hrest⟩ := hthin.exists_of_cons hname.not_void
    exact .link hname hentry (fun hend => Bool.noConfusion hend.2) (ih (hrest.append_left _))
  | found hname hentry hdirectory hlink =>
    obtain ⟨rest, rfl, hrest⟩ := hthin.exists_of_cons hname.not_void
    cases hrest
    exact .found hname hentry hdirectory hlink
  | vacant hname hentry =>
    obtain ⟨rest, rfl, hrest⟩ := hthin.exists_of_cons hname.not_void
    cases hrest
    exact .vacant hname hentry

/-- **Where `read` succeeds, `p.withoutDots` has a `canonical` path.** -/
theorem canonical_withoutDots {code name : String} (hname : p.fileName? = some name) (h : f.read p = .ok code) :
    ∃ c, f.canonical p.withoutDots = .ok c := by
  unfold read at h
  split at h
  · cases h
  · cases h
  · next d _ hlocate =>
    have hthin := Thinned.of_withoutDots hname
    unfold locate at hlocate
    split at hlocate
    · cases hlocate
    split at hlocate
    · cases hlocate
    next husable =>
    have hempty : p.withoutDots.text.isEmpty = false := by
      rw [Bool.eq_false_iff]
      intro hempty
      have hdots := Path.fileName?_withoutDots hname
      have htext : p.withoutDots = ⟨""⟩ := congrArg Path.mk (String.isEmpty_iff.mp hempty)
      rw [htext] at hdots
      cases hdots
    have husable : p.withoutDots.isUnusable = false := by
      rw [Bool.eq_false_iff]
      intro hunusable
      obtain ⟨n, hn, hnul⟩ := Path.isUnusable_iff.mp hunusable
      exact husable (Path.isUnusable_iff.mpr ⟨n, hthin.subset hn, hnul⟩)
    have hstart : f.start p.withoutDots = f.start p := by
      rw [start, start, Path.isAbsolute_withoutDots]
    have hwalk := ((leads_of_walk hlocate).thin hthin).walk
    refine ⟨d.path, ?_⟩
    rw [canonical, locate, hempty, husable, hstart, hwalk]
    rfl
  · cases h
  · cases h

/-! ## The same links -/

/-- **The same links** are in two files, and relative paths start in the same directory. -/
structure SameLinks (f g : Files) : Prop where
  workingDirectory : f.workingDirectory = g.workingDirectory
  links : ∀ l target, f.entry? l = some (.link target) ↔ g.entry? l = some (.link target)

namespace SameLinks

theorem start_eq (h : f.SameLinks g) (p : Path) : f.start p = g.start p := by rw [start, start, h.workingDirectory]

/-- At the last name that it `LooksUp`, a walk stays where there is no link. -/
theorem location_eq_of_not_link {follow : Bool} {links : Nat} {name : String} {rest : List String} {place : Place}
    (hname : LooksUp name) (hlink : ∀ target, g.entry? (l ++ [name]) ≠ some (.link target))
    (h : g.walk follow links l (name :: rest) = .ok place) :
    rest = [] ∧ place.location = l ++ [name] ∨ g.walk follow links (l ++ [name]) rest = .ok place := by
  rw [walk_of_looksUp g _ _ _ hname] at h
  split at h
  · split at h
    · next hend => exact .inl ⟨hend, Except.ok.inj h ▸ rfl⟩
    · cases h
  · exact .inr h
  · next target hentry => exact absurd hentry (hlink target)
  · split at h
    · next hend => exact .inl ⟨hend, Except.ok.inj h ▸ rfl⟩
    · cases h

/-- **Walks along the same names lead to one `location`** in files with the `SameLinks`, whatever else is there. -/
theorem location_eq (h : f.SameLinks g) {follow : Bool} {links : Nat} {names : List String} {place place' : Place}
    (hf : f.walk follow links l names = .ok place) (hg : g.walk follow links l names = .ok place') :
    place.location = place'.location := by
  have hleads := leads_of_walk hf
  clear hf
  -- where there is no link in `f`, there is none in `g`
  have hnone : ∀ {at' : Location} {e : Option Entry}, f.entry? at' = e → (∀ target, e ≠ some (.link target)) →
      ∀ target, g.entry? at' ≠ some (.link target) := fun hentry hlink target hother =>
    hlink target (hentry ▸ (h.links _ target).mpr hother)
  induction hleads with
  | nil =>
    rw [walk_nil] at hg
    exact Except.ok.inj hg ▸ rfl
  | void hvoid _ ih => exact ih (walk_of_void g _ _ _ hvoid _ ▸ hg)
  | up _ ih => exact ih (walk_up g _ _ _ _ ▸ hg)
  | @enter _ here name rest place hname hentry hrest ih =>
    rcases location_eq_of_not_link hname (hnone hentry nofun) hg with ⟨rfl, hat⟩ | hg
    · cases hrest
      exact hat.symm
    · exact ih hg
  | link hname hentry hon _ ih => exact ih (walk_of_link g _ hname ((h.links _ _).mp hentry) hon ▸ hg)
  | @found _ here name e hname hentry _ hlink =>
    by_cases hother : ∃ target, e = .link target
    · obtain ⟨target, rfl⟩ := hother
      obtain rfl := hlink target rfl
      rw [walk_of_looksUp g _ _ _ hname, (h.links _ _).mp hentry] at hg
      exact Except.ok.inj hg ▸ rfl
    · rcases location_eq_of_not_link hname (hnone hentry fun target heq => hother ⟨target, Option.some.inj heq⟩) hg
        with ⟨-, hat⟩ | hg
      · exact hat.symm
      · rw [walk_nil] at hg
        exact Except.ok.inj hg ▸ rfl
  | vacant hname hentry =>
    rcases location_eq_of_not_link hname (hnone hentry nofun) hg with ⟨-, hat⟩ | hg
    · exact hat.symm
    · rw [walk_nil] at hg
      exact Except.ok.inj hg ▸ rfl

/-- `canonical` gives one path in files with the `SameLinks`. -/
theorem canonical_eq (h : f.SameLinks g) {c c' : Path} (hf : f.canonical p = .ok c) (hg : g.canonical p = .ok c') :
    c = c' := by
  obtain ⟨l, e, rfl, hwalk⟩ := exists_of_canonical hf
  obtain ⟨l', e', rfl, hwalk'⟩ := exists_of_canonical hg
  rw [← h.start_eq] at hwalk'
  exact congrArg Location.path (h.location_eq hwalk hwalk')

/-- **Files with the `SameLinks` give a path that can be read one `routeId?`**, however it is written. -/
theorem routeId?_eq (h : f.SameLinks g) {project : Project} {path path' : Path}
    (hpath : project.absolute path = path) (hpath' : project.absolute path' = path') (hsame : path.same path' = true)
    {code code' id id' : String} (hread : f.read path = .ok code) (hread' : g.read path' = .ok code')
    (hid : project.routeId? f path = some id) (hid' : project.routeId? g path' = some id') : id = id' := by
  have hdots : path.withoutDots = path'.withoutDots := by
    rw [Path.withoutDots, Path.withoutDots, Path.same_iff.mp hsame]
  have hname : path.fileName? = some project.endpointFile := by
    unfold Project.routeId? at hid
    split at hid
    · next hname => exact hname
    · cases hid
  have hname' : path'.fileName? = some project.endpointFile := by
    rw [← hname, Path.fileName?, Path.fileName?, Path.same_iff.mp hsame]
  -- it is enough that both are within the routes directory in the same way
  suffices hwithin : project.withinRoutes? f path = project.withinRoutes? g path' by
    rw [Project.routeId?, if_pos hname, hwithin] at hid
    rw [Project.routeId?, if_pos hname', hid] at hid'
    exact Option.some.inj hid'
  have hsome : (project.withinRoutes? f path).isSome = true ∧ (project.withinRoutes? g path').isSome = true := by
    rw [Project.routeId?, if_pos hname, Option.map_eq_some_iff] at hid
    rw [Project.routeId?, if_pos hname', Option.map_eq_some_iff] at hid'
    obtain ⟨dir, hdir, -⟩ := hid
    obtain ⟨dir', hdir', -⟩ := hid'
    obtain ⟨relative, hrelative, -⟩ := Option.bind_eq_some_iff.mp hdir
    obtain ⟨relative', hrelative', -⟩ := Option.bind_eq_some_iff.mp hdir'
    exact ⟨Option.isSome_iff_exists.mpr ⟨_, hrelative⟩, Option.isSome_iff_exists.mpr ⟨_, hrelative'⟩⟩
  obtain ⟨c, hc⟩ := canonical_withoutDots hname hread
  obtain ⟨c', hc'⟩ := canonical_withoutDots hname' hread'
  unfold Project.withinRoutes? at hsome ⊢
  rw [hpath, hpath', ← hdots] at hsome ⊢
  dsimp only at hsome ⊢
  cases hshown : path.withoutDots.within? project.routesDir.withoutDots with
  | some relative => rfl
  | none =>
    simp only [hshown] at hsome ⊢
    -- the path does not show it, so both the routes directory and the path are resolved
    cases hroutes : f.canonical project.routesDir.withoutDots with
    | error e => rw [hroutes] at hsome; cases hsome.1
    | ok routes =>
      cases hroutes' : g.canonical project.routesDir.withoutDots with
      | error e => rw [hroutes'] at hsome; cases hsome.2
      | ok routes' =>
        obtain rfl := h.canonical_eq hroutes hroutes'
        rw [← hdots] at hc'
        obtain rfl := h.canonical_eq hc hc'
        simp only [Project.canonicalOrNew?, hc, hc']

end SameLinks

end Files

end RouteContracts
