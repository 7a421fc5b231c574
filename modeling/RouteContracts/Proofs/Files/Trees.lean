import Mathlib.Data.List.Induction
import Mathlib.Data.List.Nodup
import RouteContracts.Proofs.Path.Steps

/-! # Plain trees
A plain tree has directories and files, and no links. There a straight path leads to the place that its names
give, and what comes at one place is seen only from there, from above and from below.

* `Files.IsTree`: plain trees. `Files.place`: where a straight path leads.
* `Files.Linkless.location_eq`: **without links a walk follows the names.** `Files.Linkless.location_of_walk`: along a
  straight path they are the names of its place.
* `Files.IsTree.furnished`: **making directories keeps a tree**, and adds only what is above a place.
* `Files.Grows`: a tree in which a file comes, with the directories above it.
* `Files.Grows.seen_locate`: **a straight path to a place elsewhere sees the same.** -/

namespace RouteContracts

/-- Where a component leads from a location. -/
def Component.follow (here : Location) : Component → Location
  | .root => []
  | .current => here
  | .parent => here.dropLast
  | .normal name => here ++ [name]

/-- The component that a name between slashes gives. -/
def Component.ofName? (name : String) : Option Component := Path.componentOf? name.toList

namespace Files

/-- **A plain tree**: every location is listed once, has names that can be looked up, and is in a directory; nothing is
a link. -/
structure IsTree (f : Files) : Prop where
  unique : (f.entries.map Prod.fst).Nodup
  names : ∀ e ∈ f.entries, ∀ name ∈ e.1, Path.IsName name ∧ LooksUp name
  root : ∀ e ∈ f.entries, e.1 ≠ []
  closed : ∀ e ∈ f.entries, f.entry? e.1.dropLast = some .directory
  plain : ∀ e ∈ f.entries, ∀ target, e.2 ≠ .link target
  here : f.entry? f.workingDirectory = some .directory

/-- Nothing is a link. -/
def Linkless (f : Files) : Prop := ∀ l target, f.entry? l ≠ some (.link target)

/-- Where a straight path leads. -/
def place (f : Files) (p : Path) : Location := f.start p ++ p.steps

variable {f g : Files} {l d : Location} {e : Entry} {p q : Path}

/-! ## What is where -/

theorem mem_entries_of_entry (h : f.entry? l = some e) (hl : l ≠ []) : (l, e) ∈ f.entries := by
  rw [Files.entry?, if_neg hl, Option.map_eq_some_iff] at h
  obtain ⟨old, hold, rfl⟩ := h
  have hfound := List.find?_some hold
  have hat : old.1 = l := beq_iff_eq.mp hfound
  exact hat ▸ List.mem_of_find?_eq_some hold

namespace IsTree

theorem entry?_of_mem (hf : f.IsTree) (h : (l, e) ∈ f.entries) : f.entry? l = some e := by
  have hl : l ≠ [] := hf.root _ h
  cases hfound : f.entry? l with
  | none =>
    rw [Files.entry?, if_neg hl, Option.map_eq_none_iff, List.find?_eq_none] at hfound
    exact absurd (beq_self_eq_true l) (hfound _ h)
  | some e' =>
    have heq : (l, e') = (l, e) := List.inj_on_of_nodup_map hf.unique (mem_entries_of_entry hfound hl) h rfl
    rw [(Prod.mk.inj heq).2]

theorem linkless (hf : f.IsTree) : f.Linkless := by
  intro l target h
  have hl : l ≠ [] := by
    rintro rfl
    cases h
  exact hf.plain _ (mem_entries_of_entry h hl) target rfl

/-- In an `IsTree`, what is at `l ++ [name]` is in a directory `l`. -/
theorem parent (hf : f.IsTree) {name : String} (h : f.entry? (l ++ [name]) = some e) :
    f.entry? l = some .directory := by
  have hclosed := hf.closed _ (mem_entries_of_entry h (by simp))
  rwa [List.dropLast_concat] at hclosed

/-- **In an `IsTree`, above what is somewhere there are directories.** -/
theorem directory_of_prefix (hf : f.IsTree) (h : f.entry? l = some e) (hd : d <+: l) (hne : d ≠ l) :
    f.entry? d = some .directory := by
  induction l using List.reverseRecOn generalizing e with
  | nil => exact absurd (List.prefix_nil.mp hd) hne
  | append_singleton l name ih =>
    have hparent := hf.parent h
    rcases List.prefix_concat_iff.mp hd with heq | hprefix
    · exact absurd heq hne
    · by_cases hat : d = l
      · rw [hat, hparent]
      · exact ih hparent hprefix hat

theorem names_of_entry (hf : f.IsTree) (h : f.entry? l = some e) :
    ∀ name ∈ l, Path.IsName name ∧ LooksUp name := by
  by_cases hl : l = []
  · rw [hl]
    exact List.forall_mem_nil _
  · exact hf.names _ (mem_entries_of_entry h hl)

/-- In an `IsTree`, `start` is a directory. -/
theorem start (hf : f.IsTree) (p : Path) : f.entry? (f.start p) = some .directory := by
  unfold Files.start
  split
  · exact entry?_nil f
  · exact hf.here

/-- **`put` in a directory keeps `IsTree`**, unless a directory is replaced or a link is put. -/
theorem put (hf : f.IsTree) {name : String} (hd : f.entry? d = some .directory)
    (hname : Path.IsName name ∧ LooksUp name) (hold : f.entry? (d ++ [name]) ≠ some .directory)
    (he : ∀ target, e ≠ .link target) : (f.put (d ++ [name]) e).IsTree := by
  have hne : d ++ [name] ≠ [] := by simp
  have hkept : ∀ other, f.entry? other = some .directory →
      Files.entry? (f.put (d ++ [name]) e) other = some .directory := by
    intro other hother
    rwa [entry?_put_of_ne f hne _ fun heq => hold (heq ▸ hother)]
  -- an old entry stays, and there is one new entry
  have hmem : ∀ old ∈ (f.put (d ++ [name]) e).entries, old = (d ++ [name], e) ∨ old ∈ f.entries := by
    intro old hold
    rcases List.mem_cons.mp hold with rfl | hold
    · exact .inl rfl
    · exact .inr (List.mem_filter.mp hold).1
  refine ⟨?_, fun old hold => ?_, fun old hold => ?_, fun old hold => ?_, fun old hold target => ?_, hkept _ hf.here⟩
  · rw [Files.put, List.map_cons, List.nodup_cons]
    constructor
    · rintro hat
      obtain ⟨old, hold, heq⟩ := List.mem_map.mp hat
      exact of_decide_eq_true (List.mem_filter.mp hold).2 heq
    · exact hf.unique.sublist (List.filter_sublist.map _)
  · rcases hmem old hold with rfl | hold
    · exact List.forall_mem_append.mpr ⟨hf.names_of_entry hd, List.forall_mem_singleton.mpr hname⟩
    · exact hf.names old hold
  · rcases hmem old hold with rfl | hold
    · exact hne
    · exact hf.root old hold
  · rcases hmem old hold with rfl | hold
    · rw [List.dropLast_concat]
      exact hkept d hd
    · exact hkept _ (hf.closed old hold)
  · rcases hmem old hold with rfl | hold
    · exact he target
    · exact hf.plain old hold target

end IsTree

/-! ## Walks by names -/

theorem ofName?_of_void {name : String} (h : name = "" ∨ name = ".") : Component.ofName? name = none := by
  rcases h with rfl | rfl <;> rfl

theorem ofName?_of_looksUp {name : String} (h : LooksUp name) : Component.ofName? name = some (.normal name) := by
  have hchars : ∀ t : String, name.toList = t.toList → name = t := fun t => String.toList_inj.mp
  rw [Component.ofName?, Path.componentOf?, if_neg, if_neg, String.ofList_toList]
  · exact fun hup => h.ne_dots (hchars ".." hup)
  · rintro (hempty | hdot)
    · exact h.ne_empty (hchars "" hempty)
    · exact h.ne_dot (hchars "." hdot)

theorem foldl_follow_names (here : Location) (names : List String) :
    (names.map Component.normal).foldl Component.follow here = here ++ names := by
  induction names generalizing here with
  | nil => exact (List.append_nil here).symm
  | cons name names ih =>
    rw [List.map_cons, List.foldl_cons, ih, Component.follow, List.append_assoc, List.singleton_append]

/-- **Where `Linkless`, `walk` folds `Component.follow` over the names**, and does nothing else. -/
theorem Linkless.location_eq (hf : f.Linkless) {follow : Bool} (links : Nat) (here : Location) (names : List String)
    {place : Place} (h : f.walk follow links here names = .ok place) :
    place.location = (names.filterMap Component.ofName?).foldl Component.follow here := by
  have hleads := leads_of_walk h
  clear h
  induction hleads with
  | nil => rfl
  | void hvoid _ ih =>
    rw [List.filterMap_cons_none (ofName?_of_void hvoid)]
    exact ih
  | up _ ih =>
    have hup : Component.ofName? ".." = some .parent := rfl
    rw [List.filterMap_cons_some hup]
    exact ih
  | enter hname _ _ ih =>
    rw [List.filterMap_cons_some (ofName?_of_looksUp hname)]
    exact ih
  | link _ hentry => exact absurd hentry (hf _ _)
  | found hname | vacant hname =>
    rw [List.filterMap_cons_some (ofName?_of_looksUp hname)]
    rfl

/-! ## Straight walks -/

/-- The names that are looked up. -/
def lookedUp (names : List String) : List String := names.filter fun name => decide (name ≠ "" ∧ name ≠ ".")

/-- Names that lead nowhere back. -/
def Forward (names : List String) : Prop := ∀ name ∈ names, (name = "" ∨ name = ".") ∨ LooksUp name

theorem not_forward_dots (rest : List String) : ¬Forward (".." :: rest) := by
  intro h
  rcases (List.forall_mem_cons.mp h).1 with hvoid | hlooks
  · exact absurd hvoid (by decide)
  · exact hlooks.ne_dots rfl

theorem lookedUp_of_void {name : String} (h : name = "" ∨ name = ".") (rest : List String) :
    lookedUp (name :: rest) = lookedUp rest := by
  rw [lookedUp, List.filter_cons_of_neg, lookedUp]
  rcases h with rfl | rfl <;> decide

theorem lookedUp_of_looksUp {name : String} (h : LooksUp name) (rest : List String) :
    lookedUp (name :: rest) = name :: lookedUp rest :=
  List.filter_cons_of_pos (decide_eq_true ⟨h.ne_empty, h.ne_dot⟩)

/-- **Induction along `Forward` names**: none is left, the first is void, or it `LooksUp`. -/
@[elab_as_elim]
theorem forward_induct {motive : ∀ (_ : Location) (names : List String), Forward names → Prop}
    (nil : ∀ l h, motive l [] h)
    (void : ∀ l name rest h (_ : name = "" ∨ name = ".") (hrest : Forward rest), motive l rest hrest →
      motive l (name :: rest) h)
    (step : ∀ l name rest h (_ : LooksUp name) (hrest : Forward rest), motive (l ++ [name]) rest hrest →
      motive l (name :: rest) h) :
    ∀ (l : Location) (names : List String) (h : Forward names), motive l names h
  | l, [], h => nil l h
  | l, name :: rest, h =>
    have ⟨hname, hrest⟩ := List.forall_mem_cons.mp h
    hname.elim (fun hvoid => void l name rest h hvoid hrest (forward_induct nil void step l rest hrest))
      fun hlooks => step l name rest h hlooks hrest (forward_induct nil void step (l ++ [name]) rest hrest)

theorem Linkless.put (hf : f.Linkless) (hl : l ≠ []) (he : ∀ target, e ≠ .link target) : (f.put l e).Linkless :=
  fun other target h => hf other target (entry?_of_put hl h (he target).symm)

theorem filterMap_ofName? {names : List String} (h : Forward names) :
    names.filterMap Component.ofName? = (lookedUp names).map .normal := by
  induction names with
  | nil => rfl
  | cons name rest ih =>
    obtain ⟨hname, hrest⟩ := List.forall_mem_cons.mp h
    rcases hname with hvoid | hlooks
    · rw [List.filterMap_cons_none (ofName?_of_void hvoid), lookedUp_of_void hvoid, ih hrest]
    · rw [List.filterMap_cons_some (ofName?_of_looksUp hlooks), lookedUp_of_looksUp hlooks, ih hrest, List.map_cons]

/-- **Where `Linkless`, `walk` along `Forward` names comes to** `here ++ lookedUp names`. -/
theorem Linkless.location_of_walk (hf : f.Linkless) {follow : Bool} (links : Nat) (here : Location)
    (names : List String) (hnames : Forward names) {place : Place} (h : f.walk follow links here names = .ok place) :
    place.location = here ++ lookedUp names := by
  rw [hf.location_eq links here names h, filterMap_ofName? hnames, foldl_follow_names]

/-- What `walk` finds along `Forward` names is there. -/
theorem Linkless.entry?_of_walk_found (hf : f.Linkless) {follow : Bool} (links : Nat) (here : Location)
    (names : List String) (hnames : Forward names) (hhere : f.entry? here = some .directory)
    (h : f.walk follow links here names = .ok (.found l e)) : f.entry? l = some e := by
  have hleads := leads_of_walk h
  clear h
  generalize hplace : Place.found l e = place at hleads
  induction hleads with
  | nil =>
    obtain ⟨rfl, rfl⟩ := Place.found.inj hplace
    exact hhere
  | void _ _ ih => exact ih (List.forall_mem_cons.mp hnames).2 hhere hplace
  | up => exact absurd hnames (not_forward_dots _)
  | enter _ hentry _ ih => exact ih (List.forall_mem_cons.mp hnames).2 hentry hplace
  | link _ hentry => exact absurd hentry (hf _ _)
  | found _ hentry =>
    obtain ⟨rfl, rfl⟩ := Place.found.inj hplace
    exact hentry
  | vacant => cases hplace

/-- A vacant place that `walk` comes to along `Forward` names is in a directory. -/
theorem Linkless.exists_of_walk_vacant (hf : f.Linkless) {follow : Bool} (links : Nat) (here : Location)
    (names : List String) (hnames : Forward names) (hhere : f.entry? here = some .directory)
    (hslash : ∀ name ∈ names, '/' ∉ name.toList) (h : f.walk follow links here names = .ok (.vacant l)) :
    ∃ d name, l = d ++ [name] ∧ f.entry? d = some .directory ∧ Path.IsName name ∧ LooksUp name := by
  have hleads := leads_of_walk h
  clear h
  generalize hplace : Place.vacant l = place at hleads
  induction hleads with
  | nil => cases hplace
  | void _ _ ih => exact ih (List.forall_mem_cons.mp hnames).2 hhere (List.forall_mem_cons.mp hslash).2 hplace
  | up => exact absurd hnames (not_forward_dots _)
  | enter _ hentry _ ih =>
    exact ih (List.forall_mem_cons.mp hnames).2 hentry (List.forall_mem_cons.mp hslash).2 hplace
  | link _ hentry => exact absurd hentry (hf _ _)
  | found => cases hplace
  | vacant hname =>
    obtain rfl := Place.vacant.inj hplace
    exact ⟨_, _, rfl, hhere, isName_of_looksUp hname (hslash _ (List.mem_singleton_self _)), hname⟩

/-- In an `IsTree`, `walk` along `Forward` names finds a directory that is there. -/
theorem IsTree.walk_directory (hf : f.IsTree) (follow : Bool) (links : Nat) (here : Location) (names : List String)
    (hnames : Forward names) (h : f.entry? (here ++ lookedUp names) = some .directory) :
    f.walk follow links here names = .ok (.found (here ++ lookedUp names) .directory) := by
  induction here, names, hnames using forward_induct with
  | nil here _ => rw [walk_nil, lookedUp, List.filter_nil, List.append_nil]
  | void here name rest _ hvoid _ ih =>
    rw [lookedUp_of_void hvoid] at h ⊢
    rw [walk_of_void f _ _ _ hvoid]
    exact ih h
  | step here name rest _ hname _ ih =>
    rw [lookedUp_of_looksUp hname, List.append_cons] at h ⊢
    -- the location is the directory that is looked for, or lies above it
    have hthere : f.entry? (here ++ [name]) = some .directory := by
      by_cases hend : here ++ [name] = here ++ [name] ++ lookedUp rest
      · rw [hend, h]
      · exact hf.directory_of_prefix h (List.prefix_append _ _) hend
    rw [walk_of_looksUp f _ _ _ hname, hthere]
    exact ih h

/-- The `names` of an `IsStraight` path are `Forward`. -/
theorem forward_names (hp : p.IsStraight) : Forward p.names := fun _ hname => hp.looksUp hname

theorem lookedUp_names (hp : p.IsStraight) : lookedUp p.names = p.steps := hp.filter_names

/-- `lookedUp` is the same without the slashes at the end of a path. -/
theorem lookedUp_namesWithoutEnd (hp : p.IsStraight) : lookedUp (namesWithoutEnd p) = p.steps := by
  have hsplit : p.names = namesWithoutEnd p ++ (p.names.reverse.takeWhile fun name => name = "").reverse := by
    rw [namesWithoutEnd, ← List.reverse_append, List.takeWhile_append_dropWhile, List.reverse_reverse]
  have hend : lookedUp (p.names.reverse.takeWhile fun name => name = "").reverse = [] := by
    refine List.filter_eq_nil_iff.mpr fun name hname hkept => ?_
    have hempty := List.all_eq_true.mp List.all_takeWhile _ (List.mem_reverse.mp hname)
    exact (of_decide_eq_true hkept).1 (of_decide_eq_true hempty)
  have happend : lookedUp p.names = lookedUp (namesWithoutEnd p) := by
    rw [hsplit, lookedUp, List.filter_append]
    exact (congrArg _ hend).trans (List.append_nil _)
  rw [← lookedUp_names hp, happend]

/-! ## Made directories -/

theorem place_of_parent? {dir : Path} (h : p.parent? = some dir) : f.place dir <+: f.place p := by
  obtain ⟨hcomponents, habsolute⟩ := Path.components_parent? h
  have hstart : f.start dir = f.start p := by rw [Files.start, Files.start, habsolute]
  rw [place, place, hstart]
  exact (List.prefix_append_right_inj _).mpr (hcomponents.filterMap _)

/-- **`Furnished` for an `IsStraight` path keeps `IsTree`.** What is new is at its `place` or above. -/
theorem IsTree.furnished (hf : f.IsTree) (h : f.Furnished p g) (hp : p.IsStraight) :
    g.IsTree ∧ ∀ l, f.entry? l = none → g.entry? l ≠ none → l <+: f.place p := by
  induction h with
  | none p => exact ⟨hf, fun l hnone hsome => absurd hnone hsome⟩
  | @made p g l before vacant ih =>
    obtain ⟨hg, hnew⟩ := ih hp
    have hforward : Forward (namesWithoutEnd p) := fun name hname => hp.looksUp (mem_names_of_namesWithoutEnd hname)
    have hslash : ∀ name ∈ namesWithoutEnd p, '/' ∉ name.toList :=
      fun name hname => no_slash_of_mem_names (mem_names_of_namesWithoutEnd hname)
    -- what is made last is the place itself, as no link leads away from it
    have hplace : l = f.place p := by
      have hlocation := hg.linkless.location_of_walk _ _ _ hforward vacant
      rw [lookedUp_namesWithoutEnd hp] at hlocation
      rw [place, Files.start, ← before.extends.here]
      exact hlocation
    obtain ⟨hl, hnone⟩ := entry?_of_walk_vacant _ _ _ vacant
    obtain ⟨d, name, hd, hdirectory, hname⟩ :=
      hg.linkless.exists_of_walk_vacant _ _ _ hforward (hg.start p) hslash vacant
    refine ⟨?_, fun other hother hsome => ?_⟩
    · rw [hd]
      refine hg.put hdirectory hname ?_ (fun target => Entry.noConfusion)
      rw [← hd, hnone]
      simp
    · by_cases hat : other = l
      · exact hat ▸ hplace ▸ List.prefix_rfl
      · rw [entry?_put_of_ne g hl _ hat] at hsome
        exact hnew other hother hsome
  | @above p dir g parent before ih =>
    obtain ⟨hg, hnew⟩ := ih (hp.of_prefix (Path.components_parent? parent).1)
    exact ⟨hg, fun l hnone hsome => (hnew l hnone hsome).trans (place_of_parent? parent)⟩

/-! ## A file that comes -/

/-- What a walk sees. A vacant place is nothing. -/
def seen : Except FileError Place → Except FileError (Location × Entry)
  | .ok (.found l e) => .ok (l, e)
  | .ok (.vacant _) => .error .notFound
  | .error e => .error e

/-- What is read of what is seen. -/
def readSeen : Except FileError (Location × Entry) → Except FileError String
  | .ok (_, .text content) => .ok content
  | .ok (_, .bytes _) => .error .notText
  | .ok _ => .error .isADirectory
  | .error e => .error e

theorem read_eq_readSeen (f : Files) (p : Path) : f.read p = readSeen (seen (f.locate true p)) := by
  unfold read
  rcases f.locate true p with e | ⟨l, e⟩ | l
  · rfl
  · cases e <;> rfl
  · rfl

/-- `read` depends on what is `seen`. -/
theorem read_congr (h : seen (f.locate true p) = seen (g.locate true p)) : f.read p = g.read p := by
  rw [read_eq_readSeen, read_eq_readSeen, h]

theorem find?_congr (h : seen (f.locate true p) = seen (g.locate true p)) : f.find? p = g.find? p := by
  have hfind : ∀ f : Files, f.find? p = (seen (f.locate true p)).toOption := by
    intro f
    unfold find? seen
    rcases f.locate true p with e | ⟨l, e⟩ | l <;> rfl
  rw [hfind f, hfind g, h]

/-- **A file comes to a location**, and directories above it, where nothing was before. -/
structure Grows (f g : Files) (l : Location) : Prop where
  here : g.workingDirectory = f.workingDirectory
  /-- The file may take the place of another one. -/
  before : f.entry? l ≠ some .directory
  file : ∃ text, g.entry? l = some (.text text)
  kept : ∀ other e, other ≠ l → f.entry? other = some e → g.entry? other = some e
  added : ∀ other, other ≠ l → f.entry? other = none →
    g.entry? other = none ∨ g.entry? other = some .directory ∧ other <+: l

/-- A location is neither at another one, nor above or below it. -/
def Aside (l other : Location) : Prop := ¬l <+: other ∧ ¬other <+: l

namespace Grows

theorem start (h : f.Grows g l) (p : Path) : g.start p = f.start p := by
  rw [Files.start, Files.start, h.here]

theorem place (h : f.Grows g l) (p : Path) : g.place p = f.place p := by
  rw [Files.place, Files.place, h.start]

/-- **Below a directory that `Grows` new nothing is seen** but the file and what is above it. -/
theorem seen_below (h : f.Grows g l) (hf : f.IsTree) (links : Nat) (here : Location) (names : List String)
    (hnames : Forward names) (hhere : f.entry? here = none) (hnew : g.entry? here = some .directory)
    (haside : Aside (here ++ lookedUp names) l) : seen (g.walk true links here names) = .error .notFound := by
  induction here, names, hnames using forward_induct with
  | nil here _ =>
    rw [lookedUp, List.filter_nil, List.append_nil] at haside
    have hne : here ≠ l := fun heq => haside.1 (heq ▸ List.prefix_rfl)
    rcases h.added here hne hhere with hnone | ⟨-, habove⟩
    · cases hnone.symm.trans hnew
    · exact absurd habove haside.1
  | void here name rest _ hvoid _ ih =>
    rw [lookedUp_of_void hvoid] at haside
    rw [walk_of_void g _ _ _ hvoid]
    exact ih hhere hnew haside
  | step here name rest _ hname _ ih =>
    rw [lookedUp_of_looksUp hname, List.append_cons] at haside
    have hne : here ++ [name] ≠ l := fun heq => haside.2 (heq ▸ List.prefix_append _ _)
    -- nothing was below it either, since everything was in a directory
    have hnone : f.entry? (here ++ [name]) = none := by
      cases hentry : f.entry? (here ++ [name]) with
      | none => rfl
      | some e => cases hhere.symm.trans (hf.parent hentry)
    rw [walk_of_looksUp g _ _ _ hname]
    rcases h.added _ hne hnone with hempty | ⟨hdirectory, -⟩
    · rw [hempty]
      dsimp only
      split <;> rfl
    · rw [hdirectory]
      exact ih hnone hdirectory haside

/-- **`walk` along `Forward` names sees the same** in `f` and in `g`, to a location `Aside`. -/
theorem seen_walk (h : f.Grows g l) (hf : f.IsTree) (links : Nat) (here : Location) (names : List String)
    (hnames : Forward names) (haside : Aside (here ++ lookedUp names) l) :
    seen (g.walk true links here names) = seen (f.walk true links here names) := by
  induction here, names, hnames using forward_induct with
  | nil here _ => rw [walk_nil, walk_nil]
  | void here name rest _ hvoid _ ih =>
    rw [lookedUp_of_void hvoid] at haside
    rw [walk_of_void g _ _ _ hvoid, walk_of_void f _ _ _ hvoid]
    exact ih haside
  | step here name rest _ hname hrest ih =>
    rw [lookedUp_of_looksUp hname, List.append_cons] at haside
    have hne : here ++ [name] ≠ l := fun heq => haside.2 (heq ▸ List.prefix_append _ _)
    rw [walk_of_looksUp g _ _ _ hname, walk_of_looksUp f _ _ _ hname]
    cases hentry : f.entry? (here ++ [name]) with
    | none =>
      have hnothing : seen (if rest = [] then .ok (.vacant (here ++ [name])) else .error .notFound) =
          .error .notFound := by
        split <;> rfl
      rcases h.added _ hne hentry with hempty | ⟨hdirectory, -⟩
      · rw [hempty]
      -- a new directory, on the way to the file
      · rw [hdirectory]
        exact (h.seen_below hf _ _ _ hrest hentry hdirectory haside).trans hnothing.symm
    | some e =>
      rw [h.kept _ e hne hentry]
      cases e with
      | directory => exact ih haside
      | text content => rfl
      | bytes content => rfl
      | link target => exact absurd hentry (hf.linkless _ target)

/-- **`locate` of an `IsStraight` path sees the same** in `f` and in `g`, where its `place` is `Aside`. -/
theorem seen_locate (h : f.Grows g l) (hf : f.IsTree) (hp : p.IsStraight) (haside : Aside (f.place p) l) :
    seen (g.locate true p) = seen (f.locate true p) := by
  unfold locate
  split
  · rfl
  split
  · rfl
  rw [h.start]
  refine h.seen_walk hf _ _ _ (forward_names hp) ?_
  rwa [lookedUp_names hp]

/-- A file at another location is `Aside`: neither above nor below. -/
theorem aside_of_isFile (h : f.Grows g l) (hf : f.IsTree) (hg : g.IsTree) {other : Location}
    (hentry : f.entry? other = some e) (hfile : e.isFile = true) (hne : other ≠ l) : Aside other l := by
  have hnot : e ≠ .directory := by
    rintro rfl
    cases hfile
  obtain ⟨text, htext⟩ := h.file
  constructor
  · intro habove
    have hdirectory := (h.kept other e hne hentry).symm.trans (hg.directory_of_prefix htext habove hne)
    exact hnot (Option.some.inj hdirectory)
  · exact fun hbelow => h.before (hf.directory_of_prefix hentry hbelow (Ne.symm hne))

end Grows

end Files

end RouteContracts
