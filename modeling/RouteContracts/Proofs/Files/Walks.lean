import RouteContracts.Proofs.Project.Discovery

/-! # Walks through changing files
What changes at one location is not seen by a walk that does not come there. A walk that leads to a directory
can only be stopped by a file that takes the place of a link on its way.

* `Files.entry?_put`, `Files.put_put`, `Files.IsFree.erase_put`: what is where after a change.
* `Files.LooksUp`: the names that a walk looks up. `Files.walk_of_looksUp`: what it does with one.
* `Files.Leads`: the walks that lead somewhere, name by name. `Files.leads_of_walk`: **there are no others.**
* `Files.walk_append`: **a walk that leads to a directory goes on from there**, also in other files.
* `Files.isName_of_walk`: where a walk can lead.
* `Files.Furnished`: what making directories does. `Files.Furnished.extends`: **it adds directories.**
* `Files.exists_of_replaceable`: what a file is put in place of. `Files.locate_of_replaceable`: **the path by
  which a file was put there leads to it, unless it leads nowhere.** -/

namespace RouteContracts

/-- The location of a place. -/
def Place.location : Place → Location
  | .found l _ | .vacant l => l

namespace Files

/-! ## What is where -/

theorem entry?_nil (f : Files) : f.entry? [] = some .directory := rfl

theorem entry?_put (f : Files) {l : Location} (hl : l ≠ []) (e : Entry) (other : Location) :
    Files.entry? (f.put l e) other = if other = l then some e else f.entry? other := by
  unfold entry? put
  by_cases hroot : other = []
  · rw [if_pos hroot, if_pos hroot, if_neg (by rw [hroot]; exact Ne.symm hl)]
  rw [if_neg hroot, if_neg hroot, List.find?_cons]
  by_cases hother : other = l
  · simp [hother]
  · have hne : (l == other) = false := beq_false_of_ne (Ne.symm hother)
    rw [hne, if_neg hother, List.find?_filter]
    congr 1
    refine congrArg (List.find? · f.entries) (funext fun old => ?_)
    by_cases hold : old.1 = other
    · simp [hold, hother]
    · simp [hold]

theorem entry?_put_self (f : Files) {l : Location} (hl : l ≠ []) (e : Entry) : Files.entry? (f.put l e) l = some e := by
  rw [entry?_put f hl, if_pos rfl]

theorem entry?_put_of_ne (f : Files) {l other : Location} (hl : l ≠ []) (e : Entry) (h : other ≠ l) :
    Files.entry? (f.put l e) other = f.entry? other := by
  rw [entry?_put f hl, if_neg h]

/-- `put` adds only `e`: other entries were there before. -/
theorem entry?_of_put {f : Files} {l other : Location} {e old : Entry} (hl : l ≠ [])
    (h : Files.entry? (f.put l e) other = some old) (hold : old ≠ e) : f.entry? other = some old := by
  rw [entry?_put f hl] at h
  split at h
  · exact absurd (Option.some.inj h).symm hold
  · exact h

@[simp] theorem workingDirectory_put (f : Files) (l : Location) (e : Entry) :
    (f.put l e).workingDirectory = f.workingDirectory := rfl

/-- `put` twice at one location is the latter `put`. -/
theorem put_put (f : Files) (l : Location) (e e' : Entry) : (f.put l e).put l e' = f.put l e' := by
  simp [Files.put, List.filter_filter]

/-- Nothing is at a location or below it. -/
def IsFree (f : Files) (l : Location) : Prop := ∀ e ∈ f.entries, ¬l <+: e.1

variable {f g k : Files} {l l' : Location} {e e' : Entry}

theorem IsFree.put (h : f.IsFree l) (e : Entry) : f.put l e = ⟨(l, e) :: f.entries, f.workingDirectory⟩ := by
  have hkept : f.entries.filter (fun old => old.1 ≠ l) = f.entries :=
    List.filter_eq_self.mpr fun old hold => decide_eq_true fun heq => h old hold (heq ▸ List.prefix_rfl)
  rw [Files.put, hkept]

/-- `erase` undoes `put` at an `IsFree` location. -/
theorem IsFree.erase_put (h : f.IsFree l) (e : Entry) : (f.put l e).erase l = f := by
  rw [h.put]
  have hkept : f.entries.filter (fun old => !l.isPrefixOf old.1) = f.entries := by
    refine List.filter_eq_self.mpr fun old hold => ?_
    rw [Bool.not_eq_true', Bool.eq_false_iff]
    exact fun hprefix => h old hold (List.isPrefixOf_iff_prefix.mp hprefix)
  have hself : l.isPrefixOf l = true := List.isPrefixOf_iff_prefix.mpr List.prefix_rfl
  simp only [erase, List.filter_cons, hself, Bool.not_true, Bool.false_eq_true, if_false]
  exact congrArg (fun es => Files.mk es f.workingDirectory) hkept

theorem IsFree.entry? (h : f.IsFree l) (hl : l ≠ []) : f.entry? l = none := by
  rw [Files.entry?, if_neg hl, Option.map_eq_none_iff, List.find?_eq_none]
  exact fun old hold heq => h old hold (beq_iff_eq.mp heq ▸ List.prefix_rfl)

/-! ## One name after the other -/

/-- A name that a walk looks up in a directory. -/
structure LooksUp (name : String) : Prop where
  ne_empty : name ≠ ""
  ne_dot : name ≠ "."
  ne_dots : name ≠ ".."
  size : name.utf8ByteSize ≤ maxNameBytes

theorem walk_nil (f : Files) (follow : Bool) (links : Nat) (l : Location) :
    f.walk follow links l [] = .ok (.found l .directory) := by
  rw [walk]

theorem walk_of_void (f : Files) (follow : Bool) (links : Nat) (l : Location) {name : String}
    (h : name = "" ∨ name = ".") (rest : List String) :
    f.walk follow links l (name :: rest) = f.walk follow links l rest := by
  rw [walk, if_pos h]

theorem walk_up (f : Files) (follow : Bool) (links : Nat) (l : Location) (rest : List String) :
    f.walk follow links l (".." :: rest) = f.walk follow links l.dropLast rest := by
  rw [walk, if_neg (by decide), if_pos rfl]

/-- **What `walk` does with a name that it `LooksUp`.** -/
theorem walk_of_looksUp (f : Files) (follow : Bool) (links : Nat) (l : Location) {name : String}
    (h : LooksUp name) (rest : List String) :
    f.walk follow links l (name :: rest) =
      match f.entry? (l ++ [name]) with
      | none => if rest = [] then .ok (.vacant (l ++ [name])) else .error .notFound
      | some .directory => f.walk follow links (l ++ [name]) rest
      | some (.link target) =>
        if rest = [] ∧ follow = false then .ok (.found (l ++ [name]) (.link target))
        else match links with
          | 0 => .error .tooManyLinks
          | links + 1 => f.walk follow links (if target.isAbsolute then [] else l) (target.names ++ rest)
      | some e => if rest = [] then .ok (.found (l ++ [name]) e) else .error .notADirectory := by
  rw [walk]
  exact (if_neg (not_or.mpr ⟨h.ne_empty, h.ne_dot⟩)).trans
    ((if_neg h.ne_dots).trans (if_neg (Nat.not_lt.mpr h.size)))

theorem walk_of_directory (f : Files) (follow : Bool) (links : Nat) {l : Location} {name : String} (h : LooksUp name)
    (hentry : f.entry? (l ++ [name]) = some .directory) (rest : List String) :
    f.walk follow links l (name :: rest) = f.walk follow links (l ++ [name]) rest := by
  rw [walk_of_looksUp f _ _ _ h, hentry]

theorem walk_of_none (f : Files) (follow : Bool) (links : Nat) {l : Location} {name : String} (h : LooksUp name)
    (hentry : f.entry? (l ++ [name]) = none) : f.walk follow links l [name] = .ok (.vacant (l ++ [name])) := by
  rw [walk_of_looksUp f _ _ _ h, hentry]
  rfl

theorem walk_of_link (f : Files) {follow : Bool} (links : Nat) {l : Location} {name : String} (h : LooksUp name)
    {target : Path} (hentry : f.entry? (l ++ [name]) = some (.link target)) {rest : List String}
    (hon : ¬(rest = [] ∧ follow = false)) : f.walk follow (links + 1) l (name :: rest) =
      f.walk follow links (if target.isAbsolute then [] else l) (target.names ++ rest) := by
  rw [walk_of_looksUp f _ _ _ h, hentry]
  exact if_neg hon

/-- **The walks that lead somewhere**, name by name. -/
inductive Leads (f : Files) (follow : Bool) : Nat → Location → List String → Place → Prop
  /-- No name is left. -/
  | nil {links : Nat} {l : Location} : Leads f follow links l [] (.found l .directory)
  /-- A name that says nothing is passed over. -/
  | void {links : Nat} {l : Location} {name : String} {rest : List String} {place : Place}
      (hvoid : name = "" ∨ name = ".") (h : Leads f follow links l rest place) :
      Leads f follow links l (name :: rest) place
  /-- Back to the directory above. -/
  | up {links : Nat} {l : Location} {rest : List String} {place : Place}
      (h : Leads f follow links l.dropLast rest place) : Leads f follow links l (".." :: rest) place
  /-- Into a directory. -/
  | enter {links : Nat} {l : Location} {name : String} {rest : List String} {place : Place} (hname : LooksUp name)
      (hentry : f.entry? (l ++ [name]) = some .directory) (h : Leads f follow links (l ++ [name]) rest place) :
      Leads f follow links l (name :: rest) place
  /-- Through a link, which counts. -/
  | link {links : Nat} {l : Location} {name : String} {rest : List String} {target : Path} {place : Place}
      (hname : LooksUp name) (hentry : f.entry? (l ++ [name]) = some (.link target))
      (hon : ¬(rest = [] ∧ follow = false))
      (h : Leads f follow links (if target.isAbsolute then [] else l) (target.names ++ rest) place) :
      Leads f follow (links + 1) l (name :: rest) place
  /-- To what has the last name, and is no directory. -/
  | found {links : Nat} {l : Location} {name : String} {e : Entry} (hname : LooksUp name)
      (hentry : f.entry? (l ++ [name]) = some e) (hdirectory : e ≠ .directory)
      (hlink : ∀ target, e = .link target → follow = false) :
      Leads f follow links l [name] (.found (l ++ [name]) e)
  /-- To the last name, which nothing has. -/
  | vacant {links : Nat} {l : Location} {name : String} (hname : LooksUp name)
      (hentry : f.entry? (l ++ [name]) = none) : Leads f follow links l [name] (.vacant (l ++ [name]))

theorem leads_of_walk {follow : Bool} {links : Nat} {l : Location} {names : List String} {place : Place}
    (h : f.walk follow links l names = .ok place) : f.Leads follow links l names place := by
  have hlooks : ∀ {name : String}, ¬(name = "" ∨ name = ".") → ¬name = ".." → ¬maxNameBytes < name.utf8ByteSize →
      LooksUp name := fun hvoid hup hlong =>
    ⟨fun h => hvoid (.inl h), fun h => hvoid (.inr h), hup, Nat.not_lt.mp hlong⟩
  fun_induction walk f follow links l names with
  | case1 => exact Except.ok.inj h ▸ .nil
  | case2 _ _ _ _ hvoid ih => exact .void hvoid (ih h)
  | case3 _ _ _ _ ih => exact .up (ih h)
  | case4 => cases h
  | case5 _ _ _ hvoid hup hlong _ hentry => exact Except.ok.inj h ▸ .vacant (hlooks hvoid hup hlong) hentry
  | case6 => cases h
  | case7 _ _ _ _ hvoid hup hlong _ hentry ih => exact .enter (hlooks hvoid hup hlong) hentry (ih h)
  | case8 _ _ _ _ hvoid hup hlong _ target hentry hend =>
    obtain ⟨rfl, hfollow⟩ := hend
    exact Except.ok.inj h ▸ .found (hlooks hvoid hup hlong) hentry Entry.noConfusion fun _ _ => hfollow
  | case9 => cases h
  | case10 _ _ _ hvoid hup hlong _ target hentry hon fewer ih =>
    exact .link (hlooks hvoid hup hlong) hentry hon (ih h)
  | case11 _ _ _ hvoid hup hlong _ e hdirectory hlink hentry =>
    exact Except.ok.inj h ▸ .found (hlooks hvoid hup hlong) hentry hdirectory fun target heq =>
      (hlink target heq).elim
  | case12 => cases h

theorem Leads.walk {follow : Bool} {links : Nat} {l : Location} {names : List String} {place : Place}
    (h : f.Leads follow links l names place) : f.walk follow links l names = .ok place := by
  induction h with
  | nil => exact walk_nil f _ _ _
  | void hvoid _ ih => exact (walk_of_void f _ _ _ hvoid _).trans ih
  | up _ ih => exact (walk_up f _ _ _ _).trans ih
  | enter hname hentry _ ih => exact (walk_of_directory f _ _ hname hentry _).trans ih
  | link hname hentry hon _ ih => exact (walk_of_link f _ hname hentry hon).trans ih
  | found hname hentry hdirectory hlink =>
    rw [walk_of_looksUp f _ _ _ hname, hentry]
    split
    · next heq => cases heq
    · next heq => exact absurd (Option.some.inj heq) hdirectory
    · next target heq =>
      obtain rfl := Option.some.inj heq
      exact if_pos ⟨rfl, hlink target rfl⟩
    · next heq =>
      obtain rfl := Option.some.inj heq
      exact if_pos rfl
  | vacant hname hentry => exact walk_of_none f _ _ hname hentry

/-! ## Walks in changed files -/

/-- **A walk that leads to a directory goes on from there**, also in files that differ at one location where there is a
file now. Only when that file takes the place of a link, `walk` may be stopped by it. -/
theorem walk_append {l : Location} {text : String}
    (hdirectory : ∀ other, f.entry? other = some .directory → g.entry? other = some .directory)
    (hlink : ∀ other target, other ≠ l → f.entry? other = some (.link target) → g.entry? other = some (.link target))
    (hl : g.entry? l = some (.text text)) {more : List String} (hmore : more ≠ []) (links : Nat) (here : Location)
    (names : List String) {d : Location} (h : f.walk true links here names = .ok (.found d .directory)) :
    (∃ fewer, g.walk true links here (names ++ more) = g.walk true fewer d more) ∨
      g.walk true links here (names ++ more) = .error .notADirectory ∧ ∃ target, f.entry? l = some (.link target) := by
  have hleads := leads_of_walk h
  clear h
  generalize hplace : Place.found d .directory = place at hleads
  induction hleads with
  | nil =>
    obtain ⟨rfl, -⟩ := Place.found.inj hplace
    exact .inl ⟨_, rfl⟩
  | void hvoid _ ih =>
    rw [List.cons_append, walk_of_void g _ _ _ hvoid]
    exact ih hplace
  | up _ ih =>
    rw [List.cons_append, walk_up]
    exact ih hplace
  | enter hname hentry _ ih =>
    rw [List.cons_append, walk_of_directory g _ _ hname (hdirectory _ hentry)]
    exact ih hplace
  | @link _ here name rest target _ hname hentry _ _ ih =>
    rw [List.cons_append]
    have hrest : rest ++ more ≠ [] := fun h => hmore (List.append_eq_nil_iff.mp h).2
    by_cases hat : here ++ [name] = l
    · -- the file took the place of this link, and more names follow
      right
      rw [walk_of_looksUp g _ _ _ hname, hat, hl]
      exact ⟨if_neg hrest, target, hat ▸ hentry⟩
    · rw [walk_of_link g _ hname (hlink _ target hat hentry) (fun h => hrest h.1), ← List.append_assoc]
      exact ih hplace
  | found _ _ hnot => exact absurd (Place.found.inj hplace).2.symm hnot
  | vacant => cases hplace

/-- **A `walk` that finds something finds it in other files too**, if these have the directories and the links, and what
it finds. -/
theorem walk_of_kept {follow : Bool} {d : Location} {e : Entry}
    (hkept : ∀ other kept, (kept = .directory ∨ (∃ target, kept = .link target) ∨ kept = e) →
      f.entry? other = some kept → g.entry? other = some kept)
    (links : Nat) (here : Location) (names : List String) (h : f.walk follow links here names = .ok (.found d e)) :
    g.walk follow links here names = .ok (.found d e) := by
  have hleads := leads_of_walk h
  clear h
  generalize hplace : Place.found d e = place at hleads ⊢
  refine Leads.walk ?_
  induction hleads with
  | nil => exact .nil
  | void hvoid _ ih => exact .void hvoid (ih hplace)
  | up _ ih => exact .up (ih hplace)
  | enter hname hentry _ ih => exact .enter hname (hkept _ _ (.inl rfl) hentry) (ih hplace)
  | link hname hentry hon _ ih => exact .link hname (hkept _ _ (.inr (.inl ⟨_, rfl⟩)) hentry) hon (ih hplace)
  | found hname hentry hdirectory hlink =>
    obtain ⟨rfl, rfl⟩ := Place.found.inj hplace
    exact .found hname (hkept _ _ (.inr (.inr rfl)) hentry) hdirectory hlink
  | vacant => cases hplace

/-! ## Where walks lead -/

/-- A file that `walk` finds is there. -/
theorem entry?_of_walk_file {follow : Bool} (links : Nat) (here : Location) (names : List String) {d : Location}
    {text : String} (h : f.walk follow links here names = .ok (.found d (.text text))) :
    f.entry? d = some (.text text) := by
  have hleads := leads_of_walk h
  clear h
  generalize hplace : Place.found d (.text text) = place at hleads
  induction hleads with
  | nil => cases hplace
  | void _ _ ih | up _ ih | enter _ _ _ ih | link _ _ _ _ ih => exact ih hplace
  | found _ hentry =>
    obtain ⟨rfl, rfl⟩ := Place.found.inj hplace
    exact hentry
  | vacant => cases hplace

/-- A name that `LooksUp` and has no slash `IsName`. -/
theorem isName_of_looksUp {name : String} (h : LooksUp name) (hslash : '/' ∉ name.toList) : Path.IsName name := by
  refine ⟨?_, ?_, ?_, hslash⟩
  · exact fun hs => h.ne_empty (String.toList_inj.mp hs)
  · exact fun hs => h.ne_dot (String.toList_inj.mp hs)
  · exact fun hs => h.ne_dots (String.toList_inj.mp hs)

theorem no_slash_of_mem_names {p : Path} {name : String} (h : name ∈ p.names) : '/' ∉ name.toList := by
  obtain ⟨piece, hpiece, rfl⟩ := List.mem_map.mp h
  rw [String.toList_ofList]
  exact Path.not_mem_of_mem_pieces hpiece

theorem mem_names_of_namesWithoutEnd {p : Path} {name : String} (h : name ∈ namesWithoutEnd p) : name ∈ p.names := by
  rw [namesWithoutEnd, List.mem_reverse] at h
  exact List.mem_reverse.mp ((List.dropWhile_sublist _).subset h)

/-- **`walk` comes to locations of names**, when it starts at one. -/
theorem isName_of_walk {follow : Bool} (links : Nat) (here : Location) (names : List String)
    (hhere : ∀ name ∈ here, Path.IsName name) (hnames : ∀ name ∈ names, '/' ∉ name.toList) {place : Place}
    (h : f.walk follow links here names = .ok place) : ∀ name ∈ place.location, Path.IsName name := by
  have hstep : ∀ {l : Location} {name : String}, (∀ n ∈ l, Path.IsName n) → LooksUp name → '/' ∉ name.toList →
      ∀ n ∈ l ++ [name], Path.IsName n := fun hl hname hslash =>
    List.forall_mem_append.mpr ⟨hl, List.forall_mem_singleton.mpr (isName_of_looksUp hname hslash)⟩
  have hleads := leads_of_walk h
  clear h
  induction hleads with
  | nil => exact hhere
  | void _ _ ih => exact ih hhere (List.forall_mem_cons.mp hnames).2
  | up _ ih =>
    exact ih (fun name hname => hhere name (List.dropLast_subset _ hname)) (List.forall_mem_cons.mp hnames).2
  | enter hname _ _ ih =>
    obtain ⟨hslash, hrest⟩ := List.forall_mem_cons.mp hnames
    exact ih (hstep hhere hname hslash) hrest
  | link _ _ _ _ ih =>
    -- the names of the target come in front, and these have no slashes either
    refine ih ?_ ?_
    · split
      · exact List.forall_mem_nil _
      · exact hhere
    · exact List.forall_mem_append.mpr
        ⟨fun name hname => no_slash_of_mem_names hname, (List.forall_mem_cons.mp hnames).2⟩
  | found hname | vacant hname => exact hstep hhere hname (hnames _ (List.mem_singleton_self _))

/-- A vacant place is not the root, and nothing is there. -/
theorem entry?_of_walk_vacant {follow : Bool} (links : Nat) (here : Location) (names : List String) {l : Location}
    (h : f.walk follow links here names = .ok (.vacant l)) : l ≠ [] ∧ f.entry? l = none := by
  have hleads := leads_of_walk h
  clear h
  generalize hplace : Place.vacant l = place at hleads
  induction hleads with
  | nil => cases hplace
  | void _ _ ih | up _ ih | enter _ _ _ ih | link _ _ _ _ ih => exact ih hplace
  | found => cases hplace
  | vacant _ hentry =>
    obtain rfl := Place.vacant.inj hplace
    exact ⟨by simp, hentry⟩

/-! ## Made directories -/

/-- **Files in which directories were made for a path**: each in a vacant place, to which the path leads or one above
it. -/
inductive Furnished (f : Files) : Path → Files → Prop
  /-- Nothing has to be made. -/
  | none (p : Path) : Furnished f p f
  /-- The directory itself. -/
  | made {p : Path} {g : Files} {l : Location} (before : Furnished f p g)
      (vacant : g.walk false maxLinks (g.start p) (namesWithoutEnd p) = .ok (.vacant l)) :
      Furnished f p (g.put l .directory)
  /-- What is above it. -/
  | above {p dir : Path} {g : Files} (parent : p.parent? = some dir) (before : Furnished f dir g) :
      Furnished f p g

theorem Furnished.ensureDirectory {p : Path} (h : f.Furnished p g) (hk : g.ensureDirectory p = .ok k) :
    f.Furnished p k := by
  unfold Files.ensureDirectory at hk
  split at hk
  · next made hmade =>
    obtain rfl := Except.ok.inj hk
    unfold makeDirectory at hmade
    split at hmade
    · cases hmade
    split at hmade
    · cases hmade
    split at hmade
    · cases hmade
    · cases hmade
    · next l hwalk =>
      obtain rfl := Except.ok.inj hmade
      exact h.made hwalk
  · split at hk
    · obtain rfl := Except.ok.inj hk
      exact h
    · cases hk

theorem furnished_makeDirectoriesUpTo (depth : Nat) {p : Path} (h : f.makeDirectoriesUpTo depth p = .ok g) :
    f.Furnished p g := by
  induction depth generalizing p g with
  | zero => exact (Furnished.none p).ensureDirectory h
  | succ depth ih =>
    rw [makeDirectoriesUpTo] at h
    split at h
    · obtain rfl := Except.ok.inj h
      exact .none p
    split at h
    · next made hmade =>
      obtain rfl := Except.ok.inj h
      exact (Furnished.none p).ensureDirectory hmade
    · split at h
      · cases h
      next dir hdir =>
      split at h
      · next above habove => exact (Furnished.above hdir (ih habove)).ensureDirectory h
      · cases h
    · cases h

/-- **`makeDirectories` gives files that are `Furnished`.** -/
theorem furnished_makeDirectories {p : Path} (h : f.makeDirectories p = .ok g) : f.Furnished p g :=
  furnished_makeDirectoriesUpTo _ h

/-- `leftUpTo` gives files that are `Furnished`. -/
theorem furnished_leftUpTo (f : Files) (depth : Nat) (p : Path) : f.Furnished p (f.leftUpTo depth p) := by
  induction depth generalizing p with
  | zero => exact .none p
  | succ depth ih =>
    unfold leftUpTo
    split
    · next dir _ hdir =>
      split
      · next above habove => exact .above hdir (furnished_makeDirectoriesUpTo depth habove)
      · exact .above hdir (ih dir)
    · exact .none p

/-- **`directoriesLeft`, after a failure, gives files that are `Furnished`.** -/
theorem furnished_directoriesLeft (f : Files) (p : Path) : f.Furnished p (f.directoriesLeft p) :=
  furnished_leftUpTo f _ p

/-- **Files with directories added**, where nothing was before. -/
structure Extends (f g : Files) : Prop where
  here : g.workingDirectory = f.workingDirectory
  /-- All that was there is there. -/
  kept : ∀ l e, f.entry? l = some e → g.entry? l = some e
  /-- Where nothing was, there is nothing, or a directory. -/
  added : ∀ l, f.entry? l = none → g.entry? l = none ∨ g.entry? l = some .directory

theorem Extends.refl (f : Files) : f.Extends f := ⟨rfl, fun _ _ h => h, fun _ h => .inl h⟩

theorem Extends.put (h : f.Extends g) (hl : l ≠ []) (hnone : g.entry? l = none) :
    f.Extends (g.put l .directory) := by
  refine ⟨h.here, fun other e hother => ?_, fun other hother => ?_⟩
  · have hne : other ≠ l := by
      rintro rfl
      cases hnone.symm.trans (h.kept _ e hother)
    rw [entry?_put_of_ne g hl _ hne, h.kept other e hother]
  · rw [entry?_put g hl]
    split
    · exact .inr rfl
    · exact h.added other hother

/-- **`Furnished` files `Extends` those before**: there are more directories, and nothing else. -/
theorem Furnished.extends {p : Path} (h : f.Furnished p g) : f.Extends g := by
  induction h with
  | none p => exact .refl f
  | made before vacant ih =>
    obtain ⟨hl, hnone⟩ := entry?_of_walk_vacant _ _ _ vacant
    exact ih.put hl hnone
  | above parent before ih => exact ih

theorem Proper.put (h : f.Proper) (hl : ∀ name ∈ l, Path.IsName name) (e : Entry) : (f.put l e).Proper := by
  intro old hold
  rcases List.mem_cons.mp hold with rfl | hold
  · exact hl
  · exact h old (List.mem_filter.mp hold).1

/-- `start` is a location of names, if the working directory is one. -/
theorem isName_of_mem_start (hhere : ∀ name ∈ f.workingDirectory, Path.IsName name) (p : Path) :
    ∀ name ∈ f.start p, Path.IsName name := by
  unfold start
  split
  · exact List.forall_mem_nil _
  · exact hhere

/-- `Furnished` keeps `Proper`. -/
theorem Furnished.proper {p : Path} (h : f.Furnished p g) (hf : f.Proper)
    (hhere : ∀ name ∈ f.workingDirectory, Path.IsName name) : g.Proper := by
  induction h with
  | none p => exact hf
  | @made p g l before vacant ih =>
    have hstart := g.isName_of_mem_start (before.extends.here ▸ hhere) p
    refine ih.put (isName_of_walk _ _ _ hstart (fun name hname => ?_) vacant) _
    exact no_slash_of_mem_names (mem_names_of_namesWithoutEnd hname)
  | above parent before ih => exact ih

/-! ## Taking the place of something -/

/-- `names` of a path without a slash at its end, by `namesWithoutEnd`. -/
theorem names_of_namesWithoutEnd {p : Path} {front : List String} {last : String}
    (h : (namesWithoutEnd p).reverse = last :: front) (hend : p.names.getLast? ≠ some "") :
    p.names = front.reverse ++ [last] := by
  rw [namesWithoutEnd, List.reverse_reverse] at h
  have hkept : p.names.reverse.dropWhile (fun name => name = "") = p.names.reverse := by
    cases hnames : p.names.reverse with
    | nil => rfl
    | cons name rest =>
      have hlast : p.names.getLast? = some name := by rw [← List.head?_reverse, hnames]; rfl
      rw [List.dropWhile_cons_of_neg]
      exact fun hname => hend (hlast.trans (congrArg some (of_decide_eq_true hname)))
  rw [hkept] at h
  rw [← List.reverse_reverse p.names, h, List.reverse_cons]

/-- **What `replaceable` gives**: a location in a directory, by its last name there, which is no directory itself. -/
theorem exists_of_replaceable {p : Path} (h : f.replaceable p = .ok l) :
    p.text.isEmpty = false ∧ p.isUnusable = false ∧ ∃ front d last, p.names = front ++ [last] ∧ LooksUp last ∧
      f.walk true maxLinks (f.start p) front = .ok (.found d .directory) ∧ l = d ++ [last] ∧
      f.entry? l ≠ some .directory := by
  unfold replaceable at h
  split at h
  · cases h
  next hempty =>
  split at h
  · cases h
  next husable =>
  refine ⟨Bool.eq_false_iff.mpr hempty, Bool.eq_false_iff.mpr husable, ?_⟩
  split at h
  · cases h
  next last front hnames =>
  split at h
  · cases h
  · cases h
  · next d hwalk =>
    split at h
    · cases h
    next hdots =>
    split at h
    · cases h
    next hsize =>
    split at h
    · cases h
    next hend =>
    -- the names at the end that say nothing have been dropped, so the last one is none of them
    have hlast : last ≠ "" := by
      have hhead : (p.names.reverse.dropWhile (fun name => name = "")).head? = some last := by
        rw [namesWithoutEnd, List.reverse_reverse] at hnames
        rw [hnames]
        rfl
      intro hlast
      have hnot := List.head?_dropWhile_not (fun name : String => decide (name = "")) p.names.reverse
      rw [hhead, hlast] at hnot
      cases hnot
    unfold replaceableIn at h
    split at h
    · cases h
    next hentry =>
    obtain rfl := Except.ok.inj h
    exact ⟨front.reverse, d, last, names_of_namesWithoutEnd hnames hend,
      ⟨hlast, fun h => hdots (.inl h), fun h => hdots (.inr h), Nat.not_lt.mp hsize⟩, hwalk, rfl, hentry⟩
  · cases h

/-- **`locate` after a file was put where `replaceable` says** leads to it. Only when the file took the place of a link,
it may lead nowhere. -/
theorem locate_of_replaceable {p : Path} {text : String} (h : f.replaceable p = .ok l)
    (hhere : g.workingDirectory = f.workingDirectory)
    (hdirectory : ∀ other, f.entry? other = some .directory → g.entry? other = some .directory)
    (hlink : ∀ other target, other ≠ l → f.entry? other = some (.link target) → g.entry? other = some (.link target))
    (hl : g.entry? l = some (.text text)) :
    g.locate true p = .ok (.found l (.text text)) ∨
      g.locate true p = .error .notADirectory ∧ ∃ target, f.entry? l = some (.link target) := by
  obtain ⟨hempty, husable, front, d, last, hnames, hlast, hwalk, rfl, -⟩ := exists_of_replaceable h
  have hstart : g.start p = f.start p := by rw [start, start, hhere]
  -- both look up the same names from the same start
  have hlocate : g.locate true p = g.walk true maxLinks (f.start p) (front ++ [last]) := by
    rw [locate, hempty, husable, hstart, hnames]
    rfl
  rw [hlocate]
  refine (walk_append hdirectory hlink hl (List.cons_ne_nil last []) _ _ _ hwalk).imp_left ?_
  rintro ⟨fewer, hmore⟩
  rw [hmore, walk_of_looksUp g _ _ _ hlast, hl]
  rfl

end Files

end RouteContracts
