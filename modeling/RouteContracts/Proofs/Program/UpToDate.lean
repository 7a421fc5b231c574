import RouteContracts.Program.Run
import RouteContracts.Proofs.Controller.Scan
import RouteContracts.Proofs.Project.Growth

/-! # Up to date
Checking the artifact and writing it scan the project on their own. They agree, since a scan leaves one text in
every order, and files that are not disturbed are scanned to the same text again.

* `Registry.routesOf_eq`: the routes of sorted analyses are determined by which analyses there are.
* `Program.checkFrom`, `Program.generateFrom`: the commands, with the outcomes of their scan in some order.
* `Program.Undisturbed`: what writing the artifact may not do to the files that are scanned.
  `Program.Apart`: artifacts in plain trees that cannot.
* `Program.check_exact`: **a check succeeds exactly when there is nothing to write**; and after the artifact is
  written, it succeeds and there is nothing to write. -/

namespace RouteContracts

/-! ## Equal scans -/

namespace Routes

variable {as bs : Routes}

/-- **`Ascending` routes are determined by `get?`.** -/
theorem Ascending.ext (ha : Ascending as) (hb : Ascending bs) (h : ∀ pattern, get? pattern as = get? pattern bs) :
    as = bs := by
  have hmem : ∀ r, r ∈ as ↔ r ∈ bs := by
    intro r
    constructor
    · exact fun hr => mem_of_get? ((h r.pattern).symm.trans (ha.get?_of_mem hr))
    · exact fun hr => mem_of_get? ((h r.pattern).trans (hb.get?_of_mem hr))
  have hnodup : ∀ {cs : Routes}, Ascending cs → cs.Nodup := by
    intro cs hcs
    refine List.nodup_iff_pairwise_ne.mpr (hcs.imp fun {a b} hlt heq => ?_)
    rw [heq] at hlt
    exact String.lt_irrefl _ hlt
  have hperm : as.Perm bs := (List.perm_ext_iff_of_nodup (hnodup ha) (hnodup hb)).mpr hmem
  exact hperm.eq_of_pairwise (fun a b _ _ hab hba => absurd (String.lt_trans hab hba) (String.lt_irrefl _)) ha hb

end Routes

/-- Analyses in the order of their sources come before the last one. -/
theorem Analysis.before_getLast? {cs : List Analysis} {c : Analysis}
    (hcs : cs.Pairwise fun a b => a.source.before b.source = true) (hc : cs.getLast? = some c) :
    ∀ a ∈ cs, a.source.before c.source = true := by
  intro a hmem
  obtain ⟨front, rfl⟩ := List.getLast?_eq_some_iff.mp hc
  rcases List.mem_append.mp hmem with hfront | hsingle
  · exact (List.pairwise_append.mp hcs).2.2 a hfront c (List.mem_singleton_self c)
  · rw [List.mem_singleton.mp hsingle]
    exact (Path.before_total _ _).elim id id

/-- `as.getLast? = bs.getLast?` for analyses in the order of their sources, of different files, that are the same
ones. -/
theorem Analysis.getLast?_eq {as bs : List Analysis}
    (ha : as.Pairwise fun a b => a.source.before b.source = true)
    (hb : bs.Pairwise fun a b => a.source.before b.source = true)
    (hdifferent : ∀ a ∈ as, ∀ b ∈ as, a.source.same b.source = true → a = b) (hmem : ∀ a, a ∈ as ↔ a ∈ bs) :
    as.getLast? = bs.getLast? := by
  cases hx : as.getLast? with
  | none =>
    have hnil : bs = [] := by
      rw [List.eq_nil_iff_forall_not_mem]
      intro b hb
      rw [← hmem, List.getLast?_eq_none_iff.mp hx] at hb
      cases hb
    rw [hnil]
    rfl
  | some a =>
    have hin := List.mem_of_getLast? hx
    obtain ⟨b, hy⟩ := Option.isSome_iff_exists.mp (List.getLast?_isSome.mpr (List.ne_nil_of_mem ((hmem a).mp hin)))
    have hbin := (hmem b).mpr (List.mem_of_getLast? hy)
    -- each of the two comes before the other
    have hba := before_getLast? ha hx b hbin
    have hab := before_getLast? hb hy a ((hmem a).mp hin)
    rw [hy, hdifferent a hin b hbin (Path.same_of_before_of_before hab hba)]

namespace Registry

/-- **`routesOf as = routesOf bs`** for analyses in the order of their sources that are the same ones. -/
theorem routesOf_eq {as bs : List Analysis} (ha : as.Pairwise fun a b => a.source.before b.source = true)
    (hb : bs.Pairwise fun a b => a.source.before b.source = true)
    (hdifferent : ∀ a ∈ as, ∀ b ∈ as, a.source.same b.source = true → a = b) (hmem : ∀ a, a ∈ as ↔ a ∈ bs) :
    routesOf as = routesOf bs := by
  refine (ascending_routesOf as).ext (ascending_routesOf bs) fun pattern => ?_
  rw [get?_routesOf_last, get?_routesOf_last]
  have hlast := Analysis.getLast?_eq (ha.filter fun a => a.routeId == pattern)
    (hb.filter fun a => a.routeId == pattern)
    (fun a ha b hb => hdifferent a (List.mem_filter.mp ha).1 b (List.mem_filter.mp hb).1)
    (fun a => by rw [List.mem_filter, List.mem_filter, hmem])
  rw [hlast]

/-- `artifactText?` depends on `routes` only. -/
theorem artifactText?_congr {r r' : Registry} (h : r.routes = r'.routes) (runtime : String) :
    r.artifactText? runtime = r'.artifactText? runtime := by
  simp only [artifactText?, Artifact.ofRegistry, Artifact.served, contractsFor, h]

end Registry

/-! ## The commands -/

namespace Program

/-- The outcomes of the endpoint files of a project, as `scan` gives them. -/
def scan (files : Files) (c : Config) : List Project.Outcome := (controller files c).project.outcomes files

/-- `generate` when the outcomes of the scan come in some order. -/
def generateFrom (s : EmitSurroundings) (files : Files) (c : Config) (outcomes : List Project.Outcome) :
    Exit × Files :=
  let (result, _, files) := (controller files c).adopt (artifactSink s c) outcomes files
  (exitOf result, files)

/-- `check` when the outcomes of the scan come in some order, with the files after it. -/
def checkFrom (files : Files) (c : Config) (outcomes : List Project.Outcome) : Exit × Files :=
  match (controller files c).adopt (Sink.check c.artifactPath c.runtime) outcomes (files, false) with
  | (.error e, _, (files, _)) => (.failure (.emit e), files)
  | (.ok (), _, (files, true)) => (.success, files)
  | (.ok (), _, (files, false)) => (.failure (.outdated c.artifactPath), files)

/-- The text of the registry that outcomes of a scan are collected to. -/
def textOf? (c : Config) (outcomes : List Project.Outcome) : Option String :=
  (Registry.empty.replaceAll (Controller.analysesOf outcomes)).2.artifactText? c.runtime

variable {s : EmitSurroundings} {files after : Files} {c : Config} {outcomes : List Project.Outcome}

/-- **`generateFrom` emits `textOf? c outcomes`** if there is one, and fails otherwise. -/
theorem generateFrom_eq (s : EmitSurroundings) (files : Files) (c : Config) (outcomes : List Project.Outcome) :
    generateFrom s files c outcomes =
      match textOf? c outcomes with
      | none => (.failure (.emit .unwritable), files)
      | some text =>
        (exitOf ((files.emit s c.artifactPath text).1.mapError .failed), (files.emit s c.artifactPath text).2) := by
  unfold generateFrom Controller.adopt artifactSink Sink.file Registry.emit
  rw [textOf?]
  dsimp only [controller, Controller.new]
  cases (Registry.empty.replaceAll (Controller.analysesOf outcomes)).2.artifactText? c.runtime <;> rfl

/-- **`checkFrom` compares `textOf? c outcomes`** with what the artifact holds. The files stay as they are. -/
theorem checkFrom_eq (files : Files) (c : Config) (outcomes : List Project.Outcome) :
    checkFrom files c outcomes =
      match textOf? c outcomes with
      | none => (.failure (.emit .unwritable), files)
      | some text =>
        (if files.holdsText c.artifactPath text then .success else .failure (.outdated c.artifactPath), files) := by
  unfold checkFrom Controller.adopt Sink.check
  rw [textOf?]
  dsimp only [controller, Controller.new]
  cases (Registry.empty.replaceAll (Controller.analysesOf outcomes)).2.artifactText? c.runtime with
  | none => rfl
  | some text =>
    dsimp only
    cases files.holdsText c.artifactPath text <;> rfl

theorem generateFrom_scan (s : EmitSurroundings) (files : Files) (c : Config) :
    generateFrom s files c (scan files c) = generate s files c := rfl

theorem checkFrom_scan (files : Files) (c : Config) : checkFrom files c (scan files c) = (check files c, files) := by
  rw [checkFrom_eq]
  have hcheck : check files c = (checkFrom files c (scan files c)).1 := by
    have hstart : (controller files c).start (Sink.check c.artifactPath c.runtime) (files, false) =
        (controller files c).adopt (Sink.check c.artifactPath c.runtime) (scan files c) (files, false) := rfl
    unfold check checkFrom
    rw [hstart]
    rcases (controller files c).adopt (Sink.check c.artifactPath c.runtime) (scan files c) (files, false) with
      ⟨_ | _, k, f, _ | _⟩ <;> rfl
  rw [hcheck, checkFrom_eq]
  cases textOf? c (scan files c) <;> rfl

/-! ## Scans before and after -/

/-- **Writing the artifact disturbs nothing that is scanned**: `discover` finds the same files, which and whose
companion files read the same, and the path of the artifact still leads somewhere. -/
structure Undisturbed (before after : Files) (c : Config) : Prop where
  endpoints : ∀ path, ¬(controller before c).project.Edited before after path
  companions : (controller before c).project.KeepsCompanions before after
  artifact : after.holds c.artifactPath = true

/-- **An artifact apart from what is scanned**, in a plain tree: it is no endpoint file, and neither at a companion
file's place nor above or below one. -/
structure Apart (files : Files) (c : Config) : Prop where
  tree : files.IsTree
  routes : (controller files c).project.routesDir.IsStraight
  artifact : c.artifactPath.IsStraight
  endpoint : ¬(controller files c).project.IsEndpointPlace files (files.place c.artifactPath)
  companions : ∀ path ∈ (controller files c).project.discover files, ∀ companion,
    (controller files c).project.companion? files path = some companion →
      companion.IsStraight ∧ Files.Aside (files.place companion) (files.place c.artifactPath)

theorem anchored_controller (files : Files) (c : Config) : (controller files c).project.Anchored := by
  refine Project.anchored_ofConfig ?_ c
  simp [Path.isAbsolute, Location.path]

/-- `textOf? c` is the same for every order of the outcomes of `scan files c`. -/
theorem textOf?_of_perm (hfiles : files.Proper) (h : outcomes.Perm (scan files c)) :
    textOf? c outcomes = textOf? c (scan files c) := by
  rw [scan, Project.outcomes_eq_scanned] at h ⊢
  rw [textOf?, textOf?, Controller.analysesOf_eq hfiles (Project.analyzes_outcome _ _) h (List.Perm.refl _)]

namespace Undisturbed

/-- `Undisturbed` files have the same analyses, in whatever order. -/
theorem mem_analysesOf_iff (h : Undisturbed files after c) (hfiles : files.Proper)
    (hhere : after.workingDirectory = files.workingDirectory) (a : Analysis) :
    a ∈ Controller.analysesOf (scan files c) ↔ a ∈ Controller.analysesOf (scan after c) := by
  have hcontroller : controller after c = controller files c := by rw [controller, controller, hhere]
  -- a path found in both is read alike in both
  have houtcome : ∀ path ∈ (controller files c).project.discover files,
      path ∈ (controller files c).project.discover after →
        (controller files c).project.outcome files path = (controller files c).project.outcome after path := by
    intro path hpath hpath'
    have hoffered : (controller files c).project.IsDiscoverable path := ⟨files, hfiles, hpath⟩
    exact hoffered.outcome_congr (anchored_controller files c) (Project.read_of_not_edited (h.endpoints path) hpath')
      (h.companions path hpath hpath')
  rw [scan, scan, hcontroller, Project.mem_analysesOf (List.Perm.refl _), Project.mem_analysesOf (List.Perm.refl _)]
  constructor
  · rintro ⟨path, hpath, ha⟩
    have hpath' := (Project.mem_of_not_edited (h.endpoints path)).mp hpath
    exact ⟨path, hpath', houtcome path hpath hpath' ▸ ha⟩
  · rintro ⟨path, hpath', ha⟩
    have hpath := (Project.mem_of_not_edited (h.endpoints path)).mpr hpath'
    exact ⟨path, hpath, (houtcome path hpath hpath').symm ▸ ha⟩

/-- **`textOf? c` of the scan is the same for `Undisturbed` files.** -/
theorem textOf?_eq (h : Undisturbed files after c) (hfiles : files.Proper)
    (hhere : after.workingDirectory = files.workingDirectory) :
    textOf? c (scan after c) = textOf? c (scan files c) := by
  have hdifferent : ∀ a ∈ Controller.analysesOf (scan files c), ∀ b ∈ Controller.analysesOf (scan files c),
      a.source.same b.source = true → a = b := by
    intro a ha b hb hsame
    obtain ⟨path, hpath, ha⟩ := (Project.mem_analysesOf (List.Perm.refl _)).mp ha
    obtain ⟨other, hother, hb⟩ := (Project.mem_analysesOf (List.Perm.refl _)).mp hb
    exact (Project.analyzes_outcome _ _).eq_of_same hfiles hpath hother ha hb hsame
  have hroutes := Registry.routesOf_eq (Controller.pairwise_analysesOf _) (Controller.pairwise_analysesOf _)
    hdifferent (h.mem_analysesOf_iff hfiles hhere)
  refine Registry.artifactText?_congr ?_ c.runtime
  rw [Registry.routes_replaceAll_empty, Registry.routes_replaceAll_empty, hroutes]

end Undisturbed

/-! ## Up to date -/

/-- `checkFrom` succeeds exactly if there is a text and `files.holdsText` it at the path of the artifact. -/
theorem checkFrom_success_iff : (checkFrom files c outcomes).1 = .success ↔
    ∃ text, textOf? c outcomes = some text ∧ files.holdsText c.artifactPath text = true := by
  rw [checkFrom_eq]
  cases textOf? c outcomes with
  | none => simp
  | some text =>
    cases hholds : files.holdsText c.artifactPath text <;> simp [hholds]

/-- `generateFrom` succeeds exactly if there is a text and `files.emit` of it does. -/
theorem generateFrom_success_iff : generateFrom s files c outcomes = (.success, after) ↔
    ∃ text, textOf? c outcomes = some text ∧ files.emit s c.artifactPath text = (.ok (), after) := by
  rw [generateFrom_eq]
  cases textOf? c outcomes with
  | none => simp
  | some text =>
    cases hemit : files.emit s c.artifactPath text with
    | mk result f => cases result <;> simp [hemit, exitOf, Except.mapError]

/-- **`Undisturbed files after c` where `Apart files c`** and `after` is what emitting the artifact leaves. -/
theorem Apart.undisturbed (h : Apart files c) {text : String} (hfresh : s.Fresh files c.artifactPath)
    (hemit : files.emit s c.artifactPath text = (.ok (), after)) : Undisturbed files after c := by
  rcases Files.exists_of_emit hfresh hemit with ⟨hholds, rfl⟩ | ⟨made, temporary, l, hemits⟩
  · refine ⟨fun path hedited => ?_, fun _ _ _ _ _ => rfl, ?_⟩
    · exact hedited.elim (fun hnot => hnot Iff.rfl) fun hread => hread.2 rfl
    · exact Files.holds_of_holdsText hholds
  · obtain ⟨hafter, hplace, hgrows⟩ := hemits.grows h.tree h.artifact
    refine ⟨?_, ?_, ?_⟩
    · exact hgrows.not_edited h.tree hafter h.routes (hplace ▸ h.endpoint)
    · exact hgrows.keepsCompanions h.tree (hplace ▸ h.companions)
    · rcases hemits.locate with hfound | ⟨-, target, htarget⟩
      · rw [Files.holds, Files.find?, hfound]
        rfl
      · exact absurd htarget (h.tree.linkless l target)

/-- **The artifact is checked exactly**, in every order in which the files of a scan are done. `check` leaves the files
as they are; it is `.success` exactly when the scan has a text and `holdsText` of the artifact, that is when `generate`
would succeed and leave the files as they are. After a successful `generate` with `Undisturbed` files, `check` succeeds
and a second `generate` leaves the files as they are; and an artifact that is `Apart` from what is scanned disturbs
nothing. -/
theorem check_exact (files : Files) (c : Config) (hfiles : files.Proper)
    (hhere : ∀ name ∈ files.workingDirectory, Path.IsName name) :
    (∀ outcomes, outcomes.Perm (scan files c) → checkFrom files c outcomes = (check files c, files) ∧
      ∀ s, generateFrom s files c outcomes = generate s files c) ∧
    (check files c = .success ↔
      ∃ text, textOf? c (scan files c) = some text ∧ files.holdsText c.artifactPath text = true) ∧
    (∀ s, s.Fresh files c.artifactPath → (check files c = .success ↔ generate s files c = (.success, files))) ∧
    ∀ s after, s.Fresh files c.artifactPath → generate s files c = (.success, after) →
      (Apart files c → Undisturbed files after c) ∧
      (Undisturbed files after c → ∀ outcomes, outcomes.Perm (scan after c) →
        checkFrom after c outcomes = (.success, after) ∧
        ∀ s', generateFrom s' after c outcomes = (.success, after)) := by
  have hcheck : check files c = .success ↔
      ∃ text, textOf? c (scan files c) = some text ∧ files.holdsText c.artifactPath text = true := by
    rw [← checkFrom_success_iff, checkFrom_scan]
  refine ⟨fun outcomes houtcomes => ?_, hcheck, fun s hfresh => ?_, fun s after hfresh hgenerate => ?_⟩
  · -- the order has no part in the text, and no run sees anything else of the scan
    have htext := textOf?_of_perm hfiles houtcomes
    refine ⟨?_, fun s => ?_⟩
    · rw [← checkFrom_scan, checkFrom_eq, checkFrom_eq, htext]
    · rw [← generateFrom_scan, generateFrom_eq, generateFrom_eq, htext]
  · rw [hcheck, ← generateFrom_scan, generateFrom_success_iff]
    exact exists_congr fun text => and_congr_right fun _ => (Files.emit_idle_iff hfresh).symm
  · rw [← generateFrom_scan, generateFrom_success_iff] at hgenerate
    obtain ⟨text, htext, hemit⟩ := hgenerate
    refine ⟨fun hapart => hapart.undisturbed hfresh hemit, fun hundisturbed outcomes houtcomes => ?_⟩
    obtain ⟨hproper, hthere, hholds⟩ : after.Proper ∧ after.workingDirectory = files.workingDirectory ∧
        after.holdsText c.artifactPath text = true := by
      rcases Files.exists_of_emit hfresh hemit with ⟨hholds, rfl⟩ | ⟨made, temporary, l, hemits⟩
      · exact ⟨hfiles, rfl, hholds⟩
      · exact ⟨hemits.proper hfiles hhere, hemits.here, hemits.holdsText hundisturbed.artifact⟩
    have hagain : textOf? c outcomes = some text := by
      rw [textOf?_of_perm hproper houtcomes, hundisturbed.textOf?_eq hfiles hthere, htext]
    refine ⟨?_, fun s' => ?_⟩
    · rw [checkFrom_eq, hagain]
      dsimp only
      rw [if_pos hholds]
    · rw [generateFrom_success_iff]
      exact ⟨text, hagain, by rw [Files.emit, if_pos hholds]⟩

end Program

/-! ## An artifact beside the companion files, and one in their way

There is an endpoint file without companion file, and a directory in which the directory of the companion files
could be. The artifact comes beside that directory, or in its place. -/

namespace Session.InTheWay

open Displacement (config project code upper sizes IsWalked locate_of_isWalked find?_routes isWalked_upper
  isName_routes isName_server)

/-- The files before the artifact is written: an endpoint file, and the directory of the artifact, which is empty. -/
def files : Files :=
  ⟨[(["routes"], .directory), (["routes", "server.rs"], .text code), ([".routegen"], .directory)], []⟩

/-- The settings with an artifact. -/
def settings (artifact : Path) : Config := { config with artifact }

/-- An artifact beside the companion files. -/
def beside : Path := ⟨"/.routegen/api.rs"⟩

/-- An artifact in the place of the directory of the companion files. -/
def above : Path := ⟨"/.routegen/types"⟩

/-- The place of the companion file. -/
def companion : Path := ⟨"/.routegen/types/routes/types.rs"⟩

theorem isWalked_beside : IsWalked beside [".routegen", "api.rs"] := ⟨rfl, rfl, rfl⟩
theorem isWalked_above : IsWalked above [".routegen", "types"] := ⟨rfl, rfl, rfl⟩
theorem isWalked_companion : IsWalked companion [".routegen", "types", "routes", "types.rs"] := ⟨rfl, rfl, rfl⟩
theorem isWalked_dir : IsWalked ⟨"/.routegen"⟩ [".routegen"] := ⟨rfl, rfl, rfl⟩

theorem looksUp_dir : Files.LooksUp ".routegen" := ⟨by decide, by decide, by decide, by decide⟩
theorem looksUp_api : Files.LooksUp "api.rs" := ⟨by decide, by decide, by decide, by decide⟩
theorem looksUp_types : Files.LooksUp "types" := ⟨by decide, by decide, by decide, by decide⟩

/-! ### Writing the artifact -/

theorem entry?_dir : files.entry? [".routegen"] = some .directory := rfl

theorem entry?_artifact (name : String) : files.entry? [".routegen", name] = none := by
  simp [Files.entry?, files]

theorem locate_dir : files.locate true ⟨"/.routegen"⟩ = .ok (.found [".routegen"] .directory) := by
  rw [locate_of_isWalked files isWalked_dir, Files.walk_of_looksUp files _ _ _ looksUp_dir]
  exact Files.walk_nil _ _ _ _

theorem find?_dir : files.find? ⟨"/.routegen"⟩ = some ([".routegen"], .directory) := by
  rw [Files.find?, locate_dir]

/-- `makeDirectories` finds the directory of the artifact there. -/
theorem makeDirectories_dir : files.makeDirectories ⟨"/.routegen"⟩ = .ok files := by
  have hmake : files.makeDirectory ⟨"/.routegen"⟩ = .error .alreadyExists := by
    have hnames : Files.namesWithoutEnd ⟨"/.routegen"⟩ = ["", ".routegen"] := by decide
    have hwalk : files.walk false Files.maxLinks [] ["", ".routegen"] = .ok (.found [".routegen"] .directory) := by
      rw [Files.walk_of_void files _ _ _ (.inl rfl), Files.walk_of_looksUp files _ _ _ looksUp_dir]
      exact Files.walk_nil _ _ _ _
    have hstart : files.start ⟨"/.routegen"⟩ = [] := rfl
    rw [Files.makeDirectory, hnames, hstart, hwalk]
    rfl
  have hensure : files.ensureDirectory ⟨"/.routegen"⟩ = .ok files := by
    rw [Files.ensureDirectory, hmake, Files.isDirectory, find?_dir]
    rfl
  have hdepth : (Path.mk "/.routegen").components.length + 1 = 3 := by decide
  rw [Files.makeDirectories, hdepth, Files.makeDirectoriesUpTo, hensure]
  rfl

theorem isFree_temporary : files.IsFree ([".routegen"] ++ ["tmp"]) := by
  simp [Files.IsFree, files]

theorem fresh {artifact : Path} (hdir : artifactDirectory artifact = ⟨"/.routegen"⟩) :
    (EmitSurroundings.calm "tmp").Fresh files artifact := by
  intro made dir hmade hfound
  rw [hdir] at hmade hfound
  obtain rfl := Except.ok.inj (makeDirectories_dir.symm.trans hmade)
  obtain ⟨rfl, -⟩ := Prod.mk.inj (Option.some.inj (find?_dir.symm.trans hfound))
  exact isFree_temporary

/-- **`files.emit` puts the text** in the directory, if the temporary name is free. -/
theorem emit_files {artifact : Path} {name : String} (hwalked : IsWalked artifact [".routegen", name])
    (hname : Files.LooksUp name) (hdir : artifactDirectory artifact = ⟨"/.routegen"⟩) (htemporary : name ≠ "tmp")
    (text : String) :
    files.emit (.calm "tmp") artifact text = (.ok (), files.put [".routegen", name] (.text text)) := by
  have hlocate : files.locate true artifact = .ok (.vacant [".routegen", name]) := by
    rw [locate_of_isWalked files hwalked, files.walk_of_directory _ _ looksUp_dir entry?_dir]
    exact files.walk_of_none _ _ hname (entry?_artifact name)
  -- nothing is there yet, so the text is written
  have hstale : ¬files.holdsText artifact text = true := by
    rw [Files.holdsText, Files.read, hlocate]
    exact Bool.false_ne_true
  have hreplaceable : (files.put ([".routegen"] ++ ["tmp"]) (.text text)).replaceable artifact =
      .ok [".routegen", name] := by
    obtain ⟨hnames, habsolute, husable⟩ := hwalked
    have hempty : artifact.text.isEmpty = false := by
      rw [Bool.eq_false_iff]
      intro hempty
      simp [Path.isAbsolute, String.isEmpty_iff.mp hempty] at habsolute
    have hdirectory : Files.entry? (files.put ([".routegen"] ++ ["tmp"]) (.text text)) [".routegen"] =
        some .directory := by
      rw [Files.entry?_put_of_ne _ (by simp) _ (by simp), entry?_dir]
    have hfree : Files.entry? (files.put ([".routegen"] ++ ["tmp"]) (.text text)) [".routegen", name] = none := by
      rw [Files.entry?_put_of_ne _ (by simp) _ (by simpa using htemporary), entry?_artifact]
    generalize files.put ([".routegen"] ++ ["tmp"]) (.text text) = between at hdirectory hfree ⊢
    have hwalk : between.walk true Files.maxLinks [] ["", ".routegen"] = .ok (.found [".routegen"] .directory) := by
      rw [between.walk_of_void _ _ _ (.inl rfl), between.walk_of_directory _ _ looksUp_dir hdirectory]
      exact between.walk_nil _ _ _
    have hreverse : (Files.namesWithoutEnd artifact).reverse = [name, ".routegen", ""] := by
      simp [Files.namesWithoutEnd, hnames, hname.ne_empty]
    have hlast : artifact.names.getLast? ≠ some "" := by simpa [hnames] using hname.ne_empty
    have hstart : between.start artifact = [] := by
      rw [Files.start, if_pos habsolute]
    rw [Files.replaceable, hempty, husable, hreverse]
    simp only [Bool.false_eq_true, if_false, List.reverse_cons, List.reverse_nil, List.nil_append, List.cons_append,
      hstart, hwalk, hname.ne_dot, hname.ne_dots, or_self, Nat.not_lt.mpr hname.size, hlast, Files.replaceableIn, hfree]
  rw [Files.emit, if_neg hstale]
  simp only [EmitSurroundings.calm, hdir, makeDirectories_dir, find?_dir, Files.emitIn, Option.or, Files.persist,
    Files.put_put, hreplaceable, isFree_temporary.erase_put]

/-! ### Scanning the project -/

theorem proper : files.Proper := by
  have hdir : Path.IsName ".routegen" := ⟨by decide, by decide, by decide, by decide⟩
  simp [Files.Proper, files, isName_routes, isName_server, hdir]

theorem discover_files : project.discover files = [upper] := Displacement.discover_eq rfl rfl (by decide)

theorem discoverable_upper : project.IsDiscoverable upper :=
  ⟨files, proper, discover_files ▸ List.mem_singleton_self upper⟩

theorem anchored : project.Anchored := Project.anchored_ofConfig rfl config

theorem routeId?_upper (f : Files) : project.routeId? f upper = some "/" := by
  rw [discoverable_upper.routeId?_eq anchored f files]
  decide +kernel

theorem companion?_upper (f : Files) : project.companion? f upper = some companion := by
  rw [discoverable_upper.companion?_eq anchored f files]
  decide +kernel

/-- The analysis of the endpoint file. -/
def analysis? : Option Analysis := (Analysis.ofSource? "/" upper none code).map Prod.fst

/-- Without a companion file the outcome is `analysis?`. -/
theorem outcome_of_notFound {f : Files} (hread : f.read upper = .ok code)
    (hcompanion : f.read companion = .error .notFound) : (project.outcome f upper).analysis = analysis? := by
  unfold Project.outcome Project.analyze Project.companionTypes analysis?
  rw [routeId?_upper, companion?_upper]
  dsimp only
  rw [hread, hcompanion]
  dsimp only [Option.bind_none]
  cases Analysis.ofSource? "/" upper none code <;> rfl

/-- With a file in the way of the companion file there is no analysis. -/
theorem outcome_of_notADirectory {f : Files} (hcompanion : f.read companion = .error .notADirectory) :
    (project.outcome f upper).analysis = none := by
  unfold Project.outcome Project.analyze Project.companionTypes
  rw [routeId?_upper, companion?_upper]
  dsimp only
  rw [hcompanion]
  cases f.read upper <;> rfl

/-- `artifactText?` with the route of the endpoint file and without it are two texts. -/
theorem exists_texts : ∃ a text bare, analysis? = some a ∧
    (Registry.empty.replaceAll [a]).2.artifactText? "routegen" = some text ∧
    (Registry.empty.replaceAll []).2.artifactText? "routegen" = some bare ∧ text ≠ bare := by
  have hdiffer : (analysis?.bind fun a =>
      ((Registry.empty.replaceAll [a]).2.artifactText? "routegen").bind fun text =>
        ((Registry.empty.replaceAll []).2.artifactText? "routegen").map fun bare => decide (text ≠ bare)) =
      some true := by
    decide +kernel
  obtain ⟨a, ha, hrest⟩ := Option.bind_eq_some_iff.mp hdiffer
  obtain ⟨text, htext, hrest⟩ := Option.bind_eq_some_iff.mp hrest
  obtain ⟨bare, hbare, hne⟩ := Option.map_eq_some_iff.mp hrest
  exact ⟨a, text, bare, ha, htext, hbare, of_decide_eq_true hne⟩

/-- The files after `text` is written under `name`. -/
def after (name text : String) : Files := files.put [".routegen", name] (.text text)

section After

variable (name text : String)

theorem entry?_after {l : Location} (h : l ≠ [".routegen", name]) : Files.entry? (after name text) l = files.entry? l :=
  Files.entry?_put_of_ne files (by simp) _ h

theorem entry?_after_dir : Files.entry? (after name text) [".routegen"] = some .directory :=
  entry?_after name text (by simp)

theorem entry?_after_self : Files.entry? (after name text) [".routegen", name] = some (.text text) :=
  Files.entry?_put_self files (by simp) _

theorem discover_after : project.discover (after name text) = [upper] := by
  refine Displacement.discover_eq ?_ ?_ (by decide)
  · rw [entry?_after name text (by simp)]
    rfl
  · rfl

end After

/-! ### Both runs -/

theorem artifactPath_settings {artifact : Path} (h : artifact.isAbsolute = true) :
    (settings artifact).artifactPath = artifact := by
  rw [Config.artifactPath, Config.resolve, Path.join]
  exact if_pos h

/-- The project of `settings artifact` is the same for every artifact. -/
theorem project_settings (artifact : Path) {f : Files} (hhere : f.workingDirectory = []) :
    (Program.controller f (settings artifact)).project = project := by
  rw [Program.controller, hhere]
  rfl

/-- `textOf?` of a scan of the one endpoint file, by its analysis `o`. -/
theorem textOf?_scan (artifact : Path) {f : Files} {o : Option Analysis}
    (hhere : f.workingDirectory = []) (hdiscover : project.discover f = [upper])
    (ho : (project.outcome f upper).analysis = o) :
    Program.textOf? (settings artifact) (Program.scan f (settings artifact)) =
      (Registry.empty.replaceAll o.toList).2.artifactText? "routegen" := by
  have hanalyses : Controller.analysesOf (Program.scan f (settings artifact)) = o.toList := by
    rw [Program.scan, project_settings artifact hhere, Project.outcomes, hdiscover, Controller.analysesOf,
      List.map_singleton]
    cases o with
    | none => rw [List.filterMap_cons_none ho, List.filterMap_nil]; exact List.mergeSort_nil
    | some a => rw [List.filterMap_cons_some ho, List.filterMap_nil]; exact List.mergeSort_singleton a
  rw [Program.textOf?, hanalyses]
  rfl

/-- The companion file is not there at first. -/
theorem read_companion : files.read companion = .error .notFound := by
  have hlocate : files.locate true companion = .error .notFound := by
    rw [locate_of_isWalked files isWalked_companion, files.walk_of_directory _ _ looksUp_dir entry?_dir,
      files.walk_of_looksUp _ _ _ looksUp_types]
    rfl
  rw [Files.read, hlocate]

theorem read_upper : files.read upper = .ok code := by
  have hlocate : files.locate true upper = .ok (.found ["routes", "server.rs"] (.text code)) := by
    rw [locate_of_isWalked files isWalked_upper]
    simp [Files.walk, Files.entry?, files, Files.maxNameBytes, sizes]
  rw [Files.read, hlocate]

/-- What `walk` sees below `.routegen/types`, once the artifact is there: the artifact, or a failure. -/
theorem walk_types (text : String) (rest : List String) :
    (after "types" text).walk true Files.maxLinks [] (".routegen" :: "types" :: rest) =
      if rest = [] then .ok (.found [".routegen", "types"] (.text text)) else .error .notADirectory := by
  have hdir : Files.entry? (after "types" text) ([] ++ [".routegen"]) = some .directory :=
    entry?_after_dir "types" text
  have htypes : Files.entry? (after "types" text) ([] ++ [".routegen"] ++ ["types"]) = some (.text text) :=
    entry?_after_self "types" text
  rw [Files.walk_of_directory _ _ _ looksUp_dir hdir, Files.walk_of_looksUp _ _ _ _ looksUp_types, htypes]
  rfl

/-- Once the artifact is at `.routegen/types`, it is in the way of the companion file. -/
theorem read_companion_after (text : String) :
    (after "types" text).read companion = .error .notADirectory := by
  have hlocate : (after "types" text).locate true companion = .error .notADirectory := by
    rw [locate_of_isWalked _ isWalked_companion, walk_types]
    rfl
  rw [Files.read, hlocate]

/-- `(after "types" text).read above = .ok text`. -/
theorem read_above (text : String) : (after "types" text).read above = .ok text := by
  have hlocate : (after "types" text).locate true above = .ok (.found [".routegen", "types"] (.text text)) := by
    rw [locate_of_isWalked _ isWalked_above, walk_types]
    rfl
  rw [Files.read, hlocate]

/-- **`generate` writes either artifact**, with one text. -/
theorem generate_files {artifact : Path} {name : String} (hwalked : IsWalked artifact [".routegen", name])
    (hname : Files.LooksUp name) (hdir : artifactDirectory artifact = ⟨"/.routegen"⟩) (htemporary : name ≠ "tmp")
    {a : Analysis} {text : String} (ha : analysis? = some a)
    (htext : (Registry.empty.replaceAll [a]).2.artifactText? "routegen" = some text) :
    Program.generate (.calm "tmp") files (settings artifact) = (.success, after name text) := by
  rw [← Program.generateFrom_scan, Program.generateFrom_success_iff]
  refine ⟨text, ?_, ?_⟩
  · rw [textOf?_scan artifact rfl discover_files (outcome_of_notFound read_upper read_companion), ha]
    exact htext
  · rw [artifactPath_settings hwalked.2.1]
    exact emit_files hwalked hname hdir htemporary text

/-! ### Beside -/

theorem isTree : files.IsTree := by
  have hrouted : Path.IsName ".routegen" := ⟨by decide, by decide, by decide, by decide⟩
  have hroutes : Files.LooksUp "routes" := ⟨by decide, by decide, by decide, by decide⟩
  have hserver : Files.LooksUp "server.rs" := ⟨by decide, by decide, by decide, by decide⟩
  refine ⟨by decide, ?_, by decide, ?_, ?_, rfl⟩
  · simp [files, isName_routes, isName_server, hrouted, hroutes, hserver, looksUp_dir]
  · simp [files, Files.entry?]
  · simp [files]

/-- **`beside` is `Apart` from what is scanned.** -/
theorem apart_beside : Program.Apart files (settings beside) := by
  have hproject : (Program.controller files (settings beside)).project = project := rfl
  have hpath : (settings beside).artifactPath = beside := artifactPath_settings rfl
  have hplace : files.place beside = [".routegen", "api.rs"] := by decide
  have hcompanion : files.place companion = [".routegen", "types", "routes", "types.rs"] := by decide
  refine ⟨isTree, ⟨by decide, by decide⟩, ⟨by decide, by decide⟩, ?_, ?_⟩
  · rw [hproject, hpath, hplace]
    exact fun h => absurd h.2 (by decide)
  · intro path hmem found hfound
    rw [hproject, discover_files, List.mem_singleton] at hmem
    rw [hmem, hproject, companion?_upper] at hfound
    obtain rfl := Option.some.inj hfound
    refine ⟨⟨by decide, by decide⟩, ?_⟩
    rw [hpath, hplace, hcompanion]
    exact ⟨by decide, by decide⟩

/-- After `generate` with an artifact beside the companion files, `check` succeeds. -/
theorem check_exact_beside :
    files.Proper ∧ (∀ name ∈ files.workingDirectory, Path.IsName name) ∧
      (EmitSurroundings.calm "tmp").Fresh files (settings beside).artifactPath ∧
      Program.Apart files (settings beside) ∧ Program.check files (settings beside) ≠ .success ∧
      ∃ written, Program.generate (.calm "tmp") files (settings beside) = (.success, written) ∧
        Program.check written (settings beside) = .success ∧
        Program.generate (.calm "tmp") written (settings beside) = (.success, written) := by
  have hpath : (settings beside).artifactPath = beside := artifactPath_settings rfl
  have hfresh : (EmitSurroundings.calm "tmp").Fresh files (settings beside).artifactPath := hpath ▸ fresh (by decide)
  have hhere : ∀ name ∈ files.workingDirectory, Path.IsName name := List.forall_mem_nil _
  obtain ⟨a, text, bare, ha, htext, -, -⟩ := exists_texts
  have hgenerate := generate_files isWalked_beside looksUp_api (by decide) (by decide) ha htext
  obtain ⟨-, -, hidle, hafter⟩ := Program.check_exact files (settings beside) proper hhere
  obtain ⟨hundisturbed, hagain⟩ := hafter _ _ hfresh hgenerate
  obtain ⟨hcheck, hsecond⟩ := hagain (hundisturbed apart_beside) _ (List.Perm.refl _)
  refine ⟨proper, hhere, hfresh, apart_beside, ?_, _, hgenerate, ?_, ?_⟩
  · -- a run that changed nothing would have left the artifact out
    rw [ne_eq, hidle _ hfresh, hgenerate]
    intro heq
    have hwritten := entry?_after_self "api.rs" text
    rw [(Prod.mk.inj heq).2, entry?_artifact] at hwritten
    cases hwritten
  · rw [Program.checkFrom_scan] at hcheck
    exact (Prod.mk.inj hcheck).1
  · rw [← Program.generateFrom_scan]
    exact hsecond _

/-! ### In the way -/

/-- **An artifact that is neither an endpoint file nor a companion file can be in the way of one.** After `generate`
with the artifact `above`, the companion file cannot be read, so the route of the endpoint file is not found again, and
`check` fails. -/
theorem outdated_after_generate :
    files.Proper ∧ (EmitSurroundings.calm "tmp").Fresh files (settings above).artifactPath ∧
      (Program.controller files (settings above)).project = project ∧
      project.isEndpoint files (settings above).artifactPath = false ∧
      (∀ path ∈ project.discover files, project.companion? files path ≠ some (settings above).artifactPath) ∧
      ∃ written, Program.generate (.calm "tmp") files (settings above) = (.success, written) ∧
        Program.check written (settings above) = .failure (.outdated above) := by
  have hpath : (settings above).artifactPath = above := artifactPath_settings rfl
  obtain ⟨a, text, bare, ha, htext, hbare, hne⟩ := exists_texts
  have hgenerate := generate_files isWalked_above looksUp_types (by decide) (by decide) ha htext
  refine ⟨proper, hpath ▸ fresh (by decide), project_settings above rfl, ?_, ?_, _, hgenerate, ?_⟩
  · rw [hpath]
    rfl
  · intro path hmem
    rw [discover_files, List.mem_singleton] at hmem
    rw [hmem, companion?_upper, hpath]
    decide
  · -- the companion file cannot be read behind the artifact, so the route has no parameters now
    have hscan := textOf?_scan above rfl (discover_after "types" text)
      (outcome_of_notADirectory (read_companion_after text))
    have hcheck := Program.checkFrom_scan (after "types" text) (settings above)
    rw [Program.checkFrom_eq, hscan.trans hbare, hpath] at hcheck
    have hstale : (after "types" text).holdsText above bare = false := by
      rw [Files.holdsText, read_above]
      exact beq_false_of_ne hne
    rw [← (Prod.mk.inj hcheck).1, hstale]
    rfl

end Session.InTheWay

end RouteContracts
