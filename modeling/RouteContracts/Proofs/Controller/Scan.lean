import Mathlib.Data.List.Induction
import RouteContracts.Proofs.Controller.Rescan
import RouteContracts.Proofs.Path.Order

/-! # Full scans
The files of a full scan are analyzed all at once, and the analyses come in whatever order they are done. They
are sorted by their files, which is possible in one way only, so the order in which they come leaves no trace.

* `Registry.get?_routesOf_last`: of the analyses for one pattern the last one stays.
* `Project.scanned`: the outcomes of a scan, whatever becomes of the files. `Project.Analyzes`: what can become
  of them.
* `Project.Wins`: the file that a pattern is served from, when several files are for it.
* `Controller.adopt_in_every_order`: **a scan leaves the same routes, and emits the same registry, in every order.** -/

namespace RouteContracts

/-! ## Several analyses for one pattern -/

/-- **Of the analyses for one pattern the last one stays**: look-up in `routesOf results` finds the last of `results`
with that `routeId`. -/
theorem Registry.get?_routesOf_last (results : List Analysis) (pattern : String) :
    Routes.get? pattern (routesOf results) =
      (results.filter fun a => a.routeId == pattern).getLast?.map fun a => Route.ofAnalysis pattern a := by
  -- from the back, as a later analysis replaces an earlier one
  induction results using List.reverseRecOn with
  | nil => rfl
  | append_singleton results a ih =>
    have hinsert : routesOf (results ++ [a]) =
        Routes.insert (Route.ofAnalysis a.routeId a) (routesOf results) := by
      rw [routesOf, routesOf, List.foldl_concat]
    rw [hinsert, Routes.get?_insert, List.filter_append, ih]
    by_cases ha : a.routeId = pattern
    · have hpattern : (Route.ofAnalysis a.routeId a).pattern = pattern := ha
      rw [if_pos hpattern]
      simp [ha]
    · have hpattern : ¬(Route.ofAnalysis a.routeId a).pattern = pattern := ha
      rw [if_neg hpattern]
      simp [ha]

/-! ## Outcomes of a scan -/

namespace Project

/-- The outcomes of a scan of `p.discover files` in which `result` says what becomes of each file. -/
def scanned (files : Files) (p : Project) (result : Path → Option Analysis) : List Outcome :=
  (p.discover files).map fun path => ⟨path, result path⟩

/-- **What can become of endpoint files**: `result path` is an analysis of `path` whose contracts are `Distinct`, or
none. -/
structure Analyzes (result : Path → Option Analysis) : Prop where
  source : ∀ path a, result path = some a → a.source = path
  distinct : ∀ path a, result path = some a → Contracts.Distinct a.methods

/-- **The file that a pattern is served from**: of the paths whose analysis has that `routeId` the last one by
`Path.before`. -/
structure Wins (files : Files) (p : Project) (result : Path → Option Analysis) (path : Path) (a : Analysis) :
    Prop where
  found : path ∈ p.discover files
  analyzed : result path = some a
  last : ∀ other ∈ p.discover files, ∀ b, result other = some b → b.routeId = a.routeId →
    other.before path = true

variable {files : Files} {p : Project} {result : Path → Option Analysis} {outcomes : List Outcome}

/-- `p.outcomes files` is `p.scanned files` with the analyses of `p.outcome files`. -/
theorem outcomes_eq_scanned (files : Files) (p : Project) :
    p.outcomes files = p.scanned files fun path => (p.outcome files path).analysis := by
  have hfile : ∀ path, p.outcome files path = ⟨path, (p.outcome files path).analysis⟩ := by
    intro path
    unfold outcome
    split <;> rfl
  exact List.map_congr_left fun path _ => hfile path

/-- `p.outcome files` is one of the results that `Analyzes` allows. -/
theorem analyzes_outcome (files : Files) (p : Project) :
    Analyzes fun path => (p.outcome files path).analysis :=
  ⟨fun _ _ h => source_of_outcome h, fun _ _ h => Orderly.distinct h⟩

theorem mem_analysesOf_scanned (houtcomes : outcomes.Perm (p.scanned files result)) {a : Analysis} :
    a ∈ Controller.analysesOf outcomes ↔ ∃ path ∈ p.discover files, result path = some a := by
  rw [Controller.analysesOf, List.mem_mergeSort, List.mem_filterMap]
  constructor
  · rintro ⟨o, ho, ha⟩
    obtain ⟨path, hpath, rfl⟩ := List.mem_map.mp (houtcomes.mem_iff.mp ho)
    exact ⟨path, hpath, ha⟩
  · rintro ⟨path, hpath, ha⟩
    exact ⟨⟨path, result path⟩, houtcomes.mem_iff.mpr (List.mem_map_of_mem hpath), ha⟩

/-- Analyses whose sources are the `same` are one analysis, as no two discovered paths are the `same`. -/
theorem Analyzes.eq_of_same (h : Analyzes result) (hfiles : files.Proper) {path other : Path} {a b : Analysis}
    (hpath : path ∈ p.discover files) (hother : other ∈ p.discover files) (ha : result path = some a)
    (hb : result other = some b) (hsame : a.source.same b.source = true) : a = b := by
  rw [h.source path a ha, h.source other b hb] at hsame
  have hpaths : path = other := IsDiscoverable.eq_of_same ⟨files, hfiles, hpath⟩ ⟨files, hfiles, hother⟩ hsame
  exact Option.some.inj (ha.symm.trans (hpaths ▸ hb))

end Project

/-! ## Sorting -/

namespace Controller

variable {ω ε : Type} {files : Files} {p : Project} {result : Path → Option Analysis}
  {outcomes others : List Project.Outcome}

/-- `analysesOf outcomes` is in the order of the sources, by `Path.before`. -/
theorem pairwise_analysesOf (outcomes : List Project.Outcome) :
    (analysesOf outcomes).Pairwise fun a b => a.source.before b.source = true := by
  let earlier : Analysis → Analysis → Bool := fun a b => a.source.before b.source
  have htrans : ∀ a b c, earlier a b = true → earlier b c = true → earlier a c = true :=
    fun _ _ _ => Path.before_trans
  have htotal : ∀ a b, (earlier a b || earlier b a) = true := by
    intro a b
    rw [Bool.or_eq_true]
    exact Path.before_total a.source b.source
  exact List.pairwise_mergeSort htrans htotal _

/-- **`analysesOf` does not depend on the order of the outcomes** of a scan of `Proper` files. -/
theorem analysesOf_eq (hfiles : files.Proper) (hresult : Project.Analyzes result)
    (houtcomes : outcomes.Perm (p.scanned files result)) (hothers : others.Perm (p.scanned files result)) :
    analysesOf outcomes = analysesOf others := by
  refine List.Perm.eq_of_pairwise (fun a b ha hb hab hba => ?_) (pairwise_analysesOf outcomes)
    (pairwise_analysesOf others) ?_
  · obtain ⟨path, hpath, ha⟩ := (Project.mem_analysesOf_scanned houtcomes).mp ha
    obtain ⟨other, hother, hb⟩ := (Project.mem_analysesOf_scanned hothers).mp hb
    exact hresult.eq_of_same hfiles hpath hother ha hb (Path.same_of_before_of_before hab hba)
  · exact (List.mergeSort_perm _ _).trans
      (((houtcomes.trans hothers.symm).filterMap _).trans (List.mergeSort_perm _ _).symm)

/-- Outcomes without an analysis can be left out: `analysesOf` is the same. -/
theorem analysesOf_filter (outcomes : List Project.Outcome) :
    analysesOf (outcomes.filter fun o => o.analysis.isSome) = analysesOf outcomes := by
  have hkept : (outcomes.filter fun o => o.analysis.isSome).filterMap Project.Outcome.analysis =
      outcomes.filterMap Project.Outcome.analysis := by
    induction outcomes with
    | nil => rfl
    | cons o rest ih =>
      cases ho : o.analysis <;> simp [ho, ih]
  rw [analysesOf, analysesOf, hkept]

/-- `adopt` depends on the outcomes only through `analysesOf`. -/
theorem adopt_congr (h : analysesOf outcomes = analysesOf others) (sink : Sink ω ε) (w : ω) (c : Controller) :
    c.adopt sink outcomes w = c.adopt sink others w := by
  rw [adopt, adopt, h]

/-! ## What a scan leaves -/

/-- The last of `analysesOf outcomes` with a `routeId` is that of the path which `Wins`. -/
theorem wins_of_getLast? (hresult : Project.Analyzes result)
    (houtcomes : outcomes.Perm (p.scanned files result)) {pattern : String} {a : Analysis}
    (ha : ((analysesOf outcomes).filter fun a => a.routeId == pattern).getLast? = some a) :
    a.routeId = pattern ∧ ∃ path, p.Wins files result path a := by
  obtain ⟨front, hfront⟩ := List.getLast?_eq_some_iff.mp ha
  have hmem : a ∈ (analysesOf outcomes).filter fun a => a.routeId == pattern :=
    List.mem_of_getLast? ha
  obtain ⟨hfound, hpattern⟩ := List.mem_filter.mp hmem
  obtain ⟨path, hpath, hanalyzed⟩ := (Project.mem_analysesOf_scanned houtcomes).mp hfound
  have hsorted := (pairwise_analysesOf outcomes).filter fun a => a.routeId == pattern
  rw [hfront] at hsorted
  refine ⟨beq_iff_eq.mp hpattern, path, hpath, hanalyzed, fun other hother b hb hid => ?_⟩
  -- another analysis of the pattern stands in front of the last one, and they are in order of their sources
  have hb' : b ∈ (analysesOf outcomes).filter fun a => a.routeId == pattern :=
    List.mem_filter.mpr ⟨(Project.mem_analysesOf_scanned houtcomes).mpr ⟨other, hother, hb⟩,
      beq_iff_eq.mpr (hid.trans (beq_iff_eq.mp hpattern))⟩
  rw [← hresult.source path a hanalyzed, ← hresult.source other b hb]
  rw [hfront, List.mem_append, List.mem_singleton] at hb'
  rcases hb' with hb' | rfl
  · exact (List.pairwise_append.mp hsorted).2.2 b hb' a (List.mem_singleton_self a)
  · exact (Path.before_total b.source b.source).elim id id

/-- After `adopt`, look-up finds a route that is the `same` as that of the last of `analysesOf outcomes` with the
pattern, or none if there is no such analysis. -/
theorem rel_get?_adopt (hresult : Project.Analyzes result)
    (houtcomes : outcomes.Perm (p.scanned files result)) (sink : Sink ω ε) (w : ω) (c : Controller)
    (pattern : String) :
    Option.Rel (fun a route => (Route.ofAnalysis pattern a).same route = true)
      ((analysesOf outcomes).filter fun a => a.routeId == pattern).getLast?
      ((c.adopt sink outcomes w).2.1.registry.get? pattern) := by
  have hdistinct : ∀ a ∈ analysesOf outcomes, Contracts.Distinct a.methods := by
    intro a ha
    obtain ⟨path, -, ha⟩ := (Project.mem_analysesOf_scanned houtcomes).mp ha
    exact hresult.distinct path a ha
  have hrel := Routes.rel_get?_of_same (c.registry.same_replaceAll hdistinct) pattern
  rw [Registry.get?_routesOf_last] at hrel
  have hget : (c.adopt sink outcomes w).2.1.registry.get? pattern =
      Routes.get? pattern (c.registry.replaceAll (analysesOf outcomes)).2.routes := rfl
  rw [hget]
  cases hlast : ((analysesOf outcomes).filter fun a => a.routeId == pattern).getLast? <;>
    cases hfound : Routes.get? pattern (c.registry.replaceAll (analysesOf outcomes)).2.routes <;>
    rw [hlast, hfound] at hrel
  · exact .none
  · exact nomatch hrel
  · exact nomatch hrel
  · cases hrel with
    | some h => exact .some h

/-- **`adopt` does not depend on the order in which files are done.** Whatever `result` becomes of the discovered files,
each order of the outcomes leaves the same controller and hands the same registry to the sink; where the files are
analyzed as they are, this is `start`. Outcomes without an analysis have no part in it. A pattern has a route when an
analysis is for it, namely the route of the path which `Wins`. -/
theorem adopt_in_every_order (sink : Sink ω ε) (w : ω) (c : Controller) (hfiles : (sink.files w).Proper)
    (hresult : Project.Analyzes result)
    (houtcomes : outcomes.Perm (c.project.scanned (sink.files w) result)) :
    c.adopt sink outcomes w = c.adopt sink (c.project.scanned (sink.files w) result) w ∧
    ((∀ path ∈ c.project.discover (sink.files w),
        result path = (c.project.outcome (sink.files w) path).analysis) →
      c.adopt sink outcomes w = c.start sink w) ∧
    c.adopt sink outcomes w = c.adopt sink (outcomes.filter fun o => o.analysis.isSome) w ∧
    (∀ pattern, (c.adopt sink outcomes w).2.1.registry.get? pattern = none ↔
      ∀ path ∈ c.project.discover (sink.files w), ∀ a, result path = some a → a.routeId ≠ pattern) ∧
    ∀ pattern route, (c.adopt sink outcomes w).2.1.registry.get? pattern = some route →
      ∃ path a, c.project.Wins (sink.files w) result path a ∧ a.routeId = pattern ∧
        (Route.ofAnalysis pattern a).same route = true := by
  have hordered : c.adopt sink outcomes w = c.adopt sink (c.project.scanned (sink.files w) result) w :=
    adopt_congr (analysesOf_eq hfiles hresult houtcomes (List.Perm.refl _)) sink w c
  refine ⟨hordered, fun hstart => ?_, (adopt_congr (analysesOf_filter outcomes) sink w c).symm,
    fun pattern => ?_, fun pattern route hroute => ?_⟩
  · -- where the files are analyzed as they are, the outcomes are those of the start
    have hscanned : c.project.scanned (sink.files w) result = c.project.outcomes (sink.files w) := by
      rw [Project.outcomes_eq_scanned]
      exact List.map_congr_left fun path hpath => by rw [hstart path hpath]
    rw [hordered, hscanned, start]
  · -- a pattern has a route exactly where some analysis is for it
    have hrel := rel_get?_adopt hresult houtcomes sink w c pattern
    have hnone : (c.adopt sink outcomes w).2.1.registry.get? pattern = none ↔
        ((analysesOf outcomes).filter fun a => a.routeId == pattern).getLast? = none := by
      generalize ((analysesOf outcomes).filter fun a => a.routeId == pattern).getLast? = last at hrel ⊢
      generalize (c.adopt sink outcomes w).2.1.registry.get? pattern = found at hrel ⊢
      cases hrel <;> simp
    rw [hnone, List.getLast?_eq_none_iff, List.filter_eq_nil_iff]
    constructor
    · intro h path hpath a ha hid
      exact h a ((Project.mem_analysesOf_scanned houtcomes).mpr ⟨path, hpath, ha⟩) (beq_iff_eq.mpr hid)
    · intro h a ha hid
      obtain ⟨path, hpath, ha⟩ := (Project.mem_analysesOf_scanned houtcomes).mp ha
      exact h path hpath a ha (beq_iff_eq.mp hid)
  · -- the route is that of the last analysis for its pattern
    have hrel := rel_get?_adopt hresult houtcomes sink w c pattern
    rw [hroute] at hrel
    obtain ⟨a, hlast, hsame⟩ := exists_of_some_option_rel hrel
    obtain ⟨hid, path, hwins⟩ := wins_of_getLast? hresult houtcomes hlast
    exact ⟨path, a, hwins, hid, hsame⟩

end Controller

/-! ## Three files for one pattern

The directories of three endpoint files are groups, so that all three are for the bare root. The last one in the
order of paths cannot be analyzed. -/

namespace Session.Groups

open Displacement (project sink find?_routes isName_routes isName_server)

/-- `/routes/<group>/server.rs`. -/
def inGroup (group : String) : Path := ⟨"/routes/" ++ group ++ "/server.rs"⟩

/-- The endpoint files in three directories, of which two are groups, so that all serve `/`. -/
def files : Files :=
  ⟨[(["routes"], .directory),
    (["routes", "(a)"], .directory), (["routes", "(a)", "server.rs"], .text "pub fn GET() {}"),
    (["routes", "(b)"], .directory), (["routes", "(b)", "server.rs"], .text "pub fn PUT() {}"),
    (["routes", "(c)"], .directory), (["routes", "(c)", "server.rs"], .text "pub fn GET(")], []⟩

/-- What becomes of the files of `files`. -/
def result (path : Path) : Option Analysis :=
  if path = inGroup "(a)" then some ⟨"/", path, PerMethod.empty.insert .get Contract.empty⟩
  else if path = inGroup "(b)" then some ⟨"/", path, PerMethod.empty.insert .put Contract.empty⟩
  else none

theorem proper_files : files.Proper := by
  have hgroup : Path.IsName "(a)" ∧ Path.IsName "(b)" ∧ Path.IsName "(c)" :=
    ⟨⟨by decide, by decide, by decide, by decide⟩, ⟨by decide, by decide, by decide, by decide⟩,
      ⟨by decide, by decide, by decide, by decide⟩⟩
  simp [Files.Proper, files, isName_routes, isName_server, hgroup]

theorem mem_discover {path : Path} : path ∈ project.discover files ↔
    path = inGroup "(a)" ∨ path = inGroup "(b)" ∨ path = inGroup "(c)" := by
  have hfiles : (Project.filesAt files project.routesDir).filter
      (fun path => path.fileName? == some project.endpointFile) =
      [inGroup "(a)", inGroup "(b)", inGroup "(c)"] := by
    rw [Project.filesAt, find?_routes rfl]
    rfl
  rw [Project.discover, List.mem_mergeSort, hfiles]
  simp

theorem distinct_insert_empty (m : Method) :
    Contracts.Distinct (PerMethod.empty.insert m Contract.empty) := by
  intro n c hc
  rw [PerMethod.get?_insert] at hc
  split at hc
  · obtain rfl := Option.some.inj hc
    exact ⟨fun _ h => (nomatch h), fun _ h => (nomatch h), fun _ h => (nomatch h)⟩
  · exact nomatch hc

theorem analyzes_result : Project.Analyzes result := by
  constructor
  all_goals
    intro path a ha
    unfold result at ha
    split at ha
    · obtain rfl := Option.some.inj ha
      first | rfl | exact distinct_insert_empty _
    · split at ha
      · obtain rfl := Option.some.inj ha
        first | rfl | exact distinct_insert_empty _
      · exact nomatch ha

/-- The controller after `adopt` on the outcomes in the opposite order. -/
def scanned : Controller :=
  ((Controller.new project 300).adopt sink (project.scanned files result).reverse files).2.1

/-- The pattern `/` is served from the group `(b)`, also when the files are done in the opposite order. -/
theorem adopt_in_every_order_groups :
    (sink.files files).Proper ∧ Project.Analyzes result ∧
      (project.scanned files result).reverse.Perm (project.scanned files result) ∧
      (Controller.new project 300).adopt sink (project.scanned files result).reverse files =
        (Controller.new project 300).adopt sink (project.scanned files result) files ∧
      ∃ route, scanned.registry.get? "/" = some route ∧ route.source.same (inGroup "(b)") = true := by
  have hperm := List.reverse_perm (project.scanned files result)
  obtain ⟨hordered, -, -, hnone, hsome⟩ :=
    Controller.adopt_in_every_order sink files (Controller.new project 300) proper_files analyzes_result hperm
  have hb : project.Wins files result (inGroup "(b)")
      ⟨"/", inGroup "(b)", PerMethod.empty.insert .put Contract.empty⟩ := by
    refine ⟨mem_discover.mpr (.inr (.inl rfl)), rfl, fun other hother b hb _ => ?_⟩
    rcases mem_discover.mp hother with rfl | rfl | rfl
    · decide
    · decide
    · exact nomatch hb
  refine ⟨proper_files, analyzes_result, hperm, hordered, ?_⟩
  cases hroute : scanned.registry.get? "/" with
  | none => exact absurd rfl ((hnone "/").mp hroute _ hb.found _ hb.analyzed)
  | some route =>
    obtain ⟨path, a, hwins, hid, hsame⟩ := hsome "/" route hroute
    refine ⟨route, rfl, ?_⟩
    have hsource : a.source.same route.source = true := (Route.same_iff.mp hsame).2.1
    -- each of the two files that win comes before the other one
    have hpath : path.same (inGroup "(b)") = true :=
      Path.same_of_before_of_before (hb.last path hwins.found a hwins.analyzed hid)
        (hwins.last _ hb.found _ hb.analyzed hid.symm)
    rw [analyzes_result.source path a hwins.analyzed, Path.same_iff] at hsource
    rw [Path.same_iff] at hpath ⊢
    exact hsource.symm.trans hpath

end Session.Groups

end RouteContracts
