import RouteContracts.Proofs.Artifact.Staleness
import RouteContracts.Proofs.Controller.Entries
import RouteContracts.Proofs.Controller.Misses
import RouteContracts.Proofs.Registry.Changes

/-! # The effects of changes
A handled change tells whether the routes changed. If they did, the flush is due after the quiet period; otherwise
the controller is the very same. There are four reasons for having no effect, and none of them is lasting but that
the path belongs to no endpoint file.

* `Controller.Unaffected`: **why a change has no effect**. `Controller.unaffected_iff`: there is no other reason.
* `Controller.exact_handleChange`: the answer of a handled change is exact.
* `Controller.handleChange_again`: handled once more, a change has no effect.
* `Controller.effects_counted`: **the generation counts the changes**, of a registry and through a controller. -/

namespace RouteContracts

namespace Controller

variable {files : Files} {path : Path} {id : String} {c : Controller}

/-! ## The answer -/

/-- The answer of `applyFinding` is `Exact`: it is `true` exactly if the routes are not the `same`, and then the
generation moves by one. -/
theorem exact_applyFinding {r : Registry} (h : r.WellFormed) (id : String) (path : Path) (f : Finding) :
    r.Exact (applyFinding id path r f).1 (applyFinding id path r f).2 := by
  cases f with
  | gone => exact h.exact_removeSource path
  | unfit => exact h.exact (nomatch ·) (nomatch ·) fun _ => rfl
  | analyzed a => exact h.exact_merge id a

/-- **The answer of `handleChange` is `Exact`.** -/
theorem exact_handleChange (h : c.registry.WellFormed) (files : Files) (path : Path) (now : Int) :
    c.registry.Exact (c.handleChange files path now).1 (c.handleChange files path now).2.registry := by
  rcases cases_handleChange files path now c with hsame | ⟨id, -, happlied, hchanged⟩
  · rw [hsame]
    exact h.exact (nomatch ·) (nomatch ·) fun _ => rfl
  · rw [hchanged]
    exact happlied ▸ exact_applyFinding h id _ _

/-- **`handleChange` keeps the registry `WellFormed`.** -/
theorem wellFormed_handleChange (h : c.registry.WellFormed) (files : Files) (path : Path) (now : Int) :
    (c.handleChange files path now).2.registry.WellFormed := by
  rcases cases_handleChange files path now c with hsame | ⟨id, -, -, hchanged⟩
  · rwa [hsame]
  · rw [hchanged]
    show (applied files path id c).2.WellFormed
    unfold applied
    cases hfinding : finding files c.project (c.project.absolute path) with
    | gone => exact h.removeSource _
    | unfit => exact h
    | analyzed a => exact h.merge id (Project.Orderly.distinct (outcome_of_finding hfinding))

/-- **Every state that is `Seen` has a `WellFormed` registry.** -/
theorem Seen.wellFormed {p : Project} {window : Nat} {seen : List Files} (h : Seen p window seen c) :
    c.registry.WellFormed := by
  induction h with
  | new => exact .empty
  | scanned before sink w scanned ih => exact ih.replaceAll (Project.distinct_of_scan scanned)
  | handled before files path now ih => exact wellFormed_handleChange ih files path now
  | ticked before sink w now ih =>
    unfold Controller.tick
    dsimp only
    split <;> exact ih

/-! ## Changes without effect -/

/-- **Why a `handleChange` has no effect.** -/
inductive Unaffected (files : Files) (path : Path) (c : Controller) : Prop where
  /-- The path belongs to no endpoint file. -/
  | foreign (hid : c.project.routeId? files path = none)
  /-- The file cannot be analyzed. -/
  | unfit {id : String} (hid : c.project.routeId? files path = some id)
      (hfinding : finding files c.project (c.project.absolute path) = .unfit)
  /-- The file is as it is known: an equal route is there already. -/
  | known {id : String} {a : Analysis} {route : Route} (hid : c.project.routeId? files path = some id)
      (hfinding : finding files c.project (c.project.absolute path) = .analyzed a)
      (hroute : c.registry.get? id = some route) (hsame : route.same (Route.ofAnalysis id a) = true)
  /-- The file is gone, and no route is from it. -/
  | absent {id : String} (hid : c.project.routeId? files path = some id)
      (hfinding : finding files c.project (c.project.absolute path) = .gone)
      (hnone : ∀ route ∈ c.registry.routes, route.source.same (c.project.absolute path) = false)

/-- **`handleChange` answers `false` exactly if the change is `Unaffected`.** -/
theorem unaffected_iff (files : Files) (path : Path) (now : Int) (c : Controller) :
    (c.handleChange files path now).1 = false ↔ c.Unaffected files path := by
  cases hid : c.project.routeId? files path with
  | none =>
    rw [handleChange_foreign hid]
    exact ⟨fun _ => .foreign hid, fun _ => rfl⟩
  | some id =>
    have hanswer : (c.handleChange files path now).1 = (applied files path id c).1 := by
      rw [handleChange_eq hid]
      split
      · next hchanged => exact hchanged.symm
      · next hchanged => exact (Bool.eq_false_iff.mpr hchanged).symm
    rw [hanswer, applied]
    -- the finding decides which of the reasons it can be
    constructor
    · intro h
      cases hfinding : finding files c.project (c.project.absolute path) with
      | gone =>
        rw [hfinding] at h
        exact .absent hid hfinding ((Registry.removeSource_eq_false_iff _ _).mp h)
      | unfit => exact .unfit hid hfinding
      | analyzed a =>
        rw [hfinding] at h
        obtain ⟨route, hroute, hsame⟩ := (Registry.merge_eq_false_iff _ _ _).mp h
        exact .known hid hfinding hroute hsame
    · intro h
      cases h with
      | foreign hnone => cases hid.symm.trans hnone
      | unfit _ hfinding => rw [hfinding]; rfl
      | absent _ hfinding hnone =>
        rw [hfinding]
        exact (Registry.removeSource_eq_false_iff _ _).mpr hnone
      | known hid' hfinding hroute hsame =>
        obtain rfl := Option.some.inj (hid.symm.trans hid')
        rw [hfinding]
        exact (Registry.merge_eq_false_iff _ _ _).mpr ⟨_, hroute, hsame⟩

/-- **Handled once more, a change has no effect**: `handleChange` is idempotent, whatever the later instant. -/
theorem handleChange_again (files : Files) (path : Path) (now later : Int) (c : Controller) :
    (c.handleChange files path now).2.handleChange files path later =
      (false, (c.handleChange files path now).2) := by
  suffices h : (c.handleChange files path now).2.Unaffected files path by
    have hanswer := (unaffected_iff files path later _).mpr h
    exact Prod.ext hanswer (handleChange_of_unchanged hanswer)
  obtain ⟨hproject, hregistry⟩ := registry_handleChange files path now c
  cases hid : c.project.routeId? files path with
  | none => exact .foreign (hproject ▸ hid)
  | some id =>
    rw [hid] at hregistry
    dsimp only at hregistry
    -- what made no difference before makes none now; what was removed or merged is known
    cases hfinding : finding files c.project (c.project.absolute path) with
    | unfit => exact .unfit (hproject ▸ hid) (hproject ▸ hfinding)
    | gone =>
      refine .absent (hproject ▸ hid) (hproject ▸ hfinding) fun route hroute => ?_
      rw [hregistry, hfinding, applyFinding, Registry.routes_removeSource] at hroute
      rw [hproject]
      simpa using (List.mem_filter.mp hroute).2
    | analyzed a =>
      have hdistinct := Project.Orderly.distinct (outcome_of_finding hfinding)
      obtain ⟨route, hroute, hsame⟩ := c.registry.exists_get?_merge id hdistinct
      have hafter : (c.handleChange files path now).2.registry.get? id = some route := by
        rw [hregistry, hfinding]
        exact hroute
      exact .known (hproject ▸ hid) (hproject ▸ hfinding) hafter hsame

/-! ## Counting -/

/-- **`generation` counts the effects.** Over any `Call`s of a `WellFormed` registry each answer is `Exact`: it is
`true` exactly if the routes before and after are not `Routes.same`, then `generation` moves by one, and else the
registry is the very same. So over a run `generation` grows by the number of answers `true`. `replaceAll results` leaves
routes that are the `same` as those of the `merge`s of `results`, in order, into `Registry.empty`.

The answer of `handleChange` is `Exact` too. With an effect the deadline is `now` plus the window; without, the change
is `Unaffected` and the controller is the very same, as it is when the change is handled again. Every state that is
`Seen` has a `WellFormed` registry. -/
theorem effects_counted :
    (∀ (r : Registry) (cs : List Registry.Call), r.WellFormed → (∀ c ∈ cs, c.Distinct) →
      (∀ before c after, cs = before ++ c :: after →
        (r.calls before).2.Exact ((r.calls before).2.call c).1 ((r.calls before).2.call c).2) ∧
      (r.calls cs).2.generation = r.generation + (r.calls cs).1.count true) ∧
    (∀ (r : Registry) (results : List Analysis), (∀ a ∈ results, Contracts.Distinct a.methods) →
      Routes.same (r.replaceAll results).2.routes
        (Registry.empty.calls (Registry.Call.merges results)).2.routes = true) ∧
    (∀ (c : Controller) (files : Files) (path : Path) (now : Int), c.registry.WellFormed →
      c.registry.Exact (c.handleChange files path now).1 (c.handleChange files path now).2.registry ∧
      (c.handleChange files path now).2.registry.WellFormed ∧
      ((c.handleChange files path now).1 = true →
        (c.handleChange files path now).2.debouncer.deadline = some (now + c.debouncer.window)) ∧
      ((c.handleChange files path now).1 = false ↔ c.Unaffected files path) ∧
      (c.Unaffected files path → c.handleChange files path now = (false, c)) ∧
      ∀ later, (c.handleChange files path now).2.handleChange files path later =
        (false, (c.handleChange files path now).2)) ∧
    ∀ (p : Project) (window : Nat) (seen : List Files) (c : Controller), Seen p window seen c →
      c.registry.WellFormed := by
  refine ⟨fun r cs hr hcs => ⟨fun before c after hsplit => ?_, hr.generation_calls hcs⟩,
    fun r results hresults => r.same_replaceAll_merges hresults, fun c files path now hc => ?_,
    fun p window seen c hseen => hseen.wellFormed⟩
  · obtain ⟨hbefore, -⟩ := List.forall_mem_append.mp (hsplit ▸ hcs)
    exact (hr.calls hbefore).exact_call c
  · refine ⟨exact_handleChange hc files path now, wellFormed_handleChange hc files path now, fun hchanged => ?_,
      unaffected_iff files path now c, fun hwhy => ?_, fun later => handleChange_again files path now later c⟩
    · rw [debouncer_of_changed hchanged, Debouncer.deadline_notify]
    · have hanswer := (unaffected_iff files path now c).mpr hwhy
      exact Prod.ext hanswer (handleChange_of_unchanged hanswer)

end Controller

/-! ## Two fields in either order, and a deletion

An analysis is merged, then one with its two fields in the other order, which is an equal one; then its source is
removed. And after the first scan of a project the only endpoint file is deleted, which is handled twice. -/

namespace Session.Displacement

/-- Two `merge`s for one pattern whose fields differ in their order, and a `removeSource`. -/
def merged : List Registry.Call :=
  [.merge "/posts" (Registry.postsAnalysis "a" "b"), .merge "/posts" (Registry.postsAnalysis "b" "a"),
    .removeSource ⟨"/posts"⟩]

theorem distinct_merged : ∀ c ∈ merged, c.Distinct := by
  intro c hc a ha
  simp only [merged, List.mem_cons, List.not_mem_nil, or_false] at hc
  rcases hc with rfl | rfl | rfl
  · rw [List.mem_singleton.mp ha]
    exact Registry.distinct_postsAnalysis (by decide)
  · rw [List.mem_singleton.mp ha]
    exact Registry.distinct_postsAnalysis (by decide)
  · cases ha

/-- Of `merged` the second `Call` answers `false`. The deletion of `upper` has an effect, with the deadline 300, and
none when it is handled again. -/
theorem effects_counted_noticed :
    (Registry.empty.calls merged).1 = [true, false, true] ∧ (Registry.empty.calls merged).2.generation = 2 ∧
      Routes.same (Registry.empty.replaceAll [Registry.postsAnalysis "a" "b"]).2.routes
        (Registry.empty.calls (Registry.Call.merges [Registry.postsAnalysis "a" "b"])).2.routes = true ∧
      opened.controller.registry.WellFormed ∧
      Routes.same opened.controller.registry.routes noticed.registry.routes = false ∧
      noticed.debouncer.deadline = some 300 ∧ noticed.handleChange bare upper 1 = (false, noticed) := by
  obtain ⟨hcalls, hreplaced, hhandled, -⟩ := Controller.effects_counted
  have hanswers : (Registry.empty.calls merged).1 = [true, false, true] := by decide +kernel
  obtain ⟨-, hgeneration⟩ := hcalls Registry.empty merged .empty distinct_merged
  rw [hanswers] at hgeneration
  have hwell : opened.controller.registry.WellFormed := (reached_opened.faithful anchored).wellFormed
  obtain ⟨hexact, -, hdue, -, -, hagain⟩ := hhandled opened.controller bare upper 0 hwell
  have hresults : ∀ a ∈ [Registry.postsAnalysis "a" "b"], Contracts.Distinct a.methods := by
    intro a ha
    rw [List.mem_singleton.mp ha]
    exact Registry.distinct_postsAnalysis (by decide)
  exact ⟨hanswers, hgeneration, hreplaced _ _ hresults, hwell,
    hexact.differ.mp Unwritten.changed_upper, hdue Unwritten.changed_upper, hagain 1⟩

end Session.Displacement

end RouteContracts
