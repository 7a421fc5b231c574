import Mathlib.Data.List.Induction
import RouteContracts.Proofs.Registry.Order

/-! # Changes of a registry
Every call that may change a registry tells whether it did, and the generation counts those that did. Each of
them finds that out in a way of its own: a merge compares one route, replacing all routes compares them all, and
removing a source counts them. In every case the answer is the same as comparing the routes before and after.

* `Registry.Call`, `Registry.calls`: the calls, and what some of them leave and answer.
* `Registry.Exact`: **an answer that is exact**. `Registry.WellFormed.exact_call`: every call has one.
* `Registry.generation_calls`: over any calls the generation counts the answers that tell of a change.
* `Registry.same_replaceAll_merges`: **replacing all routes leaves what merging them one by one leaves.** -/

namespace RouteContracts

/-! ## Calls -/

namespace Registry

/-- A call that may change a registry. -/
inductive Call where
  /-- An analysis is merged under a pattern. -/
  | merge (pattern : String) (a : Analysis)
  /-- All routes are replaced. -/
  | replaceAll (results : List Analysis)
  /-- The routes of a source are removed. -/
  | removeSource (source : Path)

/-- The analyses that a call brings in. -/
def Call.analyses : Call → List Analysis
  | .merge _ a => [a]
  | .replaceAll results => results
  | .removeSource _ => []

/-- A call whose analyses name every field of an object once. -/
def Call.Distinct (c : Call) : Prop := ∀ a ∈ c.analyses, Contracts.Distinct a.methods

/-- What a call answers, and the registry after it. -/
def call (r : Registry) : Call → Bool × Registry
  | .merge pattern a => r.merge pattern a
  | .replaceAll results => r.replaceAll results
  | .removeSource source => r.removeSource source

/-- What some calls answer, one after the other, and the registry after them. -/
def calls (r : Registry) : List Call → List Bool × Registry
  | [] => ([], r)
  | c :: rest => ((r.call c).1 :: (calls (r.call c).2 rest).1, (calls (r.call c).2 rest).2)

/-- **An answer that is exact**: it tells whether the routes differ. Then the generation has moved by one, and otherwise
the registry is the very same. -/
structure Exact (before : Registry) (changed : Bool) (after : Registry) : Prop where
  differ : changed = true ↔ Routes.same before.routes after.routes = false
  counted : changed = true → after.generation = before.generation + 1
  kept : changed = false → after = before

variable {r after : Registry} {changed : Bool}

/-- Only the answer `true` has to be justified for `Exact`, since a `WellFormed` registry is the `same` as itself. -/
theorem WellFormed.exact (h : r.WellFormed)
    (hdiffer : changed = true → Routes.same r.routes after.routes = false)
    (hcounted : changed = true → after.generation = r.generation + 1)
    (hkept : changed = false → after = r) : Exact r changed after := by
  refine ⟨⟨hdiffer, fun hsame => ?_⟩, hcounted, hkept⟩
  by_contra hchanged
  rw [hkept (Bool.eq_false_iff.mpr hchanged), Routes.same_self h.distinct] at hsame
  cases hsame

/-- `merge` compares the route that is there, if there is one. -/
theorem merge_eq (r : Registry) (pattern : String) (a : Analysis) :
    r.merge pattern a =
      if (r.get? pattern).any fun old => old.same (Route.ofAnalysis pattern a) then (false, r)
      else (true, r.advance (Routes.insert (Route.ofAnalysis pattern a) r.routes)) := by
  rw [merge, get?]
  cases Routes.get? pattern r.routes with
  | none => rfl
  | some old => rfl

/-- `merge` answers `false` exactly if a route is there that is the `same`. -/
theorem merge_eq_false_iff (r : Registry) (pattern : String) (a : Analysis) :
    (r.merge pattern a).1 = false ↔
      ∃ old, r.get? pattern = some old ∧ old.same (Route.ofAnalysis pattern a) = true := by
  rw [merge_eq, ← Option.any_eq_true]
  split
  · next hsame => exact ⟨fun _ => hsame, fun _ => rfl⟩
  · next hother => exact ⟨(nomatch ·), fun h => absurd h hother⟩

/-- `removeSource` answers `false` exactly if no route is from the source. -/
theorem removeSource_eq_false_iff (r : Registry) (source : Path) :
    (r.removeSource source).1 = false ↔ ∀ route ∈ r.routes, route.source.same source = false := by
  have hkept : (r.removeSource source).1 = false ↔
      (r.routes.filter fun route => !route.source.same source).length = r.routes.length := by
    unfold Registry.removeSource
    dsimp only
    split
    · next h => exact ⟨fun _ => h, fun _ => rfl⟩
    · next h => exact ⟨(nomatch ·), fun hc => absurd hc h⟩
  rw [hkept, List.length_filter_eq_length_iff]
  simp only [Bool.not_eq_true']

/-- **`merge` is `Exact`.** -/
theorem WellFormed.exact_merge (h : r.WellFormed) (pattern : String) (a : Analysis) :
    Exact r (r.merge pattern a).1 (r.merge pattern a).2 := by
  rw [merge_eq]
  split
  · exact h.exact (nomatch ·) (nomatch ·) fun _ => rfl
  · next hother =>
    refine h.exact (fun _ => ?_) (fun _ => rfl) fun hc => nomatch hc
    -- what is found under the pattern is not what was found there
    rw [Bool.eq_false_iff]
    intro hsame
    have hrel := Routes.rel_get?_of_same hsame pattern
    have hinsert := (Routes.get?_insert (Route.ofAnalysis pattern a) r.routes pattern).trans (if_pos rfl)
    rw [advance, hinsert] at hrel
    cases hold : Routes.get? pattern r.routes with
    | none => rw [hold] at hrel; cases hrel
    | some old =>
      rw [hold] at hrel
      cases hrel with
      | some hrel => exact hother (by simp [get?, hold, hrel])

/-- **`replaceAll` is `Exact`.** -/
theorem WellFormed.exact_replaceAll (h : r.WellFormed) (results : List Analysis) :
    Exact r (r.replaceAll results).1 (r.replaceAll results).2 := by
  unfold Registry.replaceAll
  dsimp only
  split
  · exact h.exact (nomatch ·) (nomatch ·) fun _ => rfl
  · next hother =>
    refine h.exact (fun _ => ?_) (fun _ => rfl) fun hc => nomatch hc
    rw [Bool.eq_false_iff]
    exact fun hsame => hother (Routes.same_symm h.distinct hsame)

/-- **`removeSource` is `Exact`.** -/
theorem WellFormed.exact_removeSource (h : r.WellFormed) (source : Path) :
    Exact r (r.removeSource source).1 (r.removeSource source).2 := by
  unfold Registry.removeSource
  dsimp only
  split
  · exact h.exact (nomatch ·) (nomatch ·) fun _ => rfl
  · next hfewer =>
    refine h.exact (fun _ => ?_) (fun _ => rfl) fun hc => nomatch hc
    rw [Bool.eq_false_iff]
    exact fun hsame => hfewer (Routes.length_eq_of_same hsame).symm

/-- **Every `Call` is `Exact`.** -/
theorem WellFormed.exact_call (h : r.WellFormed) (c : Call) : Exact r (r.call c).1 (r.call c).2 := by
  cases c with
  | merge pattern a => exact h.exact_merge pattern a
  | replaceAll results => exact h.exact_replaceAll results
  | removeSource source => exact h.exact_removeSource source

/-! ## Runs of calls -/

/-- A `Distinct` call keeps `WellFormed`. -/
theorem WellFormed.call (h : r.WellFormed) {c : Call} (hc : c.Distinct) : (r.call c).2.WellFormed := by
  cases c with
  | merge pattern a => exact h.merge pattern (hc a (List.mem_singleton_self a))
  | replaceAll results => exact h.replaceAll hc
  | removeSource source => exact h.removeSource source

/-- **`Distinct` calls keep `WellFormed`.** -/
theorem WellFormed.calls (h : r.WellFormed) {cs : List Call} (hcs : ∀ c ∈ cs, c.Distinct) :
    (r.calls cs).2.WellFormed := by
  induction cs generalizing r with
  | nil => exact h
  | cons c rest ih =>
    obtain ⟨hc, hrest⟩ := List.forall_mem_cons.mp hcs
    exact ih (h.call hc) hrest

/-- **Over a run of `calls` the generation counts the answers `true`.** -/
theorem WellFormed.generation_calls (h : r.WellFormed) {cs : List Call} (hcs : ∀ c ∈ cs, c.Distinct) :
    (r.calls cs).2.generation = r.generation + (r.calls cs).1.count true := by
  induction cs generalizing r with
  | nil => rfl
  | cons c rest ih =>
    obtain ⟨hc, hrest⟩ := List.forall_mem_cons.mp hcs
    have hexact := h.exact_call c
    rw [Registry.calls, ih (h.call hc) hrest]
    dsimp only
    cases hchanged : (r.call c).1 with
    | false => rw [hexact.kept hchanged, List.count_cons_of_ne (by decide)]
    | true =>
      rw [hexact.counted hchanged, List.count_cons_self]
      omega

/-- `calls` of `cs ++ ds` are those of `cs`, and then those of `ds`. -/
theorem calls_append (r : Registry) (cs ds : List Call) :
    r.calls (cs ++ ds) = ((r.calls cs).1 ++ ((r.calls cs).2.calls ds).1, ((r.calls cs).2.calls ds).2) := by
  induction cs generalizing r with
  | nil => rfl
  | cons c rest ih => rw [List.cons_append, calls, ih, calls, List.cons_append]

/-! ## Replacing all routes, and merging them -/

/-- The calls that merge analyses, each under its own pattern. -/
def Call.merges (results : List Analysis) : List Call := results.map fun a => .merge a.routeId a

/-- After `Call.merges results`, look-up finds routes that are the `same` as those of `routesOf results`. -/
theorem rel_get?_merges {results : List Analysis} (h : ∀ a ∈ results, Contracts.Distinct a.methods)
    (pattern : String) :
    Option.Rel (fun a b : Route => a.same b = true)
      ((Registry.empty.calls (Call.merges results)).2.get? pattern) (Routes.get? pattern (routesOf results)) := by
  -- from the end, since the last analysis for a pattern is the one that stays
  induction results using List.reverseRecOn with
  | nil => exact .none
  | append_singleton results a ih =>
    obtain ⟨hresults, ha⟩ := List.forall_mem_append.mp h
    have hroutes : routesOf (results ++ [a]) =
        Routes.insert (Route.ofAnalysis a.routeId a) (routesOf results) := by
      rw [routesOf, routesOf, List.foldl_concat]
    rw [Call.merges, List.map_append, ← Call.merges, calls_append, hroutes, Routes.get?_insert]
    show Option.Rel _ (((Registry.empty.calls (Call.merges results)).2.merge a.routeId a).2.get? pattern) _
    by_cases hpattern : a.routeId = pattern
    · obtain ⟨route, hroute, hsame⟩ := exists_get?_merge (Registry.empty.calls (Call.merges results)).2
        a.routeId (ha a (List.mem_singleton_self a))
      rw [← hpattern, hroute]
      exact (if_pos rfl).symm ▸ .some hsame
    · rw [get?_merge_of_ne _ hpattern]
      exact (if_neg hpattern).symm ▸ ih hresults

/-- **`replaceAll results` leaves routes that are the `same` as after `Call.merges results`** in an empty registry. -/
theorem same_replaceAll_merges (r : Registry) {results : List Analysis}
    (hresults : ∀ a ∈ results, Contracts.Distinct a.methods) :
    Routes.same (r.replaceAll results).2.routes (Registry.empty.calls (Call.merges results)).2.routes = true := by
  have hmerged : (Registry.empty.calls (Call.merges results)).2.WellFormed := by
    refine WellFormed.empty.calls fun c hc => ?_
    obtain ⟨a, ha, rfl⟩ := List.mem_map.mp hc
    intro b hb
    obtain rfl := List.mem_singleton.mp hb
    exact hresults b ha
  have hsame : Routes.same (Registry.empty.calls (Call.merges results)).2.routes (routesOf results) = true :=
    (hmerged.ascending.same_iff (ascending_routesOf results)).mpr (rel_get?_merges hresults)
  have hreplaced := Routes.same_trans hmerged.distinct hsame (r.same_replaceAll hresults)
  exact Routes.same_symm hmerged.distinct hreplaced

end Registry

end RouteContracts
