import RouteContracts.Proofs.Artifact.Comments
import RouteContracts.Proofs.Registry.Order

/-! # Stale artifacts
A change of the registry that makes no difference by equality is dropped. Equality leaves the order of
fields out, the artifact does not. So the artifact is up to date after a dropped change **exactly** when the
fields stand in the same order, at every depth.

* `Contract.eq_of_same`: equal contracts that write the same names are the same.
* `Registry.artifactText?_of_methods`, `Registry.methods_of_artifactText?`: **equal registries have one text
  exactly when their contracts are the same.**
* `Registry.artifactText?_of_unchanged`: what that means for merging and replacing. -/

namespace RouteContracts

/-! ## Equal contracts -/

namespace Contract

theorem pieceObjects_eq {a b : Option Descriptor} (ha : ∀ d ∈ a, d.Distinct) (h : samePiece a b = true) :
    pieceObjects a = pieceObjects b := by
  cases samePiece_iff.mp h with
  | none => rfl
  | some h => exact Descriptor.objects_eq_of_same (ha _ rfl) h

/-- Contracts that are the `same` have equally many `objects`. -/
theorem objects_eq {c c' : Contract} (hc : c.Distinct) (h : c.same c' = true) : c.objects = c'.objects := by
  obtain ⟨hbody, hroute, hsearch⟩ := same_iff.mp h
  rw [objects, objects, pieceObjects_eq hc.body hbody, pieceObjects_eq hc.routeParams hroute,
    pieceObjects_eq hc.searchParams hsearch]

theorem eq_of_samePiece {a b : Option Descriptor} (ha : ∀ d ∈ a, d.Distinct) (h : samePiece a b = true)
    {before before' : List String} (hwritten : before ++ pieceWritten a = before' ++ pieceWritten b) :
    a = b ∧ before = before' := by
  cases samePiece_iff.mp h with
  | none => exact ⟨rfl, by simpa [pieceWritten] using hwritten⟩
  | some h =>
    obtain ⟨rfl, hbefore⟩ := Descriptor.eq_of_same (ha _ rfl) h hwritten
    exact ⟨rfl, hbefore⟩

/-- **Contracts that are the `same` and have the same names `written` are equal**, whatever is written before them. -/
theorem eq_of_same {c c' : Contract} (hc : c.Distinct) (h : c.same c' = true) {before before' : List String}
    (hwritten : before ++ c.written = before' ++ c'.written) : c = c' ∧ before = before' := by
  obtain ⟨hbody, hroute, hsearch⟩ := same_iff.mp h
  simp only [written, ← List.append_assoc] at hwritten
  obtain ⟨hsearch, hfront⟩ := eq_of_samePiece hc.searchParams hsearch hwritten
  obtain ⟨hroute, hfront⟩ := eq_of_samePiece hc.routeParams hroute hfront
  obtain ⟨hbody, hbefore⟩ := eq_of_samePiece hc.body hbody hfront
  refine ⟨?_, hbefore⟩
  cases c
  cases c'
  exact mk.injEq .. ▸ ⟨hbody, hroute, hsearch⟩

end Contract

/-! ## Equal routes -/

/-- A contract of some pattern, compared with one of the same pattern. -/
def Registry.SameContract (p q : String × Contract) : Prop := p.1 = q.1 ∧ p.2.Distinct ∧ p.2.same q.2 = true

/-- What a route adds to the contracts for a method. -/
def Route.contractFor? (m : Method) (route : Route) : Option (String × Contract) :=
  (route.methods.get? m).map (route.pattern, ·)

/-- Routes that are the `same` add contracts that are the `same`, or none. -/
theorem Route.rel_contractFor? {a b : Route} (ha : Contracts.Distinct a.methods) (h : a.same b = true) (m : Method) :
    Option.Rel Registry.SameContract (a.contractFor? m) (b.contractFor? m) := by
  obtain ⟨hpattern, -, hmethods⟩ := same_iff.mp h
  have hm := hmethods m
  rw [contractFor?, contractFor?]
  generalize hc : a.methods.get? m = x at hm
  generalize b.methods.get? m = y at hm
  cases hm with
  | none => exact .none
  | some hsame => exact .some ⟨hpattern, ha m _ hc, hsame⟩

namespace Routes

/-- The contracts of some routes for a method. -/
def contractsFor (m : Method) (routes : Routes) : List (String × Contract) := routes.filterMap (Route.contractFor? m)

variable {as bs : Routes}

theorem contractsFor_cons (m : Method) (a : Route) (as : Routes) :
    contractsFor m (a :: as) = (a.contractFor? m).toList ++ contractsFor m as := by
  rw [contractsFor, List.filterMap_cons]
  cases a.contractFor? m <;> rfl

/-- **The first of some routes tells its contract for `m`**: where it has none, a route that is the `same` has none
either, and the contracts that follow stand in the same places. -/
theorem contractsFor_cons_inj {a b : Route} (hab : a.same b = true) {m : Method}
    (h : contractsFor m (a :: as) = contractsFor m (b :: bs)) :
    a.methods.get? m = b.methods.get? m ∧ contractsFor m as = contractsFor m bs := by
  obtain ⟨-, -, hmethods⟩ := Route.same_iff.mp hab
  have hm := hmethods m
  rw [contractsFor_cons, contractsFor_cons, Route.contractFor?, Route.contractFor?] at h
  generalize a.methods.get? m = x at hm h
  generalize b.methods.get? m = y at hm h
  cases hm with
  | none => exact ⟨rfl, h⟩
  | some _ =>
    obtain ⟨hhead, htail⟩ := List.cons.inj h
    exact ⟨congrArg some (Prod.mk.inj hhead).2, htail⟩

/-- `contractsFor` of every method, in routes that are the `same`, determines their tables of contracts. -/
theorem methods_eq_of_contractsFor (h : List.Forall₂ (fun a b : Route => a.same b = true) as bs)
    (hcontracts : ∀ m, contractsFor m as = contractsFor m bs) : as.map Route.methods = bs.map Route.methods := by
  induction h with
  | nil => rfl
  | cons hab _ ih =>
    have hstep := fun m => contractsFor_cons_inj hab (hcontracts m)
    rw [List.map_cons, List.map_cons, ih fun m => (hstep m).2, PerMethod.ext fun m => (hstep m).1]

/-- The tables of contracts of routes that are the `same` determine `contractsFor` of every method. -/
theorem contractsFor_of_methods_eq (h : List.Forall₂ (fun a b : Route => a.same b = true) as bs)
    (hmethods : as.map Route.methods = bs.map Route.methods) (m : Method) :
    contractsFor m as = contractsFor m bs := by
  induction h with
  | nil => rfl
  | cons hab _ ih =>
    obtain ⟨hhead, htail⟩ := List.cons.inj hmethods
    rw [contractsFor_cons, contractsFor_cons, ih htail, Route.contractFor?, Route.contractFor?, hhead,
      (Route.same_iff.mp hab).1]

/-- `Routes.insert` in the place of `old` leaves the tables of contracts as they are exactly if `old.methods =
route.methods`. -/
theorem Ascending.map_methods_insert {routes : Routes} (h : routes.Ascending) (route : Route) {old : Route}
    (hold : get? route.pattern routes = some old) :
    routes.map Route.methods = (Routes.insert route routes).map Route.methods ↔ old.methods = route.methods := by
  induction routes with
  | nil => exact nomatch hold
  | cons first rest ih =>
    obtain ⟨hhead, hrest⟩ := List.pairwise_cons.mp h
    rw [get?_cons] at hold
    by_cases hp : first.pattern = route.pattern
    · rw [if_pos hp] at hold
      obtain rfl := Option.some.inj hold
      rw [Routes.insert, if_neg (hp ▸ lt_irrefl _), if_pos hp.symm, List.map_cons, List.map_cons, List.cons.injEq]
      exact and_iff_left rfl
    · -- the old route stands further back, so its pattern is a greater one
      rw [if_neg hp] at hold
      have hlt : first.pattern < route.pattern := pattern_of_get? hold ▸ hhead old (mem_of_get? hold)
      rw [Routes.insert, if_neg (lt_asymm hlt), if_neg (Ne.symm hp), List.map_cons, List.map_cons, List.cons.injEq,
        ← ih hrest hold]
      exact and_iff_right rfl

end Routes

/-! ## Equal registries -/

namespace Registry

variable {r r' : Registry}

/-- Registries that are the `same` have contracts for each method that are the `same`, in the same places. -/
theorem forall₂_contractsFor (hr : r.WellFormed) (h : Routes.same r.routes r'.routes = true) (m : Method) :
    List.Forall₂ SameContract (r.contractsFor m) (r'.contractsFor m) := by
  have hall : List.Forall₂ (fun a b : Route => Contracts.Distinct a.methods ∧ a.same b = true) r.routes r'.routes :=
    (List.forall₂_and_left _ _).mpr ⟨hr.distinct, Routes.same_iff_forall₂.mp h⟩
  exact List.rel_filterMap (fun _ _ hab => Route.rel_contractFor? hab.1 hab.2 m) hall

/-- Contracts in the same places have modules of the same kinds. -/
theorem kinds_eq {cs cs' : List (String × Contract)} (h : List.Forall₂ SameContract cs cs') :
    (cs.flatMap fun p => List.replicate p.2.objects (none : Option String) ++ [some p.1]) =
      cs'.flatMap fun p => List.replicate p.2.objects none ++ [some p.1] := by
  induction h with
  | nil => rfl
  | @cons p q ps qs hpq _ ih =>
    rw [List.flatMap_cons, List.flatMap_cons, ih, hpq.1, Contract.objects_eq hpq.2.1 hpq.2.2]

/-- Contracts in the same places with the same names `written` are equal. -/
theorem contracts_eq {cs cs' : List (String × Contract)} (h : List.Forall₂ SameContract cs cs')
    {before before' : List String}
    (hwritten : before ++ cs.flatMap (fun p => p.2.written) = before' ++ cs'.flatMap (fun p => p.2.written)) :
    cs = cs' ∧ before = before' := by
  induction h generalizing before before' with
  | nil => exact ⟨rfl, by simpa using hwritten⟩
  | @cons p q ps qs hpq _ ih =>
    rw [List.flatMap_cons, List.flatMap_cons, ← List.append_assoc, ← List.append_assoc] at hwritten
    obtain ⟨hrest, hfront⟩ := ih hwritten
    obtain ⟨hc, hbefore⟩ := Contract.eq_of_same hpq.2.1 hpq.2.2 hfront
    exact ⟨by rw [Prod.ext hpq.1 hc, hrest], hbefore⟩

end Registry

namespace Artifact

variable {r r' : Registry}

/-- Registries that are the `same` serve the same methods, each with contracts that are the `same`. -/
theorem forall₂_served (hr : r.WellFormed) (h : Routes.same r.routes r'.routes = true) :
    List.Forall₂ (fun p q : Method × List (String × Contract) => p.1 = q.1 ∧
      List.Forall₂ Registry.SameContract p.2 q.2) (served r) (served r') := by
  refine List.rel_filter (fun p q hpq => ?_) (List.rel_map (fun m n hmn => ?_) (List.forall₂_same.mpr fun m _ => rfl))
  · have hempty : p.2.isEmpty = q.2.isEmpty := by
      rw [Bool.eq_iff_iff, List.isEmpty_iff_length_eq_zero, List.isEmpty_iff_length_eq_zero, hpq.2.length_eq]
    dsimp only
    rw [hempty]
  · obtain rfl : m = n := hmn
    exact ⟨rfl, Registry.forall₂_contractsFor hr h m⟩

/-- Registries that are the `same` have artifacts of the same `kinds`. -/
theorem kinds_ofRegistry (hr : r.WellFormed) (h : Routes.same r.routes r'.routes = true) :
    (ofRegistry r).modules.map MethodModule.kinds = (ofRegistry r').modules.map MethodModule.kinds := by
  rw [ofRegistry, ofRegistry, List.map_map, List.map_map, ← List.forall₂_eq_eq_eq]
  refine List.rel_map (fun p q hpq => ?_) (forall₂_served hr h)
  rw [Function.comp_apply, Function.comp_apply, MethodModule.kinds_ofContracts, MethodModule.kinds_ofContracts, hpq.1,
    Registry.kinds_eq hpq.2]

/-- The `wireNames` of `ofRegistry r` are those that the contracts of its methods have `written`. -/
theorem wireNames_ofRegistry (r : Registry) : (ofRegistry r).modules.flatMap MethodModule.wireNames =
    Method.all.flatMap fun m => (r.contractsFor m).flatMap fun p => p.2.written := by
  have hnames : ∀ ms : List Method, (((ms.map fun m => (m, r.contractsFor m)).filter
        fun p => !p.2.isEmpty).map fun p => MethodModule.ofContracts p.1 p.2).flatMap MethodModule.wireNames =
      ms.flatMap fun m => (r.contractsFor m).flatMap fun p => p.2.written := by
    intro ms
    induction ms with
    | nil => rfl
    | cons m ms ih =>
      rw [List.map_cons, List.filter_cons, List.flatMap_cons]
      dsimp only
      -- a method without contracts has no module, and no name to write
      cases hcs : r.contractsFor m with
      | nil => exact ih
      | cons p ps =>
        rw [List.isEmpty_cons, Bool.not_false, if_pos rfl, List.map_cons, List.flatMap_cons, ih,
          MethodModule.wireNames_ofContracts]
  exact hnames Method.all

/-- The items of `ofRegistry r` are `Readable` when it `isValid`. -/
theorem readable_ofRegistry (r : Registry) {given : String} {runtime : RuntimePath}
    (hruntime : RuntimePath.ofText? given = some runtime) (hvalid : (ofRegistry r).isValid runtime = true) :
    ∀ m ∈ (ofRegistry r).modules, ∀ i ∈ m.items, i.Readable runtime := by
  intro m hm
  rw [isValid, List.all_eq_true] at hvalid
  have hitems := hvalid m hm
  rw [List.all_eq_true] at hitems
  obtain ⟨p, -, rfl⟩ := List.mem_map.mp hm
  exact readable_of_isValid hruntime (MethodModule.closed_ofContracts p.1 p.2) hitems

/-- Registries that are the `same`, and whose contracts have the same names `written`, have equal `contractsFor`. -/
theorem contractsFor_eq (hr : r.WellFormed) (h : Routes.same r.routes r'.routes = true)
    (hwritten : (Method.all.flatMap fun m => (r.contractsFor m).flatMap fun p => p.2.written) =
      Method.all.flatMap fun m => (r'.contractsFor m).flatMap fun p => p.2.written) (m : Method) :
    r.contractsFor m = r'.contractsFor m := by
  -- the names are told apart from the back, so those in front of a method's own are carried along
  have hall : ∀ (ms : List Method) (before before' : List String),
      before ++ (ms.flatMap fun m => (r.contractsFor m).flatMap fun p => p.2.written) =
        before' ++ (ms.flatMap fun m => (r'.contractsFor m).flatMap fun p => p.2.written) →
      (∀ m ∈ ms, r.contractsFor m = r'.contractsFor m) ∧ before = before' := by
    intro ms
    induction ms with
    | nil => exact fun before before' h => ⟨fun _ hm => absurd hm List.not_mem_nil, by simpa using h⟩
    | cons m ms ih =>
      intro before before' hw
      rw [List.flatMap_cons, List.flatMap_cons, ← List.append_assoc, ← List.append_assoc] at hw
      obtain ⟨hrest, hw⟩ := ih _ _ hw
      obtain ⟨hm, hbefore⟩ := Registry.contracts_eq (Registry.forall₂_contractsFor hr h m) hw
      refine ⟨fun m' hm' => ?_, hbefore⟩
      rcases List.mem_cons.mp hm' with rfl | hm'
      · exact hm
      · exact hrest m' hm'
  exact (hall Method.all [] [] hwritten).1 m (Method.mem_all m)

end Artifact

namespace Registry

variable {r r' : Registry}

/-- **Registries that are the `same` have equal tables of contracts exactly when they have equal `contractsFor` for
every method.** -/
theorem methods_eq_iff_contractsFor (h : Routes.same r.routes r'.routes = true) :
    r.routes.map Route.methods = r'.routes.map Route.methods ↔ ∀ m, r.contractsFor m = r'.contractsFor m :=
  ⟨Routes.contractsFor_of_methods_eq (Routes.same_iff_forall₂.mp h),
    Routes.methods_eq_of_contractsFor (Routes.same_iff_forall₂.mp h)⟩

/-- Registries that are the `same` have the same patterns, so both are `Commented`. -/
theorem Commented.of_same (hr : r.WellFormed) (h : Routes.same r.routes r'.routes = true)
    (hcommented : r.Commented) : r'.Commented := by
  intro m
  have hcontracts := hcommented m
  have hall := forall₂_contractsFor hr h m
  generalize r.contractsFor m = cs at hcontracts hall
  generalize r'.contractsFor m = cs' at hall ⊢
  induction hall with
  | nil => exact fun q hq => absurd hq List.not_mem_nil
  | cons hpq _ ih =>
    obtain ⟨hp, hrest⟩ := List.forall_mem_cons.mp hcontracts
    exact List.forall_mem_cons.mpr ⟨hpq.1 ▸ hp, ih hrest⟩

/-- Registries with equal tables of contracts have one `artifactText?`. -/
theorem artifactText?_of_methods (h : Routes.same r.routes r'.routes = true)
    (hmethods : r.routes.map Route.methods = r'.routes.map Route.methods) (runtime : String) :
    r'.artifactText? runtime = r.artifactText? runtime := by
  have hcontracts := (methods_eq_iff_contractsFor h).mp hmethods
  have hserved : Artifact.served r = Artifact.served r' := by
    rw [Artifact.served, Artifact.served]
    exact congrArg (List.filter _) (List.map_congr_left fun m _ => by rw [hcontracts m])
  rw [artifactText?, artifactText?, Artifact.ofRegistry, Artifact.ofRegistry, hserved]

/-- **Registries that are the `same` and have one `artifactText?` have equal tables of contracts**, the order of fields
included, or neither has a text. -/
theorem methods_of_artifactText? (hr : r.WellFormed) (h : Routes.same r.routes r'.routes = true)
    (hcommented : r.Commented) {runtime : String} (htext : r'.artifactText? runtime = r.artifactText? runtime) :
    r.routes.map Route.methods = r'.routes.map Route.methods ∨
      (r.artifactText? runtime = none ∧ r'.artifactText? runtime = none) := by
  cases ht : r.artifactText? runtime with
  | none => exact .inr ⟨rfl, htext.trans ht⟩
  | some text =>
    obtain ⟨path, ps, hpath, hps, hshown⟩ := Artifact.text?_eq_some_iff.mp ht
    obtain ⟨path', qs, hpath', hqs, hshown'⟩ := Artifact.text?_eq_some_iff.mp (htext.trans ht)
    obtain rfl := Option.some.inj (hpath.symm.trans hpath')
    obtain ⟨hps, hvalid⟩ := hcommented.layout?_ofRegistry.mp hps
    obtain ⟨hqs, hvalid'⟩ := (hcommented.of_same hr h).layout?_ofRegistry.mp hqs
    -- the pieces follow one and the same front
    have hrender : Layout.render ps = Layout.render qs :=
      (String.append_right_inj _).mp (hshown.symm.trans hshown')
    have hnames := Artifact.wireNames_eq_of_render (Artifact.kinds_ofRegistry hr h)
      (Artifact.readable_ofRegistry r hpath hvalid) (Artifact.readable_ofRegistry r' hpath hvalid') hps hqs hrender
    rw [Artifact.wireNames_ofRegistry, Artifact.wireNames_ofRegistry] at hnames
    exact .inl ((methods_eq_iff_contractsFor h).mpr (Artifact.contractsFor_eq hr h hnames))

/-! ## Changes without effect -/

/-- The registry in which the route of a pattern is that of an analysis. -/
def put (r : Registry) (pattern : String) (a : Analysis) : Registry :=
  r.advance (Routes.insert (Route.ofAnalysis pattern a) r.routes)

/-- What a `merge` without effect finds: a route that is the `same`. -/
theorem exists_of_merge_unchanged {pattern : String} {a : Analysis} (h : (r.merge pattern a).1 = false) :
    ∃ old, r.get? pattern = some old ∧ old.same (Route.ofAnalysis pattern a) = true ∧
      (r.merge pattern a).2 = r := by
  unfold merge at h ⊢
  dsimp only at h ⊢
  split at h
  · next old hold =>
    split at h
    · next hsame =>
      exact ⟨old, hold, hsame, by rw [if_pos hsame]⟩
    · exact nomatch h
  · exact nomatch h

/-- `r.put pattern a` is the `same` as `r` where the old route is the `same` as that of `a`. -/
theorem same_put (hr : r.WellFormed) {pattern : String} {a : Analysis} {old : Route}
    (hold : r.get? pattern = some old) (hsame : old.same (Route.ofAnalysis pattern a) = true) :
    Routes.same r.routes (r.put pattern a).routes = true := by
  refine (hr.ascending.same_iff (hr.ascending.insert _)).mpr fun other => ?_
  rw [Routes.get?_insert]
  split
  · next h =>
    have hother : Routes.get? other r.routes = some old := h ▸ hold
    rw [hother]
    exact .some hsame
  · cases h : Routes.get? other r.routes with
    | none => exact .none
    | some route => exact .some (Route.same_self (hr.distinct route (Routes.mem_of_get? h)))

/-- `r.put pattern a` has the tables of contracts of `r` exactly if `old.methods = a.methods`. -/
theorem methods_put (hr : r.WellFormed) {pattern : String} {a : Analysis} {old : Route}
    (hold : r.get? pattern = some old) :
    r.routes.map Route.methods = (r.put pattern a).routes.map Route.methods ↔ old.methods = a.methods :=
  hr.ascending.map_methods_insert (Route.ofAnalysis pattern a) hold

/-- **When a change without effect leaves the artifact up to date.** A `merge` that answers `false` leaves the
`artifactText?` of `r.put pattern a` if `old.methods = a.methods` for the route in the registry, the order of fields
included. The same holds for a `replaceAll` that answers `false` and the text of a fresh registry. Where `r.Commented`,
the text is the same in no other case, unless neither can be written. -/
theorem artifactText?_of_unchanged (hr : r.WellFormed) (runtime : String) :
    (∀ (pattern : String) (a : Analysis), (r.merge pattern a).1 = false →
      ((∃ old, r.get? pattern = some old ∧ old.methods = a.methods) →
        (r.put pattern a).artifactText? runtime = (r.merge pattern a).2.artifactText? runtime) ∧
      (r.Commented → (r.put pattern a).artifactText? runtime = (r.merge pattern a).2.artifactText? runtime →
        (∃ old, r.get? pattern = some old ∧ old.methods = a.methods) ∨
          ((r.merge pattern a).2.artifactText? runtime = none ∧
            (r.put pattern a).artifactText? runtime = none))) ∧
    ∀ results : List Analysis, (∀ a ∈ results, Contracts.Distinct a.methods) →
      (r.replaceAll results).1 = false →
      (r.routes.map Route.methods = (routesOf results).map Route.methods →
        (Registry.empty.replaceAll results).2.artifactText? runtime =
          (r.replaceAll results).2.artifactText? runtime) ∧
      (r.Commented → (Registry.empty.replaceAll results).2.artifactText? runtime =
          (r.replaceAll results).2.artifactText? runtime →
        r.routes.map Route.methods = (routesOf results).map Route.methods ∨
          ((r.replaceAll results).2.artifactText? runtime = none ∧
            (Registry.empty.replaceAll results).2.artifactText? runtime = none)) := by
  constructor
  · intro pattern a hmerge
    -- the old contracts stay, and are alike to the given ones, which the other registry has
    obtain ⟨old, hold, hsame, hkept⟩ := exists_of_merge_unchanged hmerge
    have hput := same_put hr hold hsame
    rw [hkept]
    constructor
    · rintro ⟨old', hold', hmethods⟩
      obtain rfl := Option.some.inj (hold.symm.trans hold')
      exact artifactText?_of_methods hput ((methods_put hr hold).mpr hmethods) runtime
    · intro hcommented htext
      refine (methods_of_artifactText? hr hput hcommented htext).imp_left fun hmethods => ?_
      exact ⟨old, hold, (methods_put hr hold).mp hmethods⟩
  · intro results hresults hreplace
    have hroutes := routes_replaceAll_empty results
    unfold replaceAll at hreplace
    dsimp only at hreplace
    split at hreplace
    · next hsame =>
      have hkept : (r.replaceAll results).2 = r := by
        unfold replaceAll
        dsimp only
        rw [if_pos hsame]
      rw [← hroutes] at hsame
      have hfresh := Routes.same_symm (WellFormed.empty.replaceAll hresults).distinct hsame
      rw [hkept, ← hroutes]
      exact ⟨fun hmethods => artifactText?_of_methods hfresh hmethods runtime,
        fun hcommented htext => methods_of_artifactText? hr hfresh hcommented htext⟩
    · exact nomatch hreplace

/-! ### Two fields in either order -/

/-- The analysis of an endpoint that posts an object of two texts, in a given order. -/
def postsAnalysis (first second : String) : Analysis :=
  ⟨"/posts", ⟨"/posts"⟩, PerMethod.ofList
    [(.post, ⟨some (.object [(first, .primitive .string), (second, .primitive .string)] []), none, none⟩)]⟩

/-- A registry that has that endpoint, with the field `a` before the field `b`. -/
def posts : Registry := (empty.merge "/posts" (postsAnalysis "a" "b")).2

theorem distinct_postsAnalysis {first second : String} (h : first ≠ second) :
    Contracts.Distinct (postsAnalysis first second).methods := by
  have hnames : [first, second].Nodup := by simp [h]
  have hbody : Descriptor.Distinct
      (.object [(first, .primitive .string), (second, .primitive .string)] []) := by
    refine .object _ hnames fun f hf => ?_
    rcases List.mem_pair.mp hf with rfl | rfl <;> exact .primitive _
  intro m c hc
  by_cases hm : m = .post
  · subst hm
    obtain rfl := Option.some.inj hc
    exact ⟨fun d hd => Option.some.inj hd ▸ hbody, (fun _ hd => nomatch hd), (fun _ hd => nomatch hd)⟩
  · have hnone : (postsAnalysis first second).methods.get? m = none := if_neg hm
    exact nomatch hnone.symm.trans hc

theorem wellFormed_posts : posts.WellFormed :=
  WellFormed.empty.merge "/posts" (distinct_postsAnalysis (by decide))

/-- Neither `merge` of the same analysis nor `replaceAll` leaves the artifact stale. -/
theorem artifactText?_of_unchanged_posts :
    (posts.merge "/posts" (postsAnalysis "a" "b")).1 = false ∧
      (posts.replaceAll [postsAnalysis "a" "b"]).1 = false ∧
      (posts.put "/posts" (postsAnalysis "a" "b")).artifactText? "crate::contracts" =
        (posts.merge "/posts" (postsAnalysis "a" "b")).2.artifactText? "crate::contracts" ∧
      (empty.replaceAll [postsAnalysis "a" "b"]).2.artifactText? "crate::contracts" =
        (posts.replaceAll [postsAnalysis "a" "b"]).2.artifactText? "crate::contracts" := by
  have hmerge : (posts.merge "/posts" (postsAnalysis "a" "b")).1 = false := by decide +kernel
  have hreplace : (posts.replaceAll [postsAnalysis "a" "b"]).1 = false := by decide +kernel
  have hresults : ∀ a ∈ [postsAnalysis "a" "b"], Contracts.Distinct a.methods := by
    intro a ha
    rw [List.mem_singleton.mp ha]
    exact distinct_postsAnalysis (by decide)
  obtain ⟨merged, replaced⟩ := artifactText?_of_unchanged wellFormed_posts "crate::contracts"
  exact ⟨hmerge, hreplace, (merged _ _ hmerge).1 ⟨_, rfl, rfl⟩, (replaced _ hresults hreplace).1 rfl⟩

theorem commented_posts : posts.Commented := by
  refine .of_oneLine fun route hroute => ?_
  obtain rfl := List.mem_singleton.mp hroute
  exact ⟨by decide, by decide⟩

theorem artifactText?_posts_ne_none : posts.artifactText? "crate::contracts" ≠ none := by
  have h : (posts.artifactText? "crate::contracts").isSome = true := by decide +kernel
  exact Option.isSome_iff_ne_none.mp h

theorem methods_posts_ne : (postsAnalysis "a" "b").methods ≠ (postsAnalysis "b" "a").methods := by
  intro h
  have hpost := congrArg (PerMethod.get? · .post) h
  simp [postsAnalysis, PerMethod.get?, PerMethod.ofList, PerMethod.insert] at hpost

/-- **A change without effect can leave the artifact stale**: of two texts in the other order, neither `merge` nor
`replaceAll` takes notice, but the artifact would have them in the other order. -/
theorem stale_of_reordered_fields :
    (posts.merge "/posts" (postsAnalysis "b" "a")).1 = false ∧
      (posts.replaceAll [postsAnalysis "b" "a"]).1 = false ∧
      (posts.put "/posts" (postsAnalysis "b" "a")).artifactText? "crate::contracts" ≠
        (posts.merge "/posts" (postsAnalysis "b" "a")).2.artifactText? "crate::contracts" ∧
      (empty.replaceAll [postsAnalysis "b" "a"]).2.artifactText? "crate::contracts" ≠
        (posts.replaceAll [postsAnalysis "b" "a"]).2.artifactText? "crate::contracts" := by
  have hne : posts.artifactText? "crate::contracts" ≠
      (posts.put "/posts" (postsAnalysis "b" "a")).artifactText? "crate::contracts" := by
    intro h
    have hsame : Routes.same posts.routes (posts.put "/posts" (postsAnalysis "b" "a")).routes = true := by
      decide +kernel
    rcases methods_of_artifactText? wellFormed_posts hsame commented_posts h.symm with hmethods | ⟨hnone, -⟩
    · exact methods_posts_ne (List.cons.inj hmethods).1
    · exact artifactText?_posts_ne_none hnone
  exact ⟨by decide +kernel, by decide +kernel, hne.symm, hne.symm⟩

end Registry

end RouteContracts
