import Mathlib.Data.List.Forall2
import Mathlib.Data.String.Basic
import RouteContracts.Proofs.Descriptor.Equality
import RouteContracts.Registry

/-! # Registries in order
A registry holds its routes in ascending order, each pattern once, and the objects in their contracts name
every field once. Its operations keep that. On such registries equality is decided pattern by pattern.

* `Contract.Distinct`, `Contract.same_self`, `Contract.same_symm`, `Contract.same_trans`: equality of contracts.
* `Routes.Ascending`, `Routes.get?_insert`, `Routes.Ascending.get?_filter`: order and look-up.
* `Routes.Ascending.same_iff`: **equality is decided by look-up.**
* `Registry.WellFormed`: the invariant, kept by every operation.
* `Registry.same_replaceAll`, `Registry.get?_merge_of_ne`, `Registry.get?_removeSource`: what the operations do to
  the routes. -/

namespace RouteContracts

/-! ## Contracts -/

/-- `PerMethod.same` compares the values of each method. -/
theorem PerMethod.same_iff {α : Type} {eq : α → α → Bool} {a b : PerMethod α} :
    a.same eq b = true ↔ ∀ m, Option.Rel (fun x y => eq x y = true) (a.get? m) (b.get? m) := by
  rw [PerMethod.same, List.all_eq_true]
  refine forall_congr' fun m => ?_
  rw [forall_prop_of_true (Method.mem_all m), PerMethod.get?, PerMethod.get?]
  cases a.entry m <;> cases b.entry m
  · exact iff_of_true rfl .none
  · exact iff_of_false Bool.false_ne_true Option.not_rel_none_some
  · exact iff_of_false Bool.false_ne_true Option.not_rel_some_none
  · exact Option.rel_some_some (r := fun x y => eq x y = true) |>.symm

/-- `Option.Rel R` is transitive where `R` is. -/
theorem option_rel_trans {α : Type} {R : α → α → Prop} {a b c : Option α}
    (h : ∀ x ∈ a, ∀ y z, R x y → R y z → R x z) (hab : Option.Rel R a b) (hbc : Option.Rel R b c) :
    Option.Rel R a c := by
  cases hab with
  | none => exact hbc
  | some hxy =>
    cases hbc with
    | some hyz => exact .some (h _ rfl _ _ hxy hyz)

/-- `Option.Rel R` is symmetric where `R` is. -/
theorem option_rel_symm {α : Type} {R : α → α → Prop} {a b : Option α} (h : ∀ x ∈ a, ∀ y, R x y → R y x)
    (hab : Option.Rel R a b) : Option.Rel R b a := by
  cases hab with
  | none => exact .none
  | some hxy => exact .some (h _ rfl _ hxy)

theorem exists_of_option_rel_some {α β : Type} {R : α → β → Prop} {a : α} {y : Option β}
    (h : Option.Rel R (some a) y) : ∃ b, y = some b ∧ R a b := by
  cases h with
  | some h => exact ⟨_, rfl, h⟩

theorem exists_of_some_option_rel {α β : Type} {R : α → β → Prop} {x : Option α} {b : β}
    (h : Option.Rel R x (some b)) : ∃ a, x = some a ∧ R a b := by
  cases h with
  | some h => exact ⟨_, rfl, h⟩

namespace Contract

/-- A contract whose objects name every field once. -/
structure Distinct (c : Contract) : Prop where
  body : ∀ d ∈ c.body, d.Distinct
  routeParams : ∀ d ∈ c.routeParams, d.Distinct
  searchParams : ∀ d ∈ c.searchParams, d.Distinct

theorem samePiece_iff {a b : Option Descriptor} :
    samePiece a b = true ↔ Option.Rel (fun x y : Descriptor => x.same y = true) a b := by
  cases a <;> cases b
  · exact iff_of_true rfl .none
  · exact iff_of_false Bool.false_ne_true Option.not_rel_none_some
  · exact iff_of_false Bool.false_ne_true Option.not_rel_some_none
  · exact Option.rel_some_some (r := fun x y : Descriptor => x.same y = true) |>.symm

theorem same_iff {c c' : Contract} : c.same c' = true ↔ samePiece c.body c'.body = true ∧
    samePiece c.routeParams c'.routeParams = true ∧ samePiece c.searchParams c'.searchParams = true := by
  rw [same, Bool.and_eq_true, Bool.and_eq_true, and_assoc]

theorem samePiece_self {piece : Option Descriptor} (h : ∀ d ∈ piece, d.Distinct) :
    samePiece piece piece = true := by
  cases piece with
  | none => rfl
  | some d => exact Descriptor.same_self (h d rfl)

theorem samePiece_symm {a b : Option Descriptor} (ha : ∀ d ∈ a, d.Distinct) (h : samePiece a b = true) :
    samePiece b a = true := by
  rw [samePiece_iff] at h ⊢
  exact option_rel_symm (fun d hd _ => Descriptor.same_symm (ha d hd)) h

/-- **`same` is reflexive** on contracts that are `Distinct`. -/
theorem same_self {c : Contract} (h : c.Distinct) : c.same c = true :=
  same_iff.mpr ⟨samePiece_self h.body, samePiece_self h.routeParams, samePiece_self h.searchParams⟩

/-- **`same` is symmetric** on contracts. -/
theorem same_symm {c c' : Contract} (hc : c.Distinct) (h : c.same c' = true) : c'.same c = true := by
  obtain ⟨hbody, hroute, hsearch⟩ := same_iff.mp h
  exact same_iff.mpr ⟨samePiece_symm hc.body hbody, samePiece_symm hc.routeParams hroute,
    samePiece_symm hc.searchParams hsearch⟩

theorem samePiece_trans {a b c : Option Descriptor} (ha : ∀ d ∈ a, d.Distinct) (hab : samePiece a b = true)
    (hbc : samePiece b c = true) : samePiece a c = true := by
  rw [samePiece_iff] at hab hbc ⊢
  exact option_rel_trans (fun d hd _ _ => Descriptor.same_trans (ha d hd)) hab hbc

/-- **`same` is transitive** on contracts. -/
theorem same_trans {a b c : Contract} (ha : a.Distinct) (hab : a.same b = true) (hbc : b.same c = true) :
    a.same c = true := by
  obtain ⟨hbody, hroute, hsearch⟩ := same_iff.mp hab
  obtain ⟨hbody', hroute', hsearch'⟩ := same_iff.mp hbc
  exact same_iff.mpr ⟨samePiece_trans ha.body hbody hbody', samePiece_trans ha.routeParams hroute hroute',
    samePiece_trans ha.searchParams hsearch hsearch'⟩

end Contract

/-- Contracts whose objects name every field once. -/
def Contracts.Distinct (cs : Contracts) : Prop := ∀ m c, cs.get? m = some c → c.Distinct

namespace Route

/-- `same` of routes compares pattern, source and the contract of each method. -/
theorem same_iff {a b : Route} : a.same b = true ↔ a.pattern = b.pattern ∧ a.source.same b.source = true ∧
    ∀ m, Option.Rel (fun x y : Contract => x.same y = true) (a.methods.get? m) (b.methods.get? m) := by
  rw [same, Bool.and_eq_true, Bool.and_eq_true, beq_iff_eq, and_assoc, PerMethod.same_iff]

/-- **`same` is reflexive** on routes. -/
theorem same_self {a : Route} (ha : Contracts.Distinct a.methods) : a.same a = true := by
  refine same_iff.mpr ⟨rfl, beq_self_eq_true _, fun m => ?_⟩
  cases h : a.methods.get? m with
  | none => exact .none
  | some c => exact .some (Contract.same_self (ha m c h))

/-- **`same` is symmetric** on routes. -/
theorem same_symm {a b : Route} (ha : Contracts.Distinct a.methods) (h : a.same b = true) :
    b.same a = true := by
  obtain ⟨hpattern, hsource, hmethods⟩ := same_iff.mp h
  refine same_iff.mpr ⟨hpattern.symm, ?_, fun m => ?_⟩
  · rw [Path.same, beq_iff_eq] at hsource ⊢
    exact hsource.symm
  · exact option_rel_symm (fun c hc _ => Contract.same_symm (ha m c hc)) (hmethods m)

/-- **`same` is transitive** on routes. -/
theorem same_trans {a b c : Route} (ha : Contracts.Distinct a.methods) (hab : a.same b = true)
    (hbc : b.same c = true) : a.same c = true := by
  obtain ⟨hpattern, hsource, hmethods⟩ := same_iff.mp hab
  obtain ⟨hpattern', hsource', hmethods'⟩ := same_iff.mp hbc
  refine same_iff.mpr ⟨hpattern.trans hpattern', ?_, fun m => ?_⟩
  · rw [Path.same, beq_iff_eq] at hsource hsource' ⊢
    exact hsource.trans hsource'
  · exact option_rel_trans (fun x hx _ _ => Contract.same_trans (ha m x hx)) (hmethods m) (hmethods' m)

end Route

namespace Routes

/-! ## Order and look-up -/

/-- Routes in ascending order, each pattern once. -/
def Ascending (routes : Routes) : Prop := routes.Pairwise fun a b => a.pattern < b.pattern

theorem get?_cons (pattern : String) (r : Route) (rest : Routes) :
    get? pattern (r :: rest) = if r.pattern = pattern then some r else get? pattern rest := by
  rw [get?, List.find?_cons]
  split
  · next h => rw [if_pos (beq_iff_eq.mp h)]
  · next h => rw [if_neg (by simpa using h)]; rfl

theorem mem_of_get? {pattern : String} {routes : Routes} {r : Route} (h : get? pattern routes = some r) :
    r ∈ routes := List.mem_of_find?_eq_some h

theorem pattern_of_get? {pattern : String} {routes : Routes} {r : Route} (h : get? pattern routes = some r) :
    r.pattern = pattern := by
  have := List.find?_some h
  exact beq_iff_eq.mp this

/-- `get?` finds nothing under a pattern that no route has. -/
theorem get?_eq_none {pattern : String} {routes : Routes} (h : ∀ r ∈ routes, r.pattern ≠ pattern) :
    get? pattern routes = none := by
  rw [get?, List.find?_eq_none]
  exact fun r hr hp => h r hr (beq_iff_eq.mp hp)

/-- `get?` finds every route of an `Ascending` list. -/
theorem Ascending.get?_of_mem {routes : Routes} (h : Ascending routes) {r : Route} (hr : r ∈ routes) :
    get? r.pattern routes = some r := by
  induction routes with
  | nil => exact absurd hr List.not_mem_nil
  | cons r' rest ih =>
    obtain ⟨hhead, hrest⟩ := List.pairwise_cons.mp h
    rw [get?_cons]
    rcases List.mem_cons.mp hr with rfl | hr
    · rw [if_pos rfl]
    · rw [if_neg (ne_of_lt (hhead r hr)), ih hrest hr]

theorem mem_insert {route r : Route} {routes : Routes} (h : r ∈ insert route routes) :
    r = route ∨ r ∈ routes := by
  induction routes with
  | nil => exact .inl (List.mem_singleton.mp h)
  | cons r' rest ih =>
    rw [insert] at h
    split at h
    · exact List.mem_cons.mp h
    · split at h
      · rcases List.mem_cons.mp h with h | h
        · exact .inl h
        · exact .inr (List.mem_cons_of_mem _ h)
      · rcases List.mem_cons.mp h with h | h
        · exact .inr (h ▸ List.mem_cons_self ..)
        · rcases ih h with h | h
          · exact .inl h
          · exact .inr (List.mem_cons_of_mem _ h)

/-- `insert` keeps `Ascending`. -/
theorem Ascending.insert {routes : Routes} (h : Ascending routes) (route : Route) :
    Ascending (insert route routes) := by
  induction routes with
  | nil => exact List.pairwise_singleton ..
  | cons r rest ih =>
    obtain ⟨hhead, hrest⟩ := List.pairwise_cons.mp h
    rw [Routes.insert]
    split
    · next hlt =>
      refine List.pairwise_cons.mpr ⟨fun r' hr' => ?_, h⟩
      rcases List.mem_cons.mp hr' with rfl | hr'
      · exact hlt
      · exact lt_trans hlt (hhead r' hr')
    · next hnlt =>
      split
      · next heq => exact List.pairwise_cons.mpr ⟨fun r' hr' => heq ▸ hhead r' hr', hrest⟩
      · next hne =>
        refine List.pairwise_cons.mpr ⟨fun r' hr' => ?_, ih hrest⟩
        rcases mem_insert hr' with rfl | hr'
        · exact lt_of_le_of_ne (not_lt.mp hnlt) (Ne.symm hne)
        · exact hhead r' hr'

/-- **`get?` after `insert`** finds the route under its pattern, and all else as before. -/
theorem get?_insert (route : Route) (routes : Routes) (pattern : String) :
    get? pattern (insert route routes) =
      if route.pattern = pattern then some route else get? pattern routes := by
  induction routes with
  | nil => rw [insert, get?_cons]
  | cons r rest ih =>
    rw [insert]
    split
    · rw [get?_cons]
    · split
      · next heq =>
        rw [get?_cons, get?_cons, ← heq]
        split <;> rfl
      · next hne =>
        rw [get?_cons, ih, get?_cons]
        by_cases hp : r.pattern = pattern
        · rw [if_pos hp, if_neg (fun h => hne (h.trans hp.symm)), if_pos hp]
        · rw [if_neg hp, if_neg hp]

/-- `get?` after `filter` is `filter` after `get?`, where `Ascending`. -/
theorem Ascending.get?_filter {routes : Routes} (h : Ascending routes) (keep : Route → Bool)
    (pattern : String) : get? pattern (routes.filter keep) = (get? pattern routes).filter keep := by
  induction routes with
  | nil => rfl
  | cons r rest ih =>
    obtain ⟨hhead, hrest⟩ := List.pairwise_cons.mp h
    rw [List.filter_cons, get?_cons]
    by_cases hp : r.pattern = pattern
    · -- the order is strict, so no route further back has the pattern
      have hnone : get? pattern (rest.filter keep) = none :=
        get?_eq_none fun r' hr' => ne_of_gt (hp ▸ hhead r' (List.mem_of_mem_filter hr'))
      rw [if_pos hp]
      split
      · next hk => rw [get?_cons, if_pos hp, Option.filter_some, if_pos hk]
      · next hk => rw [hnone, Option.filter_some, if_neg hk]
    · rw [if_neg hp]
      split
      · rw [get?_cons, if_neg hp, ih hrest]
      · rw [ih hrest]

/-! ## Equality -/

theorem same_iff_forall₂ {as bs : Routes} :
    same as bs = true ↔ List.Forall₂ (fun a b : Route => a.same b = true) as bs := by
  induction as generalizing bs with
  | nil => cases bs <;> simp [same]
  | cons a as ih => cases bs <;> simp [same, ih]

/-- `same` is reflexive on lists of routes. -/
theorem same_self {as : Routes} (h : ∀ r ∈ as, Contracts.Distinct r.methods) : same as as = true :=
  same_iff_forall₂.mpr (List.forall₂_same.mpr fun r hr => Route.same_self (h r hr))

theorem same_symm {as bs : Routes} (h : ∀ r ∈ as, Contracts.Distinct r.methods) (hab : same as bs = true) :
    same bs as = true := by
  rw [same_iff_forall₂] at hab ⊢
  induction hab with
  | nil => exact .nil
  | cons hr _ ih =>
    obtain ⟨hhead, hrest⟩ := List.forall_mem_cons.mp h
    exact .cons (Route.same_symm hhead hr) (ih hrest)

theorem same_trans {as bs cs : Routes} (h : ∀ r ∈ as, Contracts.Distinct r.methods) (hab : same as bs = true)
    (hbc : same bs cs = true) : same as cs = true := by
  rw [same_iff_forall₂] at hab hbc ⊢
  induction hab generalizing cs with
  | nil => exact hbc
  | cons hr _ ih =>
    obtain ⟨hhead, hrest⟩ := List.forall_mem_cons.mp h
    cases hbc with
    | cons hr' hrest' => exact .cons (Route.same_trans hhead hr hr') (ih hrest hrest')

/-- `same` lists of routes are equally long. -/
theorem length_eq_of_same {as bs : Routes} (h : same as bs = true) : as.length = bs.length :=
  (same_iff_forall₂.mp h).length_eq

/-- `get?` in lists that are the `same` finds routes that are. -/
theorem rel_get?_of_same {as bs : Routes} (h : Routes.same as bs = true) (pattern : String) :
    Option.Rel (fun a b : Route => a.same b = true) (get? pattern as) (get? pattern bs) := by
  rw [same_iff_forall₂] at h
  induction h with
  | nil => exact .none
  | cons hab _ ih =>
    rw [get?_cons, get?_cons, (Route.same_iff.mp hab).1]
    split
    · exact .some hab
    · exact ih

/-- `Ascending` lists with the same `get?` begin with the same pattern. -/
theorem Ascending.pattern_eq {a b : Route} {as bs : Routes} (ha : Ascending (a :: as)) (hb : Ascending (b :: bs))
    (h : ∀ pattern, Option.Rel (fun a b : Route => a.same b = true) (get? pattern (a :: as))
      (get? pattern (b :: bs))) : a.pattern = b.pattern := by
  by_contra hne
  have hpa := h a.pattern
  have hpb := h b.pattern
  rw [get?_cons, if_pos rfl, get?_cons, if_neg (Ne.symm hne)] at hpa
  rw [get?_cons, if_neg hne, get?_cons, if_pos rfl] at hpb
  -- the least pattern of each side is there on the other side, further back
  obtain ⟨b', hb', -⟩ := exists_of_option_rel_some hpa
  obtain ⟨a', ha', -⟩ := exists_of_some_option_rel hpb
  have hba := (List.pairwise_cons.mp hb).1 b' (mem_of_get? hb')
  have hab := (List.pairwise_cons.mp ha).1 a' (mem_of_get? ha')
  rw [pattern_of_get? hb'] at hba
  rw [pattern_of_get? ha'] at hab
  exact lt_asymm hab hba

/-- `Ascending` lists with the same `get?` are the `same`. -/
theorem Ascending.same_of_rel_get? {as bs : Routes} (ha : Ascending as) (hb : Ascending bs)
    (h : ∀ pattern, Option.Rel (fun a b : Route => a.same b = true) (get? pattern as) (get? pattern bs)) :
    same as bs = true := by
  induction as generalizing bs with
  | nil =>
    cases bs with
    | nil => rfl
    | cons b bs =>
      have hp := h b.pattern
      rw [get?_cons, if_pos rfl] at hp
      exact nomatch hp
  | cons a as ih =>
    cases bs with
    | nil =>
      have hp := h a.pattern
      rw [get?_cons, if_pos rfl] at hp
      exact nomatch hp
    | cons b bs =>
      have hpattern := ha.pattern_eq hb h
      obtain ⟨hheada, hresta⟩ := List.pairwise_cons.mp ha
      obtain ⟨hheadb, hrestb⟩ := List.pairwise_cons.mp hb
      have hpa := h a.pattern
      rw [get?_cons, if_pos rfl, get?_cons, if_pos hpattern.symm] at hpa
      rw [same, Bool.and_eq_true]
      refine ⟨by cases hpa with | some hab => exact hab, ih hresta hrestb fun pattern => ?_⟩
      -- the pattern of the first routes is not found again, every other one is found behind them
      by_cases hp : a.pattern = pattern
      · rw [← hp, get?_eq_none fun r hr => ne_of_gt (hheada r hr), hpattern,
          get?_eq_none fun r hr => ne_of_gt (hheadb r hr)]
        exact .none
      · have hrest := h pattern
        rwa [get?_cons, if_neg hp, get?_cons, if_neg (hpattern ▸ hp)] at hrest

/-- **`same` of `Ascending` lists is decided by `get?`.** -/
theorem Ascending.same_iff {as bs : Routes} (ha : Ascending as) (hb : Ascending bs) :
    same as bs = true ↔
      ∀ pattern, Option.Rel (fun a b : Route => a.same b = true) (get? pattern as) (get? pattern bs) :=
  ⟨rel_get?_of_same, ha.same_of_rel_get? hb⟩

end Routes

/-! ## The invariant -/

/-- `routesOf results` is `Ascending`. -/
theorem Registry.ascending_routesOf (results : List Analysis) : Routes.Ascending (routesOf results) := by
  have h : ∀ start : Routes, start.Ascending → Routes.Ascending
      (results.foldl (fun routes a => Routes.insert (Route.ofAnalysis a.routeId a) routes) start) := by
    induction results with
    | nil => exact fun _ h => h
    | cons a rest ih => exact fun start h => ih _ (h.insert _)
  exact h [] List.Pairwise.nil

/-- Every route of `routesOf results` is `Route.ofAnalysis` of one of `results`. -/
theorem Registry.exists_of_mem_routesOf {results : List Analysis} {r : Route} (hr : r ∈ routesOf results) :
    ∃ a ∈ results, r = Route.ofAnalysis a.routeId a := by
  have h : ∀ start : Routes, r ∈ results.foldl
      (fun routes a => Routes.insert (Route.ofAnalysis a.routeId a) routes) start →
      r ∈ start ∨ ∃ a ∈ results, r = Route.ofAnalysis a.routeId a := by
    clear hr
    induction results with
    | nil => exact fun _ h => .inl h
    | cons a rest ih =>
      intro start h
      rcases ih _ h with h | ⟨a', ha', rfl⟩
      · rcases Routes.mem_insert h with rfl | h
        · exact .inr ⟨a, List.mem_cons_self .., rfl⟩
        · exact .inl h
      · exact .inr ⟨a', List.mem_cons_of_mem _ ha', rfl⟩
  rcases h [] hr with h | h
  · exact absurd h List.not_mem_nil
  · exact h

namespace Registry

/-- **A well-formed registry**: routes in ascending order, objects that name every field once. -/
structure WellFormed (r : Registry) : Prop where
  ascending : r.routes.Ascending
  distinct : ∀ route ∈ r.routes, Contracts.Distinct route.methods

namespace WellFormed

variable {r : Registry}

theorem empty : WellFormed Registry.empty :=
  ⟨List.Pairwise.nil, fun _ h => absurd h List.not_mem_nil⟩

/-- `advance` with an `insert` keeps `WellFormed`. -/
theorem advance_insert (h : r.WellFormed) {route : Route} (hroute : Contracts.Distinct route.methods) :
    (r.advance (Routes.insert route r.routes)).WellFormed := by
  refine ⟨h.ascending.insert route, fun route' hr => ?_⟩
  rcases Routes.mem_insert hr with rfl | hr
  · exact hroute
  · exact h.distinct route' hr

/-- **`merge` keeps `WellFormed`.** -/
theorem merge (h : r.WellFormed) (pattern : String) {a : Analysis} (ha : Contracts.Distinct a.methods) :
    (r.merge pattern a).2.WellFormed := by
  unfold Registry.merge
  dsimp only
  split
  · split
    · exact h
    · exact h.advance_insert ha
  · exact h.advance_insert ha

/-- **`replaceAll` keeps `WellFormed`.** -/
theorem replaceAll (h : r.WellFormed) {results : List Analysis}
    (hresults : ∀ a ∈ results, Contracts.Distinct a.methods) : (r.replaceAll results).2.WellFormed := by
  unfold Registry.replaceAll
  dsimp only
  split
  · exact h
  · refine ⟨ascending_routesOf results, fun route hr => ?_⟩
    obtain ⟨a, ha, rfl⟩ := exists_of_mem_routesOf hr
    exact hresults a ha

/-- **`removeSource` keeps `WellFormed`.** -/
theorem removeSource (h : r.WellFormed) (source : Path) : (r.removeSource source).2.WellFormed := by
  unfold Registry.removeSource
  dsimp only
  split
  · exact h
  · exact ⟨h.ascending.filter _, fun route hr => h.distinct route (List.mem_of_mem_filter hr)⟩

end WellFormed

/-! ## What operations change -/

/-- `replaceAll results` of an empty registry has the routes `routesOf results`. -/
theorem routes_replaceAll_empty (results : List Analysis) :
    (Registry.empty.replaceAll results).2.routes = routesOf results := by
  unfold replaceAll
  dsimp only
  split
  · next h =>
    cases hroutes : routesOf results with
    | nil => rfl
    | cons => rw [hroutes] at h; exact nomatch h
  · rfl

/-- `replaceAll results` leaves routes that are the `same` as `routesOf results`. -/
theorem same_replaceAll (r : Registry) {results : List Analysis}
    (hresults : ∀ a ∈ results, Contracts.Distinct a.methods) :
    Routes.same (routesOf results) (r.replaceAll results).2.routes = true := by
  unfold replaceAll
  dsimp only
  split
  · assumption
  · refine Routes.same_self fun route hroute => ?_
    obtain ⟨a, ha, rfl⟩ := exists_of_mem_routesOf hroute
    exact hresults a ha

/-- `get?` in `routesOf results` finds the route of `a` when no other of `results` has its `routeId`. -/
theorem get?_routesOf {results : List Analysis} {a : Analysis} (ha : a ∈ results)
    (halone : ∀ b ∈ results, b.routeId = a.routeId → b = a) :
    Routes.get? a.routeId (routesOf results) = some (Route.ofAnalysis a.routeId a) := by
  have h : ∀ start : Routes,
      a ∈ results ∨ Routes.get? a.routeId start = some (Route.ofAnalysis a.routeId a) →
      Routes.get? a.routeId (results.foldl
        (fun routes b => Routes.insert (Route.ofAnalysis b.routeId b) routes) start) =
        some (Route.ofAnalysis a.routeId a) := by
    clear ha
    induction results with
    | nil => exact fun _ h => h.resolve_left List.not_mem_nil
    | cons b rest ih =>
      intro start h
      refine ih (fun b' hb' => halone b' (List.mem_cons_of_mem b hb')) _ ?_
      have hget := Routes.get?_insert (Route.ofAnalysis b.routeId b) start a.routeId
      by_cases hb : b.routeId = a.routeId
      · obtain rfl := halone b List.mem_cons_self hb
        exact .inr (hget.trans (if_pos rfl))
      · have hne : ¬(Route.ofAnalysis b.routeId b).pattern = a.routeId := hb
        rw [if_neg hne] at hget
        rw [hget]
        refine h.imp_left fun hmem => ?_
        exact (List.mem_cons.mp hmem).resolve_left fun e => hb (e ▸ rfl)
  exact h [] (.inl ha)

/-- **After `merge pattern a`**, `get? pattern` finds a route that is the `same` as that of `a`. -/
theorem exists_get?_merge (r : Registry) (pattern : String) {a : Analysis}
    (ha : Contracts.Distinct a.methods) :
    ∃ route, (r.merge pattern a).2.get? pattern = some route ∧
      route.same (Route.ofAnalysis pattern a) = true := by
  have hself : (Route.ofAnalysis pattern a).same (Route.ofAnalysis pattern a) = true := Route.same_self ha
  have hinsert : Routes.get? pattern (Routes.insert (Route.ofAnalysis pattern a) r.routes) =
      some (Route.ofAnalysis pattern a) :=
    (Routes.get?_insert _ _ _).trans (if_pos rfl)
  unfold merge
  dsimp only
  split
  · next old hold =>
    split
    · next hsame => exact ⟨old, hold, hsame⟩
    · exact ⟨_, hinsert, hself⟩
  · exact ⟨_, hinsert, hself⟩

/-- `merge` leaves the other patterns alone. -/
theorem get?_merge_of_ne (r : Registry) {pattern other : String} (h : pattern ≠ other) (a : Analysis) :
    (r.merge pattern a).2.get? other = r.get? other := by
  have hinsert : Routes.get? other (Routes.insert (Route.ofAnalysis pattern a) r.routes) =
      Routes.get? other r.routes :=
    (Routes.get?_insert _ _ _).trans (if_neg h)
  unfold merge
  dsimp only
  split
  · split
    · rfl
    · exact hinsert
  · exact hinsert

/-- `removeSource` keeps the routes of other sources. -/
theorem routes_removeSource (r : Registry) (source : Path) :
    (r.removeSource source).2.routes = r.routes.filter fun route => !route.source.same source := by
  unfold removeSource
  dsimp only
  split
  · next hlength => exact (List.filter_eq_self.mpr (List.length_filter_eq_length_iff.mp hlength)).symm
  · rfl

/-- `get?` after `removeSource` drops the routes of the source. -/
theorem get?_removeSource {r : Registry} (h : r.routes.Ascending) (source : Path) (pattern : String) :
    (r.removeSource source).2.get? pattern = (r.get? pattern).filter fun route => !route.source.same source := by
  rw [get?, routes_removeSource, h.get?_filter]
  rfl

end Registry

end RouteContracts
