import RouteContracts.Proofs.Artifact.Drafting
import RouteContracts.Proofs.Source.Quoting

/-! # Comments in artifacts
The comment on an endpoint has its pattern as it is. As long as it is made of comments only, all of an artifact is
laid out. That is so for every pattern on one line.

* `Registry.Commented`: the registries whose comments are made of comments only.
* `Registry.Commented.layout?_ofRegistry`: **all of their artifact is laid out.** -/

namespace RouteContracts

namespace Artifact

/-- A text with no line feed and no carriage return. -/
def OneLine (s : String) : Prop := '\n' ∉ s.toList ∧ '\r' ∉ s.toList

instance (s : String) : Decidable (OneLine s) := inferInstanceAs (Decidable ('\n' ∉ s.toList ∧ '\r' ∉ s.toList))

theorem isSome_mapM {α β : Type} {f : α → Option β} {as : List α} (h : ∀ a ∈ as, (f a).isSome = true) :
    (as.mapM f).isSome = true := by
  induction as with
  | nil => rfl
  | cons a as ih =>
    obtain ⟨b, hb⟩ := Option.isSome_iff_exists.mp (h a (List.mem_cons_self ..))
    obtain ⟨bs, hbs⟩ := Option.isSome_iff_exists.mp (ih fun c hc => h c (List.mem_cons_of_mem _ hc))
    rw [List.mapM_cons, hb, hbs]
    rfl

/-- The endpoints of `ofContracts m contracts` have patterns of `contracts`. -/
theorem MethodModule.exists_of_mem_endpoint {m : Method} {contracts : List (String × Contract)} {e : EndpointItem}
    (he : .endpoint e ∈ (MethodModule.ofContracts m contracts).items) : ∃ p ∈ contracts, e.pattern = p.1 := by
  have hkinds := (Prod.mk.inj (MethodModule.kinds_ofContracts m contracts)).2
  have hmem : some e.pattern ∈ (MethodModule.ofContracts m contracts).items.map ModuleItem.kind :=
    List.mem_map.mpr ⟨_, he, rfl⟩
  rw [hkinds] at hmem
  obtain ⟨p, hp, hmem⟩ := List.mem_flatMap.mp hmem
  rcases List.mem_append.mp hmem with hmem | hmem
  · cases List.eq_of_mem_replicate hmem
  · exact ⟨p, hp, Option.some.inj (List.mem_singleton.mp hmem)⟩

/-- `modulePieces?` gives pieces when `documentationLines?` reads the comment on each pattern. -/
theorem isSome_modulePieces? (runtime : RuntimePath) (m : Method) {contracts : List (String × Contract)}
    (h : ∀ p ∈ contracts, (documentationLines? m p.1).isSome = true) :
    (modulePieces? runtime (MethodModule.ofContracts m contracts)).isSome = true := by
  have hitems : ((MethodModule.ofContracts m contracts).items.mapM (itemPieces? runtime m)).isSome = true := by
    refine isSome_mapM fun i hi => ?_
    cases i with
    | record r => rfl
    | endpoint e =>
      obtain ⟨p, hp, hpattern⟩ := MethodModule.exists_of_mem_endpoint hi
      obtain ⟨lines, hlines⟩ := Option.isSome_iff_exists.mp (h p hp)
      rw [itemPieces?, hpattern, hlines]
      rfl
  obtain ⟨items, hitems⟩ := Option.isSome_iff_exists.mp hitems
  have hmethod : (MethodModule.ofContracts m contracts).method = m := rfl
  rw [modulePieces?, hmethod, hitems]
  rfl

/-- `a.text? given` is `banner` and the rendering of `a.layout? runtime`, where `RuntimePath.ofText? given = some
runtime`. -/
theorem text?_eq_some_iff {given text : String} {a : Artifact} : a.text? given = some text ↔
    ∃ runtime pieces, RuntimePath.ofText? given = some runtime ∧ a.layout? runtime = some pieces ∧
      text = banner ++ Layout.render pieces := by
  constructor
  · intro h
    obtain ⟨runtime, hruntime, h⟩ := Option.bind_eq_some_iff.mp h
    obtain ⟨pieces, hpieces, h⟩ := Option.bind_eq_some_iff.mp h
    exact ⟨runtime, pieces, hruntime, hpieces, (Option.some.inj h).symm⟩
  · rintro ⟨runtime, pieces, hruntime, hpieces, rfl⟩
    exact Option.bind_eq_some_iff.mpr ⟨runtime, hruntime, Option.bind_eq_some_iff.mpr ⟨pieces, hpieces, rfl⟩⟩

end Artifact

namespace Registry

open Artifact

variable {r : Registry}

/-- `documentationLines?` reads the comment on each endpoint of `r` as comments only. -/
def Commented (r : Registry) : Prop := ∀ m, ∀ p ∈ r.contractsFor m, (documentationLines? m p.1).isSome = true

theorem exists_route_of_mem_contractsFor {m : Method} {p : String × Contract} (hp : p ∈ r.contractsFor m) :
    ∃ route ∈ r.routes, route.pattern = p.1 := by
  obtain ⟨route, hroute, h⟩ := List.mem_filterMap.mp hp
  obtain ⟨c, -, rfl⟩ := Option.map_eq_some_iff.mp h
  exact ⟨route, hroute, rfl⟩

/-- Patterns that are `OneLine` are `Commented`. -/
theorem Commented.of_oneLine (h : ∀ route ∈ r.routes, OneLine route.pattern) : r.Commented := by
  intro m p hp
  obtain ⟨route, hroute, hpattern⟩ := exists_route_of_mem_contractsFor hp
  obtain ⟨hline, hreturn⟩ := h route hroute
  rw [← hpattern, documentationLines?_of_oneLine m hline hreturn]
  rfl

/-- `Artifact.pieces?` gives pieces for a `Commented` registry. -/
theorem Commented.isSome_pieces? (h : r.Commented) (runtime : RuntimePath) :
    ((Artifact.ofRegistry r).pieces? runtime).isSome = true := by
  have hmodules : ((Artifact.ofRegistry r).modules.mapM (modulePieces? runtime)).isSome = true := by
    refine isSome_mapM fun mm hmm => ?_
    obtain ⟨p, hp, rfl⟩ := List.mem_map.mp hmm
    obtain ⟨m, -, rfl⟩ := List.mem_map.mp (List.mem_filter.mp hp).1
    exact isSome_modulePieces? runtime m (h m)
  obtain ⟨modules, hmodules⟩ := Option.isSome_iff_exists.mp hmodules
  rw [Artifact.pieces?, hmodules]
  rfl

/-- **A `Commented` registry is laid out as a whole**: `layout?` gives `pieces?` when `isValid` holds, and none else. -/
theorem Commented.layout?_ofRegistry (h : r.Commented) {runtime : RuntimePath} {pieces : List Layout.Piece} :
    (Artifact.ofRegistry r).layout? runtime = some pieces ↔
      (Artifact.ofRegistry r).pieces? runtime = some pieces ∧ (Artifact.ofRegistry r).isValid runtime = true := by
  obtain ⟨all, hall⟩ := Option.isSome_iff_exists.mp (h.isSome_pieces? runtime)
  rw [Artifact.layout?, hall]
  dsimp only
  split
  · next hvalid => exact (and_iff_left hvalid).symm
  · next hvalid => exact iff_of_false (fun h => nomatch h) fun h => hvalid h.2

end Registry

end RouteContracts
