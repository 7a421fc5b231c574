import RouteContracts.Proofs.Artifact.Comments
import RouteContracts.Proofs.Artifact.Listing
import RouteContracts.Proofs.Registry.Order
import RouteContracts.Proofs.Text.ByteOrder

/-! # Artifacts list registries
Whatever changes have led to a registry, its routes are in order and each pattern has one. So the table of its artifact
has a row for each method and pattern that is served, in order, and each has an endpoint in the module of its method.

* `Registry.Reached`: the registries that changes lead to. `Reached.ascending`: they are in order.
* `Registry.table_ofRegistry`, `Registry.impls_modules`: the rows of the table and the endpoints of the modules.
* `Artifact.Lists`: an artifact that lists a registry. `Artifact.Tells`: a text that tells what is in an artifact.
* `Artifact.lists_ofRegistry`: **the artifact of a registry lists it**, and its text tells so. -/

namespace RouteContracts

namespace Registry

/-! ## Registries that are reached -/

/-- The registries that changes lead to, from the one without routes. -/
inductive Reached : Registry → Prop where
  | empty : Reached .empty
  | merge {r : Registry} (h : Reached r) (pattern : String) (a : Analysis) : Reached (r.merge pattern a).2
  | replaceAll {r : Registry} (h : Reached r) (results : List Analysis) : Reached (r.replaceAll results).2
  | removeSource {r : Registry} (h : Reached r) (source : Path) : Reached (r.removeSource source).2

/-- **Every registry that is `Reached` has its routes `Ascending`.** -/
theorem Reached.ascending {r : Registry} (h : r.Reached) : r.routes.Ascending := by
  induction h with
  | empty => exact List.Pairwise.nil
  | merge _ pattern a ih =>
    unfold Registry.merge
    dsimp only
    split
    · split
      · exact ih
      · exact ih.insert _
    · exact ih.insert _
  | replaceAll _ results ih =>
    unfold Registry.replaceAll
    dsimp only
    split
    · exact ih
    · exact ascending_routesOf results
  | removeSource _ source ih =>
    unfold Registry.removeSource
    dsimp only
    split
    · exact ih
    · exact ih.filter _

/-- The route of a pattern serves a method. -/
def Serves (r : Registry) (m : Method) (pattern : String) : Prop :=
  ∃ route, r.get? pattern = some route ∧ ∃ c, route.methods.get? m = some c

theorem mem_contractsFor {r : Registry} (h : r.routes.Ascending) {m : Method} {pattern : String} :
    (∃ c, (pattern, c) ∈ r.contractsFor m) ↔ r.Serves m pattern := by
  constructor
  · rintro ⟨c, hc⟩
    obtain ⟨route, hroute, hc⟩ := List.mem_filterMap.mp hc
    obtain ⟨c', hc', heq⟩ := Option.map_eq_some_iff.mp hc
    obtain ⟨rfl, rfl⟩ := Prod.mk.inj heq
    exact ⟨route, h.get?_of_mem hroute, c', hc'⟩
  · rintro ⟨route, hroute, c, hc⟩
    refine ⟨c, List.mem_filterMap.mpr ⟨route, Routes.mem_of_get? hroute, ?_⟩⟩
    rw [hc, Option.map_some, Routes.pattern_of_get? hroute]

/-- `contractsFor m` is in the order of patterns. -/
theorem pairwise_contractsFor {r : Registry} (h : r.routes.Ascending) (m : Method) :
    (r.contractsFor m).Pairwise fun a b => a.1 < b.1 := by
  refine List.Pairwise.filterMap _ (fun a b hab p hp q hq => ?_) h
  obtain ⟨c, -, rfl⟩ := Option.map_eq_some_iff.mp hp
  obtain ⟨d, -, rfl⟩ := Option.map_eq_some_iff.mp hq
  exact hab

/-! ## The table and the modules -/

/-- `served` flattened: what the contracts of the methods come to, without the methods that nothing serves. -/
theorem flatMap_served {α : Type} (r : Registry) (f : Method → String × Contract → α) :
    ((Artifact.served r).flatMap fun p => p.2.map (f p.1)) =
      Method.all.flatMap fun m => (r.contractsFor m).map (f m) := by
  rw [Artifact.served]
  induction Method.all with
  | nil => rfl
  | cons m rest ih =>
    rw [List.map_cons, List.filter_cons, List.flatMap_cons, ← ih]
    cases hm : r.contractsFor m with
    | nil => rfl
    | cons c cs => rfl

/-- **The rows of the table**, method by method: `contractsFor` of each of `Method.all`. -/
theorem table_ofRegistry (r : Registry) : (Artifact.ofRegistry r).table =
    Method.all.flatMap fun m => (r.contractsFor m).map fun c => (m, c.1) :=
  flatMap_served r fun m c => (m, c.1)

end Registry

namespace Artifact

/-- `ofContracts m contracts` has an endpoint for each of `contracts`, in order. -/
theorem MethodModule.impls_ofContracts (m : Method) (contracts : List (String × Contract)) :
    (ofContracts m contracts).impls = contracts.map fun c => (m, c.1) := by
  have hkinds : (ofContracts m contracts).items.map ModuleItem.kind =
      contracts.flatMap fun p => List.replicate p.2.objects none ++ [some p.1] :=
    congrArg Prod.snd (kinds_ofContracts m contracts)
  have hpatterns : (ofContracts m contracts).items.filterMap ModuleItem.kind = contracts.map Prod.fst := by
    have hids : (ofContracts m contracts).items.filterMap ModuleItem.kind =
        ((ofContracts m contracts).items.map ModuleItem.kind).filterMap id := by
      rw [List.filterMap_map, Function.id_comp]
    rw [hids, hkinds]
    -- the records of a contract say nothing, its endpoint says the pattern
    clear hids hkinds
    induction contracts with
    | nil => rfl
    | cons c rest ih =>
      rw [List.flatMap_cons, List.filterMap_append, ih, List.filterMap_append]
      simp
  rw [impls_eq, hpatterns, List.map_map]
  rfl

/-- **The `impls` of the modules are the rows of the table**, in order. -/
theorem impls_modules (r : Registry) :
    (Artifact.ofRegistry r).modules.flatMap MethodModule.impls = (Artifact.ofRegistry r).table := by
  rw [Artifact.ofRegistry, List.flatMap_map]
  refine List.flatMap_congr fun p _ => ?_
  exact MethodModule.impls_ofContracts p.1 p.2

/-! ## Artifacts that list a registry -/

/-- The order of rows: by method, then by the bytes of the pattern. -/
def Precedes (a b : Method × String) : Prop :=
  a.1.position < b.1.position ∨ a.1 = b.1 ∧ Utf8.encode a.2 < Utf8.encode b.2

theorem Precedes.ne {a b : Method × String} (h : Precedes a b) : a ≠ b := by
  rintro rfl
  rcases h with h | ⟨-, h⟩
  · exact lt_irrefl _ h
  · exact List.lt_irrefl _ h

/-- **An artifact that lists a registry**: its table has the methods and patterns that are served, in order, each once.
Its endpoints are those of the table, one for each row in the module of the row's method, and it has the modules of the
methods that are served, in order. -/
structure Lists (a : Artifact) (r : Registry) : Prop where
  mem_table : ∀ m pattern, (m, pattern) ∈ a.table ↔ r.Serves m pattern
  ordered : a.table.Pairwise Precedes
  nodup : a.table.Nodup
  implemented : ∀ m pattern, r.Serves m pattern →
    ∃ mm ∈ a.modules, mm.method = m ∧ mm.impls.count (m, pattern) = 1
  impls : a.modules.flatMap MethodModule.impls = a.table
  modules : ∀ m, (∃ mm ∈ a.modules, mm.method = m) ↔ ∃ pattern, r.Serves m pattern
  methods : (a.modules.map MethodModule.method).Pairwise fun m n => m.position < n.position

/-- **A text that tells what is in an artifact**, given the path of the runtime: it is laid out from words that tell the
modules, each with its endpoints, and the rows of the table after them. -/
def Tells (given text : String) (a : Artifact) : Prop :=
  ∃ runtime pieces, RuntimePath.ofText? given = some runtime ∧ a.layout? runtime = some pieces ∧
    text = banner ++ Layout.render pieces ∧ marksIn (uncommented (wordsOf pieces)) = a.told

/-- The methods of the modules are those with `contractsFor`. -/
theorem methods_ofRegistry (r : Registry) : (ofRegistry r).modules.map MethodModule.method =
    Method.all.filter fun m => !(r.contractsFor m).isEmpty := by
  rw [ofRegistry, List.map_map, served, List.filter_map, List.map_map]
  exact List.map_id _

theorem mem_table_ofRegistry {r : Registry} (h : r.routes.Ascending) (m : Method) (pattern : String) :
    (m, pattern) ∈ (ofRegistry r).table ↔ r.Serves m pattern := by
  rw [Registry.table_ofRegistry, ← Registry.mem_contractsFor h, List.mem_flatMap]
  constructor
  · rintro ⟨m', -, hrow⟩
    obtain ⟨⟨p, c⟩, hc, heq⟩ := List.mem_map.mp hrow
    obtain ⟨rfl, rfl⟩ := Prod.mk.inj heq
    exact ⟨c, hc⟩
  · rintro ⟨c, hc⟩
    exact ⟨m, Method.mem_all m, List.mem_map.mpr ⟨(pattern, c), hc, rfl⟩⟩

theorem ordered_ofRegistry {r : Registry} (h : r.routes.Ascending) : (ofRegistry r).table.Pairwise Precedes := by
  have hmethods : Method.all.Pairwise fun m n => m.position < n.position := by decide
  rw [Registry.table_ofRegistry, List.pairwise_flatMap]
  constructor
  · intro m _
    rw [List.pairwise_map]
    exact (Registry.pairwise_contractsFor h m).imp fun hab => .inr ⟨rfl, Utf8.encode_lt_encode.mpr hab⟩
  · refine hmethods.imp fun hmn x hx y hy => ?_
    obtain ⟨c, -, rfl⟩ := List.mem_map.mp hx
    obtain ⟨d, -, rfl⟩ := List.mem_map.mp hy
    exact .inl hmn

/-- A method has a module exactly if some route `Serves` it. -/
theorem exists_module_iff {r : Registry} (h : r.routes.Ascending) (m : Method) :
    (∃ mm ∈ (ofRegistry r).modules, mm.method = m) ↔ ∃ pattern, r.Serves m pattern := by
  have hmem : (∃ mm ∈ (ofRegistry r).modules, mm.method = m) ↔ r.contractsFor m ≠ [] := by
    rw [← List.mem_map, methods_ofRegistry, List.mem_filter, Bool.not_eq_true', List.isEmpty_eq_false_iff]
    exact and_iff_right (Method.mem_all m)
  rw [hmem]
  constructor
  · intro hne
    obtain ⟨⟨pattern, c⟩, hc⟩ := List.exists_mem_of_ne_nil _ hne
    exact ⟨pattern, (Registry.mem_contractsFor h).mp ⟨c, hc⟩⟩
  · rintro ⟨pattern, hserves⟩
    obtain ⟨c, hc⟩ := (Registry.mem_contractsFor h).mpr hserves
    exact List.ne_nil_of_mem hc

/-- The endpoint of a row is in the module of its method, once. -/
theorem count_impls {r : Registry} (h : r.routes.Ascending) {m : Method} {pattern : String}
    (hserves : r.Serves m pattern) {mm : MethodModule} (hmm : mm ∈ (ofRegistry r).modules) (hm : mm.method = m) :
    mm.impls.count (m, pattern) = 1 := by
  obtain ⟨c, hc⟩ := (Registry.mem_contractsFor h).mpr hserves
  rw [MethodModule.eq_ofContracts_of_mem hmm, MethodModule.impls_ofContracts, hm]
  refine List.count_eq_one_of_mem ?_ (List.mem_map.mpr ⟨(pattern, c), hc, rfl⟩)
  have hpairwise : ((r.contractsFor m).map fun c => (m, c.1)).Pairwise (· ≠ ·) := by
    rw [List.pairwise_map]
    exact (Registry.pairwise_contractsFor h m).imp fun hab heq => hab.ne (congrArg Prod.snd heq)
  exact hpairwise

/-! ### What is told -/

theorem variantName_injective : Function.Injective Method.variantName := by
  intro m n h
  cases m <;> cases n <;> first | rfl | exact absurd h (by decide)

theorem quoted_injective : Function.Injective Text.quoted := by
  intro p q h
  have hvalue := Source.Literal.textValue?_quoted p
  rw [h, Source.Literal.textValue?_quoted] at hvalue
  exact (Option.some.inj hvalue).symm

theorem moduleHead_injective : Function.Injective moduleHead := by
  intro m n h
  cases m <;> cases n <;> first | rfl | exact absurd h (by decide)

/-- A method and a pattern can be read off `implMark`. -/
theorem implMark_injective : Function.Injective implMark := by
  rintro ⟨m, p⟩ ⟨n, q⟩ h
  obtain ⟨hmethod, hpattern⟩ := Mark.impl.inj h
  have hm : m = n :=
    variantName_injective ((String.append_right_inj _).mp ((String.append_left_inj _).mp hmethod))
  have hp : p = q := quoted_injective ((String.append_right_inj _).mp ((String.append_left_inj _).mp hpattern))
  rw [hm, hp]

/-- A method and a pattern can be read off `rowMark`. -/
theorem rowMark_injective : Function.Injective rowMark := by
  rintro ⟨m, p⟩ ⟨n, q⟩ h
  obtain ⟨hmethod, hpattern⟩ := Mark.row.inj h
  have hm : m = n := variantName_injective ((String.append_right_inj _).mp hmethod)
  have hp : p = q := quoted_injective hpattern
  rw [hm, hp]

/-- **`a.told` has no duplicates**: modules, endpoints and rows differ. -/
theorem nodup_told {a : Artifact} {r : Registry} (h : a.Lists r) : a.told.Nodup := by
  -- the endpoints of all modules together are the rows, by the lemma on the lists
  have hmodules : (a.modules.flatMap fun mm => Mark.module (moduleHead mm.method) :: mm.impls.map implMark).Perm
      ((a.modules.map fun mm => .module (moduleHead mm.method)) ++ a.table.map implMark) := by
    rw [← h.impls]
    clear h
    induction a.modules with
    | nil => exact .nil
    | cons mm rest ih =>
      rw [List.flatMap_cons, List.map_cons, List.flatMap_cons, List.map_append, List.cons_append, List.cons_append]
      refine .cons _ ((ih.append_left _).trans ?_)
      rw [← List.append_assoc, ← List.append_assoc]
      exact List.perm_append_comm.append_right _
  have hheads : (a.modules.map fun mm => Mark.module (moduleHead mm.method)).Nodup := by
    have hne : (a.modules.map MethodModule.method).Nodup := h.methods.imp fun hlt heq => by
      rw [heq] at hlt
      exact lt_irrefl _ hlt
    have hinj : Function.Injective fun m => Mark.module (moduleHead m) :=
      fun m n heq => moduleHead_injective (Mark.module.inj heq)
    have hmap := hne.map hinj
    rwa [List.map_map] at hmap
  have himpls := h.nodup.map implMark_injective
  have hrows := h.nodup.map rowMark_injective
  rw [told, (hmodules.append_right _).nodup_iff, List.append_assoc, List.nodup_append', List.nodup_append']
  -- a module, an endpoint and a row are never the same mark
  refine ⟨hheads, ⟨himpls, hrows, ?_⟩, ?_⟩
  · intro mark himpl hrow
    obtain ⟨_, -, rfl⟩ := List.mem_map.mp himpl
    obtain ⟨_, -, hrow⟩ := List.mem_map.mp hrow
    exact nomatch hrow
  · intro mark hhead hmark
    obtain ⟨_, -, rfl⟩ := List.mem_map.mp hhead
    rcases List.mem_append.mp hmark with hmark | hmark
    all_goals
      obtain ⟨_, -, hmark⟩ := List.mem_map.mp hmark
      exact nomatch hmark

/-- `artifactText?` of a `Commented` registry `Tells` the artifact. -/
theorem tells_of_artifactText? {r : Registry} (hcommented : r.Commented) {given text : String}
    (h : r.artifactText? given = some text) : Tells given text (ofRegistry r) := by
  obtain ⟨runtime, pieces, hruntime, hlayout, htext⟩ := text?_eq_some_iff.mp h
  refine ⟨runtime, pieces, hruntime, hlayout, htext, ?_⟩
  obtain ⟨hpieces, hvalid⟩ := hcommented.layout?_ofRegistry.mp hlayout
  have hclosed : ∀ mm ∈ (ofRegistry r).modules, Closed mm.items := by
    intro mm hmm
    rw [MethodModule.eq_ofContracts_of_mem hmm]
    exact MethodModule.closed_ofContracts _ _
  have hsegment := segment_pieces hpieces hclosed hvalid []
  rw [List.append_nil] at hsegment
  rw [hsegment]
  exact List.append_nil _

/-- `ofRegistry r` `Lists` a registry whose routes are `Ascending`. -/
theorem lists_of_ascending {r : Registry} (hasc : r.routes.Ascending) : (ofRegistry r).Lists r := by
  refine ⟨mem_table_ofRegistry hasc, ordered_ofRegistry hasc, ?_, ?_, impls_modules r, exists_module_iff hasc, ?_⟩
  · exact (ordered_ofRegistry hasc).imp Precedes.ne
  · intro m pattern hserves
    obtain ⟨mm, hmm, hm⟩ := (exists_module_iff hasc m).mpr ⟨pattern, hserves⟩
    exact ⟨mm, hmm, hm, count_impls hasc hserves hmm hm⟩
  · have hmethods : Method.all.Pairwise fun m n => m.position < n.position := by decide
    rw [methods_ofRegistry]
    exact hmethods.filter _

/-- **`ofRegistry r` `Lists` every registry that is `Reached`**, and tells nothing twice. Where `r.Commented`,
`artifactText?` `Tells` it. -/
theorem lists_ofRegistry {r : Registry} (h : r.Reached) : (ofRegistry r).Lists r ∧ (ofRegistry r).told.Nodup ∧
    (r.Commented → ∀ given text, r.artifactText? given = some text → Tells given text (ofRegistry r)) := by
  have hlists := lists_of_ascending h.ascending
  exact ⟨hlists, nodup_told hlists, fun hcommented _ _ htext => tells_of_artifactText? hcommented htext⟩

/-! ### Routes that come and go -/

/-- The analysis of an endpoint file that serves some methods without any contract. -/
def plainAnalysis (pattern source : String) (methods : List Method) : Analysis :=
  ⟨pattern, ⟨source⟩, PerMethod.ofList (methods.map fun m => (m, ⟨none, none, none⟩))⟩

/-- A registry in which one route has been replaced and one removed. -/
def revised : Registry :=
  let r := (Registry.empty.replaceAll [plainAnalysis "/b" "b.rs" [.post, .get], plainAnalysis "/c" "c.rs" [.put]]).2
  let r := (r.merge "/a" (plainAnalysis "/a" "a.rs" [.get])).2
  let r := (r.merge "/b" (plainAnalysis "/b" "b.rs" [.get, .options])).2
  (r.removeSource ⟨"c.rs"⟩).2

/-- The table of `revised`, and the text that tells it. -/
theorem lists_revised : revised.Reached ∧ revised.Commented ∧ (ofRegistry revised).Lists revised ∧
    (ofRegistry revised).table = [(.get, "/a"), (.get, "/b"), (.options, "/b")] ∧
    ∃ text, revised.artifactText? "routegen" = some text ∧ Tells "routegen" text (ofRegistry revised) := by
  have hreached : revised.Reached := (((Registry.Reached.empty.replaceAll _).merge _ _).merge _ _).removeSource _
  have hcommented : revised.Commented := .of_oneLine (by decide +kernel)
  have htext : (revised.artifactText? "routegen").isSome = true := by decide +kernel
  obtain ⟨text, htext⟩ := Option.isSome_iff_exists.mp htext
  obtain ⟨hlists, -, htells⟩ := lists_ofRegistry hreached
  exact ⟨hreached, hcommented, hlists, by decide +kernel, text, htext, htells hcommented "routegen" text htext⟩

/-! ### A comment that goes on

A block comment begins on the second line of one pattern and ends on that of another one. All that stands between the two
lines is comment: the type and the constants of the first endpoint, and nothing of the table. -/

/-- The pattern on whose second line a comment begins. -/
def opening : String := "/a\n/*"

/-- The pattern on whose second line it ends, as often as it has begun. -/
def closing : String := "/b\n*/*/ //"

/-- A registry that serves both. -/
def bridged : Registry :=
  ((Registry.empty.merge opening (plainAnalysis opening "a.rs" [.get])).2.merge closing
    (plainAnalysis closing "b.rs" [.get])).2

/-- What the text of the artifact of `bridged` tells: one endpoint, but two rows. -/
theorem marksIn_bridged : ((RuntimePath.ofText? "routegen").bind fun runtime =>
      ((ofRegistry bridged).layout? runtime).map fun pieces => marksIn (uncommented (wordsOf pieces))) =
    some [.module (moduleHead .get), implMark (.get, closing), rowMark (.get, opening), rowMark (.get, closing)] := by
  decide +kernel

/-- **A row without its endpoint.** The table in the `artifactText?` of `bridged` has a row for `opening`, which the
registry serves, but no endpoint in the text has that pattern. -/
theorem exists_row_without_impl : bridged.Reached ∧ bridged.Serves .get opening ∧
    ∃ runtime pieces, RuntimePath.ofText? "routegen" = some runtime ∧
      (ofRegistry bridged).layout? runtime = some pieces ∧
      bridged.artifactText? "routegen" = some (banner ++ Layout.render pieces) ∧
      rowMark (.get, opening) ∈ marksIn (uncommented (wordsOf pieces)) ∧
      implMark (.get, opening) ∉ marksIn (uncommented (wordsOf pieces)) := by
  have hreached : bridged.Reached := (Registry.Reached.empty.merge _ _).merge _ _
  have hserves : bridged.Serves .get opening := ⟨_, rfl, _, rfl⟩
  obtain ⟨runtime, hruntime, h⟩ := Option.bind_eq_some_iff.mp marksIn_bridged
  obtain ⟨pieces, hpieces, hmarks⟩ := Option.map_eq_some_iff.mp h
  refine ⟨hreached, hserves, runtime, pieces, hruntime, hpieces,
    text?_eq_some_iff.mpr ⟨runtime, pieces, hruntime, hpieces, rfl⟩, ?_⟩
  rw [hmarks]
  decide +kernel

end Artifact

end RouteContracts
