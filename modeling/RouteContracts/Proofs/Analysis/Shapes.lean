import RouteContracts.Proofs.Analysis.DistinctNames

/-! # Shapes of contracts
What a method can be sent is limited by how it is sent: a body and a query are objects, and the parameters of a route
are texts. The contracts of an analysis keep to that, whatever the source text declares.

* `Descriptor.IsObject`: an object, with no layer around it.
* `Contract.Shaped`: the pieces of the contract of a method have the shapes that they can be sent in.
* `Analysis.shaped_ofSource?`: **the contracts of an analysis are shaped**, and have the parameters of the route. -/

namespace RouteContracts

open Source

/-! ## Shapes -/

namespace Descriptor

/-- An object whose fields have a property, with no layer around it. -/
def IsObject (P : List (String × Descriptor) → Prop) (d : Descriptor) : Prop :=
  ∃ fields omittable, d = .object fields omittable ∧ P fields

end Descriptor

/-- Parameters of a route: texts, at least one. -/
def AreTexts (fields : List (String × Descriptor)) : Prop :=
  fields ≠ [] ∧ ∀ f ∈ fields, f.2 = .primitive .string

/-- **The pieces of the contract of a method have the shapes that they can be sent in.** -/
structure Contract.Shaped (m : Method) (c : Contract) : Prop where
  bodyless : m = .get ∨ m = .options → c.body = none
  body : ∀ d ∈ c.body, d.IsObject fun fields => fields ≠ [] ∧ searchParamsField ∉ fields.map Prod.fst
  searchParams : ∀ d ∈ c.searchParams, d.IsObject fun _ => True
  routeParams : ∀ d ∈ c.routeParams, d.IsObject AreTexts

/-- **Contracts with these parameters of the route**, each of them shaped. -/
def Contracts.Shaped (params : Option Descriptor) (cs : Contracts) : Prop :=
  ∀ m c, cs.get? m = some c → c.Shaped m ∧ c.routeParams = params

/-! ## Pieces of contracts -/

/-- `ofList pairs` is empty only if `pairs` is. -/
theorem Members.ofList_ne_nil {α : Type} {pairs : List (String × α)} (h : pairs ≠ []) : ofList pairs ≠ [] := by
  have hinsert : ∀ (p : String × α) (members : Members α), insert p.1 p.2 members ≠ [] := by
    intro p members
    unfold insert
    split
    · exact List.cons_ne_nil _ _
    · split <;> exact List.cons_ne_nil _ _
  rw [ofList, ← List.dropLast_append_getLast h, List.foldl_append]
  exact hinsert _ _

/-- `bodyContract m` is `none` for GET and OPTIONS. -/
theorem bodyContract_of_bodyless {m : Method} (hm : m = .get ∨ m = .options) (fields : Members Schema) :
    bodyContract m fields = none := by
  have hcarries : m.carriesBody = false := by rcases hm with rfl | rfl <;> rfl
  unfold bodyContract
  split
  · rfl
  · rw [if_neg (by rw [hcarries]; exact Bool.false_ne_true)]

/-- `bodyContract` is an object of the other fields of the schema, at least one. -/
theorem isObject_bodyContract {m : Method} {fields : Members Schema} : ∀ d ∈ bodyContract m fields,
    d.IsObject fun fields => fields ≠ [] ∧ searchParamsField ∉ fields.map Prod.fst := by
  intro d hd
  unfold bodyContract at hd
  split at hd
  · exact nomatch hd
  · next hne =>
    split at hd
    · obtain rfl := Option.some.inj hd
      refine ⟨_, _, Schema.toDescriptor_object _, ?_, ?_⟩
      · simpa using hne
      · rw [List.map_map]
        intro hmem
        obtain ⟨f, hf, hname⟩ := List.mem_map.mp hmem
        exact of_decide_eq_true (List.mem_filter.mp hf).2 hname
    · exact nomatch hd

/-- `queryContract` is an object, whatever layers there are around it in the schema. -/
theorem isObject_queryContract {source : Path} {m : Method} {field : Schema} :
    ∀ d ∈ (queryContract source m field).1, d.IsObject fun _ => True := by
  intro d hd
  unfold queryContract at hd
  split at hd
  · exact nomatch hd
  · obtain rfl := Option.some.inj hd
    exact ⟨_, _, rfl, trivial⟩

/-- `RouteTypes.descriptor?` is an object of texts. -/
theorem RouteTypes.isObject_descriptor? (types : RouteTypes) : ∀ d ∈ types.descriptor?, d.IsObject AreTexts := by
  intro d hd
  unfold descriptor? at hd
  split at hd
  · exact nomatch hd
  · next hne =>
    obtain rfl := Option.some.inj hd
    refine ⟨_, _, rfl, Members.ofList_ne_nil (by simpa using hne), fun f hf => ?_⟩
    obtain ⟨param, -, rfl⟩ := List.mem_map.mp ((Members.ofList_spec _).2 f hf)
    rfl

/-! ## Contracts -/

section Contracts

variable {source : Path} {m : Method} {params : Option Descriptor}

/-- A contract with nothing but parameters is `Shaped`. -/
theorem shaped_bare (hparams : ∀ d ∈ params, d.IsObject AreTexts) : Contract.Shaped m ⟨none, params, none⟩ :=
  ⟨fun _ => rfl, (fun _ hd => nomatch hd), (fun _ hd => nomatch hd), hparams⟩

theorem shaped_contractOfFields (hparams : ∀ d ∈ params, d.IsObject AreTexts) (fields : Members Schema) :
    (contractOfFields source m params fields).1.Shaped m := by
  refine ⟨fun hm => bodyContract_of_bodyless hm fields, isObject_bodyContract, ?_, hparams⟩
  unfold contractOfFields
  dsimp only
  split
  · exact isObject_queryContract
  · exact fun _ hd => nomatch hd

/-- **`contractOfSchema` is `Shaped`**, whatever the schema comes to. -/
theorem shaped_contractOfSchema (hparams : ∀ d ∈ params, d.IsObject AreTexts) (e : Option Expr) :
    (contractOfSchema source m params e).1.Shaped m ∧ (contractOfSchema source m params e).1.routeParams = params := by
  cases e with
  | none => exact ⟨shaped_bare hparams, rfl⟩
  | some e =>
    unfold contractOfSchema
    dsimp only
    split
    · exact ⟨shaped_contractOfFields hparams _, rfl⟩
    · exact ⟨shaped_bare hparams, rfl⟩

/-- **The contracts of `Analysis.ofSource?` are `Shaped`**, and have the parameters of the route. -/
theorem Analysis.shaped_ofSource? {routeId code : String} {a : Analysis} {notices : List Notice}
    (hparams : ∀ d ∈ params, d.IsObject AreTexts) (h : ofSource? routeId source params code = some (a, notices)) :
    a.methods.Shaped params := by
  obtain ⟨file, -, h⟩ := Option.bind_eq_some_iff.mp h
  obtain ⟨rfl, -⟩ := Prod.mk.inj (Option.some.inj h)
  intro m c hc
  by_cases hexported : file.declarations.exported m
  · have hsome : some (file.declarations.contract source params m).1 = some c := by
      rw [← hc]
      exact (if_pos hexported).symm
    obtain rfl := Option.some.inj hsome
    exact shaped_contractOfSchema hparams _
  · exact nomatch (if_neg hexported).symm.trans hc

end Contracts

end RouteContracts
