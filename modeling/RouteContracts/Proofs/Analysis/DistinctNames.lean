import RouteContracts.Analysis.Contracts
import RouteContracts.Companion.RouteTypes
import RouteContracts.Proofs.Json.Members
import RouteContracts.Proofs.Registry.Order
import RouteContracts.Proofs.Source.Meaning

/-! # Names in contracts
In every contract that an analysis finds, the fields of an object have distinct names, at every depth.

* `Schema.distinct_object_iff`: the shape of an object is distinct when its names and its fields are.
* `Expr.distinct_evaluate`: **whatever an expression constructs has a distinct shape.**
* `Analysis.distinct_ofSource?`: **the contracts of an analysis are distinct.** -/

namespace RouteContracts

/-! ## Shapes -/

namespace Descriptor

theorem distinct_base {d : Descriptor} (h : d.Distinct) : d.base.Distinct := by
  induction h with
  | optional _ ih | nullable _ ih => exact ih
  | primitive p => exact .primitive p
  | object omittable names h => exact .object omittable names h
  | array h => exact .array h

theorem distinct_splitAbsence {d : Descriptor} : d.splitAbsence.2.Distinct ↔ d.Distinct := by
  unfold splitAbsence
  split
  · exact ⟨.optional, fun h => by cases h; assumption⟩
  · constructor
    · rintro (_ | _ | _ | _ | h)
      exact .nullable (.optional h)
    · rintro (_ | _ | _ | _ | _ | _ | _ | h | _)
      exact .nullable h
  · exact Iff.rfl

theorem distinct_asObject? {d : Descriptor} {o : ObjectShape} (hd : d.Distinct) (h : d.asObject? = some o) :
    o.toDescriptor.Distinct := by
  have hbase := distinct_base hd
  unfold asObject? at h
  split at h
  · next hobject =>
    obtain rfl := Option.some.inj h
    rwa [hobject] at hbase
  · exact nomatch h

end Descriptor

namespace Schema

/-- **`toDescriptor` of an object is `Distinct`** exactly if its names are and the shapes of its fields. -/
theorem distinct_object_iff {fields : List (String × Schema)} :
    (Schema.object fields).toDescriptor.Distinct ↔
      (fields.map Prod.fst).Nodup ∧ ∀ f ∈ fields, f.2.toDescriptor.Distinct := by
  rw [toDescriptor_object]
  have hnames : (fields.map fun f => (f.1, f.2.toDescriptor.splitAbsence.2)).map Prod.fst =
      fields.map Prod.fst := by
    rw [List.map_map]; rfl
  constructor
  · intro h
    cases h with
    | object _ names h =>
      refine ⟨hnames ▸ names, fun f hf => Descriptor.distinct_splitAbsence.mp ?_⟩
      exact h _ (List.mem_map_of_mem hf)
  · rintro ⟨names, h⟩
    refine .object _ (hnames.symm ▸ names) fun f hf => ?_
    obtain ⟨g, hg, rfl⟩ := List.mem_map.mp hf
    exact Descriptor.distinct_splitAbsence.mpr (h g hg)

end Schema

/-! ## Constructed schemas -/

namespace Source

namespace Resolution

variable {α β : Type}

/-- Whatever comes out has a property. -/
def All (P : α → Prop) (r : Resolution α) : Prop := ∀ a, r.result = .ok a → P a

theorem All.pure {P : α → Prop} {a : α} (h : P a) : (Pure.pure a : Resolution α).All P := by
  intro b hb
  obtain rfl := Except.ok.inj hb
  exact h

theorem All.fail {P : α → Prop} (why : Unsupported) : (Resolution.fail why).All P := fun _ h => nomatch h

theorem All.bind {P : α → Prop} {Q : β → Prop} {r : Resolution α} {f : α → Resolution β} (hr : r.All P)
    (hf : ∀ a, P a → (f a).All Q) : (r >>= f).All Q := by
  intro b hb
  cases hresult : r.result with
  | error why =>
    have hnone : (r >>= f).result = .error why := by
      show (Resolution.bind r f).result = _
      rw [Resolution.bind, hresult]
    cases hnone.symm.trans hb
  | ok a => exact hf a (hr a hresult) b ((result_bind hresult f).symm.trans hb)

/-- `orAny` keeps shapes `Distinct`: a field that cannot be resolved accepts anything. -/
theorem All.orAny {name : String} {r : Resolution Schema} (h : r.All fun s => s.toDescriptor.Distinct) :
    (r.orAny name).All fun s => s.toDescriptor.Distinct := by
  unfold Resolution.orAny
  split
  · exact h
  · intro s hs
    obtain rfl := Except.ok.inj hs
    exact .primitive _

theorem all_true (r : Resolution α) : r.All fun _ => True := fun _ _ => trivial

end Resolution

/-- `combine` keeps a shape `Distinct`. -/
theorem distinct_combine (name : String) (argument : Json) {inner : Schema} (h : inner.toDescriptor.Distinct) :
    (combine name argument inner).toDescriptor.Distinct := by
  unfold combine
  split
  case h_1 | h_4 | h_5 => exact .optional h
  case h_2 => exact .nullable h
  case h_3 => exact .optional (.nullable h)
  all_goals exact h

theorem distinct_leaf {name : String} {s : Schema} (h : Builder.ofName? name = some (.leaf s)) :
    s.toDescriptor.Distinct := by
  unfold Builder.ofName? at h
  split at h <;> cases h <;> exact .primitive _

namespace Expr

open Resolution

mutual

/-- **`e.evaluate` has a `Distinct` shape**, by induction on the expression. -/
theorem distinct_evaluate : ∀ e : Expr, e.evaluate.All fun s => s.toDescriptor.Distinct
  | .paren _ inner => by rw [evaluate]; exact distinct_evaluate inner
  | .reference _ inner => by rw [evaluate]; exact distinct_evaluate inner
  | .closure _ _ body => by rw [evaluate]; exact distinct_evaluate body
  | .block _ _ (some e) => by rw [evaluate]; exact distinct_evaluate e
  | .block _ _ none => by rw [evaluate]; exact .fail _
  | .call _ callee arguments => by
    rw [evaluate]
    split
    · exact .fail _
    · next name _ =>
      split
      · exact .fail _
      · next builder hbuilder =>
        exact distinct_build name builder (fun s hs => distinct_leaf (hs ▸ hbuilder)) arguments
  | .method _ receiver name _ arguments => by
    rw [evaluate]
    exact (distinct_evaluate receiver).bind fun inner h => .pure (distinct_combine _ _ h)
  | .path .. | .literal .. | .truth .. | .tuple .. | .array .. | .listMacro .. | .other .. => .fail _

theorem distinct_build (name : String) (builder : Builder)
    (hleaf : ∀ s, builder = .leaf s → s.toDescriptor.Distinct) :
    ∀ arguments : List Expr, (build name builder arguments).All fun s => s.toDescriptor.Distinct
  | [] => by
    cases builder with
    | leaf s => exact .pure (hleaf s rfl)
    | literal => exact .pure (.primitive _)
    | enumeration | array | object | optional | nullable | lazy => exact .fail _
  | first :: _ => by
    cases builder with
    | leaf s => exact .pure (hleaf s rfl)
    | literal => exact .pure (.primitive _)
    | enumeration => exact (all_true _).bind fun _ _ => .pure (.primitive _)
    | array => exact (distinct_evaluate first).bind fun _ h => .pure (.array h)
    | object =>
      refine (distinct_fieldList first).bind fun pairs h => .pure ?_
      obtain ⟨names, hmem⟩ := Members.ofList_spec pairs
      exact Schema.distinct_object_iff.mpr ⟨names, fun f hf => h f (hmem f hf)⟩
    | optional => exact (distinct_evaluate first).bind fun _ h => .pure (.optional h)
    | nullable => exact (distinct_evaluate first).bind fun _ h => .pure (.nullable h)
    | lazy => exact distinct_evaluate first

theorem distinct_fieldList : ∀ e : Expr, e.fieldList.All fun pairs => ∀ f ∈ pairs, f.2.toDescriptor.Distinct
  | .array _ elements => by rw [fieldList]; exact distinct_fieldsOf elements
  | .reference _ inner => by rw [fieldList]; exact distinct_fieldList inner
  | .paren _ inner => by rw [fieldList]; exact distinct_fieldList inner
  | .listMacro _ (some elements) => by rw [fieldList]; exact distinct_fieldsOf elements
  | .listMacro _ none => by rw [fieldList]; exact .fail _
  | .closure .. | .block .. | .call .. | .method .. | .path .. | .literal .. | .truth .. | .tuple ..
  | .other .. => .fail _

theorem distinct_fieldsOf : ∀ elements : List Expr,
    (fieldsOf elements).All fun pairs => ∀ f ∈ pairs, f.2.toDescriptor.Distinct
  | [] => .pure fun _ h => nomatch h
  | .tuple _ [nameExpr, value] :: rest => by
    rw [fieldsOf]
    refine (all_true _).bind fun name _ => (distinct_evaluate value).orAny.bind fun field hfield => ?_
    exact (distinct_fieldsOf rest).bind fun pairs hpairs => .pure (List.forall_mem_cons.mpr ⟨hfield, hpairs⟩)
  | .tuple _ [] :: _ | .tuple _ [_] :: _ | .tuple _ (_ :: _ :: _ :: _) :: _ => .fail _
  | .paren .. :: _ | .reference .. :: _ | .closure .. :: _ | .block .. :: _ | .call .. :: _
  | .method .. :: _ | .path .. :: _ | .literal .. :: _ | .truth .. :: _ | .array .. :: _
  | .listMacro .. :: _ | .other .. :: _ => .fail _

end

end Expr

end Source

/-! ## Contracts -/

open Source

/-- `e.objectFields` has `Distinct` names and shapes. -/
theorem distinct_objectFields {e : Expr} {fields : Members Schema} (h : e.objectFields.result = .ok fields) :
    (fields.map Prod.fst).Nodup ∧ ∀ f ∈ fields, f.2.toDescriptor.Distinct := by
  have hall : e.objectFields.All fun fields => (Schema.object fields).toDescriptor.Distinct := by
    refine (Expr.distinct_evaluate e).bind fun s hs => ?_
    cases hfields : s.fields? with
    | none => exact .fail _
    | some fields =>
      have hbase : s.base = .object fields := Schema.base_of_fields? hfields
      refine .pure ?_
      rw [← hbase, Schema.toDescriptor_base]
      exact Descriptor.distinct_base hs
  exact Schema.distinct_object_iff.mp (hall fields h)

theorem distinct_bodyContract {m : Method} {fields : Members Schema}
    (h : (fields.map Prod.fst).Nodup ∧ ∀ f ∈ fields, f.2.toDescriptor.Distinct) :
    ∀ d ∈ bodyContract m fields, d.Distinct := by
  intro d hd
  unfold bodyContract at hd
  split at hd
  · exact nomatch hd
  · split at hd
    · obtain rfl := Option.some.inj hd
      refine Schema.distinct_object_iff.mpr ⟨h.1.sublist (List.filter_sublist.map _), fun f hf => ?_⟩
      exact h.2 f (List.mem_of_mem_filter hf)
    · exact nomatch hd

theorem distinct_queryContract {source : Path} {m : Method} {field : Schema} (h : field.toDescriptor.Distinct) :
    ∀ d ∈ (queryContract source m field).1, d.Distinct := by
  intro d hd
  unfold queryContract at hd
  split at hd
  · exact nomatch hd
  · next o ho =>
    obtain rfl := Option.some.inj hd
    exact Descriptor.distinct_asObject? h ho

theorem distinct_contractOfFields {source : Path} {m : Method} {params : Option Descriptor}
    {fields : Members Schema} (hparams : ∀ d ∈ params, d.Distinct)
    (h : (fields.map Prod.fst).Nodup ∧ ∀ f ∈ fields, f.2.toDescriptor.Distinct) :
    (contractOfFields source m params fields).1.Distinct := by
  refine ⟨distinct_bodyContract h, hparams, ?_⟩
  unfold contractOfFields
  dsimp only
  split
  · next field hfield => exact distinct_queryContract (h.2 _ (Members.mem_of_get? hfield))
  · exact fun _ hd => nomatch hd

theorem distinct_contractOfSchema {source : Path} {m : Method} {params : Option Descriptor}
    (hparams : ∀ d ∈ params, d.Distinct) (e : Option Expr) :
    (contractOfSchema source m params e).1.Distinct := by
  have hbare : Contract.Distinct ⟨none, params, none⟩ :=
    ⟨(fun _ hd => nomatch hd), hparams, (fun _ hd => nomatch hd)⟩
  cases e with
  | none => exact hbare
  | some e =>
    unfold contractOfSchema
    dsimp only
    split
    · next fields hfields => exact distinct_contractOfFields hparams (distinct_objectFields hfields)
    · exact hbare

/-- **The contracts of `Analysis.ofSource?` are `Distinct`.** -/
theorem Analysis.distinct_ofSource? {routeId : String} {source : Path} {params : Option Descriptor}
    {code : String} {a : Analysis} {notices : List Notice} (hparams : ∀ d ∈ params, d.Distinct)
    (h : ofSource? routeId source params code = some (a, notices)) : Contracts.Distinct a.methods := by
  obtain ⟨file, -, h⟩ := Option.bind_eq_some_iff.mp h
  obtain ⟨rfl, -⟩ := Prod.mk.inj (Option.some.inj h)
  intro m c hc
  by_cases hexported : file.declarations.exported m
  · have hsome : some (file.declarations.contract source params m).1 = some c := by
      rw [← hc]
      exact (if_pos hexported).symm
    obtain rfl := Option.some.inj hsome
    exact distinct_contractOfSchema hparams _
  · exact nomatch (if_neg hexported).symm.trans hc

/-- `RouteTypes.descriptor?` has distinct names. -/
theorem RouteTypes.distinct_descriptor? (types : RouteTypes) : ∀ d ∈ types.descriptor?, d.Distinct := by
  intro d hd
  unfold descriptor? at hd
  split at hd
  · exact nomatch hd
  · obtain rfl := Option.some.inj hd
    obtain ⟨names, hmem⟩ := Members.ofList_spec
      (types.params.map fun p => (p.name, Descriptor.primitive .string))
    refine .object _ names fun f hf => ?_
    obtain ⟨param, -, rfl⟩ := List.mem_map.mp (hmem f hf)
    exact .primitive _

end RouteContracts
