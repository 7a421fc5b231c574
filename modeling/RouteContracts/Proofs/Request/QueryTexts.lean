import RouteContracts.Inbound.Basic
import RouteContracts.Proofs.Json.NumberText
import RouteContracts.Proofs.Schema.Structure
import RouteContracts.Request.Query

/-! # Texts of query parameters
A query carries scalars and lists of scalars. Each parameter gives its texts under its name, in order, and the
texts of a name are found again among those of all others. A parameter that nests deeper has no texts, and the first
one that does is the one that is complained about.

* `Json.isNested`: the values that no query carries. `Json.InQuery`: values of which nothing gets lost.
* `Query.memberListPairs_eq`: **each parameter gives its texts under its name**, unless one is nested.
* `Inbound.valuesOf_queryPairs`: **the texts of a parameter are found under its name.** -/

namespace RouteContracts

/-! ## Values that a query carries -/

namespace Json

/-- A scalar that a query carries; an integer fits a signed one. -/
inductive IsScalar : Json → Prop where
  | string (s : String) : IsScalar (.string s)
  | bool (b : Bool) : IsScalar (.bool b)
  | number {n : Number} (h : n.IsSigned) : IsScalar (.number n)

/-- A value that a query carries: a scalar, or some scalars in a list. -/
inductive InQuery : Json → Prop where
  | scalar {v : Json} (h : IsScalar v) : InQuery v
  | array {items : List Json} (hne : items ≠ []) (h : ∀ item ∈ items, IsScalar item) : InQuery (.array items)

/-- An array or an object. -/
def isCompound : Json → Bool
  | .array _ | .object _ => true
  | _ => false

/-- **The values that no query carries**: objects, and arrays that hold an array or an object. -/
def isNested : Json → Bool
  | .object _ => true
  | .array items => items.any isCompound
  | _ => false

/-- The texts that stand for a value in a query. -/
def queryTexts : Json → List String
  | .array items => items.filterMap scalarText?
  | v => v.scalarText?.toList

/-- `scalarText?` gives a text for every `IsScalar`. -/
theorem IsScalar.exists_text {v : Json} (h : IsScalar v) : ∃ text, v.scalarText? = some text := by
  cases h with
  | string s => exact ⟨s, rfl⟩
  | bool b => exact ⟨_, rfl⟩
  | number h => exact ⟨_, rfl⟩

theorem IsScalar.ne_null {v : Json} (h : IsScalar v) : v ≠ .null := by
  rintro rfl
  cases h

theorem IsScalar.not_compound {v : Json} (h : IsScalar v) : v.isCompound = false := by
  cases h <;> rfl

theorem InQuery.not_nested {v : Json} (h : InQuery v) : v.isNested = false := by
  cases h with
  | scalar h => cases h <;> rfl
  | array _ h => exact List.any_eq_false.mpr fun item hitem => Bool.eq_false_iff.mp (h item hitem).not_compound

theorem InQuery.ne_null {v : Json} (h : InQuery v) : v ≠ .null := by
  rintro rfl
  cases h with
  | scalar h => cases h

theorem InQuery.queryTexts_ne_nil {v : Json} (h : InQuery v) : v.queryTexts ≠ [] := by
  cases h with
  | scalar h => cases h <;> exact List.cons_ne_nil _ _
  | @array items hne h =>
    obtain ⟨item, rest, rfl⟩ := List.exists_cons_of_ne_nil hne
    obtain ⟨text, htext⟩ := (h item (List.mem_cons_self ..)).exists_text
    rw [queryTexts, List.filterMap_cons_some htext]
    exact List.cons_ne_nil _ _

end Json

/-! ## Pairs -/

namespace Query

/-- `itemPairs` is `scalarText?` of each item, unless one of them `isCompound`. -/
theorem itemPairs_eq (name : String) (items : List Json) :
    itemPairs name items =
      if items.any Json.isCompound then .error (.unsupported name)
      else .ok ((items.filterMap Json.scalarText?).map fun text => (name, text)) := by
  induction items with
  | nil => rfl
  | cons item rest ih =>
    cases item with
    | null => rw [itemPairs, ih]; rfl
    | array _ | object _ => rfl
    | bool _ | number _ | string _ =>
      simp only [itemPairs, ih, Json.scalarText?, Json.isCompound, List.any_cons, Bool.false_or, List.filterMap_cons,
        List.map_cons]
      cases rest.any Json.isCompound <;> rfl

/-- `memberPairs` is `queryTexts` of the value, unless it `isNested`. -/
theorem memberPairs_eq (name : String) (v : Json) :
    memberPairs name v =
      if v.isNested then .error (.unsupported name) else .ok (v.queryTexts.map fun text => (name, text)) := by
  cases v with
  | array items => exact itemPairs_eq name items
  | null | bool _ | number _ | string _ | object _ => rfl

/-- The pairs that some parameters give. -/
def pairsOf (params : Members Json) : List (String × String) :=
  params.flatMap fun m => m.2.queryTexts.map fun text => (m.1, text)

/-- The first parameter, in order, that no query carries. -/
def firstNested? (params : Members Json) : Option (String × Json) := params.find? fun m => m.2.isNested

theorem firstNested?_eq_none {params : Members Json} (h : ∀ m ∈ params, m.2.isNested = false) :
    firstNested? params = none :=
  List.find?_eq_none.mpr fun m hm => Bool.eq_false_iff.mp (h m hm)

/-- **`memberListPairs params` is `pairsOf params`**, or an error that names `firstNested? params`. -/
theorem memberListPairs_eq (params : Members Json) :
    memberListPairs params =
      match firstNested? params with
      | some m => .error (.unsupported m.1)
      | none => .ok (pairsOf params) := by
  induction params with
  | nil => rfl
  | cons m rest ih =>
    obtain ⟨name, v⟩ := m
    have hfirst : firstNested? ((name, v) :: rest) = if v.isNested then some (name, v) else firstNested? rest := by
      rw [firstNested?, List.find?_cons]
      cases v.isNested <;> rfl
    rw [memberListPairs, memberPairs_eq, ih, hfirst]
    cases v.isNested with
    | true => rfl
    | false => cases firstNested? rest <;> rfl

/-- `text` of parameters of which none `isNested` is that of `pairsOf params`. -/
theorem text_eq {params : Members Json} (h : ∀ m ∈ params, m.2.isNested = false) :
    text (some (.object params)) =
      .ok (if (pairsOf params).isEmpty then none else some (Form.encodePairs (pairsOf params))) := by
  rw [text, pairs, memberListPairs_eq, firstNested?_eq_none h]
  rfl

end Query

namespace Inbound

theorem valuesOf_append (pairs others : List (String × String)) (name : String) :
    valuesOf (pairs ++ others) name = valuesOf pairs name ++ valuesOf others name := by
  rw [valuesOf, List.filter_append, List.map_append]
  rfl

/-- `valuesOf` of the texts of one parameter, under its name and under another one. -/
theorem valuesOf_map (texts : List String) (key name : String) :
    valuesOf (texts.map fun text => (key, text)) name = if key = name then texts else [] := by
  by_cases h : key = name <;> simp [valuesOf, List.filter_map, Function.comp_def, h]

/-- **`valuesOf (pairsOf params) name` is `queryTexts` of the parameter of that name**, and nothing if there is none. -/
theorem valuesOf_queryPairs {params : Members Json} (names : (params.map Prod.fst).Nodup) (name : String) :
    valuesOf (Query.pairsOf params) name = (Members.get? name params).elim [] Json.queryTexts := by
  induction params with
  | nil => rfl
  | cons m rest ih =>
    obtain ⟨key, v⟩ := m
    obtain ⟨hkey, hrest⟩ := List.nodup_cons.mp names
    have ih := ih hrest
    have hsplit : Query.pairsOf ((key, v) :: rest) =
        (v.queryTexts.map fun text => (key, text)) ++ Query.pairsOf rest := List.flatMap_cons
    rw [hsplit, valuesOf_append, valuesOf_map, ih, Members.get?]
    split
    · next h =>
      -- the name is given once, so the rest adds nothing to it
      have hnone : Members.get? name rest = none := Members.get?_eq_none_iff.mpr (h ▸ hkey)
      simp [hnone]
    · rfl

end Inbound

end RouteContracts
