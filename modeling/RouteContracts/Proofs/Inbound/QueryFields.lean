import Mathlib.Data.Option.Basic
import RouteContracts.Proofs.Request.QueryTexts
import RouteContracts.Proofs.Schema.Layers

/-! # Fields of queries
A field of a query is a text, a number, a truth value, or a list of such items. A query holds texts only, so that
numbers and the items of lists other than texts need a layer that converts them; a truth value is read from the
presence of its name. Every value of such fields is read back from the texts that a query carries for it.

* `Schema.QueryItem`, `Schema.QueryField`: the fields that are meant. `Schema.queryViolations_eq_nil`: the check of
  shapes has nothing against them.
* `Json.Agrees`, `Json.ReadsAs`: **what a value is read as.**
* `Schema.QueryField.check_fieldValue?`: **a field accepts the texts of its values.**
* `Schema.check_searchMembers`: an object of such fields accepts the query of its values. -/

namespace RouteContracts

/-! ## Reading values -/

namespace Json

/-- The same scalar, numbers by value. -/
inductive Agrees : Json → Json → Prop where
  | string (s : String) : Agrees (.string s) (.string s)
  | bool (b : Bool) : Agrees (.bool b) (.bool b)
  | number {n m : Number} (h : m.value = n.value) : Agrees (.number n) (.number m)

/-- What a parameter is read as: lists item by item, texts and numbers as the same, and **a truth value as its
presence**. -/
inductive ReadsAs : Json → Json → Prop where
  | string (s : String) : ReadsAs (.string s) (.string s)
  | presence (b : Bool) : ReadsAs (.bool b) (.bool true)
  | number {n m : Number} (h : m.value = n.value) : ReadsAs (.number n) (.number m)
  | array {items others : List Json} (h : List.Forall₂ Agrees items others) :
      ReadsAs (.array items) (.array others)

end Json

namespace Inbound

/-- `get?` of the name of a field in `searchMembers` is its `fieldValue?`. -/
theorem get?_searchMembers {fields : List (String × Schema)} (names : (fields.map Prod.fst).Nodup)
    {f : String × Schema} (hf : f ∈ fields) (pairs : List (String × String)) :
    Members.get? f.1 (searchMembers pairs fields) = fieldValue? pairs f.1 f.2 :=
  Members.get?_filterMap names (fun f => fieldValue? pairs f.1 f.2) hf

end Inbound

namespace Schema

/-! ## Fields -/

/-- An item of a list in a query. -/
inductive QueryItem : Schema → Prop where
  | string {coerced : Bool} {s : Schema} (h : Layered .string coerced s) : QueryItem s
  | number {s : Schema} (h : Layered .number true s) : QueryItem s
  | boolean {s : Schema} (h : Layered .boolean true s) : QueryItem s

/-- A field of a query. -/
inductive QueryField : Schema → Prop where
  | string {coerced : Bool} {s : Schema} (h : Layered .string coerced s) : QueryField s
  | number {s : Schema} (h : Layered .number true s) : QueryField s
  | boolean {coerced : Bool} {s : Schema} (h : Layered .boolean coerced s) : QueryField s
  | array {coerced : Bool} {element s : Schema} (item : QueryItem element) (h : Layered (.array element) coerced s) :
      QueryField s

/-- `toDescriptor.base` of a `Layered` schema is that of its core. -/
theorem Layered.toDescriptor_base {core s : Schema} {coerced : Bool} (h : Layered core coerced s) :
    s.toDescriptor.base = core.toDescriptor.base := by
  rw [← Schema.toDescriptor_base, ← Schema.toDescriptor_base, h.base_eq]

theorem QueryItem.isQueryLeaf {element : Schema} (h : QueryItem element) : element.toDescriptor.isQueryLeaf = true := by
  cases h with
  | string h | number h | boolean h =>
    rw [Descriptor.isQueryLeaf, h.toDescriptor_base]
    rfl

/-- **The shape of a `QueryField` has `isQueryCompatible`.** -/
theorem QueryField.isQueryCompatible {field : Schema} (h : QueryField field) :
    field.toDescriptor.isQueryCompatible = true := by
  cases h with
  | string h | number h | boolean h =>
    rw [Descriptor.isQueryCompatible, h.toDescriptor_base]
    rfl
  | array item h =>
    rw [Descriptor.isQueryCompatible, h.toDescriptor_base]
    exact item.isQueryLeaf

/-- An object of `QueryField`s has no `queryViolations`. -/
theorem queryViolations_eq_nil {fields : List (String × Schema)} (hfields : ∀ f ∈ fields, QueryField f.2) :
    ∃ shape, (Schema.object fields).toDescriptor.asObject? = some shape ∧ shape.queryViolations = [] := by
  refine ⟨_, by rw [toDescriptor_object]; rfl, ?_⟩
  simp only [ObjectShape.queryViolations, List.map_eq_nil_iff, List.filter_eq_nil_iff]
  intro g hg
  obtain ⟨f, hf, rfl⟩ := List.mem_map.mp hg
  -- The layer for absence that is taken off a field does not count.
  have hbase : f.2.toDescriptor.splitAbsence.2.isQueryCompatible = f.2.toDescriptor.isQueryCompatible := by
    rw [Descriptor.isQueryCompatible, Descriptor.base_splitAbsence, Descriptor.isQueryCompatible]
  simp [hbase, (hfields f hf).isQueryCompatible]

/-- A `Layered` number that is converted accepts a text as the number that `readNumber?` reads in it. -/
theorem Layered.check_numberText {s : Schema} (h : Layered .number true s) {text : String} {n : Json.Number}
    (hread : readNumber? text = some n) (path : Trail) (issues : List Issue) :
    s.check (some (.string text)) path issues = ⟨some (.number n), issues⟩ := by
  rw [h.check_some rfl Json.noConfusion]
  simp only [coerceTo, hread, if_true]
  rfl

/-- A `Layered` text accepts a text as it is. -/
theorem Layered.check_text {s : Schema} {coerced : Bool} (h : Layered .string coerced s) (text : String)
    (path : Trail) (issues : List Issue) :
    s.check (some (.string text)) path issues = ⟨some (.string text), issues⟩ := by
  rw [h.check_some rfl Json.noConfusion]
  cases coerced <;> rfl

/-- A `Layered` truth value accepts a truth value as it is. -/
theorem Layered.check_truth {s : Schema} {coerced : Bool} (h : Layered .boolean coerced s) (b : Bool)
    (path : Trail) (issues : List Issue) :
    s.check (some (.bool b)) path issues = ⟨some (.bool b), issues⟩ := by
  rw [h.check_some rfl Json.noConfusion]
  cases coerced <;> rfl

/-- A `Layered` truth value that is converted accepts its text. -/
theorem Layered.check_truthText {s : Schema} (h : Layered .boolean true s) (b : Bool) (path : Trail)
    (issues : List Issue) :
    s.check (some (.string (if b then "true" else "false"))) path issues = ⟨some (.bool b), issues⟩ := by
  rw [h.check_some rfl Json.noConfusion]
  cases b <;> rfl

/-- **A `QueryItem` reads a scalar back from its text**, as a value that it `Agrees` with. -/
theorem QueryItem.check_text {element : Schema} (h : QueryItem element) {item : Json} (hitem : item.IsScalar)
    (hshape : element.toDescriptor.Inhabits (some item)) (path : Trail) (issues : List Issue) :
    ∃ text out, item.scalarText? = some text ∧
      element.check (some (.string text)) path issues = ⟨some out, issues⟩ ∧ item.Agrees out := by
  cases h with
  | string h =>
    cases h.inhabits_core hitem.ne_null hshape with
    | string s => exact ⟨s, .string s, rfl, h.check_text s path issues, .string s⟩
  | number h =>
    cases h.inhabits_core hitem.ne_null hshape with
    | number n =>
      cases hitem with
      | number hsigned =>
        obtain ⟨m, hread, hvalue⟩ := readNumber?_urlText hsigned
        exact ⟨n.urlText, .number m, rfl, h.check_numberText hread path issues, .number hvalue⟩
  | boolean h =>
    cases h.inhabits_core hitem.ne_null hshape with
    | boolean b => exact ⟨_, .bool b, rfl, h.check_truthText b path issues, .bool b⟩

/-- The outputs of a `QueryItem` for the texts of items agree with these, without issues. -/
theorem QueryItem.agree_outputs {element : Schema} (h : QueryItem element) {items : List Json}
    (hitems : ∀ item ∈ items, item.IsScalar) (hshape : ∀ item ∈ items, element.toDescriptor.Inhabits (some item)) :
    (∀ given ∈ (items.filterMap Json.scalarText?).map Json.string, (checkItem element given).issues = []) ∧
      List.Forall₂ Json.Agrees items (((items.filterMap Json.scalarText?).map Json.string).map fun given =>
        (checkItem element given).output.getD .null) := by
  induction items with
  | nil => exact ⟨by simp, .nil⟩
  | cons item rest ih =>
    obtain ⟨hitem, hrest⟩ := List.forall_mem_cons.mp hitems
    obtain ⟨hinhabits, hshapes⟩ := List.forall_mem_cons.mp hshape
    obtain ⟨hissues, hagree⟩ := ih hrest hshapes
    obtain ⟨text, out, htext, hcheck, hout⟩ := h.check_text hitem hinhabits [] []
    have hread : checkItem element (.string text) = ⟨some out, []⟩ := hcheck
    rw [List.filterMap_cons_some htext, List.map_cons, List.map_cons, List.forall_mem_cons, hread]
    exact ⟨⟨rfl, hissues⟩, .cons hout hagree⟩

/-- An array of `QueryItem`s reads items back from their texts. -/
theorem QueryItem.check_texts {element : Schema} (h : QueryItem element) {items : List Json}
    (hitems : ∀ item ∈ items, item.IsScalar) (hshape : ∀ item ∈ items, element.toDescriptor.Inhabits (some item))
    (path : Trail) (issues : List Issue) :
    ∃ outs, (Schema.array element).check (some (.array ((items.filterMap Json.scalarText?).map Json.string))) path
        issues = ⟨some (.array outs), issues⟩ ∧ List.Forall₂ Json.Agrees items outs := by
  obtain ⟨hissues, hagree⟩ := h.agree_outputs hitems hshape
  refine ⟨_, ?_, hagree⟩
  simp only [check]
  rw [checkItems_eq]
  have hnone : (((items.filterMap Json.scalarText?).map Json.string).zipIdx 0).flatMap (fun p =>
      (checkItem element p.1).issues.map (Issue.below (path ++ [.index p.2]))) = [] := by
    refine List.flatMap_eq_nil_iff.mpr fun p hp => ?_
    rw [hissues p.1 (List.fst_mem_of_mem_zipIdx hp), List.map_nil]
  rw [hnone, List.append_nil]

/-- `fieldValue?` of a name with values, by the base of the field. -/
theorem fieldValue?_of_values {pairs : List (String × String)} {name first : String} {rest : List String}
    (hvalues : Inbound.valuesOf pairs name = first :: rest) (field : Schema) :
    Inbound.fieldValue? pairs name field =
      if field.isArray then some (.array ((first :: rest).map Json.string))
      else if field.isBoolean then some (.bool true)
      else some (.string first) := by
  rw [Inbound.fieldValue?, hvalues]

theorem isArray_of_base {s core : Schema} (h : s.base = core.base) : s.isArray = core.isArray := by
  rw [isArray, isArray, h]

theorem isBoolean_of_base {s core : Schema} (h : s.base = core.base) : s.isBoolean = core.isBoolean := by
  rw [isBoolean, isBoolean, h]

/-- **A `QueryField` accepts `fieldValue?` of a value that is `InQuery`**, and gives what the value `ReadsAs`. -/
theorem QueryField.check_fieldValue? {field : Schema} (h : QueryField field) {v : Json} (hv : v.InQuery)
    (hshape : field.toDescriptor.Inhabits (some v)) {pairs : List (String × String)} {name : String}
    (hvalues : Inbound.valuesOf pairs name = v.queryTexts) (path : Trail) (issues : List Issue) :
    ∃ out, field.check (Inbound.fieldValue? pairs name field) path issues = ⟨some out, issues⟩ ∧ v.ReadsAs out := by
  cases h with
  | string h =>
    cases h.inhabits_core hv.ne_null hshape with
    | string s =>
      rw [fieldValue?_of_values hvalues, isArray_of_base h.base_eq, isBoolean_of_base h.base_eq]
      exact ⟨.string s, h.check_text s path issues, .string s⟩
  | number h =>
    cases h.inhabits_core hv.ne_null hshape with
    | number n =>
      have hsigned : n.IsSigned := by
        cases hv with
        | scalar hv =>
          cases hv with
          | number hsigned => exact hsigned
      obtain ⟨m, hread, hvalue⟩ := readNumber?_urlText hsigned
      rw [fieldValue?_of_values hvalues, isArray_of_base h.base_eq, isBoolean_of_base h.base_eq]
      exact ⟨.number m, h.check_numberText hread path issues, .number hvalue⟩
  | boolean h =>
    cases h.inhabits_core hv.ne_null hshape with
    | boolean b =>
      rw [fieldValue?_of_values hvalues, isArray_of_base h.base_eq, isBoolean_of_base h.base_eq]
      exact ⟨.bool true, h.check_truth true path issues, .presence b⟩
  | @array coerced element _ item h =>
    cases h.inhabits_core hv.ne_null hshape with
    | @array _ items hitems =>
      have hscalars : ∀ item ∈ items, item.IsScalar := by
        cases hv with
        | scalar hv => cases hv
        | array _ hscalars => exact hscalars
      obtain ⟨outs, hcheck, hagree⟩ := item.check_texts hscalars hitems path issues
      -- a list in a query has items, so there are texts under its name
      obtain ⟨first, rest, htexts⟩ := List.exists_cons_of_ne_nil hv.queryTexts_ne_nil
      rw [fieldValue?_of_values (hvalues.trans htexts), isArray_of_base h.base_eq, ← htexts]
      refine ⟨.array outs, ?_, .array hagree⟩
      rw [← hcheck]
      show field.check (some (.array _)) path issues = _
      rw [h.check_some rfl Json.noConfusion]
      cases coerced <;> rfl

/-! ## Objects of fields -/

/-- A `QueryField` accepts a missing value where its shape does. -/
theorem QueryField.check_none {field : Schema} (h : QueryField field) (hshape : field.toDescriptor.Inhabits none)
    (path : Trail) (issues : List Issue) : field.check none path issues = ⟨none, issues⟩ := by
  cases h with
  | string h => exact h.check_none (by rintro ⟨⟩) hshape path issues
  | number h => exact h.check_none (by rintro ⟨⟩) hshape path issues
  | boolean h => exact h.check_none (by rintro ⟨⟩) hshape path issues
  | array _ h => exact h.check_none (by rintro ⟨⟩) hshape path issues

/-- **An object of `QueryField`s accepts `searchMembers` of the pairs of its values**, and gives what each of them
`ReadsAs`. -/
theorem check_searchMembers {fields : List (String × Schema)} (names : (fields.map Prod.fst).Nodup)
    (hfields : ∀ f ∈ fields, QueryField f.2) {params : Members Json} (paramNames : (params.map Prod.fst).Nodup)
    (hparams : ∀ m ∈ params, m.2.InQuery)
    (hshape : (Schema.object fields).toDescriptor.Inhabits (some (.object params))) (path : Trail)
    (issues : List Issue) :
    ∃ outs, (Schema.object fields).check
        (some (.object (Inbound.searchMembers (Query.pairsOf params) fields))) path issues =
          ⟨some (.object outs), issues⟩ ∧
      ∀ name, Option.Rel Json.ReadsAs (Members.get? name params) (Members.get? name outs) := by
  obtain ⟨hknown, hinhabited⟩ := (inhabits_object_iff names).mp hshape
  have hfield : ∀ f ∈ fields, ∃ out, checkField f (Inbound.searchMembers (Query.pairsOf params) fields) = ⟨out, []⟩ ∧
      Option.Rel Json.ReadsAs (Members.get? f.1 params) out := by
    intro f hf
    have hvalues := Inbound.valuesOf_queryPairs paramNames f.1
    have hinhabits := hinhabited f hf
    rw [checkField, Inbound.get?_searchMembers names hf]
    cases hget : Members.get? f.1 params with
    | none =>
      rw [hget] at hvalues hinhabits
      have hnone : Inbound.fieldValue? (Query.pairsOf params) f.1 f.2 = none := by
        rw [Inbound.fieldValue?, hvalues]
        rfl
      exact ⟨none, hnone ▸ (hfields f hf).check_none hinhabits [] [], .none⟩
    | some v =>
      rw [hget] at hvalues hinhabits
      obtain ⟨out, hcheck, hreads⟩ :=
        (hfields f hf).check_fieldValue? (hparams _ (Members.mem_of_get? hget)) hinhabits hvalues [] []
      exact ⟨some out, hcheck, .some hreads⟩
  simp only [check]
  rw [checkFields_eq]
  have hissues : (fields.flatMap fun f => (checkField f (Inbound.searchMembers (Query.pairsOf params) fields)).issues.map
      (Issue.below (path ++ [.key f.1]))) = [] := by
    refine List.flatMap_eq_nil_iff.mpr fun f hf => ?_
    obtain ⟨out, hcheck, -⟩ := hfield f hf
    rw [hcheck, List.map_nil]
  rw [hissues, List.append_nil]
  refine ⟨_, rfl, fun name => ?_⟩
  by_cases hname : name ∈ fields.map Prod.fst
  · obtain ⟨f, hf, rfl⟩ := List.mem_map.mp hname
    obtain ⟨out, hcheck, hrel⟩ := hfield f hf
    rw [Members.get?_filterMap names
      (fun f => (checkField f (Inbound.searchMembers (Query.pairsOf params) fields)).output) hf, hcheck]
    exact hrel
  · -- Neither side has a member that is no field.
    have hparam : Members.get? name params = none := by
      rw [Members.get?_eq_none_iff]
      intro hmem
      obtain ⟨m, hm, rfl⟩ := List.mem_map.mp hmem
      exact hname (hknown m hm)
    rw [hparam, Members.get?_eq_none_iff.mpr fun hmem => ?_]
    · exact .none
    · obtain ⟨m, hm, rfl⟩ := List.mem_map.mp hmem
      obtain ⟨f, hf, hout⟩ := List.mem_filterMap.mp hm
      obtain ⟨v, -, rfl⟩ := Option.map_eq_some_iff.mp hout
      exact hname (List.mem_map_of_mem hf)

end Schema

end RouteContracts
