import Mathlib.Data.List.Forall2
import RouteContracts.Proofs.Inbound.QueryFields
import RouteContracts.Proofs.Url.Query

/-! # Reading queries back
The text of a query has one pair for each scalar that its parameters hold, in their order, and loses nothing but
`null`. A server gathers the texts of a name again, wherever they stand; a field that takes texts, or lists of them, is
given the texts of its parameter unchanged, whatever these are made of.

* `Query.scalarsOf`: the scalars of some parameters, with the name of each. `Query.Writes`: their pairs.
* `Schema.Takes`: the values that a field is given unchanged. `Schema.Takes.get?_searchMembers`: **they are read from
  their texts.**
* `Query.text_readBack`: **a query loses nothing but `null`.** -/

namespace RouteContracts

/-! ## Scalars of parameters -/

namespace Json

/-- What a parameter holds: the items of an array, or the value itself, but no `null`. -/
def scalars : Json → List Json
  | .array items => items.filter fun item => !item.isNull
  | .null => []
  | v => [v]

/-- `scalarText?` gives a text for a scalar that is not `null`. -/
theorem exists_scalarText? {v : Json} (hplain : v.isCompound = false) (hnull : v.isNull = false) :
    ∃ text, v.scalarText? = some text := by
  cases v with
  | bool _ | number _ | string _ => exact ⟨_, rfl⟩
  | null => cases hnull
  | array _ | object _ => cases hplain

/-- `scalarText?` of items of which none `isCompound` gives the texts of those other than `null`. -/
theorem forall₂_filterMap_scalarText? {items : List Json} (h : items.any isCompound = false) :
    List.Forall₂ (fun v text => v.scalarText? = some text) (items.filter fun item => !item.isNull)
      (items.filterMap scalarText?) := by
  induction items with
  | nil => exact .nil
  | cons item rest ih =>
    obtain ⟨hplain, hrest⟩ := Bool.or_eq_false_iff.mp (List.any_cons.symm.trans h)
    cases hnull : item.isNull with
    | true =>
      -- A `null` is left out on both sides.
      have hnone : item.scalarText? = none := by
        cases item with
        | null => rfl
        | bool _ | number _ | string _ | array _ | object _ => cases hnull
      rw [List.filter_cons_of_neg (by simp [hnull]), List.filterMap_cons_none hnone]
      exact ih hrest
    | false =>
      obtain ⟨text, htext⟩ := exists_scalarText? hplain hnull
      rw [List.filter_cons_of_pos (by simp [hnull]), List.filterMap_cons_some htext]
      exact .cons htext (ih hrest)

/-- **`v.queryTexts` has one text for each of `v.scalars`**, where `v` is not `isNested`. -/
theorem forall₂_queryTexts {v : Json} (h : v.isNested = false) :
    List.Forall₂ (fun v text => v.scalarText? = some text) v.scalars v.queryTexts := by
  cases v with
  | null => exact .nil
  | bool _ | number _ | string _ => exact .cons rfl .nil
  | array items => exact forall₂_filterMap_scalarText? h
  | object _ => cases h

end Json

namespace Query

/-- The scalars that some parameters hold, in order, each with the name of its parameter. -/
def scalarsOf (params : Members Json) : List (String × Json) :=
  params.flatMap fun m => m.2.scalars.map fun v => (m.1, v)

/-- A pair of the name and the text of a scalar. -/
def Writes (scalar : String × Json) (pair : String × String) : Prop :=
  pair.1 = scalar.1 ∧ scalar.2.scalarText? = some pair.2

/-- **`pairsOf params` has one pair for each of `scalarsOf params`**, of its name and its text. -/
theorem forall₂_pairsOf {params : Members Json} (h : ∀ m ∈ params, m.2.isNested = false) :
    List.Forall₂ Writes (scalarsOf params) (pairsOf params) := by
  induction params with
  | nil => exact .nil
  | cons m rest ih =>
    obtain ⟨hm, hrest⟩ := List.forall_mem_cons.mp h
    have hhere : List.Forall₂ Writes (m.2.scalars.map fun v => (m.1, v))
        (m.2.queryTexts.map fun text => (m.1, text)) := by
      rw [List.forall₂_map_left_iff, List.forall₂_map_right_iff]
      exact (Json.forall₂_queryTexts hm).imp fun _ _ htext => ⟨rfl, htext⟩
    exact List.rel_append hhere (ih hrest)

end Query

/-! ## Fields that take texts -/

/-- **The values that a field is given unchanged**: texts, and lists of texts that are not empty. -/
inductive Schema.Takes : Schema → Json → Prop where
  /-- A text, where neither a list nor a truth value is declared. -/
  | text {s : Schema} (noArray : s.isArray = false) (noBoolean : s.isBoolean = false) (text : String) :
      Takes s (.string text)
  /-- A list of texts, where a list is declared. -/
  | texts {s : Schema} (isArray : s.isArray = true) {texts : List String} (hne : texts ≠ []) :
      Takes s (.array (texts.map Json.string))

/-- `queryTexts` of a list of texts is that list. -/
theorem Json.queryTexts_strings (texts : List String) : (Json.array (texts.map Json.string)).queryTexts = texts := by
  rw [queryTexts, List.filterMap_map]
  exact List.filterMap_some

section

variable {fields : List (String × Schema)} {f : String × Schema} {params : Members Json} {v : Json}

/-- **`searchMembers` reads a field from `queryTexts` of its parameter**, wherever these stand in the query. -/
theorem Inbound.get?_searchMembers_pairsOf (names : (fields.map Prod.fst).Nodup) (hf : f ∈ fields)
    (paramNames : (params.map Prod.fst).Nodup) (hv : Members.get? f.1 params = some v) {first : String}
    {rest : List String} (htexts : v.queryTexts = first :: rest) :
    Members.get? f.1 (searchMembers (Query.pairsOf params) fields) =
      if f.2.isArray then some (.array ((first :: rest).map Json.string))
      else if f.2.isBoolean then some (.bool true)
      else some (.string first) := by
  rw [get?_searchMembers names hf]
  refine Schema.fieldValue?_of_values ?_ f.2
  rw [valuesOf_queryPairs paramNames, hv]
  exact htexts

/-- **`searchMembers` gives a field its parameter unchanged** if it `Takes` it. -/
theorem Schema.Takes.get?_searchMembers (h : f.2.Takes v) (names : (fields.map Prod.fst).Nodup) (hf : f ∈ fields)
    (paramNames : (params.map Prod.fst).Nodup) (hv : Members.get? f.1 params = some v) :
    Members.get? f.1 (Inbound.searchMembers (Query.pairsOf params) fields) = some v := by
  cases h with
  | text noArray noBoolean text =>
    rw [Inbound.get?_searchMembers_pairsOf names hf paramNames hv rfl, noArray, noBoolean]
    rfl
  | @texts isArray texts hne =>
    obtain ⟨first, rest, rfl⟩ := List.exists_cons_of_ne_nil hne
    rw [Inbound.get?_searchMembers_pairsOf names hf paramNames hv (Json.queryTexts_strings _), isArray]
    rfl

end

namespace Query

/-- **A query loses nothing but `null`.** Parameters of which none `isNested` have a query: `decodePairs` of its text
has one pair for each of `scalarsOf params`, of its name and its text and in order, and there is none exactly if there
are no scalars. Behind an address without question marks and number signs it is the query of `Url.ofText?`; and wherever
it is the query of a URL, a schema that declares search parameters reads from it every text, and every list of texts,
for a field that `Takes` it. -/
theorem text_readBack {params : Members Json} (plain : ∀ m ∈ params, m.2.isNested = false) :
    ∃ query, text (some (.object params)) = .ok query ∧
      List.Forall₂ Writes (scalarsOf params) (query.elim [] Form.decodePairs) ∧
      (query = none ↔ scalarsOf params = []) ∧
      (∀ address : String, (∀ c ∈ address.toList, c ≠ '?' ∧ c ≠ '#') →
        ∀ u, Url.ofText? (address ++ query.elim "" ("?" ++ ·)) = some u → u.query = query) ∧
      ((params.map Prod.fst).Nodup → ∀ schema fields, Inbound.declaredSearch? schema = some fields →
        (fields.map Prod.fst).Nodup → ∀ u : Url, u.query = query →
          ∃ search, Inbound.searchParams? schema u = some (.object search) ∧
            ∀ f ∈ fields, ∀ v, Members.get? f.1 params = some v → f.2.Takes v →
              Members.get? f.1 search = some v) := by
  refine ⟨_, text_eq plain, ?_, ?_, fun address haddress u => Url.query_of_ofText? haddress, ?_⟩
  · rw [Form.elim_decodePairs]
    exact forall₂_pairsOf plain
  · -- There are as many pairs as scalars.
    have hempty : scalarsOf params = [] ↔ pairsOf params = [] := by
      rw [← List.length_eq_zero_iff, (forall₂_pairsOf plain).length_eq, List.length_eq_zero_iff]
    rw [hempty, ← List.isEmpty_iff]
    cases (pairsOf params).isEmpty <;> simp
  · intro paramNames schema fields hdeclared names u hu
    refine ⟨Inbound.searchMembers (pairsOf params) fields, ?_, ?_⟩
    · rw [Inbound.searchParams?, hdeclared, Url.pairs_of_query hu]
      rfl
    · intro f hf v hv htakes
      exact htakes.get?_searchMembers names hf paramNames hv

/-! ## A search for notes -/

/-- A text under the empty name, two tags, a `null`, and the least number with another `null`. -/
def noteParams : Members Json :=
  [("", .string "&= %"), ("ñ", .array [.string "é", .string ""]), ("gone", .null),
    ("n", .array [.null, .number (.int (-9223372036854775808) (by decide))])]

/-- The search is declared below two layers, with a number that is not given. -/
def noteFields : List (String × Schema) :=
  [("page", .optional (.coerce .number)), ("ñ", .array (.optional .string)), ("", .nullable .string)]

/-- A schema with the search parameters `noteFields`. -/
def noteSchema : Schema :=
  .effects (.object [("searchParams", .optional (.object noteFields))]) (.opaqueNamed "known")

/-- The query of `noteParams`. -/
def noteQuery : String := "=%26%3D+%25&%C3%B1=%C3%A9&%C3%B1=&n=-9223372036854775808"

/-- Four pairs are written, and the text and the tags are read from the URL. -/
theorem text_readBack_notes : text (some (.object noteParams)) = .ok (some noteQuery) ∧
    List.Forall₂ Writes (scalarsOf noteParams) (Form.decodePairs noteQuery) ∧
    ∃ u search, Url.ofText? ("http://h/n" ++ "?" ++ noteQuery) = some u ∧
      Inbound.searchParams? noteSchema u = some (.object search) ∧
      Members.get? "" search = some (.string "&= %") ∧
      Members.get? "ñ" search = some (.array [.string "é", .string ""]) := by
  have plain : ∀ m ∈ noteParams, m.2.isNested = false := by
    intro m hm
    simp only [noteParams, List.mem_cons, List.not_mem_nil, or_false] at hm
    rcases hm with rfl | rfl | rfl | rfl <;> rfl
  have hwritten : text (some (.object noteParams)) = .ok (some noteQuery) := rfl
  have hu : Url.ofText? ("http://h/n" ++ "?" ++ noteQuery) =
      some ⟨"http", "", some "h", none, "/n", some noteQuery, none⟩ := rfl
  obtain ⟨query, htext, hdecoded, -, haddress, hread⟩ := text_readBack plain
  obtain rfl := Except.ok.inj (hwritten.symm.trans htext)
  have hquery := haddress "http://h/n" (Text.forall_mem_of_all (by decide)) _ hu
  obtain ⟨search, hsearch, hgiven⟩ := hread (by decide) noteSchema noteFields rfl (by decide) _ hquery
  refine ⟨hwritten, hdecoded, _, search, hu, hsearch, ?_, ?_⟩
  · exact hgiven ("", .nullable .string) (by simp [noteFields]) _ rfl (.text rfl rfl _)
  · exact hgiven ("ñ", .array (.optional .string)) (by simp [noteFields]) _ rfl
      (.texts rfl (List.cons_ne_nil "é" [""]))

end Query

end RouteContracts
