import RouteContracts.Proofs.Request.QueryTexts
import RouteContracts.Request.Client

/-! # Search parameters that are refused
A query carries scalars and lists of scalars. Whether a field can hold anything else is told by its shape, before there
are any values; and when there are, the first one that is nested deeper is refused by name, before anything is sent.

* `Descriptor.Fits`: the values that may be given for a shape.
* `Descriptor.Fits.not_nested`: **a field that a query can carry has no nested values.**
* `Query.text_eq_error_iff`: the first nested parameter is complained about.
* `Query.refused_iff_nested`: **nothing else is refused, and what is refused is never sent.** -/

namespace RouteContracts

namespace Descriptor

/-- **The values that may be given for a shape**: `null` everywhere, and else what the base says. -/
inductive Fits : Descriptor → Json → Prop where
  /-- The value `null`. -/
  | null (d : Descriptor) : Fits d .null
  /-- A text. -/
  | string {d : Descriptor} (h : d.base = .primitive .string) (s : String) : Fits d (.string s)
  /-- A number. -/
  | number {d : Descriptor} (h : d.base = .primitive .number) (n : Json.Number) : Fits d (.number n)
  /-- A truth value. -/
  | boolean {d : Descriptor} (h : d.base = .primitive .boolean) (b : Bool) : Fits d (.bool b)
  /-- A list of values for the element. -/
  | array {d element : Descriptor} {items : List Json} (h : d.base = .array element)
      (below : ∀ item ∈ items, Fits element item) : Fits d (.array items)
  /-- An object. -/
  | object {d : Descriptor} {fields : List (String × Descriptor)} {omittable : NameSet}
      (h : d.base = .object fields omittable) (members : Members Json) : Fits d (.object members)
  /-- Anything, where nothing is known. -/
  | undefined {d : Descriptor} (h : d.base = .primitive .undefined) (v : Json) : Fits d v

/-- What `Fits` a leaf of a query is not `isCompound`. -/
theorem Fits.not_compound {d : Descriptor} {v : Json} (h : d.Fits v) (hleaf : d.isQueryLeaf = true) :
    v.isCompound = false := by
  cases h with
  | null | string | number | boolean => rfl
  | array hbase | object hbase | undefined hbase =>
    rw [isQueryLeaf, hbase] at hleaf
    cases hleaf

/-- **What `Fits` a shape with `isQueryCompatible` is not `isNested`.** -/
theorem Fits.not_nested {d : Descriptor} {v : Json} (h : d.Fits v) (hcarried : d.isQueryCompatible = true) :
    v.isNested = false := by
  cases h with
  | null | string | number | boolean => rfl
  | @array _ element items hbase below =>
    -- The element is a leaf, and no leaf has lists or objects as its values.
    rw [isQueryCompatible, hbase] at hcarried
    exact List.any_eq_false.mpr fun item hitem =>
      Bool.eq_false_iff.mp ((below item hitem).not_compound hcarried)
  | object hbase | undefined hbase =>
    rw [isQueryCompatible, hbase] at hcarried
    cases hcarried

end Descriptor

/-- Without `queryViolations`, every field has `isQueryCompatible`. -/
theorem ObjectShape.isQueryCompatible_of_mem {shape : ObjectShape} (h : shape.queryViolations = [])
    {f : String × Descriptor} (hf : f ∈ shape.fields) : f.2.isQueryCompatible = true := by
  rw [queryViolations, List.map_eq_nil_iff, List.filter_eq_nil_iff] at h
  simpa using h f hf

namespace Query

/-- `firstNested?` gives a parameter exactly if one `isNested`. -/
theorem exists_firstNested?_iff {params : Members Json} :
    (∃ m, firstNested? params = some m) ↔ ∃ m ∈ params, m.2.isNested = true := by
  rw [← Option.isSome_iff_exists, firstNested?, List.find?_isSome]

/-- **`text params` is an error exactly for `firstNested? params`**, which it names. -/
theorem text_eq_error_iff {params : Members Json} {why : QueryError} :
    text (some (.object params)) = .error why ↔ ∃ m, firstNested? params = some m ∧ why = .unsupported m.1 := by
  rw [text, pairs, memberListPairs_eq]
  cases firstNested? params with
  | none =>
    constructor
    · rintro ⟨⟩
    · rintro ⟨m, ⟨⟩, -⟩
  | some m =>
    constructor
    · rintro ⟨⟩
      exact ⟨m, rfl, rfl⟩
    · rintro ⟨m, ⟨⟩, rfl⟩
      rfl

end Query

/-- `send` of a request that `prepare` refuses does not call the transport. -/
theorem Client.send_of_error {μ : Type → Type} [Monad μ] {ρ : Type} {client : Client μ ρ} {method : Method}
    {pattern : String} {options : RequestOptions} {why : RequestError}
    (h : Outgoing.prepare client.base method pattern options = .error why) :
    client.send method pattern options = pure (.error why, []) := by
  rw [send, h]

/-- `prepare` refuses a request with a nested parameter: for its path, or else for `firstNested? params`. -/
theorem Outgoing.prepare_of_nested (base : String) (method : Method) (pattern : String) {options : RequestOptions}
    {params : Members Json} (hgiven : options.searchParams = some (.object params)) {m : String × Json}
    (hm : Query.firstNested? params = some m) :
    ∃ why, prepare base method pattern options = .error why ∧
      ∀ path, Outgoing.path pattern options = .ok path → why = .searchParam m.1 := by
  have hquery : Outgoing.query options = .error (.searchParam m.1) := by
    rw [query, hgiven, Query.text_eq_error_iff.mpr ⟨m, hm, rfl⟩]
  rw [prepare, hquery]
  -- The path is built first, and what is wrong with it is told first.
  cases hpath : Outgoing.path pattern options with
  | error why => exact ⟨why, rfl, nofun⟩
  | ok path => exact ⟨_, rfl, fun _ _ => rfl⟩

namespace Query

/-- **What is refused, and why.** Values that `Fits` a shape without `queryViolations` have a `text`. Whatever the
values are, `text` is an error exactly if one `isNested`, that is an object or an array that holds an array or an
object, and names `firstNested?`. Then no transport is called, whatever it does: the whole effect of `send` is `pure
(.error why, [])`, and `why` is that parameter unless there is no path either. -/
theorem refused_iff_nested (params : Members Json) :
    (∀ shape : ObjectShape, shape.queryViolations = [] →
      (∀ m ∈ params, ∃ d, (m.1, d) ∈ shape.fields ∧ d.Fits m.2) → ∃ query, text (some (.object params)) = .ok query) ∧
    ((∃ why, text (some (.object params)) = .error why) ↔ ∃ m ∈ params, m.2.isNested = true) ∧
    (∀ why, text (some (.object params)) = .error why ↔ ∃ m, firstNested? params = some m ∧ why = .unsupported m.1) ∧
    ∀ (μ : Type → Type) [Monad μ] (ρ : Type) (client : Client μ ρ) (method : Method) (pattern : String)
      (options : RequestOptions), options.searchParams = some (.object params) → (∃ m ∈ params, m.2.isNested = true) →
      ∃ why, client.send method pattern options = pure (.error why, []) ∧
        ∀ path, Outgoing.path pattern options = .ok path →
          ∃ m, firstNested? params = some m ∧ why = .searchParam m.1 := by
  refine ⟨fun shape hshape hfits => ?_, ?_, fun why => text_eq_error_iff, ?_⟩
  · have hplain : ∀ m ∈ params, m.2.isNested = false := by
      intro m hm
      obtain ⟨d, hd, hfit⟩ := hfits m hm
      exact hfit.not_nested (shape.isQueryCompatible_of_mem hshape hd)
    exact ⟨_, text_eq hplain⟩
  · rw [← exists_firstNested?_iff]
    constructor
    · rintro ⟨why, hwhy⟩
      obtain ⟨m, hm, -⟩ := text_eq_error_iff.mp hwhy
      exact ⟨m, hm⟩
    · rintro ⟨m, hm⟩
      exact ⟨_, text_eq_error_iff.mpr ⟨m, hm, rfl⟩⟩
  · intro μ _ ρ client method pattern options hgiven hnested
    obtain ⟨m, hm⟩ := exists_firstNested?_iff.mpr hnested
    obtain ⟨why, hprepare, hwhy⟩ := Outgoing.prepare_of_nested client.base method pattern hgiven hm
    exact ⟨why, Client.send_of_error hprepare, fun path hpath => ⟨m, hm, hwhy path hpath⟩⟩

/-! ## A list of posts -/

/-- What a list of posts is asked for. -/
def postsShape : ObjectShape :=
  ⟨[("tags", .array (.nullable (.primitive .string))), ("page", .optional (.primitive .number)),
    ("draft", .primitive .boolean)], ["page"]⟩

/-- Values for `postsShape`, some of them `null`. -/
def postsGiven : Members Json :=
  [("draft", .bool false), ("tags", .array [.string "a", .null]), ("page", .null)]

/-- A text, and two parameters that no query carries. -/
def filterGiven : Members Json :=
  [("q", .string "x"), ("filter", .object [("a", .bool true)]), ("deep", .array [.null, .array []])]

/-- A client that keeps what it is told to send. -/
def recorder : Client (StateM (List Outgoing)) Nat where
  transport request := do
    modify (· ++ [request])
    pure (.ok 200)
  base := "http://h"

/-- The posts are asked for; the filter is named, and nothing is sent. -/
theorem refused_iff_nested_filter : postsShape.queryViolations = [] ∧
    (∃ query, text (some (.object postsGiven)) = .ok query) ∧
    text (some (.object filterGiven)) = .error (.unsupported "filter") ∧
    (recorder.send .get "/posts" ⟨none, none, some (.object filterGiven), [], none⟩).run [] =
      ((.error (.searchParam "filter"), []), []) := by
  have hshape : postsShape.queryViolations = [] := rfl
  have hfits : ∀ m ∈ postsGiven, ∃ d, (m.1, d) ∈ postsShape.fields ∧ d.Fits m.2 := by
    intro m hm
    simp only [postsGiven, List.mem_cons, List.not_mem_nil, or_false] at hm
    rcases hm with rfl | rfl | rfl
    · exact ⟨.primitive .boolean, by simp [postsShape], .boolean rfl false⟩
    · refine ⟨.array (.nullable (.primitive .string)), by simp [postsShape], .array rfl fun item hitem => ?_⟩
      simp only [List.mem_cons, List.not_mem_nil, or_false] at hitem
      rcases hitem with rfl | rfl
      · exact .string rfl "a"
      · exact .null _
    · exact ⟨.optional (.primitive .number), by simp [postsShape], .null _⟩
  have hfirst : firstNested? filterGiven = some ("filter", .object [("a", .bool true)]) := rfl
  have hpath : Outgoing.path "/posts" ⟨none, none, some (.object filterGiven), [], none⟩ = .ok "/posts" := by cbv
  obtain ⟨-, -, hwhy, hsend⟩ := refused_iff_nested filterGiven
  obtain ⟨why, hsent, hreason⟩ := hsend _ _ recorder .get "/posts"
    ⟨none, none, some (.object filterGiven), [], none⟩ rfl ⟨_, List.mem_cons_of_mem _ List.mem_cons_self, rfl⟩
  obtain ⟨m, hm, rfl⟩ := hreason _ hpath
  obtain rfl := Option.some.inj (hfirst.symm.trans hm)
  refine ⟨hshape, (refused_iff_nested postsGiven).1 postsShape hshape hfits, (hwhy _).mpr ⟨_, hfirst, rfl⟩, ?_⟩
  rw [hsent]
  rfl

end Query

end RouteContracts
