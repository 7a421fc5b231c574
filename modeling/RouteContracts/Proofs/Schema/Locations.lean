import RouteContracts.Proofs.Schema.Absence

/-! # Locations of issues
The path of an issue is a place in the value that was checked, also where the schema saw a converted value: it leads
to a value, or to a field that an object lacks. Layers that put a value of their own in the place of the given one are
left out, since issues with that value would have no place.

* `Json.at?`, `Schema.at?`: the value at a path, and the schema for the values there.
* `Issue.Located`: **an issue with a value that is there, or with a missing field.**
* `Schema.located_check`: the issues of a check, by induction on the schema.
* `Schema.located_of_safeParse`: **every issue that is reported has a place in the value.** -/

namespace RouteContracts

/-! ## Places -/

/-- One step into a value. -/
def Json.step? : Json → Step → Option Json
  | .object members, .key name => Members.get? name members
  | .array items, .index i => items[i]?
  | _, _ => none

/-- The value to which a path leads. -/
def Json.at? (v : Json) (path : Trail) : Option Json := path.foldlM Json.step? v

/-- The schema for what is one step into the values of a schema: of the field with the name, or of the items. -/
def Schema.step? (s : Schema) : Step → Option Schema
  | .key name => s.fields?.bind (Members.get? name)
  | .index _ =>
    match s.base with
    | .array element => some element
    | _ => none

/-- The schema for the values to which a path leads. -/
def Schema.at? (s : Schema) (path : Trail) : Option Schema := path.foldlM Schema.step? s

@[simp] theorem Json.at?_nil (v : Json) : v.at? [] = some v := rfl

theorem Json.at?_cons (v : Json) (step : Step) (path : Trail) :
    v.at? (step :: path) = (v.step? step).bind (·.at? path) := rfl

theorem Schema.at?_cons (s : Schema) (step : Step) (path : Trail) :
    s.at? (step :: path) = (s.step? step).bind (·.at? path) := rfl

/-- **The place of an issue** in a value that was checked against a schema. -/
inductive Issue.Located (s : Schema) (v : Json) (i : Issue) : Prop where
  /-- The path leads to a value that is there. -/
  | present {here : Json} (hpath : v.at? i.path = some here)
  /-- The path leads to an object without the last name, which the schema declares for it. -/
  | missing (outer : Trail) {name : String} {members : Members Json} (inner : Schema) {fields : List (String × Schema)}
      (hpath : i.path = outer ++ [.key name]) (hmessage : i.message = "Required")
      (hobject : v.at? outer = some (.object members)) (hlacks : Members.get? name members = none)
      (hinner : s.at? outer = some inner) (hfields : inner.fields? = some fields)
      (hdeclared : name ∈ fields.map Prod.fst)

namespace Schema

/-! ## Layers and conversions -/

/-- `step?` depends on the base alone. -/
theorem step?_congr {s t : Schema} (h : s.base = t.base) : s.step? = t.step? := by
  funext step
  cases step with
  | key name => simp only [step?, fields?, h]
  | index i => simp only [step?, h]

/-- `step?` of `coerceTo s v` is that of `v`: what is converted, and what it is converted to, has no parts. -/
theorem step?_coerceTo (s : Schema) (v : Json) (step : Step) : (coerceTo s v).step? step = v.step? step := by
  unfold coerceTo
  split
  · cases readNumber? _ <;> rfl
  · split
    · rfl
    · split <;> rfl
  · rfl
  · rfl
  · rfl

/-- `coerceTo s v` is an object only if `v` is. -/
theorem eq_object_of_coerceTo {s : Schema} {v : Json} {members : Members Json} (h : coerceTo s v = .object members) :
    v = .object members := by
  unfold coerceTo at h
  split at h
  · next text => cases hread : readNumber? text <;> rw [hread] at h <;> cases h
  · split at h
    · cases h
    · split at h <;> cases h
  · cases h
  · cases h
  · exact h

end Schema

/-! ## Moving places -/

namespace Issue.Located

variable {s inner : Schema} {v : Json} {i : Issue}

/-- An issue with the path `[]` is `Located` at the value itself. -/
theorem top (h : i.path = []) : i.Located s v := by
  apply Located.present
  show v.at? i.path = some v
  rw [h, Json.at?_nil]

/-- An issue `Located` in a part is `Located`, `below` the step, in the whole. -/
theorem below {step : Step} {part : Json} (hpart : v.step? step = some part) (hinner : s.step? step = some inner)
    (h : i.Located inner part) : (i.below [step]).Located s v := by
  cases h with
  | @present here hpath =>
    apply Located.present
    show v.at? (step :: i.path) = some here
    rw [Json.at?_cons, hpart]
    exact hpath
  | @missing outer name members object fields hpath hmessage hobject hlacks hobjectSchema hfields hdeclared =>
    refine .missing (step :: outer) object ?_ hmessage ?_ hlacks ?_ hfields hdeclared
    · rw [Issue.below, hpath]
      rfl
    · rw [Json.at?_cons, hpart]
      exact hobject
    · rw [Schema.at?_cons, hinner]
      exact hobjectSchema

/-- An issue `Located` below a layer is `Located` above it. -/
theorem of_inner (hinner : s.inner? = some inner) (hi : i.Located inner v) : i.Located s v := by
  have hbase : inner.base = s.base := (Schema.base_of_inner? hinner).symm
  cases hi with
  | present hpath => exact .present hpath
  | @missing outer name members object fields hpath hmessage hobject hlacks hobjectSchema hfields hdeclared =>
    cases outer with
    | nil =>
      obtain rfl := Option.some.inj hobjectSchema
      refine .missing [] s hpath hmessage hobject hlacks rfl ?_ hdeclared
      rw [← hfields, Schema.fields?, Schema.fields?, hbase]
    | cons step outer =>
      refine .missing (step :: outer) object hpath hmessage hobject hlacks ?_ hfields hdeclared
      rw [Schema.at?_cons, ← Schema.step?_congr hbase]
      exact hobjectSchema

/-- An issue `Located` in `coerceTo t v` is `Located` in `v`. -/
theorem of_coerceTo {t : Schema} (hi : i.Located s (coerceTo t v)) : i.Located s v := by
  -- a conversion changes nothing inside a value
  have hat (step : Step) (path : Trail) : (coerceTo t v).at? (step :: path) = v.at? (step :: path) := by
    rw [Json.at?_cons, Json.at?_cons, Schema.step?_coerceTo]
  cases hi with
  | @present here hpath =>
    cases hsteps : i.path with
    | nil => exact .top hsteps
    | cons step path =>
      apply Located.present
      show v.at? i.path = some here
      rw [hsteps, ← hat, ← hsteps]
      exact hpath
  | @missing outer name members object fields hpath hmessage hobject hlacks hobjectSchema hfields hdeclared =>
    refine .missing outer object hpath hmessage ?_ hlacks hobjectSchema hfields hdeclared
    cases outer with
    | nil => exact congrArg some (Schema.eq_object_of_coerceTo (Option.some.inj hobject))
    | cons step outer => exact (hat step outer).symm.trans hobject

end Issue.Located

namespace Schema

/-! ## Issues of checks -/

variable {s : Schema} {v : Json}

/-- The issue of `reject` has the path `[]`. -/
theorem path_reject {why : Mismatch} {i : Issue} (hi : i ∈ (reject why [] []).issues) : i.path = [] := by
  rw [reject, List.nil_append, List.mem_singleton] at hi
  exact congrArg Issue.path hi

/-- The issues of a leaf have the path `[]`. -/
theorem path_leaf (hleaf : s.isLeaf = true) {i : Issue} (hi : i ∈ (s.check (some v) [] []).issues) : i.path = [] := by
  cases s with
  | string | number | boolean | null =>
    simp only [check, expectKind] at hi
    split at hi
    · cases hi
    · exact path_reject hi
  | undefined => exact path_reject hi
  | any => cases hi
  | literal expected =>
    simp only [check] at hi
    split at hi
    · cases hi
    · exact path_reject hi
  | enumeration options =>
    simp only [check] at hi
    split at hi
    · cases hi
    · exact path_reject hi
  | object | array | optional | nullable | default | catching | effects | coerce => cases hleaf

/-- **The issues of `s.check (some v)` are `Located`**, where names are distinct and no layer `replaces`. -/
theorem located_check (names : s.Everywhere fun t => t.fieldNames.Nodup)
    (genuine : s.Everywhere fun t => t.replaces = false) {i : Issue} (hi : i ∈ (s.check (some v) [] []).issues) :
    i.Located s v := by
  induction s generalizing v i with
  | string | number | boolean | null | undefined | any | literal | enumeration => exact .top (path_leaf rfl hi)
  | object fields ih =>
    cases v with
    | object members =>
      simp only [check, checkFields_eq, List.nil_append, List.mem_flatMap, List.mem_map] at hi
      obtain ⟨f, hf, found, hfound, rfl⟩ := hi
      rw [checkField] at hfound
      cases hv : Members.get? f.1 members with
      | some v =>
        rw [hv] at hfound
        have hdeclared : Members.get? f.1 fields = some f.2 := Members.get?_of_mem names.here hf
        exact (ih f hf (names.field hf) (genuine.field hf) hfound).below hv hdeclared
      | none =>
        -- A field without a value has one issue at most, and that is with the field itself.
        rw [hv, check_none (replacing_eq_false (genuine.field hf))] at hfound
        dsimp only at hfound
        split at hfound
        · cases hfound
        · obtain rfl := List.mem_singleton.mp hfound
          exact .missing [] (.object fields) rfl rfl rfl hv rfl rfl (List.mem_map_of_mem hf)
    | null | bool _ | number _ | string _ | array _ => exact .top (path_reject hi)
  | array element ih =>
    cases v with
    | array items =>
      simp only [check, checkItems_eq, List.nil_append, List.mem_flatMap, List.mem_map] at hi
      obtain ⟨p, hp, found, hfound, rfl⟩ := hi
      have hitem : items[p.2]? = some p.1 := List.mk_mem_zipIdx_iff_getElem?.mp hp
      exact (ih names.element genuine.element hfound).below hitem rfl
    | null | bool _ | number _ | string _ | object _ => exact .top (path_reject hi)
  | optional inner ih => exact (ih (names.inner rfl) (genuine.inner rfl) hi).of_inner rfl
  | nullable inner ih =>
    by_cases hv : v = .null
    · rw [hv] at hi
      cases hi
    · rw [check_nullable (by simpa using hv)] at hi
      exact (ih (names.inner rfl) (genuine.inner rfl) hi).of_inner rfl
  | default | catching => exact absurd genuine.here (by simp [replaces])
  | effects inner refinement ih =>
    rw [issues_effects] at hi
    rcases List.mem_append.mp hi with hi | hi
    · exact (ih (names.inner rfl) (genuine.inner rfl) hi).of_inner rfl
    · split at hi
      · -- the message of the refinement is about the value itself
        exact .top (congrArg Issue.path (List.mem_singleton.mp hi))
      · cases hi
  | coerce inner ih => exact (ih (names.inner rfl) (genuine.inner rfl) hi).of_coerceTo.of_inner rfl

/-- **Every issue of `s.safeParse v` is `Located`**: its path leads to a value, or to an object that lacks a field of
the schema. -/
theorem located_of_safeParse (names : s.Everywhere fun t => t.fieldNames.Nodup)
    (genuine : s.Everywhere fun t => t.replaces = false) {issues : List Issue} (h : s.safeParse v = .error issues)
    {i : Issue} (hi : i ∈ issues) : i.Located s v := by
  rw [safeParse] at h
  split at h
  · cases h
  · obtain rfl := Except.error.inj h
    exact located_check names genuine hi

/-- An order has a number, and lines of an article and a count. -/
def orderSchema : Schema :=
  .object [("number", .coerce .number), ("lines", .array (.effects (.object
    [("article", .string), ("count", .nullable (.coerce .number))]) (.opaqueNamed "stocked")))]

/-- An order without a number, the second line of which has a count that is no number and no article. -/
def orderValue : Json :=
  .object [("lines", .array [.object [("article", .string "nut"), ("count", .string "7")],
    .object [("count", .string "few")]])]

/-- What is wrong with `orderValue`. -/
def orderIssues : List Issue :=
  [⟨[.key "number"], "Required"⟩, ⟨[.key "lines", .index 1, .key "article"], "Required"⟩,
    ⟨[.key "lines", .index 1, .key "count"], "Expected number, received string"⟩]

/-- Each of `orderIssues` is `Located`, and the last one with a value. -/
theorem located_of_safeParse_order : (orderSchema.Everywhere fun t => t.fieldNames.Nodup) ∧
    (orderSchema.Everywhere fun t => t.replaces = false) ∧ orderSchema.safeParse orderValue = .error orderIssues ∧
    orderValue.at? [.key "lines", .index 1, .key "count"] = some (.string "few") ∧
    orderValue.at? [.key "lines", .index 1, .key "article"] = none ∧
    ∀ i ∈ orderIssues, i.Located orderSchema orderValue := by
  have names : orderSchema.Everywhere fun t => t.fieldNames.Nodup := by decide
  have genuine : orderSchema.Everywhere fun t => t.replaces = false := by decide
  have parsed : orderSchema.safeParse orderValue = .error orderIssues := rfl
  exact ⟨names, genuine, parsed, rfl, rfl, fun i hi => located_of_safeParse names genuine parsed hi⟩

/-- An issue with a default has no place: the value has nothing under the name of the field. -/
example : (Schema.object [("buyer", .default (.object [("name", .string)]) (.object []))]).safeParse (.object []) =
    .error [⟨[.key "buyer", .key "name"], "Required"⟩] ∧ (Json.object []).at? [.key "buyer"] = none := ⟨rfl, rfl⟩

end Schema

end RouteContracts
