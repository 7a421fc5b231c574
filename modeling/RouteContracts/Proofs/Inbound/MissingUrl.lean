import RouteContracts.Proofs.Inbound.Independence

/-! # The hint at a missing URL
A rejection hints at a missing URL when all that is wrong is the place of the search parameters itself. Where they are
declared as an object, a URL always puts an object there, and what is wrong with an object is wrong inside of it; so the
hint is never given with a URL. Without one there is nothing in that place, which is all that is wrong exactly when
nothing may be missing there and everything else is accepted.

* `Schema.ObjectUnder`: an object under layers, and whether one of them lets it be missing.
* `Schema.ObjectUnder.check_object`, `Schema.ObjectUnder.check_none`: what these make of an object, and of nothing.
* `Inbound.missingUrl_iff`: **when the hint is given.** -/

namespace RouteContracts

namespace Schema

/-! ## Objects under layers -/

/-- An object of some fields under layers for absence, for `null`, for conversion and for conditions of which only the
name is known, and whether the first are among them. -/
inductive ObjectUnder (fields : List (String × Schema)) : Bool → Schema → Prop where
  /-- No layer. -/
  | object : ObjectUnder fields false (.object fields)
  /-- A layer for absence. -/
  | optional {omittable : Bool} {s : Schema} (h : ObjectUnder fields omittable s) :
      ObjectUnder fields true (.optional s)
  /-- A layer for `null`. -/
  | nullable {omittable : Bool} {s : Schema} (h : ObjectUnder fields omittable s) :
      ObjectUnder fields omittable (.nullable s)
  /-- A layer for conversion. -/
  | coerce {omittable : Bool} {s : Schema} (h : ObjectUnder fields omittable s) :
      ObjectUnder fields omittable (.coerce s)
  /-- A condition of which only the name is known. -/
  | effects {omittable : Bool} {s : Schema} {r : Refinement} (hr : r.check = none)
      (h : ObjectUnder fields omittable s) : ObjectUnder fields omittable (.effects s r)

/-- `.effects inner r` checks as `inner` does, where `r` is only known by name. -/
theorem check_effects_of_named {inner : Schema} {r : Refinement} (hr : r.check = none) (v : Option Json) (path : Trail)
    (issues : List Issue) : (Schema.effects inner r).check v path issues = inner.check v path issues := by
  have hholds (out : Json) : r.holds out = true := by rw [Refinement.holds, hr, Option.elim_none]
  rw [check]
  split
  · next out _ => rw [if_neg fun h => Bool.false_ne_true (h.2.symm.trans (hholds out))]
  · rfl

/-- `coerceTo s` leaves an object as it is. -/
theorem coerceTo_object (s : Schema) (members : Members Json) : coerceTo s (.object members) = .object members := by
  cases s <;> rfl

namespace ObjectUnder

variable {fields : List (String × Schema)} {omittable : Bool} {s : Schema}

/-- `s.base = .object fields` where `ObjectUnder`. -/
theorem base_eq (h : ObjectUnder fields omittable s) : s.base = .object fields := by
  induction h with
  | object => rfl
  | optional _ ih | nullable _ ih | coerce _ ih | effects _ _ ih => exact ih

/-- **`s.check` of an object is that of `.object fields`**, as if there were no layers. -/
theorem check_object (h : ObjectUnder fields omittable s) (members : Members Json) :
    s.check (some (.object members)) [] [] = (Schema.object fields).check (some (.object members)) [] [] := by
  induction h with
  | object => rfl
  | optional _ ih | nullable _ ih => exact ih
  | @coerce _ s _ ih =>
    rw [check, Option.map_some, coerceTo_object]
    exact ih
  | effects hr _ ih =>
    rw [check_effects_of_named hr]
    exact ih

/-- **`s.check none`** has one issue, `Mismatch.required`, unless the object may be missing. -/
theorem check_none (h : ObjectUnder fields omittable s) :
    s.check none [] [] = ⟨none, if omittable then [] else [⟨[], Mismatch.required.message⟩]⟩ := by
  induction h with
  | object => rfl
  | optional _ _ => rfl
  | nullable _ ih => exact ih
  | coerce _ ih => exact ih
  | effects hr _ ih =>
    rw [check_effects_of_named hr]
    exact ih

/-- The issues of `s.check` of an object are not at the object itself. -/
theorem path_ne_nil (h : ObjectUnder fields omittable s) {members : Members Json} {i : Issue}
    (hi : i ∈ (s.check (some (.object members)) [] []).issues) : i.path ≠ [] := by
  rw [h.check_object, Schema.check_object] at hi
  obtain ⟨f, -, hmem⟩ := List.mem_flatMap.mp hi
  obtain ⟨inner, -, rfl⟩ := List.mem_map.mp hmem
  exact List.cons_ne_nil _ _

end ObjectUnder

end Schema

/-! ## Issues at a field -/

/-- `(i.below [.key name]).isAt field` exactly if `name = field` and the issue is about the value as a whole. -/
theorem Issue.isAt_below_iff (i : Issue) (name field : String) :
    (i.below [.key name]).isAt field = true ↔ name = field ∧ i.path = [] := by
  rw [Issue.isAt, Issue.below, beq_iff_eq, List.singleton_append, List.cons.injEq, Step.key.injEq]

/-- All `fieldIssues` are `isAt name` exactly if the other fields have none, and that field has none inside of its
value. -/
theorem Schema.all_isAt_iff (fields : List (String × Schema)) (members : Members Json) (name : String) :
    ((Schema.fieldIssues fields members).all fun i => i.isAt name) = true ↔
      ∀ f ∈ fields, ∀ i ∈ (Schema.checkField f members).issues, f.1 = name ∧ i.path = [] := by
  simp only [Schema.fieldIssues, List.all_eq_true, List.mem_flatMap, List.mem_map]
  constructor
  · intro h f hf i hi
    exact (Issue.isAt_below_iff i f.1 name).mp (h _ ⟨f, hf, i, hi, rfl⟩)
  · rintro h _ ⟨f, hf, i, hi, rfl⟩
    exact (Issue.isAt_below_iff i f.1 name).mpr (h f hf i hi)

namespace Inbound

/-- `missingUrl` holds exactly if there are `fieldIssues`, and none but about the search parameters as a whole. -/
theorem exists_missingUrl_iff {fields : List (String × Schema)} {members : Members Json} {i : Inbound}
    (h : i.assembled (.object fields) = .object members) :
    (∃ r, validate (.object fields) i = .error r ∧ r.missingUrl = true) ↔
      Schema.fieldIssues fields members ≠ [] ∧ ∀ f ∈ fields, ∀ issue ∈ (Schema.checkField f members).issues,
        f.1 = searchParamsField ∧ issue.path = [] := by
  rw [validate_object h, ← Schema.all_isAt_iff]
  cases hissues : Schema.fieldIssues fields members with
  | nil =>
    constructor
    · rintro ⟨r, hr, -⟩
      cases hr
    · exact fun h => absurd rfl h.1
  | cons issue issues =>
    constructor
    · rintro ⟨r, hr, hmissing⟩
      obtain rfl : Rejection.mk (issue :: issues) = r := Except.error.inj hr
      exact ⟨List.cons_ne_nil _ _, hmissing⟩
    · exact fun h => ⟨⟨issue :: issues⟩, rfl, h.2⟩

section

variable {fields searchFields : List (String × Schema)} {search : Schema} {omittable : Bool}
  (names : (fields.map Prod.fst).Nodup) (hsearch : Members.get? searchParamsField fields = some search)
  (hunder : Schema.ObjectUnder searchFields omittable search)

include names hsearch in
/-- No other field has the name `searchParamsField`. -/
theorem eq_search_of_name {f : String × Schema} (hf : f ∈ fields) (hname : f.1 = searchParamsField) : f.2 = search := by
  have hget := Members.get?_of_mem names hf
  rw [hname, hsearch] at hget
  exact (Option.some.inj hget).symm

include names hsearch hunder

/-- **With a URL, `missingUrl` never holds**: an object is in the place of the search parameters. -/
theorem missingUrl_of_carries {u : Url} {i : Inbound} {body : Members Json} (hcarries : Carries u i body) {r : Rejection}
    (hr : validate (.object fields) i = .error r) : r.missingUrl = false := by
  have hassembled := hcarries.assembled (Schema.declaredSearch?_of_base hsearch hunder.base_eq)
  obtain ⟨hget, -⟩ := Carries.get?_assembled hcarries.nodup (.object (searchMembers u.pairs searchFields))
  rw [Bool.eq_false_iff]
  intro hmissing
  obtain ⟨hne, hall⟩ := (exists_missingUrl_iff hassembled).mp ⟨r, hr, hmissing⟩
  -- already the first issue would be about the object as a whole
  obtain ⟨issue, hissue⟩ := List.exists_mem_of_ne_nil _ hne
  obtain ⟨f, hf, hbelow⟩ := List.mem_flatMap.mp hissue
  obtain ⟨inner, hinner, -⟩ := List.mem_map.mp hbelow
  obtain ⟨hname, hpath⟩ := hall f hf inner hinner
  rw [Schema.checkField, eq_search_of_name names hsearch hf hname, hname, hget] at hinner
  exact hunder.path_ne_nil hinner hpath

/-- **Without a URL, `missingUrl` holds** exactly if the search parameters may not be missing and every other field
`Passes` what the body has for it. -/
theorem missingUrl_request_iff (request : InboundRequest) :
    (∃ r, validate (.object fields) (.request request) = .error r ∧ r.missingUrl = true) ↔
      omittable = false ∧
        ∀ f ∈ fields, f.1 ≠ searchParamsField → f.2.Passes (Members.get? f.1 request.bodyMembers) := by
  obtain ⟨members, hmembers, hnone, hothers⟩ := exists_members_merged (.object fields) request.nodup_bodyMembers none
  have hassembled : (Inbound.request request).assembled (.object fields) = .object members := hmembers
  have hsearchIssues : ∀ f ∈ fields, f.1 = searchParamsField → (Schema.checkField f members).issues =
      if omittable then [] else [⟨[], Mismatch.required.message⟩] := by
    intro f hf hname
    rw [Schema.checkField, eq_search_of_name names hsearch hf hname, hname, hnone, Option.bind_none, hunder.check_none]
  have hpasses : ∀ f ∈ fields, f.1 ≠ searchParamsField → (f.2.Passes (Members.get? f.1 request.bodyMembers) ↔
      (Schema.checkField f members).issues = []) := by
    intro f _ hname
    rw [Schema.passes_iff, Schema.checkField, hothers f.1 hname]
  rw [exists_missingUrl_iff hassembled]
  constructor
  · rintro ⟨hne, hall⟩
    -- the hint is given only where all issues are about the search parameters
    have hnoIssues : ∀ f ∈ fields, f.1 ≠ searchParamsField → (Schema.checkField f members).issues = [] :=
      fun f hf hname => List.eq_nil_iff_forall_not_mem.mpr fun i hi => hname (hall f hf i hi).1
    refine ⟨?_, fun f hf hname => (hpasses f hf hname).mpr (hnoIssues f hf hname)⟩
    rw [Bool.eq_false_iff]
    rintro rfl
    -- then no field would have an issue at all
    refine hne (List.flatMap_eq_nil_iff.mpr fun f hf => List.map_eq_nil_iff.mpr ?_)
    by_cases hname : f.1 = searchParamsField
    · exact hsearchIssues f hf hname
    · exact hnoIssues f hf hname
  · rintro ⟨rfl, hpass⟩
    constructor
    · -- there is at least the issue that they are missing
      intro hnil
      have hmem : (searchParamsField, search) ∈ fields := Members.mem_of_get? hsearch
      have hempty := List.map_eq_nil_iff.mp (List.flatMap_eq_nil_iff.mp hnil _ hmem)
      rw [hsearchIssues _ hmem rfl] at hempty
      cases hempty
    · intro f hf i hi
      by_cases hname : f.1 = searchParamsField
      · rw [hsearchIssues f hf hname] at hi
        obtain rfl := List.mem_singleton.mp hi
        exact ⟨hname, rfl⟩
      · rw [(hpasses f hf hname).mp (hpass f hf hname)] at hi
        cases hi

/-- **When `missingUrl` holds**, for an object whose search parameters are `ObjectUnder` layers: never where a request
`Carries` a URL; and without one exactly if they may not be missing and every other field `Passes` what the body has for
it. -/
theorem missingUrl_iff :
    (∀ u i body, Carries u i body → ∀ r, validate (.object fields) i = .error r → r.missingUrl = false) ∧
      ∀ request : InboundRequest,
        (∃ r, validate (.object fields) (.request request) = .error r ∧ r.missingUrl = true) ↔
          omittable = false ∧
            ∀ f ∈ fields, f.1 ≠ searchParamsField → f.2.Passes (Members.get? f.1 request.bodyMembers) :=
  ⟨fun _ _ _ hcarries _ hr => missingUrl_of_carries names hsearch hunder hcarries hr,
    missingUrl_request_iff names hsearch hunder⟩

end

/-- The search parameters of posts by page, which may be `null` but not missing. -/
def pageSearch : Schema := .nullable (.effects (.object [("page", .string)]) (.opaqueNamed "strict"))

/-- Posts by page and author. -/
def listedFields : List (String × Schema) := [("author", .optional .string), ("searchParams", pageSearch)]

/-- The address of all posts. -/
def allPosts : Url := ⟨"http", "", some "h", none, "/posts", none, none⟩

/-- An empty body is enough for the author, so that only the page is missing; a URL without a page is another matter. -/
theorem missingUrl_iff_listed :
    ((listedFields.map Prod.fst).Nodup ∧ Members.get? searchParamsField listedFields = some pageSearch ∧
        Schema.ObjectUnder [("page", .string)] false pageSearch) ∧
      (∃ r, validate (.object listedFields) (.request ⟨none, []⟩) = .error r ∧ r.missingUrl = true) ∧
      ∃ r, validate (.object listedFields) (.url allPosts) = .error r ∧
        r.missingUrl = false := by
  have names : (listedFields.map Prod.fst).Nodup := by decide
  have hunder : Schema.ObjectUnder [("page", .string)] false pageSearch := .nullable (.effects rfl .object)
  obtain ⟨hwith, hwithout⟩ := missingUrl_iff names rfl hunder
  refine ⟨⟨names, rfl, hunder⟩, (hwithout _).mpr ⟨rfl, fun f hf hname => ?_⟩, ?_⟩
  · rcases List.mem_cons.mp hf with rfl | hf
    · exact Schema.passes_optional_none .string
    · obtain rfl := List.mem_singleton.mp hf
      exact absurd rfl hname
  · exact ⟨_, rfl, hwith allPosts _ _ .url _ rfl⟩

end Inbound

end RouteContracts
