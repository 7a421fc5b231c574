import RouteContracts.Proofs.Inbound.Agreement
import RouteContracts.Proofs.Text.Utf8

/-! # Independence of body and URL
A check of an object tells about a field what it would tell if no other field were declared. The value under
`searchParams` comes from the URL and from nowhere else, and every other value from the body. So what is told about the
search parameters is the same for all bodies, and what is told about everything else for all URLs.

* `Schema.filter_fieldIssues`, `Schema.filter_fieldOutputs`: **what is told about some fields.**
* `Inbound.exists_members_merged`: where the values come from.
* `Inbound.SameAbout`: results that tell the same about some fields.
* `Inbound.validate_independent`: **the independence of body and URL.** -/

namespace RouteContracts

namespace Schema

variable (fields : List (String × Schema)) (members : Members Json)

/-- All issues with the fields of an object. -/
def fieldIssues : List Issue := fields.flatMap fun f => (checkField f members).issues.map (Issue.below [.key f.1])

/-- The outputs of the fields of an object. -/
def fieldOutputs : Members Json := fields.filterMap fun f => (checkField f members).output.map fun v => (f.1, v)

/-- **`fieldIssues` whose path begins in some fields** are those of these fields alone. -/
theorem filter_fieldIssues (keep : Option Step → Bool) :
    (fieldIssues fields members).filter (fun i => keep i.path.head?) =
      fieldIssues (fields.filter fun f => keep (some (.key f.1))) members := by
  induction fields with
  | nil => rfl
  | cons f fields ih =>
    -- all issues of a field begin at its name
    have hhead : ∀ i ∈ (checkField f members).issues.map (Issue.below [.key f.1]),
        keep i.path.head? = keep (some (.key f.1)) := by
      intro i hi
      obtain ⟨inner, -, rfl⟩ := List.mem_map.mp hi
      rfl
    rw [fieldIssues, List.flatMap_cons, ← fieldIssues, List.filter_append, ih, List.filter_cons]
    split
    · next hkeep =>
      rw [List.filter_eq_self.mpr fun i hi => (hhead i hi).trans hkeep, fieldIssues, fieldIssues, List.flatMap_cons]
    · next hkeep =>
      rw [List.filter_eq_nil_iff.mpr fun i hi => by rw [hhead i hi]; exact hkeep, List.nil_append]

/-- **`fieldOutputs` of some fields** are those of these fields alone. -/
theorem filter_fieldOutputs (keep : Option Step → Bool) :
    (fieldOutputs fields members).filter (fun m => keep (some (.key m.1))) =
      fieldOutputs (fields.filter fun f => keep (some (.key f.1))) members := by
  rw [fieldOutputs, List.filter_filterMap, fieldOutputs, List.filterMap_filter]
  refine List.filterMap_congr fun f _ => ?_
  cases (checkField f members).output with
  | none => simp
  | some v => simp [Option.filter]

/-- `fieldIssues` and `fieldOutputs` depend on `get?` of the names of the fields. -/
theorem checks_congr (other : Members Json)
    (h : ∀ f ∈ fields, Members.get? f.1 members = Members.get? f.1 other) :
    fieldIssues fields members = fieldIssues fields other ∧
      fieldOutputs fields members = fieldOutputs fields other := by
  have hcheck : ∀ f ∈ fields, checkField f members = checkField f other := by
    intro f hf
    rw [checkField, checkField, h f hf]
  constructor
  · refine List.flatMap_congr fun f hf => ?_
    rw [hcheck f hf]
  · refine List.filterMap_congr fun f hf => ?_
    rw [hcheck f hf]

end Schema

namespace Inbound

/-! ## What a check tells -/

/-- The issues that are reported; none for what is accepted. -/
def reported : Except Rejection Json → List Issue
  | .ok _ => []
  | .error r => r.issues

section Told

variable {fields : List (String × Schema)} {members : Members Json} {i : Inbound}

/-- **`validate (.object fields)`**: `fieldOutputs`, or all `fieldIssues`. -/
theorem validate_object (h : i.assembled (.object fields) = .object members) :
    validate (.object fields) i = if (Schema.fieldIssues fields members).isEmpty then
      .ok (.object (Schema.fieldOutputs fields members)) else .error ⟨Schema.fieldIssues fields members⟩ := by
  rw [validate, h, Schema.safeParse, Schema.check_object, ← Schema.fieldIssues, ← Schema.fieldOutputs]
  cases (Schema.fieldIssues fields members).isEmpty <;> rfl

theorem reported_validate (h : i.assembled (.object fields) = .object members) :
    reported (validate (.object fields) i) = Schema.fieldIssues fields members := by
  rw [validate_object h]
  split
  · next hnone => exact (List.isEmpty_iff.mp hnone).symm
  · rfl

theorem eq_of_validate_ok (h : i.assembled (.object fields) = .object members) {v : Json}
    (hv : validate (.object fields) i = .ok v) : v = .object (Schema.fieldOutputs fields members) := by
  rw [validate_object h] at hv
  split at hv
  · exact (Except.ok.inj hv).symm
  · cases hv

end Told

/-! ## Where values come from -/

/-- **Where the values of `merged` come from**: the search parameters from the URL, everything else from the body. -/
theorem exists_members_merged (schema : Schema) {body : Members Json} (hbody : (body.map Prod.fst).Nodup)
    (u : Option Url) :
    ∃ members, merged schema body u = .object members ∧
      Members.get? searchParamsField members = u.bind (searchParams? schema) ∧
      ∀ name, name ≠ searchParamsField → Members.get? name members = Members.get? name body := by
  rw [merged]
  split
  · next search hsearch =>
    obtain ⟨hown, hothers⟩ := Carries.get?_assembled hbody search
    exact ⟨_, rfl, hown.trans hsearch.symm, hothers⟩
  · next hnone =>
    refine ⟨_, rfl, ?_, fun name hname => Members.get?_erase_of_ne hname hbody⟩
    rw [Members.get?_erase_self _ hbody, hnone]

/-- Whether a path begins in the search parameters. -/
def isSearch (start : Option Step) : Bool := start == some (.key searchParamsField)

theorem eq_of_isSearch {name : String} (h : isSearch (some (.key name)) = true) : name = searchParamsField := by
  simpa [isSearch] using h

/-- Whether a path begins elsewhere. -/
def isOther (start : Option Step) : Bool := start != some (.key searchParamsField)

/-- **Results that tell the same about some fields**: the same issues, and the same outputs when both are accepted. -/
structure SameAbout (keep : Option Step → Bool) (x y : Except Rejection Json) : Prop where
  issues : (reported x).filter (fun i => keep i.path.head?) = (reported y).filter (fun i => keep i.path.head?)
  outputs : ∀ v w, x = .ok v → y = .ok w → ∃ ms ns, v = .object ms ∧ w = .object ns ∧
    ms.filter (fun m => keep (some (.key m.1))) = ns.filter (fun m => keep (some (.key m.1)))

/-- Objects with the same `get?` under some names are the `SameAbout` them. -/
theorem sameAbout_of_get? {fields : List (String × Schema)} {ms ns : Members Json} {i j : Inbound}
    (hi : i.assembled (.object fields) = .object ms) (hj : j.assembled (.object fields) = .object ns)
    {keep : Option Step → Bool}
    (h : ∀ name, keep (some (.key name)) = true → Members.get? name ms = Members.get? name ns) :
    SameAbout keep (validate (.object fields) i) (validate (.object fields) j) := by
  obtain ⟨hissues, houtputs⟩ := Schema.checks_congr (fields.filter fun f => keep (some (.key f.1))) ms ns
    fun f hf => h f.1 (List.mem_filter.mp hf).2
  constructor
  · rw [reported_validate hi, reported_validate hj, Schema.filter_fieldIssues, Schema.filter_fieldIssues, hissues]
  · intro v w hv hw
    refine ⟨_, _, eq_of_validate_ok hi hv, eq_of_validate_ok hj hw, ?_⟩
    rw [Schema.filter_fieldOutputs, Schema.filter_fieldOutputs, houtputs]

/-! ## Independence -/

/-- **The independence of body and URL.** With a URL, `validate` is the `SameAbout` the search parameters for all
bodies. Without one they are checked as missing, whatever the body holds. And it is the `SameAbout` everything else for
all URLs. -/
theorem validate_independent (fields : List (String × Schema)) :
    (∀ u r₁ r₂,
      SameAbout isSearch (validate (.object fields) (.event r₁ u)) (validate (.object fields) (.event r₂ u))) ∧
    (∀ r, (reported (validate (.object fields) (.request r))).filter (fun i => isSearch i.path.head?) =
          (fields.filter fun f => isSearch (some (.key f.1))).flatMap (fun f =>
            (f.2.check none [] []).issues.map (Issue.below [.key f.1])) ∧
        ∀ v, validate (.object fields) (.request r) = .ok v → ∃ ms, v = .object ms ∧
          ms.filter (fun m => isSearch (some (.key m.1))) =
            (fields.filter fun f => isSearch (some (.key f.1))).filterMap fun f =>
              (f.2.check none [] []).output.map fun v => (f.1, v)) ∧
    ∀ r u₁ u₂,
      SameAbout isOther (validate (.object fields) (.event r u₁)) (validate (.object fields) (.event r u₂)) := by
  refine ⟨fun u r₁ r₂ => ?_, fun r => ?_, fun r u₁ u₂ => ?_⟩
  · -- with a URL, what stands under the name comes from the URL alone
    obtain ⟨ms, hms, hsearch, -⟩ := exists_members_merged (.object fields) r₁.nodup_bodyMembers (some u)
    obtain ⟨ns, hns, hsearch', -⟩ := exists_members_merged (.object fields) r₂.nodup_bodyMembers (some u)
    have hi : (Inbound.event r₁ u).assembled (.object fields) = .object ms := hms
    have hj : (Inbound.event r₂ u).assembled (.object fields) = .object ns := hns
    refine sameAbout_of_get? hi hj fun name hname => ?_
    rw [eq_of_isSearch hname, hsearch, hsearch']
  · -- nothing stands under the name, so the fields are checked as those of an empty object are
    obtain ⟨ms, hms, hsearch, -⟩ := exists_members_merged (.object fields) r.nodup_bodyMembers none
    have hi : (Inbound.request r).assembled (.object fields) = .object ms := hms
    obtain ⟨hissues, houtputs⟩ := Schema.checks_congr (fields.filter fun f => isSearch (some (.key f.1))) ms [] <| by
      intro f hf
      rw [eq_of_isSearch (List.mem_filter.mp hf).2, hsearch]
      rfl
    constructor
    · rw [reported_validate hi, Schema.filter_fieldIssues, hissues]
      rfl
    · intro v hv
      refine ⟨_, eq_of_validate_ok hi hv, ?_⟩
      rw [Schema.filter_fieldOutputs, houtputs]
      rfl
  · -- what stands under any other name comes from the body alone
    obtain ⟨ms, hms, -, hothers⟩ := exists_members_merged (.object fields) r.nodup_bodyMembers (some u₁)
    obtain ⟨ns, hns, -, hothers'⟩ := exists_members_merged (.object fields) r.nodup_bodyMembers (some u₂)
    have hi : (Inbound.event r u₁).assembled (.object fields) = .object ms := hms
    have hj : (Inbound.event r u₂).assembled (.object fields) = .object ns := hns
    refine sameAbout_of_get? hi hj fun name hname => ?_
    have hne : name ≠ searchParamsField := by simpa [isOther] using hname
    rw [hothers name hne, hothers' name hne]

/-! ## A body with search parameters -/

/-- `bodyMembers` of a JSON object that is sent are its members. -/
theorem bodyMembers_json {text : String} {members : Members Json} (h : Json.read? text = some (.object members)) :
    (InboundRequest.json (Utf8.encode text)).bodyMembers = members := by
  have hjson : (InboundRequest.json (Utf8.encode text)).isJson = true := by
    show InboundRequest.occursIn _ _ = true
    decide
  have hbody : (InboundRequest.json (Utf8.encode text)).body = Utf8.encode text := rfl
  rw [InboundRequest.bodyMembers, if_pos hjson, hbody, Utf8.decode?_encode, Option.bind_some, h]
  rfl

/-- Posts by page and author. -/
def pageFields : List (String × Schema) :=
  [("author", .optional .string), ("searchParams", .object [("page", .string)])]

/-- The address of the first page. -/
def firstPage : Url := ⟨"http", "", some "h", none, "/posts", some "page=1", none⟩

/-- **A body with search parameters of its own** neither supplies nor changes those of the URL. -/
theorem validate_independent_page :
    ∃ v w ms ns,
      validate (.object pageFields)
        (.event (.json (Utf8.encode "\x7b\"searchParams\":true\x7d")) firstPage) = .ok v ∧
      validate (.object pageFields) (.event ⟨none, []⟩ firstPage) = .ok w ∧
      v = .object ms ∧ w = .object ns ∧
      ms.filter (fun m => isSearch (some (.key m.1))) = ns.filter (fun m => isSearch (some (.key m.1))) := by
  have hread : Json.read? "\x7b\"searchParams\":true\x7d" =
      some (.object [("searchParams", .bool true)]) := by cbv
  have hv : validate (.object pageFields)
      (.event (.json (Utf8.encode "\x7b\"searchParams\":true\x7d")) firstPage) =
        .ok (.object [("searchParams", .object [("page", .string "1")])]) := by
    rw [validate, assembled, bodyMembers_json hread]
    rfl
  have hw : validate (.object pageFields) (.event ⟨none, []⟩ firstPage) =
      .ok (.object [("searchParams", .object [("page", .string "1")])]) := rfl
  obtain ⟨ms, ns, hms, hns, hsame⟩ := ((validate_independent pageFields).1 _ _ _).outputs _ _ hv hw
  exact ⟨_, _, ms, ns, hv, hw, hms, hns, hsame⟩

end Inbound

end RouteContracts
