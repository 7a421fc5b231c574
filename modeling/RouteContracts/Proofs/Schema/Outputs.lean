import RouteContracts.Proofs.Schema.Parts
import RouteContracts.Proofs.Schema.WireValues

/-! # Outputs of checks
What a check gives has the shape of the schema, whatever was checked: undeclared names are gone, defaults,
fallbacks and conversions are in place, and a field is absent only where the shape lets it be.

* `Descriptor.Inhabits`: **the values of a shape**, present or absent.
* `Schema.inhabits_object_iff`: the shape of an object, field by field.
* `Schema.WellShaped`: fallbacks have the shape of what they replace.
* `Schema.inhabits_of_safeParse`: **every accepted value comes out with the shape of the schema.** -/

namespace RouteContracts

/-! ## Values of a shape -/

/-- **A value, present or absent, has a shape.** Where nothing is known anything does, and nothing too. -/
inductive Descriptor.Inhabits : Descriptor → Option Json → Prop where
  /-- A text. -/
  | string (s : String) : Inhabits (.primitive .string) (some (.string s))
  /-- A number. -/
  | number (n : Json.Number) : Inhabits (.primitive .number) (some (.number n))
  /-- A truth value. -/
  | boolean (b : Bool) : Inhabits (.primitive .boolean) (some (.bool b))
  /-- The value `null`. -/
  | null : Inhabits (.primitive .null) (some .null)
  /-- Anything, where nothing is known. -/
  | undefined (v : Option Json) : Inhabits (.primitive .undefined) v
  /-- A list of values of the element. -/
  | array {element : Descriptor} {items : List Json} (h : ∀ item ∈ items, Inhabits element (some item)) :
      Inhabits (.array element) (some (.array items))
  /-- Values for the fields, and no others. A field without one may be absent, or its shape lets it be. -/
  | object {fields : List (String × Descriptor)} {omittable : NameSet} {members : Members Json}
      (known : ∀ m ∈ members, m.1 ∈ fields.map Prod.fst)
      (present : ∀ f ∈ fields, ∀ v, Members.get? f.1 members = some v → Inhabits f.2 (some v))
      (missing : ∀ f ∈ fields, Members.get? f.1 members = none → f.1 ∉ omittable → Inhabits f.2 none) :
      Inhabits (.object fields omittable) (some (.object members))
  /-- No value in an optional place. -/
  | absent (d : Descriptor) : Inhabits (.optional d) none
  /-- A value in an optional place. -/
  | optional {d : Descriptor} {v : Option Json} (h : Inhabits d v) : Inhabits (.optional d) v
  /-- The value `null` in a nullable place. -/
  | nullableNull (d : Descriptor) : Inhabits (.nullable d) (some .null)
  /-- A value in a nullable place. -/
  | nullable {d : Descriptor} {v : Option Json} (h : Inhabits d v) : Inhabits (.nullable d) v

namespace Descriptor

/-- A value with `v.kind = p.word` `Inhabits` the leaf `p`. -/
theorem Inhabits.of_kind {p : Primitive} {v : Json} (h : v.kind = p.word) :
    (Descriptor.primitive p).Inhabits (some v) := by
  cases p with
  | undefined => exact .undefined _
  | string =>
    cases v with
    | string s => exact .string s
    | null | bool _ | number _ | array _ | object _ => simp [Json.kind, Primitive.word] at h
  | number =>
    cases v with
    | number n => exact .number n
    | null | bool _ | string _ | array _ | object _ => simp [Json.kind, Primitive.word] at h
  | boolean =>
    cases v with
    | bool b => exact .boolean b
    | null | number _ | string _ | array _ | object _ => simp [Json.kind, Primitive.word] at h
  | null =>
    cases v with
    | null => exact .null
    | bool _ | number _ | string _ | array _ | object _ => simp [Json.kind, Primitive.word] at h

/-- A value that is there keeps its shape under `splitAbsence`. -/
theorem Inhabits.splitAbsence_some {d : Descriptor} {v : Json} (h : d.Inhabits (some v)) :
    d.splitAbsence.2.Inhabits (some v) := by
  unfold splitAbsence
  split
  · cases h with
    | optional h => exact h
  · cases h with
    | nullableNull => exact .nullableNull _
    | nullable h =>
      cases h with
      | optional h => exact .nullable h
  · exact h

/-- A missing value keeps its shape under `splitAbsence` where nothing is taken off. -/
theorem Inhabits.splitAbsence_none {d : Descriptor} (h : d.Inhabits none) (hkept : d.splitAbsence.1 = false) :
    d.splitAbsence.2.Inhabits none := by
  unfold splitAbsence at hkept ⊢
  split
  · cases hkept
  · cases hkept
  · exact h

/-- A value that is there has the shape from which `splitAbsence` took a layer off. -/
theorem Inhabits.of_splitAbsence_some {d : Descriptor} {v : Json} (h : d.splitAbsence.2.Inhabits (some v)) :
    d.Inhabits (some v) := by
  unfold splitAbsence at h
  split at h
  · exact .optional h
  · cases h with
    | nullableNull => exact .nullableNull _
    | nullable h => exact .nullable (.optional h)
  · exact h

/-- A value may be missing where `splitAbsence` takes a layer off, or where the rest lets it be. -/
theorem Inhabits.of_splitAbsence_none {d : Descriptor}
    (h : d.splitAbsence.1 = false → d.splitAbsence.2.Inhabits none) : d.Inhabits none := by
  unfold splitAbsence at h
  split at h
  · exact .absent _
  · exact .nullable (.absent _)
  · exact h rfl

end Descriptor

/-! ## Schemas -/

namespace Schema

/-- Each object names a field once, and each fallback has the shape of what it replaces. -/
inductive WellShaped : Schema → Prop where
  | string : WellShaped .string
  | number : WellShaped .number
  | boolean : WellShaped .boolean
  | null : WellShaped .null
  | undefined : WellShaped .undefined
  | any : WellShaped .any
  | literal (value : Json) : WellShaped (.literal value)
  | enumeration (options : List String) : WellShaped (.enumeration options)
  | object {fields : List (String × Schema)} (names : (fields.map Prod.fst).Nodup)
      (h : ∀ f ∈ fields, WellShaped f.2) : WellShaped (.object fields)
  | array {element : Schema} (h : WellShaped element) : WellShaped (.array element)
  | optional {inner : Schema} (h : WellShaped inner) : WellShaped (.optional inner)
  | nullable {inner : Schema} (h : WellShaped inner) : WellShaped (.nullable inner)
  | default {inner : Schema} (h : WellShaped inner) (value : Json) : WellShaped (.default inner value)
  | catching {inner : Schema} (h : WellShaped inner) {value : Json}
      (fits : inner.toDescriptor.Inhabits (some value)) : WellShaped (.catching inner value)
  | effects {inner : Schema} (h : WellShaped inner) (refinement : Refinement) :
      WellShaped (.effects inner refinement)
  | coerce {inner : Schema} (h : WellShaped inner) : WellShaped (.coerce inner)

/-! ## Outputs -/

/-- `.effects inner refinement` keeps the output of `inner`. -/
theorem output_effects (inner : Schema) (refinement : Refinement) (v : Option Json) :
    (check (.effects inner refinement) v [] []).output = (inner.check v [] []).output := by
  simp only [check]
  split
  · next out hout =>
    split
    · exact hout.symm
    · rfl
  · rfl

/-- **The issues of `.effects inner refinement`**: those of `inner`, and its own where there is none and it does not
hold of the output. -/
theorem issues_effects (inner : Schema) (refinement : Refinement) (v : Option Json) :
    (check (.effects inner refinement) v [] []).issues = (inner.check v [] []).issues ++
      if (inner.check v [] []).issues = [] ∧ (inner.check v [] []).output.any (fun out => !refinement.holds out)
      then [⟨[], refinement.message⟩] else [] := by
  cases hout : (inner.check v [] []).output with
  | none => simp [check, hout]
  | some out =>
    simp only [check, hout, Option.any_some, Bool.not_eq_true', List.length_nil, List.length_eq_zero_iff]
    by_cases hfails : (inner.check v [] []).issues = [] ∧ refinement.holds out = false
    · rw [if_pos hfails, if_pos hfails]
      rfl
    · rw [if_neg hfails, if_neg hfails, List.append_nil]

/-- What passes `.effects inner refinement` passes `inner`. -/
theorem Passes.of_effects {inner : Schema} {refinement : Refinement} {v : Option Json}
    (h : (Schema.effects inner refinement).Passes v) : inner.Passes v := by
  rw [passes_iff, issues_effects] at h
  exact passes_iff.mpr (List.append_eq_nil_iff.mp h).1

/-- Whether the schema itself has neither parts nor layers. -/
def isLeaf : Schema → Bool
  | .string | .number | .boolean | .null | .undefined | .any | .literal _ | .enumeration _ => true
  | _ => false

/-- What passes a leaf comes out as it is. -/
theorem Passes.output_leaf {s : Schema} (hleaf : s.isLeaf = true) {v : Option Json} (h : s.Passes v) :
    (s.check v [] []).output = v := by
  have hissues := passes_iff.mp h
  cases v with
  | none =>
    cases s with
    | string | number | boolean | null | undefined | any | literal | enumeration => rfl
    | object | array | optional | nullable | default | catching | effects | coerce => cases hleaf
  | some v =>
    cases s with
    | string | number | boolean | null => exact (expectKind_some hissues).2
    | undefined => exact absurd hissues (by simp [check, reject])
    | any => rfl
    | literal expected =>
      simp only [check] at hissues ⊢
      split at hissues
      · next hsame => rw [if_pos hsame]
      · cases hissues
    | enumeration options =>
      simp only [check] at hissues ⊢
      split at hissues
      · next hoption => rw [if_pos hoption]
      · cases hissues
    | object | array | optional | nullable | default | catching | effects | coerce => cases hleaf

/-- **A value that is there and passes gives an output.** -/
theorem Passes.exists_output {s : Schema} {v : Json} (h : s.Passes (some v)) :
    ∃ out, (s.check (some v) [] []).output = some out := by
  induction s generalizing v with
  | string | number | boolean | null | undefined | any | literal | enumeration => exact ⟨v, h.output_leaf rfl⟩
  | object fields ih =>
    obtain ⟨members, hv⟩ := h.object_shape
    obtain rfl := Option.some.inj hv
    exact ⟨_, rfl⟩
  | array element ih =>
    obtain ⟨items, hv⟩ := h.array_shape
    obtain rfl := Option.some.inj hv
    exact ⟨_, rfl⟩
  | optional inner ih => exact ih h
  | nullable inner ih =>
    cases v with
    | null => exact ⟨.null, rfl⟩
    | bool _ | number _ | string _ | array _ | object _ => exact ih h
  | default inner fallback ih => exact ih h
  | catching inner fallback ih =>
    simp only [check]
    split
    · next hempty => exact ih (passes_iff.mpr (List.isEmpty_iff.mp hempty))
    · exact ⟨fallback, rfl⟩
  | effects inner refinement ih =>
    rw [output_effects]
    exact ih h.of_effects
  | coerce inner ih => exact ih h

/-- Where `s.Passes v`, the check at the top is its output without issues. -/
theorem Passes.check_eq {s : Schema} {v out : Option Json} (h : s.Passes v)
    (hout : (s.check v [] []).output = out) : s.check v [] [] = ⟨out, []⟩ :=
  calc s.check v [] [] = ⟨(s.check v [] []).output, (s.check v [] []).issues⟩ := rfl
    _ = ⟨out, []⟩ := by rw [hout, passes_iff.mp h]

/-- **`s.safeParse v = .ok out`** exactly if the check gives `out` and no issue. -/
theorem safeParse_eq_ok_iff {s : Schema} {v out : Json} :
    s.safeParse v = .ok out ↔ s.check (some v) [] [] = ⟨some out, []⟩ := by
  constructor
  · intro h
    have hpass : s.Passes (some v) := safeParse_ok_iff.mp ⟨out, h⟩
    obtain ⟨given, hgiven⟩ := hpass.exists_output
    have hcheck : s.check (some v) [] [] = ⟨some given, []⟩ := hpass.check_eq hgiven
    rw [safeParse, hcheck] at h
    obtain rfl := Except.ok.inj h
    exact hcheck
  · intro h
    rw [safeParse, h]
    rfl

/-- **An object `Inhabits` the shape of `.object fields`** exactly if each field, present or absent, `Inhabits` its own,
and there are no other members. -/
theorem inhabits_object_iff {fields : List (String × Schema)} (names : (fields.map Prod.fst).Nodup)
    {members : Members Json} :
    (Schema.object fields).toDescriptor.Inhabits (some (.object members)) ↔
      (∀ m ∈ members, m.1 ∈ fields.map Prod.fst) ∧
        ∀ f ∈ fields, f.2.toDescriptor.Inhabits (Members.get? f.1 members) := by
  have hnames : (fields.map fun f => (f.1, f.2.toDescriptor.splitAbsence.2)).map Prod.fst = fields.map Prod.fst := by
    rw [List.map_map]
    rfl
  rw [toDescriptor_object]
  constructor
  · intro h
    cases h with
    | object known present missing =>
      rw [hnames] at known
      refine ⟨known, fun f hf => ?_⟩
      have hmem := List.mem_map_of_mem (f := fun f : String × Schema => (f.1, f.2.toDescriptor.splitAbsence.2)) hf
      cases hget : Members.get? f.1 members with
      | some v => exact (present _ hmem v hget).of_splitAbsence_some
      | none =>
        refine .of_splitAbsence_none fun hkept => missing _ hmem hget fun homit => ?_
        exact absurd ((mem_omittable_iff names hf).mp homit) (by rw [hkept]; decide)
  · rintro ⟨known, hfields⟩
    refine .object (hnames ▸ known) (fun g hg v hv => ?_) fun g hg hnone hname => ?_
    · obtain ⟨f, hf, rfl⟩ := List.mem_map.mp hg
      have hf' := hfields f hf
      rw [hv] at hf'
      exact hf'.splitAbsence_some
    · obtain ⟨f, hf, rfl⟩ := List.mem_map.mp hg
      have hf' := hfields f hf
      rw [hnone] at hf'
      -- The name is not among those that may be absent, so no layer was taken off.
      exact hf'.splitAbsence_none
        (Bool.eq_false_iff.mpr fun hflag => hname ((mem_omittable_iff names hf).mpr hflag))

/-- `checkFields` gives what `Inhabits` the shape of the object, if each field does its own. -/
theorem inhabits_checkFields {fields : List (String × Schema)} (names : (fields.map Prod.fst).Nodup)
    {members : Members Json}
    (h : ∀ f ∈ fields, f.2.toDescriptor.Inhabits (checkField f members).output) :
    (Schema.object fields).toDescriptor.Inhabits
      (some (.object (checkFields fields members [] []).1)) := by
  rw [checkFields_eq, inhabits_object_iff names]
  refine ⟨fun m hm => ?_, fun f hf => ?_⟩
  · obtain ⟨f, hf, hout⟩ := List.mem_filterMap.mp hm
    obtain ⟨v, -, rfl⟩ := Option.map_eq_some_iff.mp hout
    exact List.mem_map_of_mem hf
  · rw [Members.get?_filterMap names (fun f => (checkField f members).output) hf]
    exact h f hf

/-- **`WellShaped` schemas give outputs of their shape**: what passes `Inhabits` `s.toDescriptor` when it comes out. -/
theorem WellShaped.inhabits_output {s : Schema} (hs : s.WellShaped) {v : Option Json} (h : s.Passes v) :
    s.toDescriptor.Inhabits (s.check v [] []).output := by
  induction hs generalizing v with
  | string | number | boolean | null =>
    cases v with
    | none => exact absurd (passes_iff.mp h) (issues_expectKind_none _)
    | some v =>
      obtain ⟨hkind, hout⟩ := expectKind_some (passes_iff.mp h)
      simp only [check]
      rw [hout]
      exact Descriptor.Inhabits.of_kind hkind
  | undefined | any | literal value | enumeration options => exact .undefined _
  | @object fields names _ ih =>
    obtain ⟨members, rfl⟩ := h.object_shape
    exact inhabits_checkFields names fun f hf => ih f hf (passes_object_iff.mp h f hf)
  | @array element _ ih =>
    obtain ⟨items, rfl⟩ := h.array_shape
    simp only [check]
    rw [checkItems_eq]
    refine .array fun out hout => ?_
    obtain ⟨item, hitem, rfl⟩ := List.mem_map.mp hout
    have hpass : element.Passes (some item) := passes_array_iff.mp h item hitem
    -- an item that passes gives an output, so nothing is filled in for it
    obtain ⟨out, hout⟩ := hpass.exists_output
    have hshape := ih hpass
    rw [hout] at hshape
    rw [checkItem, hout]
    exact hshape
  | optional _ ih =>
    cases v with
    | none => exact .absent _
    | some v => exact .optional (ih h)
  | nullable _ ih =>
    rcases v with - | v
    · exact .nullable (ih h)
    · cases v with
      | null => exact .nullableNull _
      | bool _ | number _ | string _ | array _ | object _ => exact .nullable (ih h)
  | default _ value ih => exact .optional (ih h)
  | @catching inner _ value fits ih =>
    refine .optional ?_
    simp only [check]
    split
    · next hempty => exact ih (passes_iff.mpr (List.isEmpty_iff.mp hempty))
    · exact fits
  | @effects inner _ refinement ih =>
    rw [output_effects]
    exact ih h.of_effects
  | coerce _ ih => exact ih h

/-- **`s.safeParse v = .ok out` implies that `out` `Inhabits` `s.toDescriptor`**, for `WellShaped` schemas. -/
theorem inhabits_of_safeParse {s : Schema} (hs : s.WellShaped) {v out : Json} (h : s.safeParse v = .ok out) :
    s.toDescriptor.Inhabits (some out) := by
  have hpass : s.Passes (some v) := safeParse_ok_iff.mp ⟨out, h⟩
  obtain ⟨given, hgiven⟩ := hpass.exists_output
  have hshape := hs.inhabits_output hpass
  simp only [safeParse, passes_iff.mp hpass, hgiven, List.isEmpty_nil, if_true] at h
  obtain rfl := Except.ok.inj h
  rwa [hgiven] at hshape

/-! ## A filter for lists -/

/-- A page number that may be given as a text, a tag with a fallback, marks, and a name that may be missing. -/
def filterSchema : Schema :=
  .object [("page", .default (.coerce .number) (.string "1")), ("tag", .catching (.nullable .string) .null),
    ("marks", .array (.optional .boolean)), ("name", .nullable (.optional .string))]

/-- A value with a page as a text, a tag of another kind, and a name that the schema does not declare. -/
def filterValue : Json :=
  .object [("other", .null), ("tag", .bool true), ("marks", .array [.bool true]), ("page", .string "7")]

/-- What is made of `filterValue`. -/
def filterOutput : Json :=
  .object [("page", .number (.int 7 (by decide))), ("tag", .null), ("marks", .array [.bool true])]

/-- `filterValue` is accepted, and `filterOutput` `Inhabits` the shape of the schema. -/
theorem inhabits_filterOutput :
    filterSchema.WellShaped ∧ filterSchema.safeParse filterValue = .ok filterOutput ∧
      filterSchema.toDescriptor.Inhabits (some filterOutput) := by
  have shaped : filterSchema.WellShaped := by
    refine .object (by decide) fun f hf => ?_
    simp only [List.mem_cons, List.not_mem_nil, or_false] at hf
    rcases hf with rfl | rfl | rfl | rfl
    · exact .default (.coerce .number) _
    · exact .catching (.nullable .string) (.nullableNull _)
    · exact .array (.optional .boolean)
    · exact .nullable (.optional .string)
  have parsed : filterSchema.safeParse filterValue = .ok filterOutput := rfl
  exact ⟨shaped, parsed, inhabits_of_safeParse shaped parsed⟩

end Schema

end RouteContracts
