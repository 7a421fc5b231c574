import RouteContracts.Proofs.Schema.Outputs

/-! # Missing values
Whether a value may be missing is told in three ways: by what a check makes of a missing value, by the layers above the
base, and by the names that the shape of an object collects. The first two agree. The third looks for the layer for
absence at the top and below one layer for `null`, and overlooks it below two of them.

* `Schema.passes_none_iff`: **a missing value passes exactly where the layers say so.**
* `Schema.check_none`: all that is made of a missing value without defaults and fallbacks.
* `Schema.nullsAbove`: the layers for `null` that stand above the first layer for absence.
* `Schema.mem_optional_iff`: **the fields of which a shape says that they may be absent.** -/

namespace RouteContracts

namespace Descriptor

/-- `(Descriptor.nullable d).splitAbsence` takes a layer for absence off exactly if `d` is `.optional inner`. -/
theorem splitAbsence_nullable_iff {d : Descriptor} :
    (Descriptor.nullable d).splitAbsence.1 = true ↔ ∃ inner, d = .optional inner := by
  cases d <;> simp [splitAbsence]

end Descriptor

namespace Schema

/-! ## Checks of a missing value -/

/-- Whether the schema itself is a refinement with a condition. -/
def isPredicate : Schema → Bool
  | .effects _ refinement => refinement.check.isSome
  | _ => false

/-- Whether the default, if the schema itself is one, is accepted by the schema below it. -/
def defaultFits : Schema → Bool
  | .default inner value => (inner.safeParse value).isOk
  | _ => true

/-- Whether the schema itself is a layer that puts a value of its own in the place of what it is given. -/
def replaces : Schema → Bool
  | .default _ _ | .catching _ _ => true
  | _ => false

/-- `.catching inner fallback` passes every value. -/
theorem passes_catching (inner : Schema) (fallback : Json) (v : Option Json) :
    (Schema.catching inner fallback).Passes v := fun _ _ => rfl

/-- `.effects inner refinement` passes what `inner` does, where the refinement is only known by name. -/
theorem passes_effects_iff {inner : Schema} {refinement : Refinement} (hr : refinement.check = none)
    {v : Option Json} : (Schema.effects inner refinement).Passes v ↔ inner.Passes v :=
  ⟨Passes.of_effects, Passes.effects hr⟩

/-- `.default inner value` passes a missing value, where `defaultFits`. -/
theorem passes_default_none {inner : Schema} {value : Json} (h : (Schema.default inner value).defaultFits = true) :
    (Schema.default inner value).Passes none := by
  have haccepted : ∃ out, inner.safeParse value = .ok out := by
    cases hparse : inner.safeParse value with
    | ok out => exact ⟨out, rfl⟩
    | error issues => simp [defaultFits, hparse, Except.isOk, Except.toBool] at h
  intro path issues
  exact safeParse_ok_iff.mp haccepted path issues

/-- **A missing value passes exactly where `s.isOptional`**, if no refinement has a condition and all defaults fit. -/
theorem passes_none_iff {s : Schema} (unconditional : s.Everywhere fun t => t.isPredicate = false)
    (defaults : s.Everywhere fun t => t.defaultFits = true) : s.Passes none ↔ s.isOptional = true := by
  induction s with
  | string | number | boolean | null =>
    apply iff_of_false
    · intro h
      exact issues_expectKind_none _ (passes_iff.mp h)
    · simp [isOptional]
  | literal | enumeration | object | array =>
    apply iff_of_false
    · intro h
      cases passes_iff.mp h
    · simp [isOptional]
  | undefined | any => exact iff_of_true (fun _ _ => rfl) rfl
  | optional inner ih => exact iff_of_true (passes_optional_none inner) rfl
  | default inner value ih => exact iff_of_true (passes_default_none defaults.here) rfl
  | catching inner value ih => exact iff_of_true (passes_catching inner value none) rfl
  | effects inner refinement ih =>
    have hname : refinement.check = none :=
      Option.isNone_iff_eq_none.mp (Option.isSome_eq_false_iff.mp unconditional.here)
    exact (passes_effects_iff hname).trans (ih (unconditional.inner rfl) (defaults.inner rfl))
  -- These two hand a missing value on as it is.
  | nullable inner ih => exact ih (unconditional.inner rfl) (defaults.inner rfl)
  | coerce inner ih => exact ih (unconditional.inner rfl) (defaults.inner rfl)

/-- Whether a layer above the base puts a value of its own in the place of what it is given. -/
def replacing : Schema → Bool
  | .default _ _ | .catching _ _ => true
  | .optional s | .nullable s | .effects s _ | .coerce s => s.replacing
  | _ => false

/-- `s.replacing = false` where nothing in `s` `replaces`. -/
theorem replacing_eq_false {s : Schema} (genuine : s.Everywhere fun t => t.replaces = false) : s.replacing = false := by
  induction s with
  | string | number | boolean | null | undefined | any | literal | enumeration | object | array => rfl
  | default | catching => exact absurd genuine.here (by simp [replaces])
  | optional inner ih => exact ih (genuine.inner rfl)
  | nullable inner ih => exact ih (genuine.inner rfl)
  | effects inner refinement ih => exact ih (genuine.inner rfl)
  | coerce inner ih => exact ih (genuine.inner rfl)

/-- **`s.check none`**, where no layer above the base `replaces`: no output, and one issue unless `s.isOptional`. -/
theorem check_none {s : Schema} (genuine : s.replacing = false) :
    s.check none [] [] = ⟨none, if s.isOptional then [] else [⟨[], Mismatch.required.message⟩]⟩ := by
  induction s with
  | string | number | boolean | null | undefined | any | literal | enumeration | object | array | optional => rfl
  | nullable inner ih => exact ih genuine
  | default | catching => cases genuine
  | effects inner refinement ih =>
    rw [check, ih genuine]
    rfl
  | coerce inner ih => exact ih genuine

/-! ## Names that may be absent -/

/-- How many layers for `null` stand above the first layer for absence, or above the base if there is none. -/
def nullsAbove : Schema → Nat
  | .nullable s => s.nullsAbove + 1
  | .effects s _ | .coerce s => s.nullsAbove
  | _ => 0

variable {s : Schema}

/-- `toDescriptor` is `.optional d` exactly where `s.isOptional` and `s.nullsAbove = 0`. -/
theorem exists_toDescriptor_eq_optional_iff (hany : s.base ≠ .any) (hundefined : s.base ≠ .undefined) :
    (∃ d, s.toDescriptor = .optional d) ↔ s.isOptional = true ∧ s.nullsAbove = 0 := by
  induction s with
  | string | number | boolean | null | literal | enumeration | object | array => simp [toDescriptor, isOptional]
  | any => exact absurd rfl hany
  | undefined => exact absurd rfl hundefined
  | optional | default | catching => simp [toDescriptor, isOptional, nullsAbove]
  | nullable => simp [toDescriptor, nullsAbove]
  | effects inner refinement ih => exact ih hany hundefined
  | coerce inner ih => exact ih hany hundefined

/-- **`splitAbsence` of `toDescriptor` takes a layer off exactly where `s.isOptional` and `s.nullsAbove ≤ 1`.** -/
theorem splitAbsence_toDescriptor_iff (hany : s.base ≠ .any) (hundefined : s.base ≠ .undefined) :
    s.toDescriptor.splitAbsence.1 = true ↔ s.isOptional = true ∧ s.nullsAbove ≤ 1 := by
  induction s with
  | string | number | boolean | null | literal | enumeration | object | array =>
    simp [toDescriptor, Descriptor.splitAbsence, isOptional]
  | any => exact absurd rfl hany
  | undefined => exact absurd rfl hundefined
  | optional | default | catching => simp [toDescriptor, Descriptor.splitAbsence, isOptional, nullsAbove]
  | nullable inner =>
    -- Nothing but a layer for absence directly below is looked for.
    have hinner := exists_toDescriptor_eq_optional_iff (s := inner) hany hundefined
    rw [toDescriptor, Descriptor.splitAbsence_nullable_iff, hinner, isOptional, nullsAbove]
    apply and_congr_right
    intro _
    omega
  | effects inner refinement ih => exact ih hany hundefined
  | coerce inner ih => exact ih hany hundefined

/-- **What a shape says about missing fields.** A field has no issue with a missing value exactly where
`f.2.isOptional`; its name is in `optional` of the shape exactly where, besides, `f.2.nullsAbove ≤ 1`. -/
theorem mem_optional_iff (names : s.Everywhere fun t => t.fieldNames.Nodup)
    (unconditional : s.Everywhere fun t => t.isPredicate = false)
    (defaults : s.Everywhere fun t => t.defaultFits = true) {fields : List (String × Schema)}
    (hfields : s.fields? = some fields) {f : String × Schema} (hf : f ∈ fields) (hany : f.2.base ≠ .any)
    (hundefined : f.2.base ≠ .undefined) :
    ((f.2.check none [] []).issues = [] ↔ f.2.isOptional = true) ∧
      ∃ shape, s.toDescriptor.asObject? = some shape ∧
        (f.1 ∈ shape.optional ↔ f.2.isOptional = true ∧ f.2.nullsAbove ≤ 1) := by
  -- The layers above the object have no part in its fields.
  have hbase : s.base = .object fields := base_of_fields? hfields
  have hobject {p : Schema → Prop} (h : s.Everywhere p) : (Schema.object fields).Everywhere p := hbase ▸ h.base
  refine ⟨?_, objectShape fields, ?_, ?_⟩
  · rw [← passes_iff]
    exact passes_none_iff ((hobject unconditional).field hf) ((hobject defaults).field hf)
  · rw [asObject?_toDescriptor, hfields, Option.map_some]
  · exact (mem_omittable_iff (hobject names).here hf).trans (splitAbsence_toDescriptor_iff hany hundefined)

/-- A listing with a page that has a text as its default and may be `null`, and a note of which the layers say twice
that it may be `null`, and once that it may be missing. -/
def listingFields : List (String × Schema) :=
  [("page", .nullable (.default (.coerce .number) (.string "1"))),
    ("note", .nullable (.nullable (.optional .string)))]

/-- The listing is refined by a condition of which only the name is known. -/
def listingSchema : Schema := .effects (.object listingFields) (.opaqueNamed "ready")

theorem names_listing : listingSchema.Everywhere fun t => t.fieldNames.Nodup := by decide

theorem unconditional_listing : listingSchema.Everywhere fun t => t.isPredicate = false := by decide

theorem defaults_listing : listingSchema.Everywhere fun t => t.defaultFits = true := by decide

/-- The page may be left out, and the shape says so. -/
theorem mem_optional_iff_page : (listingSchema.Everywhere fun t => t.fieldNames.Nodup) ∧
    (listingSchema.Everywhere fun t => t.isPredicate = false) ∧
    (listingSchema.Everywhere fun t => t.defaultFits = true) ∧
    ∃ page : Schema, listingSchema.fields? = some listingFields ∧ ("page", page) ∈ listingFields ∧
      page.base = .number ∧ (page.check none [] []).issues = [] ∧
      ∃ shape, listingSchema.toDescriptor.asObject? = some shape ∧ "page" ∈ shape.optional := by
  refine ⟨names_listing, unconditional_listing, defaults_listing, _, rfl, List.mem_cons_self, rfl, ?_⟩
  obtain ⟨hmissing, shape, hshape, hmarked⟩ := mem_optional_iff names_listing unconditional_listing defaults_listing
    (f := listingFields[0]) rfl List.mem_cons_self nofun nofun
  exact ⟨hmissing.mpr rfl, shape, hshape, hmarked.mpr ⟨rfl, by decide⟩⟩

/-- **The note may be left out, and the shape does not say so.** -/
theorem note_unmarked : (listingSchema.Everywhere fun t => t.fieldNames.Nodup) ∧
    (listingSchema.Everywhere fun t => t.isPredicate = false) ∧
    (listingSchema.Everywhere fun t => t.defaultFits = true) ∧
    ∃ note : Schema, listingSchema.fields? = some listingFields ∧ ("note", note) ∈ listingFields ∧
      note.base = .string ∧ (note.check none [] []).issues = [] ∧ note.isOptional = true ∧
      ∃ shape, listingSchema.toDescriptor.asObject? = some shape ∧ "note" ∉ shape.optional := by
  refine ⟨names_listing, unconditional_listing, defaults_listing, .nullable (.nullable (.optional .string)), rfl, ?_, rfl,
    rfl, rfl, objectShape listingFields, ?_, ?_⟩
  · exact List.mem_cons_of_mem _ List.mem_cons_self
  · exact asObject?_toDescriptor listingSchema
  · decide

end Schema

end RouteContracts
