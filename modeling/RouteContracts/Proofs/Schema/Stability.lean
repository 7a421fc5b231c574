import RouteContracts.Proofs.Schema.Outputs

/-! # Stability of outputs
An output has nothing left to strip, to replace or to convert: checked once more, it passes, and the same comes out.
Only a fallback need not be an output, so layers that replace failures are left out.

* `Schema.coerceTo_of_inhabits`: **a value with the shape of a schema is not converted.**
* `Schema.Passes.check_output`: the output is checked as what gave it, present or absent.
* `Schema.safeParse_idempotent`: **what was accepted is accepted as it came out, and comes out unchanged.** -/

namespace RouteContracts

namespace Schema

/-- Whether the schema itself is a layer that replaces failures. -/
def isCatching : Schema → Bool
  | .catching _ _ => true
  | _ => false

/-- Without `.catching` layers, a schema whose objects name each field once is `WellShaped`. -/
theorem wellShaped_of_uncaught {s : Schema} (names : s.Everywhere fun t => t.fieldNames.Nodup)
    (uncaught : s.Everywhere fun t => t.isCatching = false) : s.WellShaped := by
  induction s with
  | string => exact .string
  | number => exact .number
  | boolean => exact .boolean
  | null => exact .null
  | undefined => exact .undefined
  | any => exact .any
  | literal value => exact .literal value
  | enumeration options => exact .enumeration options
  | object fields ih => exact .object names.here fun f hf => ih f hf (names.field hf) (uncaught.field hf)
  | array element ih => exact .array (ih names.element uncaught.element)
  | optional inner ih => exact .optional (ih (names.inner rfl) (uncaught.inner rfl))
  | nullable inner ih => exact .nullable (ih (names.inner rfl) (uncaught.inner rfl))
  | default inner value ih => exact .default (ih (names.inner rfl) (uncaught.inner rfl)) value
  | catching inner value ih => exact absurd uncaught.here (by simp [isCatching])
  | effects inner refinement ih => exact .effects (ih (names.inner rfl) (uncaught.inner rfl)) refinement
  | coerce inner ih => exact .coerce (ih (names.inner rfl) (uncaught.inner rfl))

/-- **`coerceTo s.base v = v` for a value that `Inhabits` the shape of `s`.** -/
theorem coerceTo_of_inhabits {s : Schema} {v : Json} (h : s.toDescriptor.Inhabits (some v)) :
    coerceTo s.base v = v := by
  induction s with
  | string | number | boolean => cases h; rfl
  | null | undefined | any | literal | enumeration | object | array => cases v <;> rfl
  | optional inner ih | default inner value ih | catching inner value ih =>
    cases h with
    | optional h => exact ih h
  | nullable inner ih =>
    cases h with
    -- The base says nothing of `null`, but only texts, numbers and truth values are converted.
    | nullableNull => rw [base_nullable]; cases inner.base <;> rfl
    | nullable h => exact ih h
  | effects inner refinement ih => exact ih h
  | coerce inner ih => exact ih h

/-- **An output is checked as what gave it**: `s.check` of the output of `s.check v` is `s.check v`, where `s.Passes v`
and there is no `.catching` layer. -/
theorem Passes.check_output {s : Schema} (names : s.Everywhere fun t => t.fieldNames.Nodup)
    (uncaught : s.Everywhere fun t => t.isCatching = false) {v : Option Json} (h : s.Passes v) :
    s.check (s.check v [] []).output [] [] = s.check v [] [] := by
  induction s generalizing v with
  | string | number | boolean | null | undefined | any | literal | enumeration => rw [h.output_leaf rfl]
  | object fields ih =>
    obtain ⟨members, rfl⟩ := h.object_shape
    have hfields := passes_object_iff.mp h
    -- Under each name the output has what the field gave, or nothing if it gave nothing.
    have hagain : ∀ f ∈ fields, checkField f (checkFields fields members [] []).1 = checkField f members := by
      intro f hf
      rw [checkFields_eq, checkField, Members.get?_filterMap names.here (fun f => (checkField f members).output) hf]
      exact ih f hf (names.field hf) (uncaught.field hf) (hfields f hf)
    simp only [check]
    rw [checkFields_congr hagain]
  | array element ih =>
    obtain ⟨items, rfl⟩ := h.array_shape
    have hitems := passes_array_iff.mp h
    have hagain : ∀ item ∈ items,
        checkItem element ((checkItem element item).output.getD .null) = checkItem element item := by
      intro item hitem
      obtain ⟨out, hout⟩ := (hitems item hitem).exists_output
      have hcheck := ih names.element uncaught.element (hitems item hitem)
      rw [hout] at hcheck
      rw [checkItem, checkItem, hout]
      exact hcheck
    have houtputs : (checkItems (fun item => element.check (some item)) items 0 [] []).1 =
        items.map fun item => (checkItem element item).output.getD .null := by
      rw [checkItems_eq]
    simp only [check]
    rw [houtputs, checkItems_map hagain, houtputs]
  | optional inner ih =>
    cases v with
    | none => rfl
    | some v =>
      obtain ⟨out, hout⟩ := Passes.exists_output (s := inner) h
      have hcheck := ih (names.inner rfl) (uncaught.inner rfl) h
      simp only [check, hout] at hcheck ⊢
      exact hcheck
  | nullable inner ih =>
    by_cases hv : v = some .null
    · rw [hv]
      rfl
    · have hpass : inner.Passes v := fun path issues => by rw [← check_nullable hv]; exact h path issues
      have hcheck := ih (names.inner rfl) (uncaught.inner rfl) hpass
      rw [check_nullable hv]
      by_cases hout : (inner.check v [] []).output = some .null
      · -- The layer lets the output through, and the schema below gave it without an issue.
        rw [hpass.check_eq hout]
        rfl
      · rw [check_nullable hout, hcheck]
  | default inner fallback ih =>
    -- An output is there, so the default is not asked for again.
    obtain ⟨out, hout⟩ := Passes.exists_output (s := inner) h
    have hcheck := ih (names.inner rfl) (uncaught.inner rfl) h
    rw [hout] at hcheck
    simp only [check, hout]
    exact hcheck
  | catching inner fallback ih => exact absurd uncaught.here (by simp [isCatching])
  | effects inner refinement ih =>
    rw [output_effects]
    simp only [check]
    rw [ih (names.inner rfl) (uncaught.inner rfl) h.of_effects]
  | coerce inner ih =>
    have hpass : inner.Passes (v.map (coerceTo inner.base)) := h
    have hcheck := ih (names.inner rfl) (uncaught.inner rfl) hpass
    have hshape := (wellShaped_of_uncaught (names.inner rfl) (uncaught.inner rfl)).inhabits_output hpass
    simp only [check]
    cases hout : (inner.check (v.map (coerceTo inner.base)) [] []).output with
    | none =>
      rw [hout] at hcheck
      exact hcheck
    | some out =>
      rw [hout] at hcheck hshape
      rw [Option.map_some, coerceTo_of_inhabits hshape]
      exact hcheck

/-- **`safeParse` is idempotent** without `.catching` layers: `s.safeParse v = .ok out` implies `s.safeParse out = .ok
out`. -/
theorem safeParse_idempotent {s : Schema} (names : s.Everywhere fun t => t.fieldNames.Nodup)
    (uncaught : s.Everywhere fun t => t.isCatching = false) {v out : Json} (h : s.safeParse v = .ok out) :
    s.safeParse out = .ok out := by
  have hcheck : s.check (some v) [] [] = ⟨some out, []⟩ := safeParse_eq_ok_iff.mp h
  have hpass : s.Passes (some v) := safeParse_ok_iff.mp ⟨out, h⟩
  have hagain := hpass.check_output names uncaught
  rw [hcheck] at hagain
  exact safeParse_eq_ok_iff.mpr hagain

/-- A page with a text as the default of its size, marks that may be `null`, and a title that may be missing, but not
empty. -/
def pageSchema : Schema :=
  .object [("size", .default (.coerce .number) (.string "20")), ("marks", .array (.nullable .boolean)),
    ("title", .effects (.optional .string) (.of "Empty" fun v => v.asString?.any (· ≠ "")))]

/-- A value without a size, and with a name that the schema does not declare. -/
def pageValue : Json :=
  .object [("title", .string "All"), ("other", .null), ("marks", .array [.bool true, .null])]

/-- What is made of `pageValue`. -/
def pageOutput : Json :=
  .object [("size", .number (.int 20 (by decide))), ("marks", .array [.bool true, .null]), ("title", .string "All")]

/-- `pageValue` comes out changed, and `pageOutput` is left as it is. -/
theorem safeParse_idempotent_page : (pageSchema.Everywhere fun t => t.fieldNames.Nodup) ∧
    (pageSchema.Everywhere fun t => t.isCatching = false) ∧ pageSchema.safeParse pageValue = .ok pageOutput ∧
    pageSchema.safeParse pageOutput = .ok pageOutput := by
  have names : pageSchema.Everywhere fun t => t.fieldNames.Nodup := by decide
  have uncaught : pageSchema.Everywhere fun t => t.isCatching = false := by decide
  have parsed : pageSchema.safeParse pageValue = .ok pageOutput := rfl
  exact ⟨names, uncaught, parsed, safeParse_idempotent names uncaught parsed⟩

/-- A fallback need not be an output: this one is converted when it is given. -/
example : (Schema.catching (.coerce .number) (.string "7")).safeParse .null = .ok (.string "7") ∧
    (Schema.catching (.coerce .number) (.string "7")).safeParse (.string "7") =
      .ok (.number (.int 7 (by decide))) := ⟨rfl, rfl⟩

end Schema

end RouteContracts
