import RouteContracts.Proofs.Schema.Outputs

/-! # Layers for absence and conversion
Layers that let a value be absent or `null`, or that convert it first, change little about what a schema makes of
a value that is there: it is converted if one of them converts, and then it is up to the core.

* `Schema.Layered`: a core under such layers.
* `Schema.Layered.check_some`: **a value that is there is checked by the core.**
* `Schema.Layered.check_none`: **a missing value is accepted** where the shape lets it be missing. -/

namespace RouteContracts

/-! ## Conversions -/

/-- `coerceTo s` is idempotent: a value is converted at most once. -/
theorem coerceTo_coerceTo (s : Schema) (v : Json) : coerceTo s (coerceTo s v) = coerceTo s v := by
  cases s with
  | number =>
    cases v with
    | string text =>
      cases hread : readNumber? text with
      | none => simp [coerceTo, hread]
      | some n => simp [coerceTo, hread]
    | _ => rfl
  | boolean =>
    cases v with
    | string text =>
      by_cases htrue : text = "true" ∨ text = "1"
      · simp [coerceTo, htrue]
      · by_cases hfalse : text = "false" ∨ text = "0" ∨ text = "" <;> simp [coerceTo, htrue, hfalse]
    | _ => rfl
  | string => cases v <;> rfl
  | _ => rfl

/-- `coerceTo s` gives no `null` but for `null`. -/
theorem coerceTo_ne_null (s : Schema) {v : Json} (hv : v ≠ .null) : coerceTo s v ≠ .null := by
  unfold coerceTo
  split
  · next text =>
    cases readNumber? text with
    | none => exact hv
    | some n => exact Json.noConfusion
  · split
    · exact Json.noConfusion
    · split
      · exact Json.noConfusion
      · exact hv
  · exact Json.noConfusion
  · exact Json.noConfusion
  · exact hv

namespace Schema

/-! ## Layers -/

/-- A core under layers for absence, for `null` and for conversion, and whether the last are among them. -/
inductive Layered (core : Schema) : Bool → Schema → Prop where
  /-- No layer. -/
  | core : Layered core false core
  /-- A layer for absence. -/
  | optional {coerced : Bool} {s : Schema} (h : Layered core coerced s) : Layered core coerced (.optional s)
  /-- A layer for `null`. -/
  | nullable {coerced : Bool} {s : Schema} (h : Layered core coerced s) : Layered core coerced (.nullable s)
  /-- A layer for conversion. -/
  | coerce {coerced : Bool} {s : Schema} (h : Layered core coerced s) : Layered core true (.coerce s)

namespace Layered

variable {core s : Schema} {coerced : Bool}

/-- `s.base = core.base` where `Layered core coerced s`. -/
theorem base_eq (h : Layered core coerced s) : s.base = core.base := by
  induction h with
  | core => rfl
  | optional _ ih | nullable _ ih | coerce _ ih => exact ih

/-- **`s.check (some v)` is `core.check`**, after `coerceTo core` if there is a layer for conversion. -/
theorem check_some (hcore : core.base = core) (h : Layered core coerced s) {v : Json} (hv : v ≠ .null)
    (path : Trail) (issues : List Issue) :
    s.check (some v) path issues = core.check (some (if coerced then coerceTo core v else v)) path issues := by
  induction h generalizing v with
  | core => rfl
  | optional _ ih => exact ih hv
  | @nullable coerced s _ ih =>
    rw [← ih hv]
    cases v with
    | null => exact absurd rfl hv
    | bool _ | number _ | string _ | array _ | object _ => rfl
  | @coerce coerced s h ih =>
    have hconverted : coerceTo core v ≠ .null := coerceTo_ne_null core hv
    simp only [check, Option.map_some, h.base_eq, hcore]
    rw [ih hconverted, coerceTo_coerceTo]
    simp

/-- **`s.check none` has no issue** where the shape lets the value be missing and that of the core does not. -/
theorem check_none (hcore : ¬core.toDescriptor.Inhabits none) (h : Layered core coerced s)
    (hs : s.toDescriptor.Inhabits none) (path : Trail) (issues : List Issue) :
    s.check none path issues = ⟨none, issues⟩ := by
  induction h with
  | core => exact absurd hs hcore
  | optional _ _ => rfl
  | nullable _ ih =>
    cases hs with
    | nullable hs => exact ih hs
  | coerce _ ih => exact ih hs

/-- A value that is there `Inhabits` the shape of the core. -/
theorem inhabits_core (h : Layered core coerced s) {v : Json} (hv : v ≠ .null)
    (hs : s.toDescriptor.Inhabits (some v)) : core.toDescriptor.Inhabits (some v) := by
  induction h with
  | core => exact hs
  | optional _ ih =>
    cases hs with
    | optional hs => exact ih hs
  | nullable _ ih =>
    cases hs with
    | nullableNull => exact absurd rfl hv
    | nullable hs => exact ih hs
  | coerce _ ih => exact ih hs

end Layered

end Schema

end RouteContracts
