import RouteContracts.Proofs.Schema.Structure
import RouteContracts.Schema.Check

/-! # Locality of checks
A check adds to the issues collected before it, and what it adds does not depend on them or on where it
takes place: the path to the value only stands in front of the path of each issue.

* `Schema.check_eq_placed`: **a check anywhere is the check at the top, placed there.**
* `Schema.Passes`: a value with which a schema has no issue. `Schema.passes_iff`: it is enough to look at
  the top. -/

namespace RouteContracts

/-- An issue as it is seen from outside of the value at a path. -/
def Issue.below (path : Trail) (i : Issue) : Issue := ⟨path ++ i.path, i.message⟩

@[simp] theorem Issue.below_nil (i : Issue) : i.below [] = i := rfl

@[simp] theorem Issue.below_nil_fun : Issue.below [] = id := rfl

@[simp] theorem Issue.below_below (outer inner : Trail) (i : Issue) :
    (i.below inner).below outer = i.below (outer ++ inner) := by
  simp [below]

/-- What a check at the top gives, as it is at a path and after other issues. -/
def Checked.placed (c : Checked) (path : Trail) (issues : List Issue) : Checked :=
  ⟨c.output, issues ++ c.issues.map (Issue.below path)⟩

@[simp] theorem Checked.output_placed (c : Checked) (path : Trail) (issues : List Issue) :
    (c.placed path issues).output = c.output := rfl

@[simp] theorem Checked.issues_placed (c : Checked) (path : Trail) (issues : List Issue) :
    (c.placed path issues).issues = issues ++ c.issues.map (Issue.below path) := rfl

@[simp] theorem Checked.placed_nil (c : Checked) : c.placed [] [] = c := by
  simp [placed]

@[simp] theorem Checked.placed_placed (c : Checked) (inner outer : Trail) (before after : List Issue) :
    (c.placed inner before).placed outer after =
      c.placed (outer ++ inner) (after ++ before.map (Issue.below outer)) := by
  simp [placed, Function.comp_def]

namespace Schema

/-! ## The parts of a check -/

theorem reject_eq_placed (why : Mismatch) (path : Trail) (issues : List Issue) :
    reject why path issues = (reject why [] []).placed path issues := by
  simp [reject, Checked.placed, Issue.below]

theorem expectKind_eq_placed (kind : String) (v : Option Json) (path : Trail) (issues : List Issue) :
    expectKind kind v path issues = (expectKind kind v [] []).placed path issues := by
  cases v with
  | none => exact reject_eq_placed _ path issues
  | some v =>
    rw [expectKind, expectKind]
    split
    · simp [Checked.placed]
    · exact reject_eq_placed _ path issues

/-- `checkItems` is `placed` if `checkItem` is. -/
theorem checkItems_eq_placed (checkItem : Json → Trail → List Issue → Checked)
    (h : ∀ item path issues, checkItem item path issues = (checkItem item [] []).placed path issues)
    (items : List Json) (i : Nat) (path : Trail) (issues : List Issue) :
    checkItems checkItem items i path issues =
      ((checkItems checkItem items i [] []).1,
        issues ++ (checkItems checkItem items i [] []).2.map (Issue.below path)) := by
  induction items generalizing i path issues with
  | nil => simp [checkItems]
  | cons item rest ih =>
    simp only [checkItems]
    rw [h item (path ++ [Step.index i]) issues, h item ([] ++ [Step.index i]) []]
    rw [ih (i + 1) path, ih (i + 1) [] ((checkItem item [] []).placed ([] ++ [Step.index i]) []).issues]
    simp

/-- `checkFields` is `placed` if `check` of each field is. -/
theorem checkFields_eq_placed (fields : List (String × Schema))
    (h : ∀ f ∈ fields, ∀ v path issues, f.2.check v path issues = (f.2.check v [] []).placed path issues)
    (members : Members Json) (path : Trail) (issues : List Issue) :
    checkFields fields members path issues =
      ((checkFields fields members [] []).1,
        issues ++ (checkFields fields members [] []).2.map (Issue.below path)) := by
  induction fields generalizing path issues with
  | nil => simp [checkFields]
  | cons f rest ih =>
    obtain ⟨name, field⟩ := f
    have hfield : ∀ v path issues, field.check v path issues = (field.check v [] []).placed path issues :=
      h (name, field) (List.mem_cons_self ..)
    have hrest := ih fun f hf => h f (List.mem_cons_of_mem _ hf)
    simp only [checkFields]
    rw [hfield _ (path ++ [Step.key name]) issues, hfield _ ([] ++ [Step.key name]) []]
    rw [hrest path,
      hrest [] ((field.check (Members.get? name members) [] []).placed ([] ++ [Step.key name]) []).issues]
    simp only [Checked.output_placed, Checked.issues_placed]
    split <;> simp

/-! ## Whole checks -/

/-- **A check anywhere is the check at the top, `placed` there**: the path and the issues before it have no influence on
the output or on the issues that it adds. -/
theorem check_eq_placed (s : Schema) (v : Option Json) (path : Trail) (issues : List Issue) :
    s.check v path issues = (s.check v [] []).placed path issues := by
  induction s generalizing v path issues with
  | string | number | boolean | null =>
    simp only [check]
    exact expectKind_eq_placed _ v path issues
  | undefined =>
    cases v with
    | none => simp [check, Checked.placed]
    | some v => exact reject_eq_placed _ path issues
  | any => simp [check, Checked.placed]
  | literal expected =>
    cases v with
    | none => exact reject_eq_placed _ path issues
    | some v =>
      simp only [check]
      split
      · simp [Checked.placed]
      · exact reject_eq_placed _ path issues
  | enumeration options =>
    cases v with
    | none => exact reject_eq_placed _ path issues
    | some v =>
      simp only [check]
      split
      · simp [Checked.placed]
      · exact reject_eq_placed _ path issues
  | object fields ih =>
    match v with
    | some (.object members) =>
      simp only [check]
      rw [checkFields_eq_placed fields ih members path issues]
      simp [Checked.placed]
    | some .null | some (.bool _) | some (.number _) | some (.string _) | some (.array _) | none =>
      exact reject_eq_placed _ path issues
  | array element ih =>
    match v with
    | some (.array items) =>
      simp only [check]
      rw [checkItems_eq_placed _ (fun item => ih (some item)) items 0 path issues]
      simp [Checked.placed]
    | some .null | some (.bool _) | some (.number _) | some (.string _) | some (.object _) | none =>
      exact reject_eq_placed _ path issues
  | optional inner ih =>
    cases v with
    | none => simp [check, Checked.placed]
    | some v => exact ih (some v) path issues
  | nullable inner ih =>
    match v with
    | some .null => simp [check, Checked.placed]
    | some (.bool _) | some (.number _) | some (.string _) | some (.array _) | some (.object _) | none =>
      exact ih _ path issues
  | default inner fallback ih => exact ih _ path issues
  | catching inner fallback ih =>
    -- the schema below starts without issues, so it is the path alone that is carried in
    simp only [check]
    rw [ih v path []]
    simp [Checked.placed]
  | effects inner refinement ih =>
    simp only [check]
    rw [ih v path issues]
    simp only [Checked.output_placed, Checked.issues_placed]
    split
    · next out hout =>
      -- No issue was added at the path exactly when none was found at the top.
      have hlen : (issues ++ (inner.check v [] []).issues.map (Issue.below path)).length = issues.length ↔
          (inner.check v [] []).issues.length = ([] : List Issue).length := by
        simp
      simp only [hlen]
      split
      · simp [Checked.placed, Issue.below]
      · rfl
    · rfl
  | coerce inner ih => exact ih _ path issues

/-! ## Values without issues -/

/-- A value, present or absent, with which a schema has no issue, wherever it is. -/
def Passes (s : Schema) (v : Option Json) : Prop := ∀ path issues, (s.check v path issues).issues = issues

/-- `s.Passes v` as soon as the check at the top has no issue. -/
theorem passes_iff {s : Schema} {v : Option Json} : s.Passes v ↔ (s.check v [] []).issues = [] := by
  constructor
  · intro h
    exact h [] []
  · intro h path issues
    rw [check_eq_placed, Checked.issues_placed, h]
    simp

/-- **`safeParse` accepts exactly the values that pass.** -/
theorem safeParse_ok_iff {s : Schema} {v : Json} : (∃ out, s.safeParse v = .ok out) ↔ s.Passes (some v) := by
  rw [passes_iff]
  simp only [safeParse]
  constructor
  · rintro ⟨out, h⟩
    split at h
    · next he => exact List.isEmpty_iff.mp he
    · cases h
  · intro h
    exact ⟨_, if_pos (by rw [h]; rfl)⟩

end Schema

end RouteContracts
