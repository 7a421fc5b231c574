import RouteContracts.Proofs.Schema.Absence

/-! # Gaps
Two things can lack an output: an item of an array, and the whole check. In both places `null` stands in for it. No
answer shows that `null`: a value that is there gives an output unless something is wrong with it, and then either the
issues are the answer, or a layer that replaces failures throws away all that was found below it.

* `Schema.exists_output_or_issue`: **a value that is there gives an output, or an issue.**
* `Schema.output_check_none`: a missing value gives no output, unless a layer puts one in its place.
* `Schema.LooksAt.passes`: what passes is made of parts that pass. `Schema.Passes.exists_outputs`: **the output of an
  array has the outputs of its items.**
* `Schema.safeParseFilling_eq`: **no answer depends on what stands in for an output.** -/

namespace RouteContracts

namespace Schema

/-! ## Values that are there -/

/-- **`s.check (some v)` gives an output, or an issue**, at every path and whatever was found before. -/
theorem exists_output_or_issue (s : Schema) (v : Json) (path : Trail) (issues : List Issue) :
    ∃ found, (s.check (some v) path issues).issues = issues ++ found ∧
      (found = [] → ∃ out, (s.check (some v) path issues).output = some out) := by
  rw [check_eq_placed]
  refine ⟨(s.check (some v) [] []).issues.map (Issue.below path), rfl, fun hfound => ?_⟩
  have hpass : s.Passes (some v) := passes_iff.mpr (List.map_eq_nil_iff.mp hfound)
  exact hpass.exists_output

/-- A check that adds no issue at one path adds none anywhere: `s.Passes v`. -/
theorem passes_of_length_eq {s : Schema} {v : Option Json} {path : Trail} {issues : List Issue}
    (h : (s.check v path issues).issues.length = issues.length) : s.Passes v := by
  rw [check_eq_placed, Checked.issues_placed, List.length_append, List.length_map] at h
  have hnone : (s.check v [] []).issues.length = 0 := by omega
  exact passes_iff.mpr (List.length_eq_zero_iff.mp hnone)

/-- Where `s.Passes v`, the check gives one output at every path. -/
theorem Passes.check_eq_at {s : Schema} {v out : Option Json} (h : s.Passes v) (hout : (s.check v [] []).output = out)
    (path : Trail) (issues : List Issue) : s.check v path issues = ⟨out, issues⟩ := by
  rw [check_eq_placed, h.check_eq hout]
  simp [Checked.placed]

/-! ## Missing values -/

/-- **`s.check none` gives no output**, unless a layer above the base `replaces`. -/
theorem output_check_none {s : Schema} (genuine : s.replacing = false) (path : Trail) (issues : List Issue) :
    (s.check none path issues).output = none := by
  rw [check_eq_placed, Checked.output_placed, check_none genuine]

/-! ## What a check looks at -/

/-- The schemas and values that a check looks at, going in through layers, fields and items. What stands below a layer
that replaces failures is looked at for its output only where there are none. -/
inductive LooksAt : Schema → Option Json → Schema → Option Json → Prop where
  | here {s : Schema} {v : Option Json} : LooksAt s v s v
  | optional {inner t : Schema} {v : Json} {w : Option Json} (h : LooksAt inner (some v) t w) :
      LooksAt (.optional inner) (some v) t w
  | nullable {inner t : Schema} {v w : Option Json} (hv : v ≠ some .null) (h : LooksAt inner v t w) :
      LooksAt (.nullable inner) v t w
  | default {inner t : Schema} {fallback : Json} {v w : Option Json}
      (h : LooksAt inner (some (v.getD fallback)) t w) : LooksAt (.default inner fallback) v t w
  | catching {inner t : Schema} {fallback : Json} {v w : Option Json} (kept : inner.Passes v)
      (h : LooksAt inner v t w) : LooksAt (.catching inner fallback) v t w
  | effects {inner t : Schema} {refinement : Refinement} {v w : Option Json} (h : LooksAt inner v t w) :
      LooksAt (.effects inner refinement) v t w
  | coerce {inner t : Schema} {v w : Option Json} (h : LooksAt inner (v.map (coerceTo inner.base)) t w) :
      LooksAt (.coerce inner) v t w
  | field {fields : List (String × Schema)} {members : Members Json} {f : String × Schema} {t : Schema}
      {w : Option Json} (hf : f ∈ fields) (h : LooksAt f.2 (Members.get? f.1 members) t w) :
      LooksAt (.object fields) (some (.object members)) t w
  | item {element t : Schema} {items : List Json} {item : Json} {w : Option Json} (hitem : item ∈ items)
      (h : LooksAt element (some item) t w) : LooksAt (.array element) (some (.array items)) t w

/-- **`LooksAt` keeps `Passes`**: what passes is made of parts that pass. -/
theorem LooksAt.passes {s t : Schema} {v w : Option Json} (h : LooksAt s v t w) (hs : s.Passes v) : t.Passes w := by
  induction h with
  | here => exact hs
  | optional _ ih => exact ih hs
  | nullable hv _ ih =>
    refine ih fun path issues => ?_
    rw [← check_nullable hv]
    exact hs path issues
  | default _ ih => exact ih hs
  | catching kept _ ih => exact ih kept
  | effects _ ih => exact ih hs.of_effects
  | coerce _ ih => exact ih hs
  | field hf _ ih => exact ih (passes_object_iff.mp hs _ hf)
  | item hitem _ ih => exact ih (passes_array_iff.mp hs _ hitem)

/-- **The output of an array that passes is the array of the outputs of its items**, one for each and in their order. -/
theorem Passes.exists_outputs {element : Schema} {items : List Json}
    (h : (Schema.array element).Passes (some (.array items))) :
    ∃ outputs, ((Schema.array element).check (some (.array items)) [] []).output = some (.array outputs) ∧
      List.Forall₂ (fun item out => ∀ path issues, element.check (some item) path issues = ⟨some out, issues⟩)
        items outputs := by
  refine ⟨items.map fun item => (checkItem element item).output.getD .null, ?_, ?_⟩
  · simp only [check]
    rw [checkItems_eq]
  · rw [List.forall₂_map_right_iff, List.forall₂_same]
    intro item hitem
    have hpass : element.Passes (some item) := passes_array_iff.mp h item hitem
    obtain ⟨out, hout⟩ := hpass.exists_output
    rw [checkItem, hout]
    exact hpass.check_eq_at hout

/-! ## Checks with another value in the gaps -/

/-- Checks each item in order, with a value of choice in the place of an output that is not there. -/
def checkItemsFilling (gap : Json) (checkItem : Json → Trail → List Issue → Checked) :
    List Json → Nat → Trail → List Issue → List Json × List Issue
  | [], _, _, issues => ([], issues)
  | item :: rest, i, path, issues =>
    let here := checkItem item (path ++ [.index i]) issues
    let (output, issues) := checkItemsFilling gap checkItem rest (i + 1) path here.issues
    (here.output.getD gap :: output, issues)

mutual

/-- **A check that fills gaps with a value of choice**, where the check itself has `null`. -/
def checkFilling (gap : Json) : Schema → Option Json → Trail → List Issue → Checked
  | .optional inner, value, path, issues =>
    match value with
    | some v => checkFilling gap inner (some v) path issues
    | none => ⟨none, issues⟩
  | .nullable inner, value, path, issues =>
    match value with
    | some .null => ⟨some .null, issues⟩
    | _ => checkFilling gap inner value path issues
  | .default inner fallback, value, path, issues =>
    checkFilling gap inner (some (value.getD fallback)) path issues
  | .catching inner fallback, value, path, issues =>
    let inside := checkFilling gap inner value path []
    ⟨if inside.issues.isEmpty then inside.output else some fallback, issues⟩
  | .effects inner refinement, value, path, issues =>
    let inside := checkFilling gap inner value path issues
    match inside.output with
    | some v =>
      if inside.issues.length = issues.length ∧ refinement.holds v = false then
        ⟨some v, inside.issues ++ [⟨path, (Mismatch.refinement refinement.message).message⟩]⟩
      else inside
    | none => inside
  | .coerce inner, value, path, issues =>
    checkFilling gap inner (value.map (coerceTo inner.base)) path issues
  | .object fields, value, path, issues =>
    match value with
    | some (.object members) =>
      let (output, issues) := checkFieldsFilling gap fields members path issues
      ⟨some (.object output), issues⟩
    | some v => reject (.kind "object" v.kind) path issues
    | none => reject .required path issues
  | .array element, value, path, issues =>
    match value with
    | some (.array items) =>
      let (output, issues) :=
        checkItemsFilling gap (fun item => checkFilling gap element (some item)) items 0 path issues
      ⟨some (.array output), issues⟩
    | some v => reject (.kind "array" v.kind) path issues
    | none => reject .required path issues
  -- A leaf has no items.
  | s, value, path, issues => check s value path issues

/-- Checks each declared field in order, filling gaps. -/
def checkFieldsFilling (gap : Json) : List (String × Schema) → Members Json → Trail → List Issue →
    Members Json × List Issue
  | [], _, _, issues => ([], issues)
  | (name, field) :: rest, members, path, issues =>
    let here := checkFilling gap field (Members.get? name members) (path ++ [.key name]) issues
    let (output, issues) := checkFieldsFilling gap rest members path here.issues
    (match here.output with
      | some v => (name, v) :: output
      | none => output, issues)

end

/-- The output for a value, or every issue with it; gaps, also that of the whole, are filled with a value of choice. -/
def safeParseFilling (gap : Json) (schema : Schema) (value : Json) : Except (List Issue) Json :=
  let checked := schema.checkFilling gap (some value) [] []
  if checked.issues.isEmpty then .ok (checked.output.getD gap) else .error checked.issues

/-- How `checkFilling gap` compares with `check`: the issues are the same, and so is the output if `gap = .null` or
`Passes`. -/
structure FillsAlike (gap : Json) (s : Schema) : Prop where
  issues (v : Option Json) (path : Trail) (before : List Issue) :
    (s.checkFilling gap v path before).issues = (s.check v path before).issues
  output (v : Option Json) (path : Trail) (before : List Issue) (h : gap = .null ∨ s.Passes v) :
    (s.checkFilling gap v path before).output = (s.check v path before).output

namespace FillsAlike

variable {gap : Json} {s : Schema}

/-- `checkFilling gap` is `check` where `gap = .null` or `s.Passes v`. -/
theorem check_eq (h : FillsAlike gap s) {v : Option Json} (hv : gap = .null ∨ s.Passes v) (path : Trail)
    (before : List Issue) : s.checkFilling gap v path before = s.check v path before :=
  calc s.checkFilling gap v path before
      = ⟨(s.checkFilling gap v path before).output, (s.checkFilling gap v path before).issues⟩ := rfl
    _ = s.check v path before := by rw [h.output v path before hv, h.issues v path before]

/-- `checkItemsFilling` compares with `checkItems` as one item does. -/
theorem items {element : Schema} (h : FillsAlike gap element) (items : List Json) (i : Nat) (path : Trail)
    (before : List Issue) :
    (checkItemsFilling gap (fun item => element.checkFilling gap (some item)) items i path before).2 =
        (checkItems (fun item => element.check (some item)) items i path before).2 ∧
      ((gap = .null ∨ ∀ item ∈ items, element.Passes (some item)) →
        (checkItemsFilling gap (fun item => element.checkFilling gap (some item)) items i path before).1 =
          (checkItems (fun item => element.check (some item)) items i path before).1) := by
  induction items generalizing i before with
  | nil => exact ⟨rfl, fun _ => rfl⟩
  | cons item rest ih =>
    simp only [checkItemsFilling, checkItems, h.issues]
    refine ⟨(ih _ _).1, fun halike => ?_⟩
    have hitem : gap = .null ∨ element.Passes (some item) :=
      halike.imp_right fun hpass => hpass item List.mem_cons_self
    have hrest : gap = .null ∨ ∀ item ∈ rest, element.Passes (some item) :=
      halike.imp_right fun hpass item hmem => hpass item (List.mem_cons_of_mem _ hmem)
    rw [h.output _ _ _ hitem, (ih _ _).2 hrest]
    rcases hitem with rfl | hpass
    · rfl
    · -- an item that passes has an output, so nothing stands in for it
      obtain ⟨out, hout⟩ := hpass.exists_output
      rw [hpass.check_eq_at hout]
      rfl

/-- `checkFieldsFilling` compares with `checkFields` as each field does. -/
theorem fields {fields : List (String × Schema)} (h : ∀ f ∈ fields, FillsAlike gap f.2) (members : Members Json)
    (path : Trail) (before : List Issue) :
    (checkFieldsFilling gap fields members path before).2 = (checkFields fields members path before).2 ∧
      ((gap = .null ∨ ∀ f ∈ fields, f.2.Passes (Members.get? f.1 members)) →
        (checkFieldsFilling gap fields members path before).1 = (checkFields fields members path before).1) := by
  induction fields generalizing before with
  | nil => exact ⟨rfl, fun _ => rfl⟩
  | cons f rest ih =>
    obtain ⟨name, field⟩ := f
    have hfield : FillsAlike gap field := h (name, field) List.mem_cons_self
    have hrest := ih fun f hf => h f (List.mem_cons_of_mem _ hf)
    simp only [checkFieldsFilling, checkFields, hfield.issues]
    refine ⟨(hrest _).1, fun halike => ?_⟩
    have hhere : gap = .null ∨ field.Passes (Members.get? name members) :=
      halike.imp_right fun hpass => hpass (name, field) List.mem_cons_self
    have hbelow : gap = .null ∨ ∀ f ∈ rest, f.2.Passes (Members.get? f.1 members) :=
      halike.imp_right fun hpass f hf => hpass f (List.mem_cons_of_mem _ hf)
    rewrite [hfield.output _ _ _ hhere, (hrest _).2 hbelow]
    rfl

/-- `FillsAlike` for `.object fields`: only an object has fields that are looked at. -/
theorem object {fields : List (String × Schema)} (h : ∀ f ∈ fields, FillsAlike gap f.2) :
    FillsAlike gap (.object fields) := by
  constructor
  · intro v path before
    cases v with
    | none => rfl
    | some v =>
      cases v with
      | object members => exact (FillsAlike.fields h members path before).1
      | null | bool | number | string | array => rfl
  · intro v path before halike
    cases v with
    | none => rfl
    | some v =>
      cases v with
      | object members =>
        simp only [checkFilling, check]
        rw [(FillsAlike.fields h members path before).2 (halike.imp_right passes_object_iff.mp)]
      | null | bool | number | string | array => rfl

/-- `FillsAlike` for `.array element`: only an array has items that are looked at. -/
theorem array {element : Schema} (h : FillsAlike gap element) : FillsAlike gap (.array element) := by
  constructor
  · intro v path before
    cases v with
    | none => rfl
    | some v =>
      cases v with
      | array items => exact (h.items items 0 path before).1
      | null | bool | number | string | object => rfl
  · intro v path before halike
    cases v with
    | none => rfl
    | some v =>
      cases v with
      | array items =>
        simp only [checkFilling, check]
        rw [(h.items items 0 path before).2 (halike.imp_right passes_array_iff.mp)]
      | null | bool | number | string | object => rfl

/-- `FillsAlike` for `.optional inner`: a missing value goes no further. -/
theorem optional {inner : Schema} (h : FillsAlike gap inner) : FillsAlike gap (.optional inner) := by
  constructor
  · intro v path before
    cases v with
    | none => rfl
    | some v => exact h.issues (some v) path before
  · intro v path before halike
    cases v with
    | none => rfl
    | some v => exact h.output (some v) path before halike

/-- `FillsAlike` for `.nullable inner`: a `null` goes no further. -/
theorem nullable {inner : Schema} (h : FillsAlike gap inner) : FillsAlike gap (.nullable inner) := by
  constructor
  · intro v path before
    cases v with
    | none => exact h.issues none path before
    | some v =>
      cases v with
      | null => rfl
      | bool | number | string | array | object => exact h.issues _ path before
  · intro v path before halike
    cases v with
    | none => exact h.output none path before halike
    | some v =>
      cases v with
      | null => rfl
      | bool | number | string | array | object => exact h.output _ path before halike

/-- `FillsAlike` for `.catching inner fallback`: with an issue below, the output is thrown away. -/
theorem catching {inner : Schema} (h : FillsAlike gap inner) (fallback : Json) :
    FillsAlike gap (.catching inner fallback) := by
  refine ⟨fun v path before => rfl, fun v path before _ => ?_⟩
  simp only [checkFilling, check, h.issues]
  split
  · next hempty =>
    have hpass : inner.Passes v := passes_of_length_eq (congrArg List.length (List.isEmpty_iff.mp hempty))
    exact h.output v path [] (.inr hpass)
  · rfl

/-- `FillsAlike` for `.effects inner refinement`: a refinement sees an output only where there is no issue below it. -/
theorem effects {inner : Schema} (h : FillsAlike gap inner) (refinement : Refinement) :
    FillsAlike gap (.effects inner refinement) := by
  have hsame {v : Option Json} (path : Trail) (before : List Issue) (hv : gap = .null ∨ inner.Passes v) :
      (Schema.effects inner refinement).checkFilling gap v path before =
        (Schema.effects inner refinement).check v path before := by
    simp only [checkFilling, check]
    rewrite [h.check_eq hv]
    rfl
  constructor
  · intro v path before
    by_cases hpass : inner.Passes v
    · rw [hsame path before (.inr hpass)]
    · -- there is an issue from below, so the refinement adds none to either
      have hlength : (inner.check v path before).issues.length ≠ before.length := fun h => hpass (passes_of_length_eq h)
      simp only [checkFilling, check, h.issues, hlength, false_and, if_false]
      split <;> split <;> exact h.issues v path before
  · intro v path before hv
    rw [hsame path before (hv.imp_right Passes.of_effects)]

end FillsAlike

/-- **`FillsAlike gap s`** for every schema, by induction. -/
theorem fillsAlike (gap : Json) (s : Schema) : FillsAlike gap s := by
  induction s with
  | string | number | boolean | null | undefined | any | literal | enumeration =>
    exact ⟨fun _ _ _ => rfl, fun _ _ _ _ => rfl⟩
  | object fields ih => exact .object ih
  | array element ih => exact ih.array
  | optional inner ih => exact ih.optional
  | nullable inner ih => exact ih.nullable
  | default inner fallback ih =>
    exact ⟨fun v => ih.issues (some (v.getD fallback)), fun v => ih.output (some (v.getD fallback))⟩
  | catching inner fallback ih => exact ih.catching fallback
  | effects inner refinement ih => exact ih.effects refinement
  | coerce inner ih =>
    exact ⟨fun v => ih.issues (v.map (coerceTo inner.base)), fun v => ih.output (v.map (coerceTo inner.base))⟩

/-- `checkFilling .null` is `check`. -/
theorem checkFilling_null (s : Schema) (v : Option Json) (path : Trail) (issues : List Issue) :
    s.checkFilling .null v path issues = s.check v path issues :=
  (fillsAlike .null s).check_eq (.inl rfl) path issues

/-- **`safeParseFilling gap` is `safeParse`**: no answer depends on what stands in for an output. -/
theorem safeParseFilling_eq (gap : Json) (s : Schema) (v : Json) : s.safeParseFilling gap v = s.safeParse v := by
  have halike := fillsAlike gap s
  simp only [safeParseFilling, safeParse, halike.issues]
  split
  · next hempty =>
    have hpass : s.Passes (some v) := passes_iff.mpr (List.isEmpty_iff.mp hempty)
    obtain ⟨out, hout⟩ := hpass.exists_output
    rw [halike.output _ _ _ (.inr hpass), hout]
    rfl
  · rfl

/-! ## Absence -/

/-- **Absence is not invented.** `s.check (some v)` gives an output, or an issue; `s.check none` gives no output unless
`s.replacing`. So `s.safeParse v = .ok out` answers the output of the check, whatever `gap` stands in for one, and each
array that it `LooksAt` comes out with the outputs of its items. -/
theorem absence_not_invented (s : Schema) :
    (∀ v path issues, ∃ found, (s.check (some v) path issues).issues = issues ++ found ∧
        (found = [] → ∃ out, (s.check (some v) path issues).output = some out)) ∧
      (s.replacing = false → ∀ path issues, (s.check none path issues).output = none) ∧
      ∀ v out, s.safeParse v = .ok out →
        (s.check (some v) [] []).output = some out ∧
        (∀ gap, s.safeParseFilling gap v = .ok out) ∧
        ∀ element items, LooksAt s (some v) (.array element) (some (.array items)) →
          ∃ outputs, ((Schema.array element).check (some (.array items)) [] []).output = some (.array outputs) ∧
            List.Forall₂ (fun item out => ∀ path issues, element.check (some item) path issues = ⟨some out, issues⟩)
              items outputs := by
  refine ⟨s.exists_output_or_issue, output_check_none, fun v out hparse => ⟨?_, fun gap => ?_, ?_⟩⟩
  · rw [safeParse_eq_ok_iff.mp hparse]
  · rw [safeParseFilling_eq, hparse]
  · intro element items hlooks
    have hpass : s.Passes (some v) := safeParse_ok_iff.mp ⟨out, hparse⟩
    exact (hlooks.passes hpass).exists_outputs

/-- A label has tags that are left out where one is wrong, and marks that may be `null`. -/
def labelSchema : Schema :=
  .object [("tags", .catching (.array .string) (.array [])), ("marks", .array (.nullable (.coerce .boolean))),
    ("note", .optional .string)]

/-- A label with a tag that is no text, so that the list of its tags has a gap. -/
def labelValue : Json :=
  .object [("tags", .array [.string "new", .bool true]), ("marks", .array [.null, .string "1"])]

/-- What is made of `labelValue`. -/
def labelOutput : Json := .object [("tags", .array []), ("marks", .array [.null, .bool true])]

/-- The gap among the tags does not come out, and each mark has an output, also the one that is `null`. -/
theorem absence_not_invented_label : labelSchema.replacing = false ∧
    labelSchema.safeParse labelValue = .ok labelOutput ∧ (labelSchema.check none [] []).output = none ∧
    labelSchema.safeParseFilling (.bool false) labelValue = .ok labelOutput ∧
    ∃ outputs, List.Forall₂ (fun item out => ∀ path issues,
      (Schema.nullable (.coerce .boolean)).check (some item) path issues = ⟨some out, issues⟩)
        [.null, .string "1"] outputs := by
  have hgenuine : labelSchema.replacing = false := rfl
  have hparse : labelSchema.safeParse labelValue = .ok labelOutput := rfl
  have hlooks : LooksAt labelSchema (some labelValue) (.array (.nullable (.coerce .boolean)))
      (some (.array [.null, .string "1"])) :=
    .field (f := ("marks", .array (.nullable (.coerce .boolean)))) (List.mem_cons_of_mem _ List.mem_cons_self) .here
  obtain ⟨-, hnone, hanswer⟩ := absence_not_invented labelSchema
  obtain ⟨-, hfilled, hitems⟩ := hanswer labelValue labelOutput hparse
  obtain ⟨outputs, -, houtputs⟩ := hitems _ _ hlooks
  exact ⟨hgenuine, hparse, hnone hgenuine [] [], hfilled _, outputs, houtputs⟩

end Schema

end RouteContracts
