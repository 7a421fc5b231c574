import RouteContracts.Proofs.Schema.Outputs

/-! # Checks as walks
A check can also be made with **one** path and **one** list of issues, which every part of it changes in place: a step
is put at the end of the path before a part is looked at, and taken off afterwards. Such a walk comes back to where it
began, and has found what the check finds.

* `Walk`, `Schema.walk`: the path and the issues that are carried along, and the check that carries them.
* `Schema.walk_eq`: **a walk gives what the check gives, and goes back to its path.**
* `Schema.issues_collected`: **no issue is left out, and each is found where it would be found alone.** -/

namespace RouteContracts

/-- What a walk carries along. -/
structure Walk where
  /-- The path to the value at hand, outermost step first. -/
  path : Trail
  /-- The issues found so far, oldest first. -/
  issues : List Issue

namespace Walk

/-- Goes one step in. -/
def enter (w : Walk) (step : Step) : Walk := { w with path := w.path ++ [step] }

/-- Goes out of the last step. -/
def leave (w : Walk) : Walk := { w with path := w.path.dropLast }

/-- Finds something wrong with the value at hand. -/
def note (w : Walk) (why : Mismatch) : Walk := { w with issues := w.issues ++ [⟨w.path, why.message⟩] }

/-- What a check gives, with the walk that has made it. -/
def after (w : Walk) (c : Checked) : Option Json × Walk := (c.output, { w with issues := c.issues })

/-- `note` is `reject` at the path of the walk. -/
theorem after_reject (w : Walk) (why : Mismatch) : w.after (Schema.reject why w.path w.issues) = (none, w.note why) := rfl

/-- `leave` after `enter` is where the walk was, and keeps what was found inside. -/
@[simp] theorem leave_enter (w : Walk) (step : Step) (found : List Issue) :
    ({ w.enter step with issues := found } : Walk).leave = { w with issues := found } := by
  simp [enter, leave]

end Walk

namespace Schema

/-! ## Walking through values -/

/-- Walks through items in order, in and out of each. -/
def walkItems (walkItem : Json → Walk → Option Json × Walk) : List Json → Nat → Walk → List Json × Walk
  | [], _, w => ([], w)
  | item :: rest, i, w =>
    let (here, w) := walkItem item (w.enter (.index i))
    let (output, w) := walkItems walkItem rest (i + 1) w.leave
    (here.getD .null :: output, w)

mutual

/-- **A check with one path and one list of issues.** A layer that replaces failures looks inside with a list of its
own; a refinement counts the issues before and after. -/
def walk : Schema → Option Json → Walk → Option Json × Walk
  | .optional inner, value, w =>
    match value with
    | some v => walk inner (some v) w
    | none => (none, w)
  | .nullable inner, value, w =>
    match value with
    | some .null => (some .null, w)
    | _ => walk inner value w
  | .default inner fallback, value, w => walk inner (some (value.getD fallback)) w
  | .catching inner fallback, value, w =>
    let (output, inside) := walk inner value { w with issues := [] }
    (if inside.issues.isEmpty then output else some fallback, { inside with issues := w.issues })
  | .effects inner refinement, value, w =>
    let (output, inside) := walk inner value w
    match output with
    | some v =>
      if inside.issues.length = w.issues.length ∧ refinement.holds v = false then
        (some v, inside.note (.refinement refinement.message))
      else (some v, inside)
    | none => (none, inside)
  | .coerce inner, value, w => walk inner (value.map (coerceTo inner.base)) w
  | .object fields, value, w =>
    match value with
    | some (.object members) =>
      let (output, w) := walkFields fields members w
      (some (.object output), w)
    | some v => (none, w.note (.kind "object" v.kind))
    | none => (none, w.note .required)
  | .array element, value, w =>
    match value with
    | some (.array items) =>
      let (output, w) := walkItems (fun item => walk element (some item)) items 0 w
      (some (.array output), w)
    | some v => (none, w.note (.kind "array" v.kind))
    | none => (none, w.note .required)
  -- A leaf reads the path and adds one issue at most, so there is nothing to carry.
  | s, value, w => w.after (check s value w.path w.issues)

/-- Walks through the declared fields in order, in and out of each. -/
def walkFields : List (String × Schema) → Members Json → Walk → Members Json × Walk
  | [], _, w => ([], w)
  | (name, field) :: rest, members, w =>
    let (here, w) := walk field (Members.get? name members) (w.enter (.key name))
    let (output, w) := walkFields rest members w.leave
    (match here with
      | some v => (name, v) :: output
      | none => output, w)

end

/-- `walkItems` is `checkItems` if `walkItem` is `checkItem`. -/
theorem walkItems_eq {checkItem : Json → Trail → List Issue → Checked} {walkItem : Json → Walk → Option Json × Walk}
    (h : ∀ item w, walkItem item w = w.after (checkItem item w.path w.issues)) (items : List Json) (i : Nat)
    (w : Walk) :
    walkItems walkItem items i w =
      ((checkItems checkItem items i w.path w.issues).1,
        { w with issues := (checkItems checkItem items i w.path w.issues).2 }) := by
  induction items generalizing i w with
  | nil => rfl
  | cons item rest ih =>
    simp only [walkItems, checkItems]
    rw [h, Walk.after, Walk.leave_enter, ih]
    rfl

/-- `walkFields` is `checkFields` if `walk` of each field is its `check`. -/
theorem walkFields_eq {fields : List (String × Schema)}
    (h : ∀ f ∈ fields, ∀ v w, f.2.walk v w = w.after (f.2.check v w.path w.issues)) (members : Members Json)
    (w : Walk) :
    walkFields fields members w =
      ((checkFields fields members w.path w.issues).1,
        { w with issues := (checkFields fields members w.path w.issues).2 }) := by
  induction fields generalizing w with
  | nil => rfl
  | cons f rest ih =>
    obtain ⟨name, field⟩ := f
    have hfield : ∀ v w, field.walk v w = w.after (field.check v w.path w.issues) :=
      h (name, field) List.mem_cons_self
    have hrest := ih fun f hf => h f (List.mem_cons_of_mem _ hf)
    simp only [walkFields, checkFields]
    rw [hfield, Walk.after, Walk.leave_enter, hrest]
    rfl

/-- **`s.walk` gives what `s.check` gives, and goes back to its path.** -/
theorem walk_eq (s : Schema) (v : Option Json) (w : Walk) : s.walk v w = w.after (s.check v w.path w.issues) := by
  induction s generalizing v w with
  | string | number | boolean | null | undefined | any | literal | enumeration => simp only [walk]
  | object fields ih =>
    cases v with
    | none => exact (Walk.after_reject w _).symm
    | some v =>
      cases v with
      | object members =>
        simp only [walk, check]
        rw [walkFields_eq ih]
        rfl
      | null | bool _ | number _ | string _ | array _ => exact (Walk.after_reject w _).symm
  | array element ih =>
    cases v with
    | none => exact (Walk.after_reject w _).symm
    | some v =>
      cases v with
      | array items =>
        simp only [walk, check]
        rw [walkItems_eq fun item w => ih (some item) w]
        rfl
      | null | bool _ | number _ | string _ | object _ => exact (Walk.after_reject w _).symm
  | optional inner ih =>
    cases v with
    | none => rfl
    | some v => exact ih (some v) w
  | nullable inner ih =>
    cases v with
    | none => exact ih none w
    | some v =>
      cases v with
      | null => rfl
      | bool _ | number _ | string _ | array _ | object _ => exact ih _ w
  | default inner fallback ih => exact ih _ w
  | catching inner fallback ih =>
    -- The walk inside starts without issues, and its path is the one to go on with.
    simp only [walk, check]
    rw [ih]
    rfl
  | effects inner refinement ih =>
    simp only [walk, check]
    rw [ih, Walk.after]
    -- Both count the same issues, so they agree on whether the refinement is asked.
    cases hout : (inner.check v w.path w.issues).output with
    | none => simp only [Walk.after, hout]
    | some out =>
      dsimp only
      by_cases hfails : (inner.check v w.path w.issues).issues.length = w.issues.length ∧ refinement.holds out = false
      · rw [if_pos hfails, if_pos hfails]
        rfl
      · rw [if_neg hfails, if_neg hfails, Walk.after, hout]
  | coerce inner ih => exact ih _ w

/-! ## Issues -/

/-- `.effects inner refinement` adds its message where there are issues already, if there is none with the value at
hand. -/
theorem issues_effects_placed (inner : Schema) (refinement : Refinement) (v : Option Json) (path : Trail)
    (issues : List Issue) :
    (check (.effects inner refinement) v path issues).issues = (inner.check v path issues).issues ++
      if (inner.check v [] []).issues = [] ∧ (inner.check v [] []).output.any (fun out => !refinement.holds out)
      then [⟨path, refinement.message⟩] else [] := by
  rw [check_eq_placed, check_eq_placed inner, Checked.issues_placed, Checked.issues_placed, issues_effects,
    List.map_append, List.append_assoc]
  split
  · simp [Issue.below]
  · rfl

/-- **No issue is left out, and each is found where it would be found alone.** `s.check` at any path and after any
issues is the check at the top with its issues `below` the path, and `s.walk` leaves the path and the issues as they
were. The issues with an object are those with each of its fields, in order, and the issues with an array those with
each of its items; `.catching` adds none; and `.effects inner refinement` adds its message if and only if `inner` has no
issue and gives an output that the refinement rejects. -/
theorem issues_collected :
    (∀ (s : Schema) (v : Option Json) (path : Trail) (issues : List Issue),
      s.check v path issues =
          ⟨(s.check v [] []).output, issues ++ (s.check v [] []).issues.map (Issue.below path)⟩ ∧
        s.walk v ⟨path, issues⟩ =
          ((s.check v [] []).output, ⟨path, issues ++ (s.check v [] []).issues.map (Issue.below path)⟩)) ∧
    (∀ (fields : List (String × Schema)) (members : Members Json),
      (check (.object fields) (some (.object members)) [] []).issues =
        fields.flatMap fun f => (f.2.check (Members.get? f.1 members) [] []).issues.map (Issue.below [.key f.1])) ∧
    (∀ (element : Schema) (items : List Json),
      (check (.array element) (some (.array items)) [] []).issues =
        items.zipIdx.flatMap fun p => (element.check (some p.1) [] []).issues.map (Issue.below [.index p.2])) ∧
    (∀ (inner : Schema) (fallback : Json) (v : Option Json) (path : Trail) (issues : List Issue),
      (check (.catching inner fallback) v path issues).issues = issues) ∧
    ∀ (inner : Schema) (refinement : Refinement) (v : Option Json) (path : Trail) (issues : List Issue),
      (check (.effects inner refinement) v path issues).issues = (inner.check v path issues).issues ++
        if (inner.check v [] []).issues = [] ∧ (inner.check v [] []).output.any (fun out => !refinement.holds out)
        then [⟨path, refinement.message⟩] else [] := by
  refine ⟨fun s v path issues => ?_, fun fields members => ?_, fun element items => ?_, fun _ _ _ _ _ => rfl,
    issues_effects_placed⟩
  · have hplaced : s.check v path issues = (s.check v [] []).placed path issues := check_eq_placed s v path issues
    refine ⟨hplaced, ?_⟩
    rw [walk_eq, hplaced]
    rfl
  · simp only [check]
    rw [checkFields_eq]
    rfl
  · simp only [check]
    rw [checkItems_eq]
    rfl

/-- Three fields, three issues: of a wrong kind, missing, and inside an array. -/
example : (check (.object [("name", .string), ("age", .number), ("tags", .array .string)])
    (some (.object [("name", .bool true), ("tags", .array [.string "a", .null])])) [] []).issues.map Issue.text =
      ["at 'name': 'Expected string, received boolean'", "at 'age': 'Required'",
        "at 'tags.1': 'Expected string, received null'"] := by decide +kernel

end Schema

end RouteContracts
