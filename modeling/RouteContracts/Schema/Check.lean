import RouteContracts.Schema.Coercion

/-! # Checking values
A check walks a schema beside a value that may be absent. It gives the output, stripped of undeclared
names, with defaults, fallbacks and conversions in place, and collects **every** issue with the path to
it; nothing stops at the first.

* `Schema.check`: the walk, from a current path and the issues collected so far.
* `Schema.safeParse`: the output, or the issues when there are any.
* `Issue.text`: how an issue is shown. -/

namespace RouteContracts

/-- One step of the path to an issue. -/
inductive Step where
  /-- Into a member of an object. -/
  | key (name : String)
  /-- Into an item of an array. -/
  | index (i : Nat)
deriving DecidableEq, Repr

/-- The text of a step. -/
def Step.text : Step → String
  | .key name => name
  | .index i => Json.Number.natText i

/-- The steps from the outermost value to an inner one. -/
abbrev Trail := List Step

/-- One failure of a check. -/
structure Issue where
  /-- Where it occurred, outermost step first. -/
  path : Trail
  /-- What was wrong. -/
  message : String
deriving DecidableEq, Repr

namespace Issue

/-- The `Step.text` of each step, joined with dots. -/
def dottedPath (i : Issue) : String := ".".intercalate (i.path.map Step.text)

/-- `i.path = [.key name]`. -/
def isAt (i : Issue) (name : String) : Bool := i.path == [.key name]

/-- How an issue is shown. -/
def text (i : Issue) : String := "at '" ++ i.dottedPath ++ "': '" ++ i.message ++ "'"

end Issue

/-- Why a value does not fit a schema. -/
inductive Mismatch where
  /-- A value was needed and there is none. -/
  | required
  /-- A value of one kind was needed and one of another kind is there. -/
  | kind (expected received : String)
  /-- Another value than the one allowed. -/
  | literal (expected : Json)
  /-- None of the texts allowed; `received` shows the value. -/
  | enumeration (options : List String) (received : String)
  /-- A refinement failed. -/
  | refinement (message : String)

/-- The wording of a mismatch. -/
def Mismatch.message : Mismatch → String
  | .required => "Required"
  | .kind expected received => "Expected " ++ expected ++ ", received " ++ received
  | .literal expected => "Invalid literal value, expected " ++ expected.write
  | .enumeration options received =>
    "Invalid enum value. Expected " ++ " | ".intercalate (options.map fun o => "'" ++ o ++ "'")
      ++ ", received " ++ received
  | .refinement message => message

/-- What a check gives: the output, unless there is none, and all issues collected so far. -/
structure Checked where
  /-- The output. -/
  output : Option Json
  /-- The issues, oldest first. -/
  issues : List Issue
deriving Inhabited

namespace Schema

/-- Adds an issue at `path`, with the message of `why`; there is no output. -/
def reject (why : Mismatch) (path : Trail) (issues : List Issue) : Checked :=
  ⟨none, issues ++ [⟨path, why.message⟩]⟩

/-- The value itself where its `Json.kind` is `kind`, and an issue else. -/
def expectKind (kind : String) (value : Option Json) (path : Trail) (issues : List Issue) : Checked :=
  match value with
  | some v => if v.kind = kind then ⟨some v, issues⟩ else reject (.kind kind v.kind) path issues
  | none => reject .required path issues

/-- How a value is shown that should have been one of some texts. -/
def shownForEnumeration : Json → String
  | .string s => "'" ++ s ++ "'"
  | v => v.kind

/-- `checkItem` for each item in order, one index further each time. An item without output leaves `null` in its
place. -/
def checkItems (checkItem : Json → Trail → List Issue → Checked) :
    List Json → Nat → Trail → List Issue → List Json × List Issue
  | [], _, _, issues => ([], issues)
  | item :: rest, i, path, issues =>
    let here := checkItem item (path ++ [.index i]) issues
    let (output, issues) := checkItems checkItem rest (i + 1) path here.issues
    (here.output.getD .null :: output, issues)

mutual

/-- **Checks a value against a schema**, from the path to it and the issues collected before. Layers pass the value on
to what they are around, and answer themselves where it is absent or `null`. -/
def check : Schema → Option Json → Trail → List Issue → Checked
  | .optional inner, value, path, issues =>
    match value with
    | some v => check inner (some v) path issues
    | none => ⟨none, issues⟩
  | .nullable inner, value, path, issues =>
    match value with
    | some .null => ⟨some .null, issues⟩
    | _ => check inner value path issues
  | .default inner fallback, value, path, issues =>
    check inner (some (value.getD fallback)) path issues
  | .catching inner fallback, value, path, issues =>
    -- the issues inside do not leave the layer
    let inside := check inner value path []
    ⟨if inside.issues.isEmpty then inside.output else some fallback, issues⟩
  | .effects inner refinement, value, path, issues =>
    let inside := check inner value path issues
    match inside.output with
    | some v =>
      -- a refinement is asked only about what is otherwise right
      if inside.issues.length = issues.length ∧ refinement.holds v = false then
        ⟨some v, inside.issues ++ [⟨path, (Mismatch.refinement refinement.message).message⟩]⟩
      else inside
    | none => inside
  | .coerce inner, value, path, issues =>
    check inner (value.map (coerceTo inner.base)) path issues
  | .any, value, _, issues => ⟨value, issues⟩
  | .undefined, value, path, issues =>
    match value with
    | none => ⟨none, issues⟩
    | some v => reject (.kind "undefined" v.kind) path issues
  | .string, value, path, issues => expectKind "string" value path issues
  | .number, value, path, issues => expectKind "number" value path issues
  | .boolean, value, path, issues => expectKind "boolean" value path issues
  | .null, value, path, issues => expectKind "null" value path issues
  | .literal expected, value, path, issues =>
    match value with
    | some v => if v.same expected then ⟨some v, issues⟩ else reject (.literal expected) path issues
    | none => reject .required path issues
  | .enumeration options, value, path, issues =>
    match value with
    | some v =>
      if v.asString?.any (options.contains ·) then ⟨some v, issues⟩
      else reject (.enumeration options (shownForEnumeration v)) path issues
    | none => reject .required path issues
  | .object fields, value, path, issues =>
    match value with
    | some (.object members) =>
      -- members that are not declared are not looked at, and not kept
      let (output, issues) := checkFields fields members path issues
      ⟨some (.object output), issues⟩
    | some v => reject (.kind "object" v.kind) path issues
    | none => reject .required path issues
  | .array element, value, path, issues =>
    match value with
    | some (.array items) =>
      let (output, issues) :=
        checkItems (fun item => check element (some item)) items 0 path issues
      ⟨some (.array output), issues⟩
    | some v => reject (.kind "array" v.kind) path issues
    | none => reject .required path issues

/-- `check` for each declared field in order, one name further. A field without output is left out of the object. -/
def checkFields : List (String × Schema) → Members Json → Trail → List Issue →
    Members Json × List Issue
  | [], _, _, issues => ([], issues)
  | (name, field) :: rest, members, path, issues =>
    let here := check field (Members.get? name members) (path ++ [.key name]) issues
    let (output, issues) := checkFields rest members path here.issues
    (match here.output with
      | some v => (name, v) :: output
      | none => output, issues)

end

/-- **The output for a value**, if `check` reports no issue, or every issue with it. No output at all counts as
`null`. -/
def safeParse (schema : Schema) (value : Json) : Except (List Issue) Json :=
  let checked := schema.check (some value) [] []
  if checked.issues.isEmpty then .ok (checked.output.getD .null) else .error checked.issues

end Schema

end RouteContracts
