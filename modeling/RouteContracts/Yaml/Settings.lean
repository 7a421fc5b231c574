import RouteContracts.Yaml.Token

/-! # Settings in YAML
A YAML text with one document that is a mapping from scalars to scalars, or empty.

* `settings?`: the settings of a text. A text with anything else in it has none. -/

namespace RouteContracts.Yaml

/-- A scalar. -/
structure Scalar where
  /-- How it is written. -/
  style : ScalarStyle
  /-- Its text. -/
  text : String
deriving DecidableEq, Repr

/-- The scalar that stands where none is written. -/
def Scalar.empty : Scalar := ⟨.plain, ""⟩

/-- The scalars that have been given a name, the last one first. -/
abbrev Anchors := List (String × Scalar)

/-- What stands in front of a node. -/
structure Properties where
  anchor : Option String
  tagged : Bool

/-- The properties of a node: at most one anchor and one tag, whose handle has to be known. -/
def properties? (handles : List String) : List Token → Option (Properties × List Token)
  | .anchor a :: .tag h :: rest => if handles.contains h then some (⟨some a, true⟩, rest) else none
  | .tag h :: .anchor a :: rest => if handles.contains h then some (⟨some a, true⟩, rest) else none
  | .anchor a :: rest => some (⟨some a, false⟩, rest)
  | .tag h :: rest => if handles.contains h then some (⟨none, true⟩, rest) else none
  | rest => some (⟨none, false⟩, rest)

/-- A scalar, or another name for one. -/
def scalar? (handles : List String) (anchors : Anchors) (ts : List Token) : Option (Scalar × List Token × Anchors) :=
  match ts with
  | .alias name :: rest => do
    let (_, s) ← anchors.find? fun a => a.1 == name
    some (s, rest, anchors)
  | ts => do
    let (properties, rest) ← properties? handles ts
    let (s, rest) ← match rest with
      | .scalar style text :: rest => some (⟨style, text⟩, rest)
      | .blockSequenceStart :: _ | .blockMappingStart :: _ | .flowSequenceStart :: _
      | .flowMappingStart :: _ | .blockEntry :: _ => none
      | rest => if properties.anchor.isSome || properties.tagged then some (Scalar.empty, rest) else none
    some (s, rest, (properties.anchor.map (·, s)).toList ++ anchors)

/-- A scalar, or an empty one in front of some tokens. -/
def scalarOr? (ends : Token → Bool) (handles : List String) (anchors : Anchors) (ts : List Token) :
    Option (Scalar × List Token × Anchors) :=
  match ts with
  | t :: _ => if ends t then some (Scalar.empty, ts, anchors) else scalar? handles anchors ts
  | [] => some (Scalar.empty, ts, anchors)

/-- Whether a part of an entry of a block ends in front of a token. -/
def endsBlockPart (t : Token) : Bool := t == .key || t == .value || t == .blockEnd

/-- Whether a key between braces ends in front of a token. -/
def endsFlowKey (t : Token) : Bool := t == .value || t == .flowEntry || t == .flowMappingEnd

/-- Whether a value between braces ends in front of a token. -/
def endsFlowValue (t : Token) : Bool := t == .flowEntry || t == .flowMappingEnd

/-- The value of an entry; an empty one if there is no colon. -/
def valueOr? (ends : Token → Bool) (handles : List String) (anchors : Anchors) (ts : List Token) :
    Option (Scalar × List Token × Anchors) :=
  match ts with
  | .value :: rest => scalarOr? ends handles anchors rest
  | ts => some (Scalar.empty, ts, anchors)

/-- Settings: names and values in order. -/
abbrev Settings := List (Scalar × Scalar)

/-- The entries of a block, after its start. -/
def blockEntries? (handles : List String) : Nat → Anchors → List Token → Option (Settings × List Token × Anchors)
  | 0, _, _ => none
  | fuel + 1, anchors, ts =>
    match ts with
    | .blockEnd :: rest => some ([], rest, anchors)
    | .key :: rest => do
      let (key, rest, anchors) ← scalarOr? endsBlockPart handles anchors rest
      let (value, rest, anchors) ← valueOr? endsBlockPart handles anchors rest
      let (entries, rest, anchors) ← blockEntries? handles fuel anchors rest
      some ((key, value) :: entries, rest, anchors)
    | _ => none

/-- An entry between braces. -/
def flowEntry? (handles : List String) (anchors : Anchors) (ts : List Token) : Option ((Scalar × Scalar) × List Token × Anchors) :=
  match ts with
  | .key :: rest => do
    let (key, rest, anchors) ← scalarOr? endsFlowKey handles anchors rest
    let (value, rest, anchors) ← valueOr? endsFlowValue handles anchors rest
    some ((key, value), rest, anchors)
  | ts => do
    let (key, rest, anchors) ← scalar? handles anchors ts
    some ((key, Scalar.empty), rest, anchors)

/-- The entries between braces, after the opening one or after a comma. -/
def flowEntries? (handles : List String) : Nat → Anchors → List Token → Option (Settings × List Token × Anchors)
  | 0, _, _ => none
  | fuel + 1, anchors, ts =>
    match ts with
    | .flowMappingEnd :: rest => some ([], rest, anchors)
    | ts => do
      let (entry, rest, anchors) ← flowEntry? handles anchors ts
      match rest with
      | .flowMappingEnd :: rest => some ([entry], rest, anchors)
      | .flowEntry :: rest => do
        let (entries, rest, anchors) ← flowEntries? handles fuel anchors rest
        some (entry :: entries, rest, anchors)
      | _ => none

/-- The handles of tags that are always known: none, for the angle brackets, and the two common ones. -/
def commonHandles : List String := ["", "!", "!!"]

/-- The directives in front of a document: the handles of tags that they add. There may be one version, and
each handle once. -/
def directives? (versioned : Bool) (handles : List String) : List Token → Option (List String × List Token)
  | .versionDirective major minor :: rest =>
    if versioned || major != 1 || (minor != 1 && minor != 2) then none
    else directives? true handles rest
  | .tagDirective handle :: rest =>
    if handles.contains handle then none else directives? versioned (handle :: handles) rest
  | rest => some (handles, rest)

/-- The content of a document: a mapping, or nothing. -/
def content? (handles : List String) (ts : List Token) : Option (Settings × List Token) :=
  let whole := commonHandles ++ handles
  match ts with
  | [] | .documentEnd :: _ | .documentStart :: _ | .versionDirective _ _ :: _ | .tagDirective _ :: _ =>
    some ([], ts)
  | ts => do
    let (properties, rest) ← properties? whole ts
    match rest with
    | .blockMappingStart :: rest => do
      let (entries, rest, _) ← blockEntries? whole rest.length [] rest
      some (entries, rest)
    | .flowMappingStart :: rest => do
      let (entries, rest, _) ← flowEntries? whole rest.length [] rest
      some (entries, rest)
    | .scalar .plain "" :: rest => some ([], rest)
    | [] | .documentEnd :: _ =>
      if properties.anchor.isSome && !properties.tagged then some ([], rest) else none
    | _ => none

/-- **The settings of a YAML text.** -/
def settings? (text : String) : Option Settings := do
  let ts ← tokens? text
  if ts.isEmpty then some []
  else
    let (entries, rest) ← match ts with
      | .versionDirective _ _ :: _ | .tagDirective _ :: _ | .documentStart :: _ => do
        let (handles, rest) ← directives? false [] ts
        match rest with
        | .documentStart :: rest => content? handles rest
        | _ => none
      | .documentEnd :: _ => none
      | ts => content? [] ts
    if rest.all (· == .documentEnd) then some entries else none

end RouteContracts.Yaml
