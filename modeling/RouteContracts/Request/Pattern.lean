import RouteContracts.Request.Scalar

/-! # URL patterns
A pattern is a path whose segments may hold placeholders: `[name]` and `[...name]` need a value,
`[[name]]` may go without one.

* `Pattern.pieces`: the literal stretches and placeholders of a segment.
* `Pattern.fill`: the path with the values of an object in place of the placeholders. -/

namespace RouteContracts.Pattern

/-- A stretch of a segment. -/
inductive Piece where
  /-- A character that stands for itself. -/
  | literal (c : Char)
  /-- A placeholder that needs a value. -/
  | required (name : String)
  /-- A placeholder that may go without a value. -/
  | optional (name : String)
deriving DecidableEq, Repr

/-- Why a path cannot be built. -/
inductive FillError where
  /-- The value of a parameter is missing where one is needed, or is no scalar. -/
  | invalid (name : String)
deriving DecidableEq, Repr

/-- Whether a character is a bracket. -/
def isBracket (c : Char) : Bool := c == '[' || c == ']'

/-- The name of a placeholder in single brackets: three dots in front do not count, unless nothing
follows them. -/
def placeholderName (name : List Char) : List Char :=
  match name with
  | '.' :: '.' :: '.' :: c :: rest => c :: rest
  | _ => name

/-- The placeholder in double brackets at the front of a text. -/
def double? : List Char → Option (Piece × List Char)
  | '[' :: '[' :: rest =>
    match rest.takeWhile (!isBracket ·), rest.dropWhile (!isBracket ·) with
    | c :: cs, ']' :: ']' :: rest => some (.optional (String.ofList (c :: cs)), rest)
    | _, _ => none
  | _ => none

/-- The placeholder in single brackets at the front of a text. -/
def single? : List Char → Option (Piece × List Char)
  | '[' :: rest =>
    match rest.takeWhile (!isBracket ·), rest.dropWhile (!isBracket ·) with
    | c :: cs, ']' :: rest => some (.required (String.ofList (placeholderName (c :: cs))), rest)
    | _, _ => none
  | _ => none

/-- The placeholder at the front of a text, by `double?` or else by `single?`. -/
def placeholder? (s : List Char) : Option (Piece × List Char) := (double? s).or (single? s)

theorem length_double? {s : List Char} {p : Piece} {rest : List Char}
    (h : double? s = some (p, rest)) : rest.length < s.length := by
  unfold double? at h
  split at h
  · rename_i r
    split at h
    · rename_i heq
      have hle := List.Sublist.length_le (List.dropWhile_sublist (!isBracket ·) (l := r))
      simp only [Option.some.injEq, Prod.mk.injEq] at h
      rw [heq] at hle
      simp only [List.length_cons] at hle ⊢
      rw [← h.2]; omega
    · cases h
  · cases h

theorem length_single? {s : List Char} {p : Piece} {rest : List Char}
    (h : single? s = some (p, rest)) : rest.length < s.length := by
  unfold single? at h
  split at h
  · rename_i r
    split at h
    · rename_i heq
      have hle := List.Sublist.length_le (List.dropWhile_sublist (!isBracket ·) (l := r))
      simp only [Option.some.injEq, Prod.mk.injEq] at h
      rw [heq] at hle
      simp only [List.length_cons] at hle ⊢
      rw [← h.2]; omega
    · cases h
  · cases h

theorem length_placeholder? {s : List Char} {p : Piece} {rest : List Char}
    (h : placeholder? s = some (p, rest)) : rest.length < s.length := by
  rcases Option.or_eq_some_iff.1 h with h | ⟨_, h⟩
  · exact length_double? h
  · exact length_single? h

/-- **The pieces of a segment**, each `placeholder?` taken from the left as it comes. -/
def pieces (s : List Char) : List Piece :=
  -- a bracket that begins no placeholder is a character like others
  match h : placeholder? s with
  | some (p, rest) =>
    have := length_placeholder? h
    p :: pieces rest
  | none =>
    match s with
    | [] => []
    | c :: rest => .literal c :: pieces rest
termination_by s.length

/-- The segments of a pattern. -/
def segments : List Char → List (List Char)
  | [] => [[]]
  | '/' :: rest => [] :: segments rest
  | c :: rest =>
    match segments rest with
    | s :: ss => (c :: s) :: ss
    | [] => [[c]]

/-- The `scalarText?` for a placeholder, when there is a value other than `null` for it; a value without one is an
error. -/
def valueText (params : Members Json) (name : String) : Except FillError (Option (List Char)) :=
  match Members.get? name params with
  | none | some .null => .ok none
  | some v =>
    match v.scalarText? with
    | some t => .ok (some t.toList)
    | none => .error (.invalid name)

/-- The text of some pieces, by `valueText`, and whether a placeholder among them went without a value. For a
`.required` one that is an error. -/
def render (params : Members Json) : List Piece → Except FillError (List Char × Bool)
  | [] => .ok ([], false)
  | .literal c :: rest => do
    let (text, dropped) ← render params rest
    .ok (c :: text, dropped)
  | .required name :: rest => do
    match ← valueText params name with
    | some t =>
      let (text, dropped) ← render params rest
      .ok (t ++ text, dropped)
    | none => .error (.invalid name)
  | .optional name :: rest => do
    match ← valueText params name with
    | some t =>
      let (text, dropped) ← render params rest
      .ok (t ++ text, dropped)
    | none =>
      -- nothing for this piece, so the segment may be dropped
      let (text, _) ← render params rest
      .ok (text, true)

/-- `render` of each segment; a segment left empty by a missing value is dropped. -/
def renderSegments (params : Members Json) : List (List Char) → Except FillError (List (List Char))
  | [] => .ok []
  | s :: ss => do
    let (text, dropped) ← render params (pieces s)
    let rest ← renderSegments params ss
    .ok (if dropped && text.isEmpty then rest else text :: rest)

/-- A text without the slashes at its end. -/
def trimSlashes (s : List Char) : List Char := (s.reverse.dropWhile (· == '/')).reverse

/-- **The path of a pattern** with values for its placeholders: `renderSegments`, joined with slashes. Slashes at the
end are trimmed, and a path that this leaves empty is the root. -/
def fillChars (pattern : String) (params : Members Json) : Except FillError String := do
  let path := List.intercalate ['/'] (← renderSegments params (segments pattern.toList))
  let trimmed := trimSlashes path
  .ok (if trimmed.isEmpty then "/" else String.ofList trimmed)

/-- `fillChars` with values from an object, or from nothing. -/
def fill (pattern : String) (params : Option Json) : Except FillError String :=
  match params with
  | none | some .null => fillChars pattern []
  | some (.object members) => fillChars pattern members
  | some _ => .error (.invalid "routeParams")

end RouteContracts.Pattern
