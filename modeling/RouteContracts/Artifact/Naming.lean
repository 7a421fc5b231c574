import RouteContracts.Text.WordCase

/-! # Names in artifacts
Endpoints are named after their URL patterns and fields after their wire names. Where a name is taken, a
number is added.

* `Names.claim`: a name that is not taken yet.
* `endpointName`: the name for a pattern. `fieldIdent`: the identifier for a wire name. -/

namespace RouteContracts.Artifact

/-- The names taken in one scope. -/
abbrev Names := List String

namespace Names

/-- The first of `base ++ n`, `base ++ (n + 1)` and so on that is not taken; `tries` bounds the search. -/
def numbered (taken : Names) (base : String) : Nat → Nat → String
  | 0, n => base ++ toString n
  | tries + 1, n =>
    let candidate := base ++ toString n
    if taken.contains candidate then numbered taken base tries (n + 1) else candidate

/-- `base` where it is not taken, and else the first `numbered` form from 2 on. Among one more number than there are
names, one is free. -/
def free (taken : Names) (base : String) : String :=
  if taken.contains base then numbered taken base taken.length 2 else base

/-- **A free name**, `taken.free base`, and the names that are taken after it. -/
def claim (taken : Names) (base : String) : String × Names :=
  let name := taken.free base
  (name, name :: taken)

end Names

/-- Whether a text begins with a decimal digit. -/
def beginsWithDigit (s : String) : Bool :=
  match s.toList with
  | c :: _ => c.isDigit
  | [] => false

/-- **The name of the endpoint of a pattern**: its `Text.upperCamel`, `Index` for the bare root, and with `Route` in
front of a digit. -/
def endpointName (pattern : String) : String :=
  let name := Text.upperCamel pattern
  if name.isEmpty then "Index" else if beginsWithDigit name then "Route" ++ name else name

/-- The words that identifiers have to write raw. -/
def reservedWords : List String :=
  ["as", "async", "await", "box", "break", "const", "continue", "do", "dyn", "else", "enum", "extern",
   "false", "final", "fn", "for", "gen", "if", "impl", "in", "let", "loop", "macro", "match", "mod",
   "move", "mut", "override", "priv", "pub", "ref", "return", "static", "struct", "trait", "true", "try",
   "type", "typeof", "unsafe", "unsized", "use", "virtual", "where", "while", "yield", "abstract",
   "become"]

/-- The words that cannot be written raw. -/
def neverRawWords : List String := ["self", "Self", "super", "crate"]

/-- The mark of a raw identifier. -/
def rawMark : String := "r#"

/-- **The identifier of a field**: the `Text.snake` of its wire name, with `field_` in front of a digit and of nothing,
with an underscore behind one of `neverRawWords`, and with `rawMark` in front of one of the other `reservedWords`. -/
def fieldIdent (wireName : String) : String :=
  let name := Text.snake wireName
  if name.isEmpty || beginsWithDigit name then "field_" ++ name
  else if neverRawWords.contains name then name ++ "_"
  else if reservedWords.contains name then rawMark ++ name
  else name

/-- An identifier without each `rawMark` in front of it. -/
def withoutRawMark : List Char → List Char
  | 'r' :: '#' :: rest => withoutRawMark rest
  | ident => ident

/-- The name that an identifier stands for on the wire where no `rename` tells otherwise: the identifier
`withoutRawMark`. -/
def impliedWireName (ident : String) : String := String.ofList (withoutRawMark ident.toList)

end RouteContracts.Artifact
