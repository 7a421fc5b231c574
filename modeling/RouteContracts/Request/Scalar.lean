import RouteContracts.Json.Value

/-! # Scalars as text
The text of a scalar in a URL. A double with an integer value below `2 ^ 53` in magnitude is written
without a fraction. -/

namespace RouteContracts

/-- The least magnitude from which on an integer-valued double keeps its fraction. -/
def wholeLimit : Nat := 9007199254740992

/-- The text of a number in a URL. A double with an integer value below `wholeLimit` is written without a fraction. -/
def Json.Number.urlText (n : Json.Number) : String :=
  match n with
  | .int i _ => Json.Number.intText i
  | .float x =>
    match x.toInt? with
    | some i => if i.natAbs < wholeLimit then Json.Number.intText i else n.text
    | none => n.text

/-- The text of a scalar in a URL, `urlText` for a number; `null`, arrays and objects have none. -/
def Json.scalarText? : Json → Option String
  | .string s => some s
  | .bool b => some (if b then "true" else "false")
  | .number n => some n.urlText
  | _ => none

end RouteContracts
