import RouteContracts.Request.Form
import RouteContracts.Request.Scalar

/-! # Query strings
Search parameters come as an object of scalars and arrays of scalars. A scalar gives one pair, an array
one pair for each item; `null` gives none.

* `Query.pairs`: the pairs of some search parameters.
* `Query.text`: their form-encoded text, when there is at least one pair. -/

namespace RouteContracts.Query

/-- Why search parameters have no query string. -/
inductive QueryError where
  /-- A parameter holds an object, or an array that holds one or another array. -/
  | unsupported (name : String)
deriving DecidableEq, Repr

/-- The pairs of the items of an array: `name` with the `scalarText?` of each; `null` gives none. -/
def itemPairs (name : String) : List Json → Except QueryError (List (String × String))
  | [] => .ok []
  | .null :: rest => itemPairs name rest
  | item :: rest =>
    match item.scalarText? with
    | some text => (itemPairs name rest).map ((name, text) :: ·)
    | none => .error (.unsupported name)

/-- `itemPairs` of the items of an array, or of the one value. -/
def memberPairs (name : String) : Json → Except QueryError (List (String × String))
  | .array items => itemPairs name items
  | value => itemPairs name [value]

/-- `memberPairs` of all parameters, in order. -/
def memberListPairs : Members Json → Except QueryError (List (String × String))
  | [] => .ok []
  | (name, value) :: rest => do
    let here ← memberPairs name value
    let more ← memberListPairs rest
    .ok (here ++ more)

/-- **The pairs of some search parameters**: `memberListPairs` of an object; nothing has none. -/
def pairs : Option Json → Except QueryError (List (String × String))
  | none | some .null => .ok []
  | some (.object members) => memberListPairs members
  | some _ => .error (.unsupported "searchParams")

/-- `Form.encodePairs` of the pairs of some search parameters; without pairs there is none. -/
def text (params : Option Json) : Except QueryError (Option String) := do
  let ps ← pairs params
  .ok (if ps.isEmpty then none else some (Form.encodePairs ps))

end RouteContracts.Query
