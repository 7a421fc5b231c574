import RouteContracts.Descriptor.Wire
import RouteContracts.Method

/-! # Contracts
The contract of one method of one route: the shapes of its body, its route parameters and its search
parameters, each present or not.

* `Contract.same`: equality. `Contract.toJson`, `Contract.ofJson?`: the JSON form.
* `contractsToJson`, `contractsOfJson?`: the contracts of all methods of a route. -/

namespace RouteContracts

/-- What a request of one method of one route carries. -/
structure Contract where
  /-- The shape of the body. -/
  body : Option Descriptor
  /-- The shape of the values for the placeholders of the URL. -/
  routeParams : Option Descriptor
  /-- The shape of the query string. -/
  searchParams : Option Descriptor
deriving Inhabited

namespace Contract

/-- Nothing is carried. -/
def empty : Contract := ⟨none, none, none⟩

/-- `Descriptor.same` of pieces that may be missing. -/
def samePiece : Option Descriptor → Option Descriptor → Bool
  | none, none => true
  | some a, some b => a.same b
  | _, _ => false

/-- `samePiece` for each of the three pieces. -/
def same (a b : Contract) : Bool :=
  samePiece a.body b.body && samePiece a.routeParams b.routeParams
    && samePiece a.searchParams b.searchParams

/-- A piece as a member of the JSON form; a missing piece is left out. -/
def pieceToJson (name : String) (piece : Option Descriptor) : List (String × Json) :=
  piece.elim [] fun d => [(name, d.toJson)]

/-- **The JSON form of a contract**: an object with a member for each piece that is there. -/
def toJson (c : Contract) : Json :=
  .object (pieceToJson "body" c.body ++ pieceToJson "routeParams" c.routeParams
    ++ pieceToJson "searchParams" c.searchParams)

/-- A piece from the value that stands for it: none for a missing value and for `null`, and else
`Descriptor.ofJson?`. -/
def pieceOfJson? : Option Json → Option (Option Descriptor)
  | none | some .null => some none
  | some v => (Descriptor.ofJson? false v).map some

/-- **The contract of a JSON value**: an object with the three pieces, or an array of them in order. -/
def ofJson? : Json → Option Contract
  | .object members => do
    some ⟨← pieceOfJson? (Members.get? "body" members), ← pieceOfJson? (Members.get? "routeParams" members),
      ← pieceOfJson? (Members.get? "searchParams" members)⟩
  | .array items => do
    if 3 < items.length then none
    else some ⟨← pieceOfJson? items[0]?, ← pieceOfJson? items[1]?, ← pieceOfJson? items[2]?⟩
  | _ => none

end Contract

/-- The contracts of a route's methods. -/
abbrev Contracts := PerMethod Contract

/-- The JSON form of a route's contracts: a member for each method, named after its `token`. -/
def contractsToJson (cs : Contracts) : Json :=
  .object (cs.toList.map fun p => (p.1.token, p.2.toJson))

/-- The contracts of a JSON object whose names are method tokens. -/
def contractsOfJson? : Json → Option Contracts
  | .object members => do
    let pairs ← members.mapM fun (name, value) => do
      some (← Method.ofToken? name, ← Contract.ofJson? value)
    some (PerMethod.ofList pairs)
  | _ => none

end RouteContracts
