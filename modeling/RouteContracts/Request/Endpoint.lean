import RouteContracts.Contract
import RouteContracts.Descriptor.Data
import RouteContracts.Request.Outgoing

/-! # Typed endpoints
An endpoint is a method, a pattern and a contract. A request to it carries only values that the types of
the contract can hold.

* `Endpoint.prepare`: reads the pieces into those types and prepares the request. -/

namespace RouteContracts

/-- A method of a route, with the shapes of what its requests carry. -/
structure Endpoint where
  /-- The method. -/
  method : Method
  /-- The URL pattern. -/
  pattern : String
  /-- The shapes. -/
  contract : Contract
deriving Inhabited

/-- A piece of a request. -/
inductive RequestPiece where
  | body
  | routeParams
  | searchParams
deriving DecidableEq, Repr

/-- Why a typed request is not sent. -/
inductive TypedError where
  /-- The types of the contract cannot hold a piece. -/
  | unfit (piece : RequestPiece)
  /-- The request cannot be prepared. -/
  | request (why : RequestError)
deriving DecidableEq, Repr

namespace Endpoint

/-- `Descriptor.normal?` of a piece. A piece without a shape is never there. -/
def piece (which : RequestPiece) (shape : Option Descriptor) (value : Option Json) :
    Except TypedError (Option Json) :=
  match shape, value with
  | some d, some v =>
    match d.normal? v with
    | some v => .ok (some v)
    | none => .error (.unfit which)
  | _, _ => .ok none

/-- **Prepares a typed request**: `Outgoing.prepare` of the normal form of each `piece`. -/
def prepare (e : Endpoint) (base : String) (options : RequestOptions) :
    Except TypedError (Outgoing × List Notice) := do
  let body ← piece .body e.contract.body options.body
  let routeParams ← piece .routeParams e.contract.routeParams options.routeParams
  let searchParams ← piece .searchParams e.contract.searchParams options.searchParams
  let options := { options with body, routeParams, searchParams }
  match Outgoing.prepare base e.method e.pattern options with
  | .ok r => .ok r
  | .error why => .error (.request why)

end Endpoint

end RouteContracts
