import RouteContracts.Descriptor.Basic

/-! # Route types
What the companion file of an endpoint tells about its route: the route's identifier, and the parameters
that its URL pattern takes.

* `RouteTypes.descriptor?`: the parameters as an object of texts. -/

namespace RouteContracts

/-- A parameter of a route. -/
structure RouteParam where
  /-- The name of the placeholder. -/
  name : String
  /-- Whether the placeholder may be left out. -/
  optional : Bool
deriving DecidableEq, Repr

/-- What a companion file declares. -/
structure RouteTypes where
  /-- The identifier of the route. -/
  routeId : Option String
  /-- The parameters, in order of declaration. -/
  params : List RouteParam
deriving Repr

namespace RouteTypes

/-- Nothing is declared. -/
def empty : RouteTypes := ⟨none, []⟩

/-- **The parameters as an object of texts**; none when there are no parameters. -/
def descriptor? (types : RouteTypes) : Option Descriptor :=
  match types.params with
  | [] => none
  | params =>
    some (.object (Members.ofList (params.map fun p => (p.name, .primitive .string)))
      (NameSet.ofList ((params.filter RouteParam.optional).map RouteParam.name)))

end RouteTypes

end RouteContracts
