import RouteContracts.Method
import RouteContracts.Json.Writer
import RouteContracts.Notice
import RouteContracts.Request.Pattern
import RouteContracts.Request.Query

/-! # Outgoing requests
A request is prepared from a method, a pattern and options, without touching a network: first the path,
then the query, then the body. The first failure wins.

* `Outgoing.prepare`: the request, and a notice when a body had to be dropped.
* `Outgoing.header?`: look-up without regard to ASCII case. -/

namespace RouteContracts

/-- What a caller gives beside method and pattern. -/
structure RequestOptions where
  /-- The body. -/
  body : Option Json
  /-- The values for the placeholders of the pattern. -/
  routeParams : Option Json
  /-- The search parameters. -/
  searchParams : Option Json
  /-- Further headers, in order. -/
  headers : List (String × String)
  /-- How long to wait, in milliseconds. -/
  timeout : Option Nat
deriving Inhabited

/-- A request that is ready to be sent. -/
structure Outgoing where
  /-- The method. -/
  method : Method
  /-- Base, path and query. -/
  url : String
  /-- The headers, in order. -/
  headers : List (String × String)
  /-- The JSON text of the body. -/
  body : Option String
  /-- How long to wait, in milliseconds. -/
  timeout : Option Nat
deriving DecidableEq, Repr

/-- Why a request is not sent. -/
inductive RequestError where
  /-- A search parameter has no form in a query string. -/
  | searchParam (name : String)
  /-- A route parameter is missing or no scalar. -/
  | routeParam (name : String)
  /-- The transport failed, with a text of its own. -/
  | transport (why : String)
deriving DecidableEq, Repr

/-- The text of a failure. -/
def RequestError.message : RequestError → String
  | .searchParam name =>
    "Search parameter \x60" ++ name ++
      "\x60 is an object. Serialize or destructure it instead of passing it whole"
  | .routeParam name => "Invalid route parameter \x60" ++ name ++ "\x60"
  | .transport why => "Transport Error: " ++ why

/-- Equality of header names: ASCII letters by either case. -/
def sameHeader (a b : String) : Bool := a.toList.map Char.toLower == b.toList.map Char.toLower

/-- Sets a header: those that are the `sameHeader` are removed, and it goes to the end. -/
def setHeader (headers : List (String × String)) (header : String × String) :
    List (String × String) :=
  headers.filter (fun h => !sameHeader h.1 header.1) ++ [header]

/-- A base for URLs, without the slashes at its end. -/
def trimBase (base : String) : String := String.ofList (Pattern.trimSlashes base.toList)

namespace Outgoing

/-- The headers of a request before the caller's own. -/
def defaultHeaders (hasBody : Bool) : List (String × String) :=
  ("Accept", "application/json") ::
    if hasBody then [("Content-Type", "application/json")] else []

/-- The text of a body; `null` is none. -/
def bodyText : Option Json → Option String
  | none | some .null => none
  | some value => some value.write

/-- `Pattern.fill` of the route parameters, with the error of a request. -/
def path (pattern : String) (options : RequestOptions) : Except RequestError String :=
  match Pattern.fill pattern options.routeParams with
  | .ok p => .ok p
  | .error (.invalid name) => .error (.routeParam name)

/-- `Query.text` of the search parameters, with the error of a request. -/
def query (options : RequestOptions) : Except RequestError (Option String) :=
  match Query.text options.searchParams with
  | .ok q => .ok q
  | .error (.unsupported name) => .error (.searchParam name)

/-- **Prepares a request**: `trimBase base`, `path` and `query`, `defaultHeaders` and those of the caller by
`setHeader`, and `bodyText`. A body that the method does not carry is dropped with a notice. -/
def prepare (base : String) (method : Method) (pattern : String) (options : RequestOptions) :
    Except RequestError (Outgoing × List Notice) := do
  let path ← path pattern options
  let query ← query options
  let given := bodyText options.body
  let body := if method.carriesBody then given else none
  let notices := if given.isSome && !method.carriesBody then [Notice.bodyDropped method.token pattern] else []
  let headers := options.headers.foldl setHeader (defaultHeaders body.isSome)
  let url := trimBase base ++ path ++ query.elim "" ("?" ++ ·)
  .ok (⟨method, url, headers, body, options.timeout⟩, notices)

/-- The value of the first header that is the `sameHeader`. -/
def header? (request : Outgoing) (name : String) : Option String :=
  (request.headers.find? fun h => sameHeader h.1 name).map Prod.snd

end Outgoing

end RouteContracts
