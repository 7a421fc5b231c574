import RouteContracts.Json.Reader
import RouteContracts.Notice
import RouteContracts.Schema.Check
import RouteContracts.Text.Utf8
import RouteContracts.Url.Reader

/-! # Inbound requests
What a server receives is checked against the same schema that the endpoint file declares. The members of
a JSON body and the field `searchParams`, taken from the URL, make up one object, which is checked as a
whole.

* `Inbound.assembled`: the object that is checked.
* `Inbound.searchParams?`: the query parameters of a URL, as the schema declares them.
* `Inbound.validate`: the check. `Rejection.missingUrl`: whether only the URL is missing. -/

namespace RouteContracts

/-- A request as it is received. -/
structure InboundRequest where
  /-- The type of the body, if it is given. -/
  contentType : Option String
  /-- The body. -/
  body : List UInt8
deriving DecidableEq, Repr

namespace InboundRequest

/-- The type of JSON bodies. -/
def jsonType : String := "application/json"

/-- A request with a JSON body. -/
def json (body : List UInt8) : InboundRequest := ⟨some jsonType, body⟩

/-- Whether a list occurs in another one. -/
def occursIn (part : List Char) : List Char → Bool
  | [] => part.isEmpty
  | c :: rest => part.isPrefixOf (c :: rest) || occursIn part rest

/-- Whether `jsonType` occurs in the type of the body. -/
def isJson (r : InboundRequest) : Bool := r.contentType.any fun t => occursIn jsonType.toList t.toList

/-- **The members of the body**, by `Json.read?`. A body that `isJson` denies, or that is no JSON object in UTF-8, has
none. -/
def bodyMembers (r : InboundRequest) : Members Json :=
  if r.isJson then (((Utf8.decode? r.body).bind Json.read?).bind Json.asObject?).getD [] else []

end InboundRequest

/-- What is given to be validated. -/
inductive Inbound where
  /-- A request without its URL. -/
  | request (r : InboundRequest)
  /-- Only a URL. -/
  | url (u : Url)
  /-- A request with its URL. -/
  | event (r : InboundRequest) (u : Url)
  /-- A value that is complete already. -/
  | data (v : Json)

namespace Inbound

/-- The field that holds the query parameters. -/
def searchParamsField : String := "searchParams"

/-- The values that a query gives a name, in order. -/
def valuesOf (pairs : List (String × String)) (name : String) : List String :=
  (pairs.filter fun p => p.1 == name).map Prod.snd

/-- **The value that a query gives a field**, by `valuesOf`. An array takes all values, a boolean is true when there is
one, any other field takes the first one. -/
def fieldValue? (pairs : List (String × String)) (name : String) (field : Schema) : Option Json :=
  match valuesOf pairs name with
  | [] => none
  | first :: rest =>
    -- a boolean is true whatever its text says
    if field.isArray then some (.array ((first :: rest).map Json.string))
    else if field.isBoolean then some (.bool true)
    else some (.string first)

/-- The `fieldValue?` of each declared field that the query gives one. -/
def searchMembers (pairs : List (String × String)) (fields : Members Schema) : Members Json :=
  fields.filterMap fun f => (fieldValue? pairs f.1 f.2).map fun v => (f.1, v)

/-- The fields of `searchParams` in a schema, where both are objects. -/
def declaredSearch? (schema : Schema) : Option (Members Schema) :=
  (schema.fields?.bind fun fields => fields.get? searchParamsField).bind Schema.fields?

/-- **The query parameters of a URL**: `searchMembers` of its pairs; none when the schema declares none. -/
def searchParams? (schema : Schema) (u : Url) : Option Json :=
  (declaredSearch? schema).map fun fields => .object (searchMembers u.pairs fields)

/-- The object of a body and a URL: the members of the body without `searchParams`, and `searchParams?` of the URL in
that place. -/
def merged (schema : Schema) (body : Members Json) (u : Option Url) : Json :=
  let members := body.erase searchParamsField
  match u.bind (searchParams? schema) with
  | some search => .object (members.insert searchParamsField search)
  | none => .object members

/-- **The value that is checked**: `merged` of the body and the URL, as far as they are given, or the value that is
complete already. -/
def assembled (schema : Schema) : Inbound → Json
  | .data v => v
  | .request r => merged schema r.bodyMembers none
  | .url u => merged schema [] (some u)
  | .event r u => merged schema r.bodyMembers (some u)

end Inbound

/-- Why something is not accepted. -/
structure Rejection where
  /-- All that is wrong. -/
  issues : List Issue
deriving DecidableEq, Repr

namespace Rejection

/-- **Whether nothing is wrong but that the query parameters are missing**: every issue `isAt` their field, and there is
one. Then most likely the URL was not given. -/
def missingUrl (r : Rejection) : Bool :=
  !r.issues.isEmpty && r.issues.all fun i => i.isAt Inbound.searchParamsField

/-- How a rejection is shown: `Issue.text` of its issues, with commas between them. -/
def text (r : Rejection) : String := "Invalid data: " ++ ", ".intercalate (r.issues.map Issue.text) ++ "."

/-- The notices for a rejection. -/
def notices (r : Rejection) : List Notice := if r.missingUrl then [.queryMissing] else []

/-- A step of a path as JSON. -/
def stepToJson : Step → Json
  | .key name => .string name
  | .index i => Json.ofNat i

/-- The issues as JSON. -/
def issuesToJson (r : Rejection) : Json :=
  .array (r.issues.map fun i =>
    .object [("path", .array (i.path.map stepToJson)), ("message", .string i.message)])

/-- **The body of the response** to a rejected request: `text`, `issuesToJson` and `missingUrl`. -/
def toJson (r : Rejection) : Json :=
  .object [("message", .string r.text), ("issues", r.issuesToJson), ("missingUrlHint", .bool r.missingUrl)]

end Rejection

/-- **The check of what is given**: `safeParse` of the `assembled` value. The value comes with what the schema fills in,
or all that is wrong is told. -/
def Inbound.validate (schema : Schema) (i : Inbound) : Except Rejection Json :=
  match schema.safeParse (i.assembled schema) with
  | .ok v => .ok v
  | .error issues => .error ⟨issues⟩

end RouteContracts
