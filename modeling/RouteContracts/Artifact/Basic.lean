import RouteContracts.Artifact.Naming
import RouteContracts.Registry

/-! # Artifacts
An artifact is what a registry looks like to the code that uses it: per method a module with one endpoint
per route and the records that endpoints exchange, and a table of all routes.

* `FieldType`, `Record`, `EndpointItem`, `MethodModule`, `Artifact`: the parts.
* `Artifact.ofRegistry`: **the artifact of a registry.** -/

namespace RouteContracts.Artifact

/-- The type of a field or of a piece of a contract. -/
inductive FieldType where
  /-- A text. -/
  | text
  /-- A number. -/
  | number
  /-- A truth value. -/
  | truth
  /-- Nothing but null. -/
  | unit
  /-- Any JSON value. -/
  | anyJson
  /-- A record of the module. -/
  | record (name : String)
  /-- A list. -/
  | list (element : FieldType)
  /-- A value or none. -/
  | option (inner : FieldType)
deriving DecidableEq, Repr, Inhabited

/-- `.option t`; a type that is an `.option` already is left alone. -/
def FieldType.optional : FieldType → FieldType
  | .option inner => .option inner
  | t => .option t

/-- The names under `.record` in a type. -/
def FieldType.records : FieldType → List String
  | .record name => [name]
  | .list t | .option t => t.records
  | _ => []

/-- A field of a record. -/
structure Field where
  /-- The identifier. -/
  ident : String
  /-- The name on the wire. -/
  wireName : String
  /-- The type. -/
  type : FieldType
  /-- Whether the field may be left out. -/
  omittable : Bool
deriving DecidableEq, Repr

/-- A record. -/
structure Record where
  /-- The name of the record. -/
  name : String
  /-- The fields in order. -/
  fields : List Field
deriving DecidableEq, Repr

/-- An endpoint. -/
structure EndpointItem where
  /-- The name of the endpoint. -/
  name : String
  /-- The URL pattern. -/
  pattern : String
  /-- The type of the body. -/
  body : Option FieldType
  /-- The type of the route parameters. -/
  routeParams : Option FieldType
  /-- The type of the search parameters. -/
  searchParams : Option FieldType
deriving DecidableEq, Repr

/-- An item of a method's module. -/
inductive ModuleItem where
  | record (r : Record)
  | endpoint (e : EndpointItem)
deriving DecidableEq, Repr

/-- What has been written of a module: the names taken, and the items in order. -/
structure Draft where
  /-- The names taken in the module. -/
  names : Names
  /-- The items so far. -/
  items : List ModuleItem
deriving Repr

namespace Draft

/-- An empty module. -/
def empty : Draft := ⟨[], []⟩

/-- `Names.claim` in the names of the draft. -/
def claim (d : Draft) (base : String) : String × Draft :=
  let (name, names) := d.names.claim base
  (name, ⟨names, d.items⟩)

/-- Adds an item. -/
def add (d : Draft) (item : ModuleItem) : Draft := ⟨d.names, d.items ++ [item]⟩

end Draft

/-- The type of a leaf. -/
def leafType : Primitive → FieldType
  | .string => .text
  | .number => .number
  | .boolean => .truth
  | .null => .unit
  | .undefined => .anyJson

mutual

/-- **The type of a descriptor.** An object becomes a `.record`, whose name is claimed from `hint`; the `Record` is
added to the draft behind those that its fields mention. -/
def typeOf (d : Draft) (hint : String) : Descriptor → FieldType × Draft
  | .primitive p => (leafType p, d)
  | .object fields omittable =>
    -- the name is claimed before those of the records inside, which are written in front
    let (name, d) := d.claim hint
    let (fields, d) := fieldsOf d name omittable [] fields
    (.record name, d.add (.record ⟨name, fields⟩))
  | .array element =>
    let (t, d) := typeOf d (hint ++ "Item") element
    (.list t, d)
  | .optional inner =>
    let (t, d) := typeOf d hint inner
    (t.optional, d)
  | .nullable inner =>
    let (t, d) := typeOf d hint inner
    (t.optional, d)

/-- The fields of the record `owner`: each has its `fieldIdent`, claimed among `idents`, and the `typeOf` of its
descriptor, which is `optional` for the names in `omittable`. -/
def fieldsOf (d : Draft) (owner : String) (omittable : NameSet) (idents : Names) :
    List (String × Descriptor) → List Field × Draft
  | [] => ([], d)
  | (wireName, descriptor) :: rest =>
    let (t, d) := typeOf d (owner ++ Text.upperCamel wireName) descriptor
    let (ident, idents) := idents.claim (fieldIdent wireName)
    let left := omittable.contains wireName
    let (fields, d) := fieldsOf d owner omittable idents rest
    (⟨ident, wireName, if left then t.optional else t, left⟩ :: fields, d)

end

/-- `typeOf` of a piece of a contract, when the contract has it. -/
def pieceType (d : Draft) (hint : String) : Option Descriptor → Option FieldType × Draft
  | none => (none, d)
  | some descriptor =>
    let (t, d) := typeOf d hint descriptor
    (some t, d)

/-- Adds the endpoint of a pattern: its `endpointName` is claimed, and the records of `body`, `routeParams` and
`searchParams` are added in front of it. -/
def addEndpoint (d : Draft) (pattern : String) (c : Contract) : Draft :=
  let (name, d) := d.claim (endpointName pattern)
  let (body, d) := pieceType d (name ++ "Body") c.body
  let (routeParams, d) := pieceType d (name ++ "RouteParams") c.routeParams
  let (searchParams, d) := pieceType d (name ++ "SearchParams") c.searchParams
  d.add (.endpoint ⟨name, pattern, body, routeParams, searchParams⟩)

/-- The module of a method. -/
structure MethodModule where
  /-- The method. -/
  method : Method
  /-- The items in order. -/
  items : List ModuleItem
deriving Repr

namespace MethodModule

/-- The module of a method: `addEndpoint` for each of its contracts, in order. -/
def ofContracts (m : Method) (contracts : List (String × Contract)) : MethodModule :=
  ⟨m, (contracts.foldl (fun d p => addEndpoint d p.1 p.2) Draft.empty).items⟩

/-- The endpoints of a module. -/
def endpoints (m : MethodModule) : List EndpointItem :=
  m.items.filterMap fun
    | .endpoint e => some e
    | .record _ => none

/-- The records of a module. -/
def records (m : MethodModule) : List Record :=
  m.items.filterMap fun
    | .endpoint _ => none
    | .record r => some r

end MethodModule

end Artifact

/-- An artifact. -/
structure Artifact where
  /-- The modules of the methods that are served, in method order. -/
  modules : List Artifact.MethodModule
  /-- Every method and pattern that is served. -/
  table : List (Method × String)
deriving Repr

namespace Artifact

/-- The methods for which `contractsFor` is not empty, in the order of `Method.all`, each with its contracts by
pattern. -/
def served (r : Registry) : List (Method × List (String × Contract)) :=
  (Method.all.map fun m => (m, r.contractsFor m)).filter fun p => !p.2.isEmpty

/-- **The artifact of a registry**: `MethodModule.ofContracts` for each method that is `served`, and a row of the table
for each of their patterns. -/
def ofRegistry (r : Registry) : Artifact :=
  ⟨(served r).map fun p => MethodModule.ofContracts p.1 p.2,
    (served r).flatMap fun p => p.2.map fun c => (p.1, c.1)⟩

end RouteContracts.Artifact
