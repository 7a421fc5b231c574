import RouteContracts.Analysis.Declaration
import RouteContracts.Registry

/-! # Contracts of endpoint files
The contracts that the declarations of an endpoint file give. The field `searchParams` of a schema is
the query contract, the other fields are the body; parameters of the route come from outside.

* `Declarations.contracts`: the contract of every exported method.
* `Analysis.ofSource`: the analysis of a source text. -/

namespace RouteContracts

open Source

/-- The field of a schema that holds the query parameters. -/
def searchParamsField : String := "searchParams"

/-- The query contract of a field: the object under its layers, by `asObject?`. What is no object gives none and a
notice. -/
def queryContract (source : Path) (m : Method) (field : Schema) : Option Descriptor × List Notice :=
  match field.toDescriptor.asObject? with
  | none => (none, [.queryNotObject source.text m.token])
  | some o =>
    (some o.toDescriptor,
      match o.queryViolations with
      | [] => []
      | names => [.queryFields source.text m.token names])

/-- The body contract: the descriptor of the object of the fields other than `searchParams`. There is none without
fields, and none when `m.carriesBody` is false. -/
def bodyContract (m : Method) (fields : Members Schema) : Option Descriptor :=
  match fields.filter fun f => f.1 ≠ searchParamsField with
  | [] => none
  | body => if m.carriesBody then some (Schema.object body).toDescriptor else none

/-- The contract of a method with these fields in its schema: `bodyContract`, the route parameters, and
`queryContract`. -/
def contractOfFields (source : Path) (m : Method) (params : Option Descriptor)
    (fields : Members Schema) : Contract × List Notice :=
  let query := match Members.get? searchParamsField fields with
    | some field => queryContract source m field
    | none => (none, [])
  (⟨bodyContract m fields, params, query.1⟩, query.2)

/-- `contractOfFields` of the `objectFields` of the schema. One that cannot be resolved leaves the contract without body
and query. -/
def contractOfSchema (source : Path) (m : Method) (params : Option Descriptor) :
    Option Expr → Contract × List Notice
  | none => (⟨none, params, none⟩, [])
  | some e =>
    let r := e.objectFields
    match r.result with
    | .ok fields =>
      let (contract, notices) := contractOfFields source m params fields
      (contract, r.notices ++ notices)
    | .error _ => (⟨none, params, none⟩, r.notices ++ [.unresolvedSchema source.text m.token])

namespace Declarations

/-- `contractOfSchema` of the schema that is declared for the method. -/
def contract (source : Path) (params : Option Descriptor) (ds : Declarations) (m : Method) :
    Contract × List Notice :=
  contractOfSchema source m params (ds.schema? m)

/-- The notices for schemas of methods that are not exported. -/
def idleSchemas (source : Path) (ds : Declarations) : List Notice :=
  (Method.all.filter fun m => (ds.schema? m).isSome && !ds.exported m).map fun m =>
    .schemaWithoutExport source.text m.token

/-- **The contract of every method** that is `exported`. -/
def contracts (source : Path) (params : Option Descriptor) (ds : Declarations) : Contracts :=
  ⟨fun m => if ds.exported m then some (ds.contract source params m).1 else none⟩

/-- The notices of the contracts, in method order, after those for schemas without use. -/
def notices (source : Path) (params : Option Descriptor) (ds : Declarations) : List Notice :=
  ds.idleSchemas source ++
    (Method.all.filter ds.exported).flatMap fun m => (ds.contract source params m).2

end Declarations

/-- **The analysis of a source text**, with its notices: the `contracts` of its `declarations`. None when `File.ofText?`
is none. -/
def Analysis.ofSource? (routeId : String) (source : Path) (params : Option Descriptor) (code : String) :
    Option (Analysis × List Notice) := do
  let ds := (← File.ofText? code).declarations
  some (⟨routeId, source, ds.contracts source params⟩, ds.notices source params)

end RouteContracts
