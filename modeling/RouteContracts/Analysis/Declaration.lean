import RouteContracts.Method
import RouteContracts.Source.Construction
import RouteContracts.Source.File

/-! # Declarations of endpoint files
What the items of an endpoint file say about methods: a public function or value named like a method
exports it, and a value named `_POST_SCHEMA`, `_PostSchema` or the like declares its schema.

* `schemaMethod?`: the method whose schema a name declares.
* `Declaration.ofItems`: the declarations of items. `Declarations.exported`, `Declarations.schema?`:
  what they say about a method. -/

namespace RouteContracts

open Source

/-- The words that end the name of a schema. -/
def schemaWords : List String := ["SCHEMA", "Schema", "schema"]

/-- The letters in front of a schema word, without the blank line between them. -/
def schemaLetters? (name : List Char) : Option (List Char) :=
  match name with
  | '_' :: rest =>
    let kept := rest.length - 6
    if schemaWords.contains (String.ofList (rest.drop kept)) then
      let letters := rest.take kept
      some (if letters.getLast? = some '_' then letters.dropLast else letters)
    else none
  | _ => none

/-- **The method whose schema a name declares**: an underscore, the letters of the method in any case, perhaps another
underscore, and a schema word. By `schemaLetters?`, letters and nothing else stand in between. -/
def schemaMethod? (name : String) : Option Method := do
  let letters ← schemaLetters? name.toList
  if letters.all Char.isAlpha then Method.ofToken? (String.ofList (letters.map Char.toUpper)) else none

/-- What an item says about a method. -/
inductive Declaration where
  /-- The method is served. -/
  | exports (m : Method)
  /-- The method's contract is given by an expression that constructs an object. -/
  | schema (m : Method) (expression : Expr)

namespace Declaration

/-- What a value says by its name: an export where it is a method, and a schema where it is the `schemaMethod?` of one
and the value `buildsObject`. -/
def ofValue (exported : Bool) (name : String) (initializer : Expr) : List Declaration :=
  match Method.ofToken? name with
  | some m => if exported then [.exports m] else []
  | none =>
    match schemaMethod? name with
    | some m => if initializer.buildsObject then [.schema m initializer] else []
    | none => []

/-- What a function says by its name. -/
def ofFunction (exported : Bool) (name : String) : List Declaration :=
  match Method.ofToken? name with
  | some m => if exported then [.exports m] else []
  | none => []

mutual

/-- What an item and the items in its blocks say; nothing of what is `.closed`. -/
def ofItem : Item → List Declaration
  | .function exported name => ofFunction exported name
  | .value exported name initializer => ofValue exported name initializer
  | .other inner => ofItems inner
  | .closed _ => []

/-- **What some items say**: `ofItem` of each, in order. -/
def ofItems : List Item → List Declaration
  | [] => []
  | item :: rest => ofItem item ++ ofItems rest

end

/-- Whether the method is exported. -/
def isExportOf (m : Method) : Declaration → Bool
  | .exports n => n == m
  | .schema _ _ => false

/-- The schema of the method. -/
def schemaOf? (m : Method) : Declaration → Option Expr
  | .exports _ => none
  | .schema n e => if n = m then some e else none

end Declaration

/-- What a file says, in order. -/
abbrev Declarations := List Declaration

namespace Declarations

/-- Whether some declaration is `.exports m`. -/
def exported (ds : Declarations) (m : Method) : Bool := ds.any (Declaration.isExportOf m)

/-- The expression of the last `.schema m`. -/
def schema? (ds : Declarations) (m : Method) : Option Expr :=
  (ds.filterMap (Declaration.schemaOf? m)).getLast?

end Declarations

/-- `Declaration.ofItems` of the file. -/
def Source.File.declarations (file : File) : Declarations := Declaration.ofItems file.items

end RouteContracts
