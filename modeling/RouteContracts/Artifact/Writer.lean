import RouteContracts.Artifact.Code
import RouteContracts.Layout

/-! # Artifact texts
The text of an artifact, laid out so that equal artifacts have equal texts.

* `Artifact.isValid`: whether all names can be written. `Artifact.layout?`: the pieces that are laid out.
* `Artifact.text?`: the text of an artifact. `Registry.artifactText?`: the text for a registry. -/

namespace RouteContracts.Artifact

open Layout Layout.Piece

/-- The warning at the top of every artifact. -/
def banner : String :=
  "// @generated by routegen from the endpoint files under the routes directory.\n" ++
  "// Do not edit by hand: this file is rewritten whenever an endpoint changes.\n\n"

/-! ## Types and fields -/

/-- The pieces of a type with one parameter. -/
def generic (name : String) (parameter : List Piece) : List Piece :=
  [word (name ++ "<")] ++ listing [parameter] ++ [word ">"]

/-- The pieces of a type, with `runtime.spelled` in front of the names of the library. -/
def typePieces (runtime : RuntimePath) : FieldType → List Piece
  | .text => [word "String"]
  | .number => [word "f64"]
  | .truth => [word "bool"]
  | .unit => [word "()"]
  | .anyJson => [word (runtime.spelled ++ "serde_json::Value")]
  | .record name => [word name]
  | .list t => generic "Vec" (typePieces runtime t)
  | .option t => generic "Option" (typePieces runtime t)

/-- `typePieces` of a piece of a contract, and `NoData` where the contract does not have it. -/
def contractType (runtime : RuntimePath) : Option FieldType → List Piece
  | none => [word "NoData"]
  | some t => typePieces runtime t

/-- An attribute with arguments. -/
def decorated (name : String) (arguments : List String) : List Piece :=
  [word ("#[" ++ name ++ "(")] ++ block (zero :: commas (arguments.map fun a => [word a]) ++ [zeroBack]) ++
    [word ")]", space]

/-- The pieces of a field: its `fieldAttributes` as an attribute, and `pub ident: type,`. -/
def fieldPieces (runtime : RuntimePath) (f : Field) : List Piece :=
  (match fieldAttributes f with
    | [] => []
    | arguments => decorated "serde" arguments) ++
    [word ("pub " ++ f.ident ++ ": ")] ++ typePieces runtime f.type ++ [word ","]

/-! ## Items -/

/-- A part in braces, indented, each entry on lines of its own. -/
def braced (head : List Piece) (entries : List (List Piece)) : List Piece :=
  match entries with
  -- nothing to indent, so the brackets close on the same line
  | [] => block (head ++ [word "\x7b"]) ++ [word "\x7d"]
  | entries => block (head ++ [word "\x7b", line] ++ linesBack entries) ++ [word "\x7d"]

/-- The pieces of a record. -/
def recordPieces (runtime : RuntimePath) (r : Record) : List Piece :=
  decorated "derive" ["Debug", "Clone", "PartialEq", runtime.spelled ++ "serde::Serialize",
      runtime.spelled ++ "serde::Deserialize"] ++
    decorated "serde" ["crate = " ++ runtime.quotedRecords] ++
    braced [word ("pub struct " ++ r.name ++ " ")] (r.fields.map (fieldPieces runtime))

/-! ## Comments -/

/-- A text without the blanks at its end. -/
def trimmedEnd (text : List Char) : List Char := (text.reverse.dropWhile (· == ' ')).reverse

/-- A text whose lines have no blanks at their ends, but for the last one. -/
def trimmedLines : List Char → List Char
  | [] => []
  | c :: rest =>
    match c, trimmedLines rest with
    | ' ', '\n' :: more => '\n' :: more
    | c, more => c :: more

/-- Whether the block comments that begin in a text, `depth` being open in front of it, all end in it, and no other. -/
def nests : (depth : Nat) → List Char → Bool
  | depth, '/' :: '*' :: rest => nests (depth + 1) rest
  | 0, '*' :: '/' :: _ => false
  | depth + 1, '*' :: '/' :: rest => nests depth rest
  | depth, _ :: rest => nests depth rest
  | depth, [] => depth == 0

/-- Whether a text can stand on one line behind `///`. -/
def fitsLine (text : List Char) : Bool := !text.contains '\n' && text.head? != some '/'

/-- Whether a text can stand between `/**` and `*/`. -/
def fitsBlock (text : List Char) : Bool :=
  nests 0 text && text.getLast? != some '/' && text.head? != some '*' && text.head? != some '/'

/-- The pieces of a comment in front of an item: a line where it `fitsLine`, a block where it `fitsBlock`, or else an
attribute. -/
def documentationPieces (text : String) : List Piece :=
  if fitsLine text.toList then [word "///", word (String.ofList (trimmedEnd text.toList)), line]
  else if fitsBlock text.toList then [word "/**", word (String.ofList (trimmedLines text.toList)), word "*/", line]
  else [word ("#[doc = " ++ Text.quoted text ++ "]"), space]

/-! ## Endpoints -/

/-- The pieces of an associated type. -/
def associatedType (runtime : RuntimePath) (name : String) (t : Option FieldType) : List Piece :=
  block ([word ("type " ++ name ++ " = "), glue] ++
    box .inconsistent (-step) (contractType runtime t) ++ [word ";"])

/-- The pieces of an endpoint: a type, and what it tells about the endpoint. -/
def endpointPieces (runtime : RuntimePath) (m : Method) (documentation : List String) (e : EndpointItem) :
    List (List Piece) :=
  [documentation.flatMap documentationPieces ++ block [word ("pub struct " ++ e.name ++ ";")],
   braced
    (box .inconsistent (-step)
        (block [word "impl"] ++ [word " ", word "Endpoint", space, word ("for " ++ e.name)]) ++ [word " "])
    [[word ("const METHOD: Method = Method::" ++ m.variantName ++ ";")],
     [word ("const PATTERN: &'static str = " ++ Text.quoted e.pattern ++ ";")],
     associatedType runtime "Body" e.body,
     associatedType runtime "RouteParams" e.routeParams,
     associatedType runtime "SearchParams" e.searchParams]]

/-- `recordPieces` or `endpointPieces` of an item; none when the comment on an endpoint has no `documentationLines?`. -/
def itemPieces? (runtime : RuntimePath) (m : Method) : ModuleItem → Option (List (List Piece))
  | .record r => some [recordPieces runtime r]
  | .endpoint e => do
    let documentation ← documentationLines? m e.pattern
    some (endpointPieces runtime m documentation e)

/-- The pieces of a module with some items. -/
def moduleOf (m : Method) (items : List (List Piece)) : List Piece :=
  braced [word ("pub mod " ++ m.moduleName ++ " ")] ([word "use super::*;"] :: items)

/-- The pieces of a module. -/
def modulePieces? (runtime : RuntimePath) (m : MethodModule) : Option (List Piece) := do
  let items ← m.items.mapM (itemPieces? runtime m.method)
  some (moduleOf m.method items.flatten)

/-- The pieces of the import of what the artifact refers to. -/
def importPieces (runtime : RuntimePath) : List Piece :=
  decorated "allow" ["unused_imports"] ++ [word ("use " ++ runtime.spelled)] ++
    block ([word "\x7b", zero] ++
      box .inconsistent 0 (commas [[word "Endpoint"], [word "Method"], [word "NoData"]]) ++ [commaBack]) ++
    [word "\x7d;"]

/-- The pieces of a row of the table. -/
def rowPieces (row : Method × String) : List Piece :=
  [word "("] ++ listing [[word ("Method::" ++ row.1.variantName)], [word (Text.quoted row.2)]] ++ [word ")"]

/-- The pieces of the table. -/
def tablePieces (table : List (Method × String)) : List Piece :=
  documentationPieces " Every \x60(method, pattern)\x60 pair served by the application." ++
    box .consistent 0 ([word "pub const ROUTES: &[("] ++ listing [[word "Method"], [word "&str"]] ++
      [word ")] = ", glue, word "&["] ++
      (match table with
        | [] => []
        | table => listing (table.map rowPieces)) ++ [word "];"])

/-! ## Texts -/

/-- `isName` of the name of a record and of each of its fields. -/
def Record.isValid (r : Record) : Bool := isName r.name && r.fields.all fun f => isName f.ident

/-- Whether a type can be written: all but those with `.anyJson`, which need `servesTypes`. -/
def FieldType.isValid (runtime : RuntimePath) : FieldType → Bool
  | .anyJson => runtime.servesTypes
  | .list t | .option t => t.isValid runtime
  | _ => true

/-- The types in an item: those of the fields of a record, or of the pieces of the contract of an endpoint. -/
def ModuleItem.types : ModuleItem → List FieldType
  | .record r => r.fields.map Field.type
  | .endpoint e => e.body.toList ++ e.routeParams.toList ++ e.searchParams.toList

/-- `Record.isValid` and `servesRecords` for a record, `isName` for an endpoint. -/
def ModuleItem.isNamed (runtime : RuntimePath) : ModuleItem → Bool
  | .record r => r.isValid && runtime.servesRecords
  | .endpoint e => isName e.name

/-- `ModuleItem.isNamed`, and `FieldType.isValid` of all types. -/
def ModuleItem.isValid (runtime : RuntimePath) (i : ModuleItem) : Bool :=
  i.isNamed runtime && i.types.all (FieldType.isValid runtime)

/-- **Whether all names and types of an artifact can be written**: `ModuleItem.isValid` for every item. For patterns on
one line it says what `File.ofText?` says of `Artifact.code` (`Registry.isSome_artifactText?_eq`). -/
def isValid (runtime : RuntimePath) (a : Artifact) : Bool :=
  a.modules.all fun m => m.items.all (ModuleItem.isValid runtime)

/-- The pieces of an artifact with some modules, each part on lines of its own. -/
def artifactOf (runtime : RuntimePath) (modules : List (List Piece)) (table : List (Method × String)) :
    List Piece :=
  box .consistent 0 (([importPieces runtime] ++ modules ++ [tablePieces table]).flatMap fun part => part ++ [line])

/-- The pieces of all of an artifact; none when a comment on an endpoint has no `documentationLines?`. -/
def pieces? (runtime : RuntimePath) (a : Artifact) : Option (List Piece) := do
  let modules ← a.modules.mapM (modulePieces? runtime)
  some (artifactOf runtime modules a.table)

/-- The pieces of an item that is left. -/
def remnantPieces (runtime : RuntimePath) (r : Remnant) : List (List Piece) :=
  match r.item with
  | .record record => [r.documentation.flatMap documentationPieces ++ recordPieces runtime record]
  | .endpoint e => endpointPieces runtime r.method r.documentation e

/-- The pieces of `remnants?`; none when one of the items that are left is not valid. -/
def remainder? (runtime : RuntimePath) (a : Artifact) : Option (List Piece) := do
  let modules ← a.remnants? runtime.given
  if modules.all fun m => m.2.all fun r => r.item.isValid runtime then
    some (artifactOf runtime (modules.map fun m => moduleOf m.1 (m.2.flatMap (remnantPieces runtime))) a.table)
  else none

/-- The pieces that are laid out: `pieces?` where the artifact `isValid`, and the `remainder?` where a pattern brings
more than comments. That is none, too, where the further lines of a pattern are code of their own, which may be code
that could be read. -/
def layout? (runtime : RuntimePath) (a : Artifact) : Option (List Piece) :=
  match a.pieces? runtime with
  | some pieces => if a.isValid runtime then some pieces else none
  | none => a.remainder? runtime

/-- **The text of an artifact**: the `banner`, and `render` of its `layout?` for the path of the runtime. None when one
of them is none. -/
def text? (given : String) (a : Artifact) : Option String := do
  let runtime ← RuntimePath.ofText? given
  some (banner ++ render (← a.layout? runtime))

end RouteContracts.Artifact

/-- **The text of the artifact of a registry**, given the path of the runtime: `text?` of `ofRegistry`. -/
def RouteContracts.Registry.artifactText? (r : RouteContracts.Registry) (runtime : String) :
    Option String :=
  (RouteContracts.Artifact.ofRegistry r).text? runtime
