import RouteContracts.Artifact.Basic
import RouteContracts.Artifact.RuntimePath

/-! # The code of artifacts
An artifact is put together as one text, which is read before it is laid out. A comment on an endpoint has the
pattern as it is. So the further lines of a pattern with line ends are code, and a block comment that begins
there goes on over all that follows, up to its end in the comment on a later endpoint.

* `Artifact.code`: the text that an artifact is put together as, which `File.ofText?` accepts or not.
* `Artifact.remnants?`: **what is left of an artifact** when that text is read. -/

namespace RouteContracts.Artifact

open Source

/-- The attributes of a field: `rename` where `impliedWireName` of its identifier is not its wire name, and `default`
and `skip_serializing_if` where it is `omittable`. -/
def fieldAttributes (f : Field) : List String :=
  (if impliedWireName f.ident = f.wireName then [] else ["rename = " ++ Text.quoted f.wireName]) ++
    (if f.omittable then ["default", "skip_serializing_if = \"Option::is_none\""] else [])

/-! ## Texts -/

/-- Texts one after another, with a separator between. -/
def separated (separator : String) (texts : List (List Char)) : List Char :=
  (texts.intersperse separator.toList).flatten

/-- The code of a type; `given` is the path of the library. -/
def FieldType.code (given : String) : FieldType → List Char
  | .text => "String".toList
  | .number => "f64".toList
  | .truth => "bool".toList
  | .unit => "()".toList
  | .anyJson => given.toList ++ "::serde_json::Value".toList
  | .record name => name.toList
  | .list t => "Vec<".toList ++ t.code given ++ ">".toList
  | .option t => "Option<".toList ++ t.code given ++ ">".toList

/-- The code of the type for a piece of a contract. -/
def contractTypeCode (given : String) : Option FieldType → List Char
  | none => "NoData".toList
  | some t => t.code given

/-- The code of a field: its `fieldAttributes`, and `pub ident: type,`. -/
def Field.code (given : String) (f : Field) : List Char :=
  (match fieldAttributes f with
    | [] => []
    | arguments => "    #[serde(".toList ++ separated ", " (arguments.map String.toList) ++ ")]\n".toList) ++
    "    pub ".toList ++ f.ident.toList ++ ": ".toList ++ f.type.code given ++ ",\n".toList

/-- The code of a record: what it derives, where `serde` is found, and the fields in braces. -/
def Record.code (given : String) (r : Record) : List Char :=
  "#[derive(Debug, Clone, PartialEq, ".toList ++
    given.toList ++ "::serde::Serialize, ".toList ++ given.toList ++ "::serde::Deserialize)]\n".toList ++
    "#[serde(crate = \"".toList ++ given.toList ++ "::serde\")]\n".toList ++
    "pub struct ".toList ++ r.name.toList ++ " \x7b\n".toList ++ r.fields.flatMap (Field.code given) ++ "\x7d\n".toList

/-- A line of an endpoint. -/
def constantCode (front : String) (value : List Char) : List Char :=
  "    ".toList ++ front.toList ++ " = ".toList ++ value ++ ";\n".toList

/-- The code of an endpoint without its comment: `pub struct Name;` and an `impl Endpoint for Name` with the five things
that it tells. -/
def EndpointItem.code (given : String) (m : Method) (e : EndpointItem) : List Char :=
  "pub struct ".toList ++ e.name.toList ++ ";\n\nimpl Endpoint for ".toList ++ e.name.toList ++ " \x7b\n".toList ++
    constantCode "const METHOD: Method" ("Method::".toList ++ m.variantName.toList) ++
    constantCode "const PATTERN: &'static str" (Text.quoted e.pattern).toList ++
    constantCode "type Body" (contractTypeCode given e.body) ++
    constantCode "type RouteParams" (contractTypeCode given e.routeParams) ++
    constantCode "type SearchParams" (contractTypeCode given e.searchParams) ++ "\x7d\n".toList

/-- The code of an item without its comment. -/
def ModuleItem.code (given : String) (m : Method) : ModuleItem → List Char
  | .record r => r.code given
  | .endpoint e => e.code given m

/-- The comment on an endpoint: the line `/// ` with the method and the pattern in backquotes. The pattern stands there
as it is. -/
def ModuleItem.comment (m : Method) : ModuleItem → List Char
  | .record _ => []
  | .endpoint e => "/// \x60".toList ++ m.token.toList ++ " ".toList ++ e.pattern.toList ++ "\x60\n".toList

/-- The code of a module. -/
def MethodModule.code (given : String) (mm : MethodModule) : List Char :=
  "pub mod ".toList ++ mm.method.moduleName.toList ++ " \x7b\n    use super::*;\n\n".toList ++
    (mm.items.flatMap fun i => i.comment mm.method ++ i.code given mm.method ++ "\n".toList) ++ "\x7d\n\n".toList

/-- The code of the import. -/
def importCode (given : String) : List Char :=
  "#[allow(unused_imports)]\nuse ".toList ++ given.toList ++ "::\x7b".toList ++ "Endpoint, Method, NoData".toList ++
    "\x7d;\n\n".toList

/-- The code of a row of the table. -/
def rowCode (row : Method × String) : List Char :=
  "(Method::".toList ++ row.1.variantName.toList ++ ", ".toList ++ (Text.quoted row.2).toList ++ ")".toList

/-- The code of the table. -/
def tableCode (table : List (Method × String)) : List Char :=
  "/// Every \x60(method, pattern)\x60 pair served by the application.\n".toList ++
    "pub const ROUTES: &[(Method, &str)] = &[".toList ++ separated ", " (table.map rowCode) ++ "];\n".toList

/-- **The text that an artifact is put together as**: `importCode`, the code of each module, and `tableCode`. -/
def code (given : String) (a : Artifact) : List Char :=
  importCode given ++ a.modules.flatMap (MethodModule.code given) ++ tableCode a.table

/-! ## What is left -/

/-- An item that is left, with the method it is for and the comment in front of it. -/
structure Remnant where
  /-- The method. -/
  method : Method
  /-- The lines of the comment. -/
  documentation : List String
  /-- The item. -/
  item : ModuleItem
deriving Repr

/-- The `documentationText?` of the attributes at the front of trees, and the trees behind these. -/
def commented : List Tree → List String × List Tree
  | hash :: brackets :: rest =>
    match documentationText? (.trees [hash, brackets]) with
    | some text =>
      let (texts, rest) := commented rest
      (text :: texts, rest)
    | none => ([], hash :: brackets :: rest)
  | ts => ([], ts)

/-- `Tree.behind?` for the trees of the code of an item and the comment in front of it, with the lines of that
comment. -/
def behindItem? (given : String) (m : Method) (i : ModuleItem) (trees : List Tree) :
    Option (List String × List Tree) := do
  let (documentation, trees) := commented trees
  some (documentation, ← Tree.behind? (← Lexer.trees? (i.code given m)) trees)

/-- What is left of some items in the trees of a module, and the items after these. An item that `behindItem?` does not
find is hidden by a comment; there is nothing else in the module. -/
def remnantsIn? (given : String) : List (Method × ModuleItem) → List Tree →
    Option (List Remnant × List (Method × ModuleItem))
  | items, [] => some ([], items)
  | [], _ :: _ => none
  | (m, i) :: items, t :: ts =>
    match behindItem? given m i (t :: ts) with
    | some (documentation, rest) =>
      (remnantsIn? given items rest).map fun r => (⟨m, documentation, i⟩ :: r.1, r.2)
    -- a comment that began before has hidden the item
    | none => remnantsIn? given items (t :: ts)

/-- `Tree.behind?` for `use super::*;`, at which every module begins. -/
def behindFront? (content : List Tree) : Option (List Tree) := do
  Tree.behind? (← Lexer.trees? "use super::*;".toList) content

/-- The modules of some methods with what `remnantsIn?` finds in them, and the trees behind these modules. -/
def remainingModules? (given : String) : List Method → List (Method × ModuleItem) → List Tree →
    Option (List (Method × List Remnant) × List Tree)
  | m :: methods, items, .word "pub" :: .word "mod" :: .word name :: .group .brace content :: rest =>
    if name = m.moduleName then do
      let (left, items) ← remnantsIn? given items (← behindFront? content)
      let (modules, rest) ← remainingModules? given methods items rest
      some ((m, left) :: modules, rest)
    -- no module of this method is left
    else
      remainingModules? given methods items
        (.word "pub" :: .word "mod" :: .word name :: .group .brace content :: rest)
  | _, _, ts => some ([], ts)

/-- **What is left of an artifact** when its `code` is read: the modules with their items. None when the code cannot be
read, and none when it holds anything that is no part of an artifact: items that the further lines of a pattern bring
make the text no artifact, although it may well be a file. -/
def remnants? (given : String) (a : Artifact) : Option (List (Method × List Remnant)) := do
  let trees ← Lexer.trees? (a.code given)
  let trees ← Tree.behind? (← Lexer.trees? (importCode given)) trees
  let items := a.modules.flatMap fun mm => mm.items.map fun i => (mm.method, i)
  let (modules, trees) ← remainingModules? given Method.all items trees
  if Tree.sameAll trees (← Lexer.trees? (tableCode a.table)) then some modules else none

end RouteContracts.Artifact
