import RouteContracts.Companion.Grammar.Item
import RouteContracts.Companion.RouteTypes
import RouteContracts.Notice
import RouteContracts.Path

/-! # Companion files
What a companion file declares: the constant `ROUTE_ID` and the record `RouteParams`, wherever in the file
they stand; of several the last one counts. Any text can be read, finished or not.

* `declaredIn`: the constants and records of a text.
* `firstString?`: the text between the first quotes of a declaration.
* `RouteTypes.ofText`: what a companion file tells. -/

namespace RouteContracts.Companion

/-- The rules that nest at most so deep. -/
def Rules.upTo : Nat → Rules
  | 0 => Rules.empty
  | depth + 1 =>
    let g := Rules.upTo depth
    { type := Rule.typeOf g
      expression := Rule.expressionOf g
      pattern := Rule.patternOf g
      statements := Rule.statementsOf g
      items := Rule.itemsOf g true
      bounds := Rule.boundsOf g
      trees := Rule.treesOf
      imports := Rule.importsOf g }

/-- The text without a first line that names a program to run it. -/
def withoutShebang (s : List Char) : List Char :=
  match s with
  | '#' :: '!' :: rest =>
    match Token.scan rest with
    | t :: _ => if t.isText "[" then s else s.dropWhile (· ≠ '\n')
    | [] => s.dropWhile (· ≠ '\n')
  | _ => s

/-- The items of a whole file. -/
def wholeFile (g : Rules) : Reader Unit := do
  Rule.innerAttributes g
  Rule.itemsOf g false

/-- **The constants and records that a text declares**, those around others first: what `wholeFile` has found. At most
four rules nest for every token, and eight more. -/
def declaredIn (code : String) : List Declared :=
  let ts := Token.scan (withoutShebang code.toList)
  (wholeFile (Rules.upTo (4 * ts.length + 8)) ts).found

/-- What stands up to a closing quote; a backslash goes together with the character after it, which is no
line end. -/
def untilQuote : List Char → Option (List Char)
  | [] => none
  | '"' :: _ => some []
  | '\\' :: c :: rest => if c = '\n' then none else (untilQuote rest).map fun r => '\\' :: c :: r
  | ['\\'] => none
  | c :: rest => (untilQuote rest).map (c :: ·)

/-- What stands between the first quotes that close. -/
def firstQuoted : List Char → Option (List Char)
  | [] => none
  | '"' :: rest => (untilQuote rest).or (firstQuoted rest)
  | _ :: rest => firstQuoted rest

/-- The characters with escaped quotes written plainly. -/
def plainQuotes : List Char → List Char
  | [] => []
  | '\\' :: '"' :: rest => '"' :: plainQuotes rest
  | c :: rest => c :: plainQuotes rest

/-- **The text between the first quotes of a declaration.** -/
def firstString? (text : String) : Option String :=
  (firstQuoted text.toList).map fun cs => String.ofList (plainQuotes cs)

end RouteContracts.Companion

namespace RouteContracts

open Companion

namespace RouteTypes

/-- The name of the constant with the route's identifier. -/
def routeIdName : String := "ROUTE_ID"

/-- The name of the record with the parameters. -/
def paramsName : String := "RouteParams"

/-- The types of parameters that have to be given. -/
def textTypes : List String := ["String", "&str", "&'staticstr"]

/-- The types of parameters that may be left out. -/
def optionalTextTypes : List String := ["Option<String>", "Option<&str>", "Option<&'staticstr>"]

/-- A parameter of a name and a type, with a notice if the type is no text. -/
def param (file : Path) (field : String × String) : RouteParam × List Notice :=
  if textTypes.contains field.2 then (⟨field.1, false⟩, [])
  else if optionalTextTypes.contains field.2 then (⟨field.1, true⟩, [])
  else
    (⟨field.1, "Option<".toList.isPrefixOf field.2.toList⟩, [.paramNotText file.text field.1 field.2])

/-- What a declaration adds to what is known. -/
def add (file : Path) (known : RouteTypes × List Notice) : Declared → RouteTypes × List Notice
  | .constant name text =>
    if name = routeIdName then ({ known.1 with routeId := firstString? text }, known.2) else known
  | .record name fields =>
    if name = paramsName then
      let params := fields.map (param file)
      ({ known.1 with params := params.map Prod.fst }, known.2 ++ params.flatMap Prod.snd)
    else known

/-- **What a companion file tells**, with notices. -/
def ofText (file : Path) (code : String) : RouteTypes × List Notice :=
  (declaredIn code).foldl (add file) (empty, [])

end RouteTypes

end RouteContracts
