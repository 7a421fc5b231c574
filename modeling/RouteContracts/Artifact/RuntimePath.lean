import RouteContracts.Method
import RouteContracts.Source.Grammar.Basic
import RouteContracts.Source.Lexer

/-! # The runtime of an artifact
An artifact refers to a library by a path, which its user gives as a text.

* `RuntimePath.ofText?`: the path of a text.
* `isName`: whether a text can name something. `documentationLines?`: the lines of the comment on an
  endpoint. -/

namespace RouteContracts.Artifact

open Source

/-- The path of the library that an artifact refers to. -/
structure RuntimePath where
  /-- The path as it was given. -/
  given : String
  /-- The path as it is spelled in front of a name. -/
  spelled : String
deriving DecidableEq, Repr

namespace RuntimePath

/-- The words at which a path may begin or go on. -/
def pathWords : List String := ["self", "super", "crate", "try"]

/-- A word is a part of a path if it is one of `pathWords`, or not reserved. -/
def isPart (w : String) : Bool := pathWords.contains w || !Peek.reserved.contains w

/-- The parts of a path, each with the `::` that follows it. -/
def spelledParts? : List Tree → Option String
  | [] => some ""
  | .word w :: .mark ':' true :: .mark ':' _ :: rest =>
    if isPart w then (spelledParts? rest).map fun s => w ++ "::" ++ s else none
  | _ => none

/-- `spelledParts?` after the `::` that a path may begin with. -/
def spelled? : List Tree → Option String
  | .mark ':' true :: .mark ':' _ :: rest => (spelledParts? rest).map fun s => "::" ++ s
  | ts => spelledParts? ts

/-- **The path of a text**: `spelled?` of the trees of the text with `::` behind it, so that names can be looked up
below it. -/
def ofText? (given : String) : Option RuntimePath := do
  let trees ← Lexer.trees? (given ++ "::").toList
  some ⟨given, ← spelled? trees⟩

/-- `"given::serde"`, as records hold it. -/
def quotedRecords (p : RuntimePath) : String := "\"" ++ p.given ++ "::serde\""

/-- Whether `quotedRecords` is one literal. -/
def servesRecords (p : RuntimePath) : Bool :=
  match Lexer.trees? p.quotedRecords.toList with
  | some [.literal _] => true
  | _ => false

/-- Whether a type can begin with the path. None can begin with the word `try`, with which an import can. -/
def servesTypes (p : RuntimePath) : Bool :=
  match Lexer.trees? (p.given ++ "::").toList with
  | some ts => Peek.pathStart ts
  | none => false

/-- A path that records can refer to, and with which types can begin. -/
structure Serves (p : RuntimePath) : Prop where
  records : p.servesRecords = true
  types : p.servesTypes = true

end RuntimePath

/-- Whether characters form an identifier that is no keyword. -/
def isPlainName (name : List Char) : Bool :=
  Text.isIdent name && !Peek.reserved.contains (String.ofList name)

/-- **Whether a text can name something**, written raw or not: an identifier that is not reserved, or `r#` and an
identifier that is none of `Lexer.neverRaw`. -/
def isName (name : String) : Bool :=
  match name.toList with
  | 'r' :: '#' :: rest => Text.isIdent rest && !Lexer.neverRaw.contains (String.ofList rest)
  | cs => isPlainName cs

/-- The text of the attribute that a documentation comment stands for. -/
def documentationText? : Lexer.Lexeme → Option String
  | .trees [.mark '#' _, .group .bracket [.word "doc", .mark '=' _, .literal s]] => Literal.textValue? s
  | _ => none

/-- The lines of the comment on an endpoint. A pattern with line ends may bring its own, as long as each lexeme of the
comment has a `documentationText?`. -/
def documentationLines? (m : Method) (pattern : String) : Option (List String) := do
  let lexemes ← Lexer.lexemes? ("/// \x60" ++ m.token ++ " " ++ pattern ++ "\x60\n").toList
  lexemes.mapM documentationText?

end RouteContracts.Artifact
