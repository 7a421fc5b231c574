import RouteContracts.Source.Grammar.Item
import RouteContracts.Source.Lexer

/-! # Reading source files
The rules of the grammar use each other through a record of parsers. Tying them together takes a bound on
the depth of nesting, and the number of tokens is one: every rule reads a token before it comes back to
another.

* `File.ofText?`: the items of a source file. `Expr.ofText?`: an expression. -/

namespace RouteContracts.Source

/-- The grammar whose rules nest at most so deep: each level takes the rules of the one below for what is inside. -/
def Grammar.upTo : Nat → Grammar
  | 0 => Grammar.empty
  | depth + 1 =>
    let g := Grammar.upTo depth
    { expr := Rule.expression g
      unary := Rule.unary g
      climb := Rule.climb g
      early := Rule.early g
      block := Rule.statements g
      type := Rule.typeOf g
      pattern := Rule.patternOf g
      item := Rule.itemOf g
      imports := Rule.importsOf g }

/-- `Grammar.upTo` one rule for every token of `ts`, and four more. -/
def Grammar.forTrees (ts : List Tree) : Grammar := Grammar.upTo (Tree.sizes ts + 4)

/-- The value of a parser that reads all of some trees. -/
def Parser.whole {α : Type} (p : Parser α) (ts : List Tree) : Option α :=
  match p ts with
  | some r => if r.rest.isEmpty then some r.value else none
  | none => none

/-- **The expression of a text**: `Rule.expression` on all of its trees. -/
def Expr.ofText? (s : String) : Option Expr := do
  let ts ← Lexer.trees? s.toList
  Parser.whole (Rule.expression (Grammar.forTrees ts) true) ts

/-- A source file. -/
structure File where
  /-- The items of the file. -/
  items : List Item

namespace File

/-- The text without a first line that only names a program to run it. -/
def withoutShebang (s : List Char) : List Char :=
  match s with
  | '#' :: '!' :: rest =>
    -- an attribute about the file begins so, too
    if bracketNext rest.length rest then s else s.dropWhile (· ≠ '\n')
  | _ => s
where
  /-- Whether a bracket is the first token. -/
  bracketNext : Nat → List Char → Bool
    | 0, _ => false
    | fuel + 1, rest =>
      match rest with
      | '[' :: _ => true
      | rest =>
        match Lexer.skipped? rest with
        | some rest => bracketNext fuel rest
        | none => false

/-- **The source file of a text**: `Rule.fileItems` on all of its trees, after a byte order mark and a `#!` line. -/
def ofText? (s : String) : Option File := do
  let cs := withoutShebang (Lexer.withoutByteOrderMark s.toList)
  let ts ← Lexer.trees? cs
  let items ← Parser.whole (Rule.fileItems (Grammar.forTrees ts)) ts
  some ⟨items⟩

end File

end RouteContracts.Source
