import RouteContracts.Source.Token

/-! # Syntax of source files
What is kept of a parsed source file: the functions and values it declares, and of an expression the
structure that can describe a schema. Everything else is only known by its tokens and by the items that
are declared in blocks inside of it. What is inside of a function, a module or the like stands apart.

* `Item`, `Expr`: items and expressions.
* `Expr.tokens`: how an expression is written. `Expr.items`: the items inside. -/

namespace RouteContracts.Source

mutual

/-- An item of a file or of a block. -/
inductive Item where
  /-- A function. -/
  | function (exported : Bool) (name : String)
  /-- A constant or static with its initializer. -/
  | value (exported : Bool) (name : String) (initializer : Expr)
  /-- Any other item, with the items in blocks inside of it. -/
  | other (inner : List Item)
  /-- What is inside of an item where nobody looks: a function or a value, a module, a trait, an implementation. -/
  | closed (inside : List Item)

/-- An expression. Each form starts with the tokens it is written with. -/
inductive Expr where
  /-- An expression in parentheses. -/
  | paren (tokens : List Tree) (inner : Expr)
  /-- A reference. -/
  | reference (tokens : List Tree) (inner : Expr)
  /-- A closure, with the items in its parameters. -/
  | closure (tokens : List Tree) (before : List Item) (body : Expr)
  /-- A block, with the items in front of its last expression, when it ends with one. -/
  | block (tokens : List Tree) (before : List Item) (last : Option Expr)
  /-- A call. -/
  | call (tokens : List Tree) (callee : Expr) (arguments : List Expr)
  /-- A method call, with the items in its type arguments. -/
  | method (tokens : List Tree) (receiver : Expr) (name : String) (types : List Item)
      (arguments : List Expr)
  /-- A path, with its last word and the items in its type arguments. -/
  | path (tokens : List Tree) (last : String) (types : List Item)
  /-- A literal that is no truth value. -/
  | literal (tokens : List Tree) (text : String)
  /-- A truth value. -/
  | truth (tokens : List Tree) (value : Bool)
  /-- A tuple. -/
  | tuple (tokens : List Tree) (elements : List Expr)
  /-- An array with listed elements. -/
  | array (tokens : List Tree) (elements : List Expr)
  /-- A list macro, with its elements when its tokens are expressions between commas. -/
  | listMacro (tokens : List Tree) (elements : Option (List Expr))
  /-- Any other expression, with the items inside of it. -/
  | other (tokens : List Tree) (inner : List Item)

end

instance : Inhabited Item := ⟨.other []⟩
instance : Inhabited Expr := ⟨.other [] []⟩

namespace Expr

/-- The tokens an expression is written with. -/
def tokens : Expr → List Tree
  | .paren ts _ | .reference ts _ | .closure ts _ _ | .block ts _ _ | .call ts _ _
  | .method ts _ _ _ _ | .path ts _ _ | .literal ts _ | .truth ts _ | .tuple ts _ | .array ts _
  | .listMacro ts _ | .other ts _ => ts

/-- How an expression is shown. -/
def shown (e : Expr) : String := treesText e.tokens

/-- The same expression, written with other tokens. -/
def withTokens (e : Expr) (ts : List Tree) : Expr :=
  match e with
  | .paren _ inner => .paren ts inner
  | .reference _ inner => .reference ts inner
  | .closure _ before body => .closure ts before body
  | .block _ before last => .block ts before last
  | .call _ callee arguments => .call ts callee arguments
  | .method _ receiver name types arguments => .method ts receiver name types arguments
  | .path _ last types => .path ts last types
  | .literal _ text => .literal ts text
  | .truth _ value => .truth ts value
  | .tuple _ elements => .tuple ts elements
  | .array _ elements => .array ts elements
  | .listMacro _ elements => .listMacro ts elements
  | .other _ inner => .other ts inner

mutual

/-- The items in blocks inside an expression, from left to right. -/
def items : Expr → List Item
  | .paren _ inner | .reference _ inner => items inner
  | .closure _ before body => before ++ items body
  | .block _ before last =>
    match last with
    | some e => before ++ items e
    | none => before
  | .call _ callee arguments => items callee ++ itemsOfAll arguments
  | .method _ receiver _ types arguments => items receiver ++ types ++ itemsOfAll arguments
  | .path _ _ types => types
  | .literal _ _ | .truth _ _ | .listMacro _ _ => []
  | .tuple _ elements | .array _ elements => itemsOfAll elements
  | .other _ inner => inner

/-- The items in blocks inside some expressions. -/
def itemsOfAll : List Expr → List Item
  | [] => []
  | e :: rest => items e ++ itemsOfAll rest

end

end Expr

end RouteContracts.Source
