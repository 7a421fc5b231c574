import RouteContracts.Source.Syntax

/-! # Parsing tokens
A parser takes trees from the front of a list. Beside its value it gives the trees as they are shown:
the marks of an operator that it knows belong together, whatever stood beside them in the text.

* `Parser`: a monad. `Parser.shown`: a value with the trees that were read for it.
* `Peek`: looking at what comes next. `mark`, `keyword`, `word`, `group`: reading it. -/

namespace RouteContracts.Source

/-- What a parser gives. -/
structure Parsed (α : Type) where
  /-- The value. -/
  value : α
  /-- The trees that are left. -/
  rest : List Tree
  /-- The trees that were read, as they are shown. -/
  read : List Tree

/-- A parser; it may fail. -/
def Parser (α : Type) : Type := List Tree → Option (Parsed α)

namespace Parser

variable {α β : Type}

/-- Reads nothing. -/
def pure (a : α) : Parser α := fun ts => some ⟨a, ts, []⟩

/-- One parser after another. -/
def bind (p : Parser α) (f : α → Parser β) : Parser β := fun ts =>
  match p ts with
  | none => none
  | some r =>
    match f r.value r.rest with
    | none => none
    | some s => some ⟨s.value, s.rest, r.read ++ s.read⟩

instance : Monad Parser where
  pure := pure
  bind := bind

/-- Fails. -/
def fail : Parser α := fun _ => none

/-- The trees that come next, none of them read. -/
def ahead : Parser (List Tree) := fun ts => some ⟨ts, ts, []⟩

/-- Tells whether something comes next. -/
def looking (peek : List Tree → Bool) : Parser Bool := fun ts => some ⟨peek ts, ts, []⟩

/-- Fails unless something comes next. -/
def require (peek : List Tree → Bool) : Parser Unit := fun ts =>
  if peek ts then some ⟨(), ts, []⟩ else none

/-- A value with the trees that were read for it. -/
def shown (p : Parser α) : Parser (α × List Tree) := fun ts =>
  (p ts).map fun r => ⟨(r.value, r.read), r.rest, r.read⟩

/-- Whether a parser would succeed. -/
def succeeds (p : Parser α) : List Tree → Bool := fun ts => (p ts).isSome

/-- Reads with the first parser that a look ahead allows, else gives a value. -/
def whenNext (peek : List Tree → Bool) (p : Parser α) (otherwise : α) : Parser α := fun ts =>
  if peek ts then p ts else some ⟨otherwise, ts, []⟩

/-- Reads with one parser or another, by a look ahead. -/
def ifNext (peek : List Tree → Bool) (p q : Parser α) : Parser α := fun ts =>
  if peek ts then p ts else q ts

/-- Repeats a step until it gives no more; at most `fuel` times. -/
def iterate (step : Parser (Option α)) : Nat → Parser (List α)
  | 0 => pure []
  | fuel + 1 => do
    match ← step with
    | some a => do
      let more ← iterate step fuel
      pure (a :: more)
    | none => pure []

/-- Repeats a step until it gives no more. Each step that gives something has to read something. -/
def many (step : Parser (Option α)) : Parser (List α) := fun ts => iterate step (ts.length + 1) ts

/-- Folds a step over a value until the step gives no more; at most `fuel` times. -/
def foldSteps (step : α → Parser (Option α)) : Nat → α → Parser α
  | 0, a => pure a
  | fuel + 1, a => do
    match ← step a with
    | some b => foldSteps step fuel b
    | none => pure a

/-- Folds a step over a value until the step gives no more. -/
def fold (step : α → Parser (Option α)) (a : α) : Parser α := fun ts =>
  foldSteps step (ts.length + 1) a ts

end Parser

/-! ## Looking ahead -/

namespace Peek

/-- The words that are no identifiers. -/
def reserved : List String :=
  ["_", "abstract", "as", "async", "await", "become", "box", "break", "const", "continue", "crate",
   "do", "dyn", "else", "enum", "extern", "false", "final", "fn", "for", "if", "impl", "in", "let",
   "loop", "macro", "match", "mod", "move", "mut", "override", "priv", "pub", "ref", "return", "Self",
   "self", "static", "struct", "super", "trait", "true", "try", "type", "typeof", "unsafe", "unsized",
   "use", "virtual", "where", "while", "yield"]

/-- Whether nothing comes. -/
def nothing (ts : List Tree) : Bool := ts.isEmpty

/-- Whether the marks of an operator come. -/
def operator : List Char → List Tree → Bool
  | [], _ => true
  | [c], .mark d _ :: _ => c == d
  | c :: rest, .mark d joins :: more => c == d && joins && operator rest more
  | _, _ => false

/-- Whether an operator comes. -/
def op (s : String) (ts : List Tree) : Bool := operator s.toList ts

/-- Whether a keyword comes. -/
def keyword (k : String) : List Tree → Bool
  | .word w :: _ => w == k
  | _ => false

/-- Whether one of some keywords comes. -/
def keywords (ks : List String) : List Tree → Bool
  | .word w :: _ => ks.contains w
  | _ => false

/-- Whether a word of any kind comes. -/
def anyWord : List Tree → Bool
  | .word _ :: _ => true
  | _ => false

/-- Whether an identifier comes. -/
def identifier : List Tree → Bool
  | .word w :: _ => !reserved.contains w
  | _ => false

/-- Whether a lifetime comes. -/
def lifetime : List Tree → Bool
  | .mark '\'' true :: .word _ :: _ => true
  | _ => false

/-- Whether a text is the spelling of a number. -/
def isNumeric (literal : String) : Bool := literal.toList.head?.any Char.isDigit

/-- Whether a text is the spelling of a text. -/
def isText (literal : String) : Bool :=
  literal.toList.head?.any fun c => c == '"' || c == 'r'

/-- Whether a literal comes; also a truth value, and a number with a minus sign. -/
def literal : List Tree → Bool
  | .literal _ :: _ => true
  | .word w :: _ => w == "true" || w == "false"
  | .mark '-' _ :: .literal l :: _ => isNumeric l
  | _ => false

/-- Whether a text literal comes. -/
def textLiteral : List Tree → Bool
  | .literal l :: _ => isText l
  | _ => false

/-- Whether a group comes. -/
def group (d : Delimiter) : List Tree → Bool
  | .group e _ :: _ => d == e
  | _ => false

/-- Whether any group comes. -/
def anyGroup : List Tree → Bool
  | .group _ _ :: _ => true
  | _ => false

/-- What comes after the next tree; a lifetime counts as one. -/
def skip : List Tree → List Tree
  | .mark '\'' true :: .word _ :: rest => rest
  | _ :: rest => rest
  | [] => []

/-- Whether something comes as the second tree. -/
def second (peek : List Tree → Bool) (ts : List Tree) : Bool := peek (skip ts)

/-- Whether something comes as the third tree. -/
def third (peek : List Tree → Bool) (ts : List Tree) : Bool := peek (skip (skip ts))

/-- Whether any of some things comes. -/
def any (peeks : List (List Tree → Bool)) (ts : List Tree) : Bool := peeks.any (· ts)

/-- Whether one thing comes and another does not. -/
def butNot (peek other : List Tree → Bool) (ts : List Tree) : Bool := peek ts && !other ts

/-- Whether a path may begin. -/
def pathStart : List Tree → Bool :=
  any [identifier, op "::", op "<", keywords ["self", "Self", "super", "crate"]]

end Peek

/-! ## Reading -/

namespace Parser

variable {α : Type}

/-- Reads the next tree, when it is allowed, and shows it. -/
def tree (allowed : Tree → Bool) : Parser Tree
  | t :: rest => if allowed t then some ⟨t, rest, [t]⟩ else none
  | [] => none

/-- Reads an operator. -/
def mark (s : String) : Parser Unit := fun ts =>
  if Peek.op s ts then some ⟨(), ts.drop s.length, Tree.operator s.toList⟩ else none

/-- Reads an operator if it comes. -/
def markIf (s : String) : Parser Bool := whenNext (Peek.op s) (do mark s; pure true) false

/-- Reads a keyword. -/
def keyword (k : String) : Parser Unit := do
  let _ ← tree fun t => match t with | .word w => w == k | _ => false

/-- Reads a keyword if it comes. -/
def keywordIf (k : String) : Parser Bool := whenNext (Peek.keyword k) (do keyword k; pure true) false

/-- Reads a word of any kind. -/
def anyWord : Parser String
  | .word w :: rest => some ⟨w, rest, [.word w]⟩
  | _ => none

/-- Reads an identifier. -/
def identifier : Parser String := fun ts => if Peek.identifier ts then anyWord ts else none

/-- Reads an identifier or an underscore. -/
def identifierOrBlank : Parser String := fun ts =>
  if Peek.identifier ts || Peek.keyword "_" ts then anyWord ts else none

/-- Reads a lifetime. -/
def lifetime : Parser Unit
  | .mark '\'' true :: .word w :: rest => some ⟨(), rest, [Tree.joined '\'', .word w]⟩
  | _ => none

/-- Reads a lifetime if it comes. -/
def lifetimeIf : Parser Bool := whenNext Peek.lifetime (do lifetime; pure true) false

/-- Reads a literal of any kind. -/
def literal : Parser Unit
  | .mark '-' _ :: .literal l :: rest =>
    if Peek.isNumeric l then some ⟨(), rest, [.literal ("-" ++ l)]⟩ else none
  | t :: rest => if Peek.literal [t] then some ⟨(), rest, [t]⟩ else none
  | [] => none

/-- Reads a group whose content has to be read wholly by a parser. -/
def group (d : Delimiter) (p : Parser α) : Parser α
  | .group e content :: rest =>
    if d = e then
      match p content with
      | some r => if r.rest.isEmpty then some ⟨r.value, rest, [.group d r.read]⟩ else none
      | none => none
    else none
  | _ => none

/-- Reads a group of any kind and whatever is in it. -/
def anyGroup : Parser (Delimiter × List Tree)
  | .group d content :: rest => some ⟨(d, content), rest, [.group d content]⟩
  | _ => none

/-- Reads things between commas to the end of the trees; a comma may stand behind the last. -/
def commaSeparated (p : Parser α) : Parser (List α) :=
  many do
    if ← looking Peek.nothing then return none
    let a ← p
    if !(← looking Peek.nothing) then mark ","
    return some a

end Parser

/-- Items apart from those around them, if there are any. -/
def apart (inside : List Item) : List Item := if inside.isEmpty then [] else [.closed inside]

/-- What the rules have to know about an expression beside its parts. -/
inductive Shape where
  /-- A range. -/
  | range
  /-- A comparison. -/
  | comparison
  /-- A form that ends with its own block and needs no semicolon. -/
  | blockLike
  /-- A macro whose tokens stand in braces. -/
  | braceMacro
  /-- A macro whose tokens stand in other brackets. -/
  | otherMacro
  /-- Any other form. -/
  | plain
deriving DecidableEq, Repr

/-- An expression with its shape. -/
structure Operand where
  /-- The expression. -/
  expr : Expr
  /-- Its shape. -/
  shape : Shape

/-- The parsers that a grammar's rules use for what is nested inside of them. -/
structure Grammar where
  /-- An expression; whether braces after a path make a value of it. -/
  expr : Bool → Parser Expr
  /-- An operand with the operators in front of it. -/
  unary : Bool → Parser Operand
  /-- An expression that goes on with operators no weaker than a strength. -/
  climb : Nat → Bool → Operand → Parser Operand
  /-- An expression in the place of a statement. -/
  early : Parser Operand
  /-- The content of a block: the items in it and its last expression. -/
  block : Parser (List Item × Option Expr)
  /-- A type; whether bounds may be added to it. Gives the items inside. -/
  type : Bool → Parser (List Item)
  /-- A pattern without alternatives. Gives the items inside. -/
  pattern : Parser (List Item)
  /-- An item, with what is inside of it. -/
  item : Parser (List Item)
  /-- A tree of imports; whether it may begin at the root. Tells whether one in braces does. -/
  imports : Bool → Parser Bool

/-- The grammar that reads nothing. -/
def Grammar.empty : Grammar :=
  ⟨fun _ => Parser.fail, fun _ => Parser.fail, fun _ _ _ => Parser.fail, Parser.fail, Parser.fail,
    fun _ => Parser.fail, Parser.fail, Parser.fail, fun _ => Parser.fail⟩

end RouteContracts.Source
