import RouteContracts.Companion.Token

/-! # Readers of unfinished source text
A reader takes tokens from the front of a list and **never fails**: what does not fit is passed over or
left for others. Beside its value it gives the declarations that were found on the way, those around
others first.

* `Reader`: a monad. `Reader.noted`: a reader whose tokens form a declaration.
* `eat`, `expect`, `bump`, `recover`: reading tokens. `delimited`: a list in brackets.
* `Rules`: the rules of the grammar that use each other. -/

namespace RouteContracts.Companion

/-- A declaration that a companion file may be read for. -/
inductive Declared where
  /-- A constant and its text. -/
  | constant (name text : String)
  /-- A record, and the name and type of each field that has both; without a list of fields it has none. -/
  | record (name : String) (fields : List (String × String))
deriving DecidableEq, Repr

/-- What a reader gives. -/
structure Reading (α : Type) where
  /-- The value. -/
  value : α
  /-- The tokens that are left. -/
  rest : List Token
  /-- The declarations found on the way. -/
  found : List Declared

/-- A reader. -/
def Reader (α : Type) : Type := List Token → Reading α

namespace Reader

variable {α β : Type}

/-- Reads nothing. -/
def pure (a : α) : Reader α := fun ts => ⟨a, ts, []⟩

/-- One reader after another. -/
def bind (p : Reader α) (f : α → Reader β) : Reader β := fun ts =>
  let r := p ts
  let s := f r.value r.rest
  ⟨s.value, s.rest, r.found ++ s.found⟩

instance : Monad Reader where
  pure := pure
  bind := bind

/-- Tells whether something comes next. -/
def looking (peek : List Token → Bool) : Reader Bool := fun ts => ⟨peek ts, ts, []⟩

/-- A value, with the tokens that were read for it. -/
def withRead (p : Reader α) : Reader (α × List Token) := fun ts =>
  let r := p ts
  ⟨(r.value, ts.take (ts.length - r.rest.length)), r.rest, r.found⟩

/-- Reads the tokens of a declaration, which is told by its value and tokens. -/
def noted (p : Reader α) (declared : α → List Token → Option Declared) : Reader Unit := fun ts =>
  let r := p.withRead ts
  ⟨(), r.rest, (declared r.value.1 r.value.2).toList ++ r.found⟩

/-- Repeats a step until it says no; at most `fuel` times. -/
def repeatWithin (step : Reader Bool) : Nat → Reader Unit
  | 0 => pure ()
  | fuel + 1 => do
    if ← step then repeatWithin step fuel else pure ()

/-- Repeats a step until it says no. Each step that says yes reads something. -/
def repeating (step : Reader Bool) : Reader Unit := fun ts => repeatWithin step (ts.length + 1) ts

/-- Repeats a step as long as something comes next and the step does not say no. -/
def whileNext (peek : List Token → Bool) (step : Reader Bool) : Reader Unit :=
  repeating do
    if ← looking peek then step else pure false

end Reader

/-! ## What comes next -/

namespace Next

/-- Whether nothing comes. -/
def nothing (ts : List Token) : Bool := ts.isEmpty

/-- Whether a word or mark comes. -/
def is (s : String) : List Token → Bool
  | t :: _ => t.isText s
  | [] => false

/-- Whether one of some words and marks comes. -/
def oneOf (ss : List String) : List Token → Bool
  | t :: _ => ss.any t.isText
  | [] => false

/-- Whether the marks of an operator come, without anything between. -/
def marksOf : List Char → List Token → Bool
  | [], _ => true
  | [c], t :: _ => t.isText (String.singleton c)
  | c :: d :: more, t :: u :: rest =>
    t.isText (String.singleton c) && u.before.isEmpty && marksOf (d :: more) (u :: rest)
  | _, _ => false

/-- Whether an operator comes. -/
def op (s : String) (ts : List Token) : Bool := marksOf s.toList ts

/-- Whether an identifier comes. -/
def name : List Token → Bool
  | t :: _ => t.isName
  | [] => false

/-- Whether a token of some kind comes. -/
def kind (k : TokenKind) : List Token → Bool
  | t :: _ => t.kind == k
  | [] => false

/-- Whether something comes after so many tokens. -/
def after (n : Nat) (peek : List Token → Bool) (ts : List Token) : Bool := peek (ts.drop n)

/-- Whether a literal comes. -/
def literal (ts : List Token) : Bool :=
  oneOf ["true", "false"] ts || kind .integer ts || kind .decimal ts || kind .quoted ts

/-- Whether a path of an import may come. -/
def importPath (ts : List Token) : Bool := name ts || oneOf ["self", "super", "crate"] ts || op "::" ts

/-- Whether a path may come. -/
def path (ts : List Token) : Bool := importPath ts || oneOf ["<", "Self"] ts

/-- Whether the tokens at which paths begin come. -/
def pathFront (ts : List Token) : Bool := name ts || oneOf ["self", "super", "crate", "Self", ":", "<"] ts

/-- Whether a type may come. -/
def type (ts : List Token) : Bool :=
  pathFront ts || kind .lifetime ts ||
    oneOf ["(", "[", "!", "*", "&", "_", "fn", "unsafe", "extern", "for", "impl", "dyn"] ts

/-- Whether an expression may come. -/
def expression (ts : List Token) : Bool :=
  literal ts || pathFront ts || kind .lifetime ts ||
    oneOf ["(", "\x7b", "[", "|", "async", "box", "break", "const", "continue", "do", "for", "if", "let",
      "loop", "match", "move", "return", "static", "try", "unsafe", "while", "yield", "become", "&", "*",
      "!", ".", "-", "_"] ts

/-- Whether a pattern may come. -/
def pattern (ts : List Token) : Bool :=
  literal ts || pathFront ts || oneOf ["box", "ref", "mut", "const", "(", "[", "&", "_", "-", "."] ts

/-- The words and marks at which items begin. -/
def itemFronts : List String :=
  ["fn", "struct", "enum", "impl", "trait", "const", "async", "unsafe", "extern", "static", "let", "mod",
   "pub", "crate", "use", "macro", ";"]

/-- The words and marks at which a missing type is not looked for any more. -/
def typeEnds : List String := [")", "]", "\x7d", ">", ",", "pub"]

end Next

/-! ## Reading tokens -/

/-- Reads a token of any kind. -/
def bump : Reader Unit := fun ts => ⟨(), ts.tail, []⟩

/-- Reads so many tokens. -/
def bumps (n : Nat) : Reader Unit := fun ts => ⟨(), ts.drop n, []⟩

/-- Reads a token when something comes next, and tells whether it did. -/
def eatIf (peek : List Token → Bool) : Reader Bool := fun ts =>
  if peek ts then ⟨true, ts.tail, []⟩ else ⟨false, ts, []⟩

/-- Reads a word or mark, if it comes next. -/
def eat (s : String) : Reader Bool := eatIf (Next.is s)

/-- Reads an operator, if it comes next. -/
def eatOp (s : String) : Reader Bool := fun ts =>
  if Next.op s ts then ⟨true, ts.drop s.length, []⟩ else ⟨false, ts, []⟩

/-- Reads a word or mark, if it comes next, and goes on without it otherwise. -/
def expect (s : String) : Reader Unit := do let _ ← eat s

/-- Passes over a token that does not fit, unless it is a brace or among the given ones. -/
def recover (keep : List String) : Reader Unit := fun ts =>
  if Next.oneOf ["\x7b", "\x7d"] ts || Next.oneOf keep ts then ⟨(), ts, []⟩ else ⟨(), ts.tail, []⟩

/-- Reads with one reader or another, by what comes next. -/
def ifNext {α : Type} (peek : List Token → Bool) (p q : Reader α) : Reader α := fun ts =>
  if peek ts then p ts else q ts

/-- Reads with a reader if something comes next. -/
def whenNext (peek : List Token → Bool) (p : Reader Unit) : Reader Unit := ifNext peek p (pure ())

/-- Nothing is read. -/
def nothing : Reader Unit := pure ()

/-- Reads an identifier, and gives it. -/
def nameOr (keep : List String) : Reader (Option String) := fun ts =>
  match ts with
  | t :: rest =>
    if t.isName then ⟨some t.text, rest, []⟩
    else let r := recover keep ts; ⟨none, r.rest, []⟩
  | [] => ⟨none, [], []⟩

/-- Reads an identifier. -/
def ident : Reader (Option String) := nameOr []

/-- Reads entries between brackets, with separators between them. A reader of entries tells whether it went
on; an entry may also follow without a separator, if something allows it. -/
def delimited (opening closing separator : String) (entryNext : List Token → Bool)
    (entry : Reader Bool) : Reader Unit := do
  expect opening
  Reader.whileNext (fun ts => !Next.nothing ts && !Next.is closing ts) do
    if ← eat separator then pure true
    else if ← entry then
      if ← eat separator then pure true else Reader.looking entryNext
    else pure false
  expect closing

/-- How an expression may be restricted by its place. -/
structure Restriction where
  /-- Whether braces after a path belong to something else. -/
  noRecords : Bool
  /-- Whether an expression with a block may be a statement of its own. -/
  statement : Bool

/-- The rules that use each other. -/
structure Rules where
  /-- A type; with bounds, if they are allowed. Tells whether there was one. -/
  type : Bool → Reader Bool
  /-- An expression whose operators bind at least so tightly. Tells whether there was one, and whether it
  ends with a block. -/
  expression : Restriction → Nat → Reader (Option Bool)
  /-- A pattern, with alternatives or not. -/
  pattern : Bool → Reader Unit
  /-- The statements of a block. -/
  statements : Reader Unit
  /-- Items up to the end, or to a closing brace. -/
  items : Reader Unit
  /-- The bounds of a type. -/
  bounds : Reader Unit
  /-- Trees in brackets. -/
  trees : Reader Unit
  /-- The tree of an import. -/
  imports : Bool → Reader Bool

namespace Rules

/-- The rules that read nothing. -/
def empty : Rules :=
  ⟨fun _ => pure false, fun _ _ => pure none, fun _ => pure (), pure (), pure (), pure (), pure (),
    fun _ => pure false⟩

/-- An expression without restrictions. -/
def anyExpression (g : Rules) : Reader Bool := do
  let r ← g.expression ⟨false, false⟩ 1
  pure r.isSome

/-- An expression in front of a block. -/
def headExpression (g : Rules) : Reader Unit := do
  let _ ← g.expression ⟨true, false⟩ 1
  pure ()

/-- A type with all that may follow it. -/
def anyType (g : Rules) : Reader Unit := do
  let _ ← g.type true
  pure ()

/-- A type without bounds. -/
def plainType (g : Rules) : Reader Unit := do
  let _ ← g.type false
  pure ()

end Rules

end RouteContracts.Companion
