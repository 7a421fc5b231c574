import RouteContracts.Source.Grammar.Pattern
import RouteContracts.Source.Literal

/-! # Expressions
Rules for expressions. Binary operators climb by their strength, and what may follow an operand is read in
a fold over it.

* `Rule.unary`, `Rule.climb`, `Rule.expression`: operands, operators and whole expressions.
* `Rule.early`: an expression in the place of a statement. -/

namespace RouteContracts.Source.Rule

open RouteContracts.Source.Parser

/-! ## Building -/

/-- Reads an operand that is only known by its tokens and the items inside. -/
def other (shape : Shape) (p : Parser (List Item)) : Parser Operand := do
  let (items, read) ← shown p
  return ⟨.other read items, shape⟩

/-- An operand that goes on behind another one. -/
def onward (e : Operand) (read : List Tree) (items : List Item) (shape : Shape) : Operand :=
  ⟨.other (e.expr.tokens ++ read) (e.expr.items ++ items), shape⟩

/-- The items of a block with its last expression. -/
def blockItems (b : List Item × Option Expr) : List Item := b.1 ++ b.2.elim [] Expr.items

/-- A block in braces. -/
def braced (g : Grammar) : Parser (List Item × Option Expr) := group .brace do
  let attrs ← innerAttributes g
  let (before, last) ← g.block
  return (attrs ++ before, last)

/-- A block in braces of which only the items count. -/
def bracedItems (g : Grammar) : Parser (List Item) := do
  let b ← braced g
  return blockItems b

/-! ## Operators -/

/-- The strength of assignments. -/
def assignStrength : Nat := 1

/-- The strength of ranges. -/
def rangeStrength : Nat := 2

/-- The strength of comparisons. -/
def compareStrength : Nat := 6

/-- The strength of conversions. -/
def castStrength : Nat := 13

/-- The binary operators with their strengths, the longer ones first. -/
def operators : List (String × Nat) :=
  [("+=", 1), ("-=", 1), ("*=", 1), ("/=", 1), ("%=", 1), ("^=", 1), ("&=", 1), ("|=", 1), ("<<=", 1),
   (">>=", 1), ("&&", 4), ("||", 3), ("<<", 10), (">>", 10), ("==", 6), ("<=", 6), ("!=", 6),
   (">=", 6), ("+", 11), ("-", 11), ("*", 12), ("/", 12), ("%", 12), ("^", 8), ("&", 9), ("|", 7),
   ("<", 6), (">", 6)]

/-- The binary operator that comes. -/
def operatorNext (ts : List Tree) : Option (String × Nat) := operators.find? fun o => Peek.op o.1 ts

/-- The strength of what comes; zero when it is no operator. -/
def strengthNext (ts : List Tree) : Nat :=
  match operatorNext ts with
  | some (_, n) => n
  | none =>
    if Peek.op "=" ts && !Peek.op "=>" ts then assignStrength
    else if Peek.op ".." ts then rangeStrength
    else if Peek.keyword "as" ts then castStrength
    else 0

/-- Reads the right side of an operator: an operand, and all stronger operators after it. -/
def rightSide (g : Grammar) (strength : Nat) (braces : Bool) : Parser Operand := do
  let first ← g.unary braces
  fold (fun e => do
    let ts ← ahead
    let next := strengthNext ts
    if strength < next || (next == strength && strength == assignStrength) then
      let further ← g.climb next braces e
      let left ← ahead
      if left.length == ts.length then return none
      return some further
    return none) first

/-- What ends a range without an upper end. -/
def openRangeEnd (braces : Bool) : List Tree → Bool :=
  Peek.any [Peek.nothing, Peek.op ",", Peek.op ";", Peek.butNot (Peek.op ".") (Peek.op ".."),
    Peek.op "?", Peek.op "=>", fun ts => !braces && Peek.group .brace ts, Peek.op "=", Peek.op "+",
    Peek.op "/", Peek.op "%", Peek.op "^", Peek.op ">", Peek.op "<=", Peek.op "!=", Peek.op "-=",
    Peek.op "*=", Peek.op "&=", Peek.op "|=", Peek.op "<<=", Peek.keyword "as"]

/-- The dots of a range, and its upper end. -/
def rangeRest (g : Grammar) (braces : Bool) : Parser (List Item) := do
  if ← markIf "..=" then
    let e ← rightSide g rangeStrength braces
    return e.expr.items
  -- three dots are no range here
  require (fun ts => !Peek.op "..." ts)
  mark ".."
  if ← looking (openRangeEnd braces) then return []
  let e ← rightSide g rangeStrength braces
  return e.expr.items

/-- What may not follow a conversion. -/
def afterCast : List Tree → Bool :=
  Peek.any [Peek.butNot (Peek.op ".") (Peek.op ".."), Peek.op "?", Peek.group .bracket,
    Peek.group .parenthesis]

/-- One operator and its right side behind an operand, if it is no weaker than a strength. -/
def climbStep (g : Grammar) (strength : Nat) (braces : Bool) (e : Operand) :
    Parser (Option Operand) := do
  -- a range goes on with no operator
  if e.shape == .range then return none
  let ts ← ahead
  match operatorNext ts with
  | some (op, n) =>
    if n < strength then return none
    -- comparisons do not chain
    if n == compareStrength && e.shape == .comparison then fail
    else
      let (right, read) ← shown do
        mark op
        rightSide g n braces
      let shape := if n == compareStrength then Shape.comparison else .plain
      return some (onward e read right.expr.items shape)
  | none =>
    if strength ≤ assignStrength && Peek.op "=" ts && !Peek.op "=>" ts then
      let (right, read) ← shown do
        mark "="
        rightSide g assignStrength braces
      return some (onward e read right.expr.items .plain)
    if strength ≤ rangeStrength && Peek.op ".." ts then
      let (items, read) ← shown (rangeRest g braces)
      return some (onward e read items .range)
    if strength ≤ castStrength && Peek.keyword "as" ts then
      let (items, read) ← shown do
        keyword "as"
        g.type false
      -- what is converted goes on only from parentheses
      if ← looking afterCast then fail
      else return some (onward e read items .plain)
    return none

/-- **An expression that goes on** behind an operand. -/
def climb (g : Grammar) (strength : Nat) (braces : Bool) (e : Operand) : Parser Operand :=
  fold (climbStep g strength braces) e

/-! ## What follows an operand -/

/-- The parts of a literal with points that stands for several numbered members; whether it ends with a
point. -/
def memberNumbers (literal : String) : Option (List (List Char) × Bool) :=
  let cs := literal.toList
  let first := cs.takeWhile (· ≠ '.')
  match cs.dropWhile (· ≠ '.') with
  | '.' :: rest =>
    if first.all Char.isDigit && rest.all Char.isDigit then
      if rest.isEmpty then some ([first], true) else some ([first, rest], false)
    else none
  | _ => none

/-- Whether a literal with a point comes. -/
def decimalNext : List Tree → Bool
  | .literal l :: _ => match Literal.number? l with | some (.decimal _) => true | _ => false
  | _ => false

/-- Reads the numbered members that a literal with points stands for, and shows them apart. Tells whether
the literal ends with a point. -/
def numberedMembers : Parser Bool
  | .literal l :: rest =>
    match memberNumbers l with
    | some (parts, dotted) =>
      let texts := parts.map fun p => Tree.literal (String.ofList p)
      let shownTrees := texts.intersperse (Tree.lone '.')
      some ⟨dotted, rest, if dotted then shownTrees ++ [Tree.lone '.'] else shownTrees⟩
    | none => none
  | _ => none

/-- A field, a method call or a wait behind a point. -/
def afterPoint (g : Grammar) (e : Operand) : Parser Operand := do
  if ← looking (Peek.keyword "await") then
    keyword "await"
    return onward e [] [] .plain
  let name ← ahead
  let named ← member
  if named then
    let (types, turbofish) ← whenNext (Peek.op "::") (do
      let items ← sized (angleArguments g)
      return (items, true)) ([], false)
    -- types in angle brackets come with arguments
    if turbofish || (← looking (Peek.group .parenthesis)) then
      let arguments ← group .parenthesis (commaSeparated (g.expr true))
      match name with
      | .word w :: _ => return ⟨.method [] e.expr w types arguments, .plain⟩
      | _ => fail
    return onward e [] [] .plain
  return onward e [] [] .plain

/-- One thing that follows an operand. -/
def trailer (g : Grammar) (e : Operand) : Parser (Option Operand) := do
  if ← looking (Peek.group .parenthesis) then
    let (arguments, read) ← shown (group .parenthesis (commaSeparated (g.expr true)))
    return some ⟨.call (e.expr.tokens ++ read) e.expr arguments, .plain⟩
  if e.shape != .range && (← looking (Peek.butNot (Peek.op ".") (Peek.op ".."))) then
    let (r, read) ← shown do
      mark "."
      -- two numbers with a point between them are read as one decimal
      if ← looking decimalNext then
        if ← numberedMembers then afterPoint g e else return onward e [] [] .plain
      else afterPoint g e
    return some ⟨r.expr.withTokens (e.expr.tokens ++ read), .plain⟩
  if ← looking (Peek.group .bracket) then
    let (index, read) ← shown (group .bracket (g.expr true))
    return some (onward e read index.items .plain)
  if e.shape != .range && (← looking (Peek.op "?")) then
    let (_, read) ← shown (mark "?")
    return some (onward e read [] .plain)
  return none

/-- An operand with everything that follows it. -/
def trailers (g : Grammar) (e : Operand) : Parser Operand := fold (trailer g) e

/-! ## Operands -/

/-- Whether an expression may begin. -/
def exprStart : List Tree → Bool :=
  Peek.any [Peek.butNot Peek.anyWord (Peek.keyword "as"), Peek.anyGroup, Peek.literal,
    Peek.butNot (Peek.op "!") (Peek.op "!="),
    Peek.butNot (Peek.op "-") (Peek.any [Peek.op "-=", Peek.op "->"]),
    Peek.butNot (Peek.op "*") (Peek.op "*="), Peek.butNot (Peek.op "|") (Peek.op "|="),
    Peek.butNot (Peek.op "&") (Peek.op "&="), Peek.op "..",
    Peek.butNot (Peek.op "<") (Peek.any [Peek.op "<=", Peek.op "<<="]), Peek.op "::", Peek.lifetime,
    Peek.op "#"]

/-- An expression if one may begin. -/
def exprIf (g : Grammar) : Parser (List Item) :=
  whenNext exprStart (do
    let e ← g.expr true
    return e.items) []

/-- A parameter of a closure. -/
def closureParameter (g : Grammar) : Parser (List Item) := do
  let attrs ← attributes g
  let p ← g.pattern
  let t ← whenNext (Peek.op ":") (do mark ":"; g.type true) []
  return attrs ++ p ++ t

/-- The parameters of a closure, up to the bar behind them. -/
def closureParameters (g : Grammar) : Parser (List Item) := do
  let found ← many do
    if ← looking (Peek.op "|") then return none
    let items ← closureParameter g
    if !(← looking (Peek.op "|")) then mark ","
    return some items
  return found.flatten

/-- A closure. -/
def closure (g : Grammar) (braces : Bool) : Parser Operand := do
  let ((before, body), read) ← shown do
    let lifetimes ← boundLifetimesIf g
    let _ ← keywordIf "const"
    let _ ← keywordIf "static"
    let _ ← keywordIf "async"
    let _ ← keywordIf "move"
    mark "|"
    let parameters ← closureParameters g
    mark "|"
    -- with the type of its result, a closure needs a block
    if ← looking (Peek.op "->") then
      mark "->"
      let t ← g.type true
      let ((items, last), blockRead) ← shown (group .brace g.block)
      return (lifetimes ++ parameters ++ t, Expr.block blockRead items last)
    let body ← g.expr braces
    return (lifetimes ++ parameters, body)
  return ⟨.closure read before body, .plain⟩

/-- The fields of a value in braces; two dots and a base may stand at the end. -/
def fieldValues (g : Grammar) : Parser (List Item) := do
  let found ← many do
    if ← looking Peek.nothing then return none
    if ← looking (Peek.op "..") then
      mark ".."
      if ← looking Peek.nothing then return some []
      let e ← g.expr true
      require Peek.nothing
      return some e.items
    let attrs ← attributes g
    let named ← member
    -- a name alone stands for the value of that name
    let items ← if !named || (← looking (Peek.op ":")) then do
        mark ":"
        let e ← g.expr true
        Pure.pure e.items
      else Pure.pure []
    if !(← looking Peek.nothing) then mark ","
    return some (attrs ++ items)
  return found.flatten

/-- The elements of a list macro, when its tokens are expressions between commas. -/
def listElements (g : Grammar) (content : List Tree) : Option (List Expr) :=
  match commaSeparated (g.expr true) content with
  | some r => if r.rest.isEmpty then some r.value else none
  | none => none

/-- The shape of a macro by its brackets. -/
def macroShape : Delimiter → Shape
  | .brace => .braceMacro
  | _ => .otherMacro

/-- An operand that begins with a path. -/
def pathOperand (g : Grammar) (braces : Bool) : Parser Operand := do
  let (p, read) ← shown (qualifiedPath g true)
  if p.isModuleStyle && (← looking (Peek.butNot (Peek.op "!") (Peek.op "!="))) then
    let ((d, content), more) ← shown do
      mark "!"
      anyGroup
    -- only the content of this macro is looked into
    if p.isWord "vec" then return ⟨.listMacro (read ++ more) (listElements g content), macroShape d⟩
    return ⟨.other (read ++ more) p.items, macroShape d⟩
  if braces && (← looking (Peek.group .brace)) then
    let (items, more) ← shown (group .brace (fieldValues g))
    return ⟨.other (read ++ more) (p.items ++ items), .plain⟩
  return ⟨.path read p.last p.items, .plain⟩

/-- An expression in parentheses, or a tuple. -/
def parenOperand (g : Grammar) : Parser Operand := do
  let (elements, read) ← shown (group .parenthesis (commaSeparated (g.expr true)))
  -- a comma at the end makes one element a tuple
  let single := match read with
    | [.group _ content] => match content.getLast? with
      | some (.mark ',' _) => false
      | _ => true
    | _ => false
  match elements, single with
  | [e], true => return ⟨.paren read e, .plain⟩
  | _, _ => return ⟨.tuple read elements, .plain⟩

/-- What stands in brackets: listed elements, or one element and how often it is repeated. -/
def bracketed (g : Grammar) : Parser (List Expr × Option Expr) := do
  if ← looking Peek.nothing then return ([], none)
  let first ← g.expr true
  if ← looking (Peek.op ";") then
    mark ";"
    let count ← g.expr true
    return ([first], some count)
  if ← looking Peek.nothing then return ([first], none)
  mark ","
  let more ← commaSeparated (g.expr true)
  return (first :: more, none)

/-- An array. -/
def arrayOperand (g : Grammar) : Parser Operand := do
  let ((elements, count), read) ← shown (group .bracket (bracketed g))
  match count with
  | some n => return ⟨.other read (Expr.itemsOfAll elements ++ n.items), .plain⟩
  | none => return ⟨.array read elements, .plain⟩

/-- The branches of a conditional from its first keyword on; at most `fuel` of them. -/
def conditional (g : Grammar) : Nat → Parser (List Item)
  | 0 => fail
  | fuel + 1 => do
    keyword "if"
    let c ← g.expr false
    let body ← group .brace g.block
    let items := c.items ++ blockItems body
    if ← looking (Peek.keyword "else") then
      keyword "else"
      if ← looking (Peek.keyword "if") then
        let more ← conditional g fuel
        return items ++ more
      let otherwise ← group .brace g.block
      return items ++ blockItems otherwise
    return items

/-- An arm of a case distinction. -/
def arm (g : Grammar) : Parser (List Item) := do
  let attrs ← attributes g
  let p ← alternatives g
  let c ← whenNext (Peek.keyword "if") (do
    keyword "if"
    let e ← g.expr true
    return e.items) []
  mark "=>"
  let body ← g.early
  -- no comma is needed behind a block or at the end
  if body.shape != .blockLike && !(← looking Peek.nothing) then mark ","
  else
    let _ ← markIf ","
  return attrs ++ p ++ c ++ body.expr.items

/-- Everything up to the end of a group. -/
def toEnd (p : Parser (List Item)) : Parser (List Item) := do
  let found ← many do
    if ← looking Peek.nothing then return none
    let items ← p
    return some items
  return found.flatten

/-- A case distinction. -/
def distinction (g : Grammar) : Parser (List Item) := do
  keyword "match"
  let e ← g.expr false
  let arms ← group .brace do
    let attrs ← innerAttributes g
    let arms ← toEnd (arm g)
    return attrs ++ arms
  return e.items ++ arms

/-- A loop with a condition. -/
def whileLoop (g : Grammar) : Parser (List Item) := do
  keyword "while"
  let c ← g.expr false
  let body ← bracedItems g
  return c.items ++ body

/-- A loop over values. -/
def forLoop (g : Grammar) : Parser (List Item) := do
  keyword "for"
  let p ← alternatives g
  keyword "in"
  let e ← g.expr false
  let body ← bracedItems g
  return p ++ e.items ++ body

/-- A loop without a condition. -/
def endlessLoop (g : Grammar) : Parser (List Item) := do
  keyword "loop"
  bracedItems g

/-- A block as an expression. -/
def blockOperand (g : Grammar) : Parser Operand := do
  let ((before, last), read) ← shown (braced g)
  return ⟨.block read before last, .blockLike⟩

/-- A loop or a block behind a label. -/
def labeled (g : Grammar) : Parser Operand := do
  let (e, read) ← shown do
    lifetime
    mark ":"
    if ← looking (Peek.keyword "while") then other .blockLike (whileLoop g)
    else if ← looking (Peek.keyword "for") then other .blockLike (forLoop g)
    else if ← looking (Peek.keyword "loop") then other .blockLike (endlessLoop g)
    else blockOperand g
  return ⟨e.expr.withTokens read, .blockLike⟩

/-- Leaving a loop. -/
def breakOut (g : Grammar) (braces : Bool) : Parser (List Item) := do
  keyword "break"
  if ← looking (fun ts => Peek.lifetime ts && !Peek.second (Peek.op ":") ts) then lifetime
  if ← looking (fun ts => exprStart ts && (braces || !Peek.group .brace ts)) then
    let e ← g.expr braces
    return e.items
  return []

/-- A condition that binds a pattern. -/
def binding (g : Grammar) (braces : Bool) : Parser (List Item) := do
  keyword "let"
  let p ← alternatives g
  mark "="
  let e ← g.unary braces
  let e ← g.climb compareStrength braces e
  return p ++ e.expr.items

/-- Whether a closure comes. -/
def closureNext : List Tree → Bool :=
  Peek.any [Peek.op "|", Peek.keyword "move",
    fun ts => Peek.keyword "for" ts && Peek.second (Peek.op "<") ts
      && Peek.third (Peek.any [Peek.lifetime, Peek.op ">"]) ts,
    fun ts => Peek.keyword "const" ts && !Peek.second (Peek.group .brace) ts, Peek.keyword "static",
    fun ts => Peek.keyword "async" ts && Peek.second (Peek.any [Peek.op "|", Peek.keyword "move"]) ts]

/-- Whether a block for later comes. -/
def asyncNext (ts : List Tree) : Bool :=
  Peek.keyword "async" ts && (Peek.second (Peek.group .brace) ts
    || (Peek.second (Peek.keyword "move") ts && Peek.third (Peek.group .brace) ts))

/-- Whether a path comes in the place of an operand. -/
def operandPathNext : List Tree → Bool :=
  Peek.any [Peek.pathStart,
    fun ts => Peek.keyword "try" ts && Peek.second (Peek.any [Peek.op "!", Peek.op "::"]) ts]

/-- A keyword that a block follows. -/
def keywordBlock (g : Grammar) (k : String) : Parser (List Item) := do
  keyword k
  bracedItems g

/-- An operand without what is in front of it and what follows it. -/
def atom (g : Grammar) (braces : Bool) : Parser Operand := do
  let ts ← ahead
  match ts with
  | .literal l :: _ =>
    let _ ← tree fun _ => true
    return ⟨.literal [.literal l] l, .plain⟩
  | _ =>
    if Peek.keywords ["true", "false"] ts then
      let w ← anyWord
      return ⟨.truth [.word w] (w == "true"), .plain⟩
    if asyncNext ts then
      return ← other .plain do
        keyword "async"
        let _ ← keywordIf "move"
        let b ← group .brace g.block
        return blockItems b
    if Peek.keyword "try" ts && Peek.second (Peek.group .brace) ts then
      return ← other .blockLike do
        keyword "try"
        let b ← group .brace g.block
        return blockItems b
    if closureNext ts then return ← closure g braces
    if operandPathNext ts then return ← pathOperand g braces
    if Peek.group .parenthesis ts then return ← parenOperand g
    if Peek.keyword "break" ts then return ← other .plain (breakOut g braces)
    if Peek.keyword "continue" ts then
      return ← other .plain do
        keyword "continue"
        let _ ← lifetimeIf
        return []
    if Peek.keyword "return" ts then
      return ← other .plain do
        keyword "return"
        exprIf g
    if Peek.keyword "become" ts then
      return ← other .plain do
        keyword "become"
        let e ← g.expr true
        return apart e.items
    if Peek.group .bracket ts then return ← arrayOperand g
    if Peek.keyword "let" ts then return ← other .plain (binding g braces)
    if Peek.keyword "if" ts then return ← other .blockLike (conditional g (ts.length + 1))
    if Peek.keyword "while" ts then return ← other .blockLike (whileLoop g)
    if Peek.keyword "for" ts then return ← other .blockLike (forLoop g)
    if Peek.keyword "loop" ts then return ← other .blockLike (endlessLoop g)
    if Peek.keyword "match" ts then return ← other .blockLike (distinction g)
    if Peek.keyword "yield" ts then
      return ← other .plain do
        keyword "yield"
        exprIf g
    if Peek.keyword "unsafe" ts then return ← other .blockLike (keywordBlock g "unsafe")
    if Peek.keyword "const" ts then return ← other .blockLike (keywordBlock g "const")
    if Peek.group .brace ts then return ← blockOperand g
    if Peek.op ".." ts then return ← other .range (rangeRest g braces)
    if Peek.keyword "_" ts then
      return ← other .plain do
        keyword "_"
        return []
    if Peek.lifetime ts then return ← labeled g
    fail

/-- A reference, or the address of a place. -/
def referenceOperand (g : Grammar) (braces : Bool) : Parser Operand := do
  let ((isRaw, inner), read) ← shown do
    mark "&"
    let isRaw ← looking fun ts =>
      Peek.keyword "raw" ts && Peek.second (Peek.keywords ["mut", "const"]) ts
    if isRaw then
      keyword "raw"
      let _ ← anyWord
    else
      let _ ← keywordIf "mut"
    let inner ← g.unary braces
    return (isRaw, inner.expr)
  return ⟨if isRaw then .other read inner.items else .reference read inner, .plain⟩

/-- **An operand** with the operators in front of it and everything that follows it. -/
def unary (g : Grammar) (braces : Bool) : Parser Operand := do
  let (attrs, front) ← shown (attributes g)
  let e ←
    if ← looking (Peek.op "&") then referenceOperand g braces
    else if ← looking (Peek.any [Peek.op "*", Peek.op "!", Peek.op "-"]) then
      other .plain do
        if ← looking (Peek.op "*") then mark "*"
        else if ← looking (Peek.op "!") then mark "!"
        else mark "-"
        let inner ← g.unary braces
        return inner.expr.items
    else
      let a ← atom g braces
      trailers g a
  if front.isEmpty then return e
  -- attributes are about an operand, and not about a range
  if e.shape == .range then fail
  match e.expr with
  | .other ts items => return ⟨.other (front ++ ts) (attrs ++ items), e.shape⟩
  | x => return ⟨x.withTokens (front ++ x.tokens), e.shape⟩

/-- **An expression.** -/
def expression (g : Grammar) (braces : Bool) : Parser Expr := do
  let e ← unary g braces
  let e ← climb g 0 braces e
  return e.expr

/-- The forms that end a statement with their own block. -/
def blockForm? (g : Grammar) (ts : List Tree) : Option (Parser Operand) :=
  if Peek.group .brace ts then some (blockOperand g)
  else if Peek.keyword "if" ts then some (other .blockLike (conditional g (ts.length + 1)))
  else if Peek.keyword "while" ts then some (other .blockLike (whileLoop g))
  else if Peek.keyword "for" ts && !closureNext ts then some (other .blockLike (forLoop g))
  else if Peek.keyword "loop" ts then some (other .blockLike (endlessLoop g))
  else if Peek.keyword "match" ts then some (other .blockLike (distinction g))
  else if Peek.keyword "try" ts && Peek.second (Peek.group .brace) ts then
    some (other .blockLike do
      keyword "try"
      let b ← group .brace g.block
      return blockItems b)
  else if Peek.keyword "unsafe" ts then some (other .blockLike (keywordBlock g "unsafe"))
  else if Peek.keyword "const" ts && Peek.second (Peek.group .brace) ts then
    some (other .blockLike (keywordBlock g "const"))
  else if Peek.lifetime ts then some (labeled g)
  else none

/-- An operand behind attributes. -/
def behindAttributes (attrs : List Item) (front : List Tree) (e : Operand) : Operand :=
  if front.isEmpty then e
  else match e.expr with
    | .other ts items => ⟨.other (front ++ ts) (attrs ++ items), e.shape⟩
    | x => ⟨x.withTokens (front ++ x.tokens), e.shape⟩

/-- **An expression in the place of a statement**, where a form with its own block ends the statement
unless a point or a question mark follows. -/
def early (g : Grammar) : Parser Operand := do
  let (attrs, front) ← shown (attributes g)
  let ts ← ahead
  match blockForm? g ts with
  | some p =>
    let e ← p
    -- an operator here would begin the next statement
    if ← looking (Peek.any [Peek.butNot (Peek.op ".") (Peek.op ".."), Peek.op "?"]) then
      let e ← trailers g e
      return ← climb g 0 true (behindAttributes attrs front e)
    return behindAttributes attrs front e
  | none =>
    let e ← unary g true
    climb g 0 true (behindAttributes attrs front e)

end RouteContracts.Source.Rule
