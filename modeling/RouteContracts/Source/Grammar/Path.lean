import RouteContracts.Source.Grammar.Basic

/-! # Paths, attributes and types
Rules for what names things: paths with their arguments, the bounds of traits, types, generic parameters
and attributes. Each rule gives the items in blocks inside of what it reads.

* `Rule.path`, `Rule.qualifiedPath`: paths in types and in expressions.
* `Rule.typeOf`: a type. `Rule.generics`, `Rule.whereClause`: parameters and their conditions.
* `Rule.attributes`, `Rule.innerAttributes`: attributes. -/

namespace RouteContracts.Source.Rule

open RouteContracts.Source.Parser

/-! ## Attributes -/

/-- The words that may stand in a path of modules beside identifiers. -/
def moduleWords : List String := ["super", "self", "Self", "crate"]

/-- Whether a word of a module path comes. -/
def moduleWordNext : List Tree → Bool := Peek.any [Peek.identifier, Peek.keywords moduleWords]

/-- The words of a path between double colons. -/
def moduleWordList : Nat → Parser (List String)
  | 0 => fail
  | fuel + 1 => do
    require moduleWordNext
    let w ← anyWord
    if ← markIf "::" then
      let more ← moduleWordList fuel
      return w :: more
    return [w]

/-- A path of modules: words between double colons. -/
def modulePath : Parser (List String) := do
  let _ ← markIf "::"
  let ts ← ahead
  moduleWordList (ts.length + 1)

/-- A literal in the brackets of an attribute that nothing follows. -/
def lonelyLiteral (ts : List Tree) : Bool :=
  match Parser.literal ts with
  | some r => r.rest.isEmpty
  | none => false

/-- What stands in the brackets of an attribute. -/
def attributeBody (g : Grammar) : Parser (List Item) := do
  if ← looking (Peek.keyword "unsafe") then keyword "unsafe" else let _ ← modulePath
  if ← looking Peek.anyGroup then
    let _ ← anyGroup
    return []
  if ← looking (Peek.butNot (Peek.op "=") (Peek.any [Peek.op "==", Peek.op "=>"])) then
    mark "="
    if ← looking lonelyLiteral then
      literal
      return []
    if ← looking (fun ts => Peek.op "#" ts && Peek.second (Peek.group .bracket) ts) then fail
    else
      let e ← g.expr true
      return e.items
  return []

/-- The attributes in front of something. -/
def attributes (g : Grammar) : Parser (List Item) := do
  let found ← many do
    if ← looking (Peek.op "#") then
      mark "#"
      let items ← group .bracket (attributeBody g)
      return some items
    return none
  return found.flatten

/-- The attributes at the front of a group that are about the group. -/
def innerAttributes (g : Grammar) : Parser (List Item) := do
  let found ← many do
    if ← looking (fun ts => Peek.op "#" ts && Peek.second (Peek.op "!") ts) then
      mark "#"
      mark "!"
      let items ← group .bracket (attributeBody g)
      return some items
    return none
  return found.flatten

/-! ## Path arguments and bounds -/

/-- A block in braces in the place of a constant. -/
def constantBlock (g : Grammar) : Parser (List Item) := do
  let (before, last) ← group .brace do
    let attrs ← innerAttributes g
    let (before, last) ← g.block
    return (attrs ++ before, last)
  return before ++ (last.elim [] Expr.items)

/-- A constant in the place of a type argument. -/
def constantArgument (g : Grammar) : Parser (List Item) :=
  ifNext Peek.literal (do literal; return []) (constantBlock g)

/-- Whether a constant comes in the place of a type argument. -/
def constantNext : List Tree → Bool := Peek.any [Peek.literal, Peek.group .brace]

/-- Whether trees that were read for a type are one word, with or without arguments in angle brackets. -/
def isOneWord : List Tree → Bool
  | [.word w] => !Peek.reserved.contains w || moduleWords.contains w
  | .word w :: .mark '<' _ :: _ => !Peek.reserved.contains w || moduleWords.contains w
  | .word w :: .mark ':' true :: .mark ':' _ :: .mark '<' _ :: _ => !Peek.reserved.contains w
  | _ => false

/-- Things between commas up to a closing angle bracket, which is not read. -/
def untilAngle {α : Type} (p : Parser α) : Parser (List α) :=
  many do
    if ← looking (Peek.op ">") then return none
    let a ← p
    if !(← looking (Peek.op ">")) then mark ","
    return some a

/-- The lifetimes that a bound holds for. -/
def boundLifetimes (g : Grammar) : Parser (List Item) := do
  keyword "for"
  mark "<"
  let found ← untilAngle do
    let attrs ← attributes g
    lifetime
    if ← markIf ":" then
      let _ ← many do
        if ← looking (Peek.any [Peek.op ",", Peek.op ">"]) then return none
        lifetime
        if !(← looking (Peek.op "+")) then return some false
        mark "+"
        return some true
    return attrs
  mark ">"
  return found.flatten

/-- The lifetimes that a bound holds for, if there are any. -/
def boundLifetimesIf (g : Grammar) : Parser (List Item) :=
  whenNext (Peek.keyword "for") (boundLifetimes g) []

/-- What a function type returns. -/
def returned (g : Grammar) (plus : Bool) : Parser (List Item) :=
  whenNext (Peek.op "->") (do mark "->"; g.type plus) []

/-- The arguments in parentheses of a function trait, and what it returns. Tells whether a further path
segment may follow. -/
def functionArguments (g : Grammar) : Parser (List Item × Bool) := do
  let args ← group .parenthesis (commaSeparated (g.type true))
  if ← looking (Peek.op "->") then
    mark "->"
    let (items, read) ← shown (g.type false)
    -- after a result in parentheses the path may go on
    let inParens := match read with
      | [.group .parenthesis content] => !content.isEmpty && !(content.any fun t => match t with
          | .mark ',' _ => true
          | _ => false)
      | _ => false
    return (args.flatten ++ items, inParens)
  return (args.flatten, true)

mutual

/-- One argument of a path. -/
def pathArgument (g : Grammar) : Nat → Parser (List Item)
  | 0 => fail
  | fuel + 1 => do
    if ← looking (Peek.butNot Peek.lifetime (Peek.second (Peek.op "+"))) then
      lifetime
      return []
    if ← looking constantNext then
      return ← constantArgument g
    let (items, read) ← shown (g.type true)
    -- one word can also be the name of what the argument is for
    if isOneWord read then
      if ← looking (Peek.op "=") then
        mark "="
        let more ← ifNext constantNext (constantArgument g) (g.type true)
        return items ++ more
      if ← looking (Peek.op ":") then
        mark ":"
        let more ← bounds g fuel [Peek.op ",", Peek.op ">"]
        return items ++ more
    return items

/-- The arguments of a path in angle brackets. -/
def angleArguments (g : Grammar) : Nat → Parser (List Item)
  | 0 => fail
  | fuel + 1 => do
    let _ ← markIf "::"
    mark "<"
    let found ← untilAngle (pathArgument g fuel)
    mark ">"
    return found.flatten

/-- A segment of a path: its word, whether it has arguments, and the items in them. -/
def segment (g : Grammar) (inExpr : Bool) : Nat → Parser (String × Bool × List Item)
  | 0 => fail
  | fuel + 1 => do
    if ← looking (Peek.keywords ["super", "self", "crate", "try"]) then
      let w ← anyWord
      return (w, false, [])
    let w ← ifNext (Peek.keyword "Self") anyWord identifier
    let hasArguments ← looking fun ts =>
      (!inExpr && Peek.op "<" ts && !Peek.op "<=" ts) || (Peek.op "::" ts && Peek.third (Peek.op "<") ts)
    if hasArguments then
      let items ← angleArguments g fuel
      return (w, true, items)
    return (w, false, [])

/-- The segments of a path that follow the first one. -/
def moreSegments (g : Grammar) (inExpr : Bool) : Nat → Parser (List (String × Bool × List Item))
  | 0 => fail
  | fuel + 1 => do
    if ← looking (Peek.butNot (Peek.op "::") (Peek.third (Peek.group .parenthesis))) then
      mark "::"
      let s ← segment g inExpr fuel
      let more ← moreSegments g inExpr fuel
      return s :: more
    return []

/-- One bound of a type. -/
def bound (g : Grammar) : Nat → Parser (List Item)
  | 0 => fail
  | fuel + 1 => do
    if ← looking Peek.lifetime then
      lifetime
      return []
    if ← looking (Peek.keyword "use") then
      keyword "use"
      mark "<"
      let _ ← untilAngle (ifNext Peek.lifetime lifetime do
        require (Peek.any [Peek.identifier, Peek.keyword "Self"])
        let _ ← anyWord)
      mark ">"
      return []
    ifNext (Peek.group .parenthesis) (group .parenthesis (traitBound g fuel)) (traitBound g fuel)

/-- A trait in the place of a bound. -/
def traitBound (g : Grammar) : Nat → Parser (List Item)
  | 0 => fail
  | fuel + 1 => do
    let before ← boundLifetimesIf g
    if ← looking (Peek.group .bracket) then group .bracket (keyword "const")
    else if ← looking (Peek.op "~") then
      mark "~"
      keyword "const"
    else
      let _ ← keywordIf "const"
    let _ ← markIf "?"
    let more ← boundLifetimesIf g
    let _ ← markIf "::"
    let (_, hasArguments, items) ← segment g false fuel
    let rest ← moreSegments g false fuel
    let hasArguments := (rest.getLast?).elim hasArguments fun s => s.2.1
    let items := before ++ more ++ items ++ rest.flatMap fun s => s.2.2
    if !hasArguments && (← looking fun ts => Peek.group .parenthesis ts
        || (Peek.op "::" ts && Peek.third (Peek.group .parenthesis) ts)) then
      let _ ← markIf "::"
      let (args, _) ← functionArguments g
      return items ++ args
    return items

/-- Bounds joined by plus signs, up to one of some things. -/
def bounds (g : Grammar) : Nat → List (List Tree → Bool) → Parser (List Item)
  | 0, _ => fail
  | fuel + 1, stops => do
    if ← looking (Peek.any stops) then return []
    let items ← bound g fuel
    if ← markIf "+" then
      let more ← bounds g fuel stops
      return items ++ more
    return items

end

/-- Runs a rule that needs a bound on its depth, which the trees that come give. -/
def sized {α : Type} (p : Nat → Parser α) : Parser α := fun ts => p (2 * Tree.sizes ts + 8) ts

/-! ## Paths -/

/-- A path. -/
structure PathRead where
  /-- Whether it begins with a type in angle brackets. -/
  qualified : Bool
  /-- Whether it begins with a double colon. -/
  fromRoot : Bool
  /-- Its words, and whether each has arguments. -/
  words : List (String × Bool)
  /-- The items in blocks inside of it. -/
  items : List Item

namespace PathRead

/-- The last word. -/
def last (p : PathRead) : String := (p.words.getLast?).elim "" Prod.fst

/-- Whether the last word has arguments. -/
def lastHasArguments (p : PathRead) : Bool := (p.words.getLast?).elim false Prod.snd

/-- Whether no word has arguments. -/
def isModuleStyle (p : PathRead) : Bool := !p.qualified && p.words.all (!·.2)

/-- Whether the path is one word and nothing else. -/
def isWord (p : PathRead) (w : String) : Bool :=
  !p.qualified && !p.fromRoot && p.words == [(w, false)]

end PathRead

/-- The path that some segments make. -/
def PathRead.ofSegments (qualified fromRoot : Bool) (before : List Item)
    (segments : List (String × Bool × List Item)) : PathRead :=
  ⟨qualified, fromRoot, segments.map fun s => (s.1, s.2.1), before ++ segments.flatMap fun s => s.2.2⟩

/-- A path without a type in front. -/
def path (g : Grammar) (inExpr : Bool) : Parser PathRead := do
  let fromRoot ← markIf "::"
  let first ← sized (segment g inExpr)
  let more ← sized (moreSegments g inExpr)
  return .ofSegments false fromRoot [] (first :: more)

/-- Segments between double colons, at least one. -/
def segmentList (g : Grammar) (inExpr : Bool) : Nat → Parser (List (String × Bool × List Item))
  | 0 => fail
  | fuel + 1 => do
    let s ← sized (segment g inExpr)
    if ← markIf "::" then
      let more ← segmentList g inExpr fuel
      return s :: more
    return [s]

/-- A path, which may begin with a type in angle brackets. -/
def qualifiedPath (g : Grammar) (inExpr : Bool) : Parser PathRead := do
  if ← looking (Peek.op "<") then
    mark "<"
    let self ← g.type true
    let trait ← whenNext (Peek.keyword "as") (do
      keyword "as"
      let p ← path g false
      return p.items) []
    mark ">"
    mark "::"
    let ts ← ahead
    let segments ← segmentList g inExpr (ts.length + 1)
    return .ofSegments true false (self ++ trait) segments
  path g inExpr

/-! ## Types -/

/-- The path of a type, where function traits may have their arguments in parentheses. -/
def functionPath (g : Grammar) : Nat → PathRead → Parser PathRead
  | 0, p => return p
  | fuel + 1, p => do
    if !p.lastHasArguments && (← looking fun ts => Peek.group .parenthesis ts
        || (Peek.op "::" ts && Peek.third (Peek.group .parenthesis) ts)) then
      let _ ← markIf "::"
      let (items, further) ← functionArguments g
      let p := { p with words := p.words.dropLast ++ [(p.last, true)], items := p.items ++ items }
      if further then
        let more ← sized (moreSegments g false)
        functionPath g fuel { p with
          words := p.words ++ more.map fun s => (s.1, s.2.1)
          items := p.items ++ more.flatMap fun s => s.2.2 }
      else return p
    else return p

/-- What may follow a plus sign between bounds. -/
def boundNext : List Tree → Bool :=
  Peek.any [Peek.anyWord, Peek.op "::", Peek.op "?", Peek.lifetime, Peek.group .parenthesis]

/-- The bounds after a first one, each behind a plus sign. -/
def plusBounds (g : Grammar) : Parser (List Item) := do
  let found ← many do
    if ← looking (Peek.op "+") then
      mark "+"
      if ← looking boundNext then
        let items ← sized (bound g)
        return some items
      return some []
    return none
  return found.flatten

/-- Bounds of a trait object; further ones only where a plus sign is allowed. -/
def objectBounds (g : Grammar) (plus : Bool) : Parser (List Item) := do
  let (first, read) ← shown (sized (bound g))
  let more ← if plus then plusBounds g else Pure.pure []
  if plus || !Peek.lifetime read then return first ++ more else fail

/-- The content of the parentheses of a type: nothing, one type, or several. -/
def parenthesizedTypes (g : Grammar) : Parser (List Item) := do
  if ← looking Peek.lifetime then
    let first ← sized (bound g)
    let more ← plusBounds g
    return first ++ more
  if ← looking (Peek.op "?") then
    return ← sized (traitBound g)
  let found ← commaSeparated (g.type true)
  return found.flatten

/-- Whether the content of parentheses could be one bound. -/
def couldBeBound : List Tree → Bool
  | [.group .parenthesis (t :: ts)] =>
    (Peek.pathStart (t :: ts) || Peek.op "?" (t :: ts) || Peek.lifetime (t :: ts))
      && !ts.any fun t => match t with | .mark ',' _ => true | _ => false
  | _ => false

/-- An argument of a function type. -/
def functionTypeArgument (g : Grammar) : Parser (List Item) := do
  let attrs ← attributes g
  if ← looking (Peek.op "...") then
    mark "..."
    return attrs
  if ← looking (fun ts => Peek.keyword "mut" ts && Peek.second (Peek.keyword "self") ts) then
    keyword "mut"
  let named ← looking fun ts =>
    (Peek.identifier ts || Peek.keywords ["_", "self"] ts) && Peek.second (Peek.op ":") ts
      && !Peek.second (Peek.op "::") ts
  if named then
    let _ ← anyWord
    mark ":"
    if ← looking (Peek.op "...") then
      mark "..."
      return attrs
  let items ← g.type true
  return attrs ++ items

/-- The convention that a function is called by. -/
def callingConvention : Parser Unit :=
  whenNext (Peek.keyword "extern") (do
    keyword "extern"
    if ← looking Peek.textLiteral then literal) ()

/-- A function type. -/
def functionType (g : Grammar) : Parser (List Item) := do
  let _ ← keywordIf "unsafe"
  callingConvention
  keyword "fn"
  let args ← group .parenthesis (commaSeparated (functionTypeArgument g))
  let out ← returned g false
  return args.flatten ++ out

/-- A type that begins with a path. -/
def pathType (g : Grammar) (plus hasLifetimes : Bool) : Parser (List Item) := do
  let p ← qualifiedPath g false
  let ts ← ahead
  let p ← functionPath g (ts.length + 1) p
  if p.qualified then return p.items
  if p.isModuleStyle && (← looking (Peek.butNot (Peek.op "!") (Peek.op "!="))) then
    mark "!"
    let _ ← anyGroup
    return p.items
  if plus && (hasLifetimes || (← looking (Peek.op "+"))) then
    let more ← plusBounds g
    return p.items ++ more
  return p.items

/-- The words that may follow the lifetimes of a type. -/
def afterLifetimes : List Tree → Bool :=
  Peek.any [Peek.identifier, Peek.keywords ["fn", "unsafe", "extern", "super", "self", "Self", "crate"]]

/-- **A type.** `plus` tells whether bounds may be added to it. -/
def typeOf (g : Grammar) (plus : Bool) : Parser (List Item) := do
  let hasLifetimes ← looking (Peek.keyword "for")
  let before ← boundLifetimesIf g
  if hasLifetimes then require afterLifetimes
  if ← looking (Peek.group .parenthesis) then
    let (items, read) ← shown (group .parenthesis (parenthesizedTypes g))
    -- a single bound in parentheses goes on with further ones
    if plus && couldBeBound read && (← looking (Peek.op "+")) then
      let more ← plusBounds g
      return items ++ more
    return items
  if ← looking (Peek.keywords ["fn", "unsafe", "extern"]) then
    let items ← functionType g
    return before ++ items
  if ← looking Peek.pathStart then
    let items ← pathType g plus hasLifetimes
    return before ++ items
  if ← looking (Peek.keyword "dyn") then
    keyword "dyn"
    let star ← markIf "*"
    let items ← objectBounds g plus
    return if star then apart items else items
  if ← looking (Peek.keyword "impl") then
    keyword "impl"
    return ← objectBounds g plus
  if ← looking (Peek.group .bracket) then
    return ← group .bracket do
      let element ← g.type true
      if ← markIf ";" then
        let e ← g.expr true
        return element ++ e.items
      return element
  if ← looking (Peek.op "*") then
    mark "*"
    -- no bounds are added behind a pointer or a reference, as it would not be clear to what
    if !(← keywordIf "const") then keyword "mut"
    return ← g.type false
  if ← looking (Peek.op "&") then
    mark "&"
    let _ ← lifetimeIf
    let _ ← keywordIf "mut"
    return ← g.type false
  if ← looking (Peek.op "!") then
    mark "!"
    return []
  if ← looking (Peek.keyword "_") then
    keyword "_"
    return []
  if ← looking Peek.lifetime then
    let first ← sized (bound g)
    let more ← plusBounds g
    return first ++ more
  fail

/-! ## Generic parameters -/

/-- A generic parameter. -/
def genericParameter (g : Grammar) : Parser (List Item) := do
  let attrs ← attributes g
  if ← looking Peek.lifetime then
    lifetime
    if ← markIf ":" then
      let more ← sized fun n => bounds g n [Peek.op ",", Peek.op ">"]
      return attrs ++ more
    return attrs
  if ← looking (Peek.keyword "const") then
    keyword "const"
    let _ ← identifier
    mark ":"
    let t ← g.type true
    if ← markIf "=" then
      let c ← constantNextOrType
      return attrs ++ t ++ c
    return attrs ++ t
  let _ ← identifierOrBlank
  let bs ← whenNext (Peek.op ":") (do
    mark ":"
    sized fun n => bounds g n [Peek.op ",", Peek.op ">", Peek.op "="]) []
  let d ← whenNext (Peek.op "=") (do mark "="; g.type true) []
  return attrs ++ bs ++ d
where
  /-- The default of a constant parameter. -/
  constantNextOrType : Parser (List Item) :=
    ifNext constantNext (constantArgument g) (do
      let p ← path g false
      return p.items)

/-- Generic parameters, if there are any. -/
def generics (g : Grammar) : Parser (List Item) :=
  whenNext (Peek.op "<") (do
    mark "<"
    let found ← untilAngle (genericParameter g)
    mark ">"
    return found.flatten) []

/-- What ends the conditions on generic parameters. -/
def whereEnd : List Tree → Bool :=
  Peek.any [Peek.nothing, Peek.group .brace, Peek.op ",", Peek.op ";",
    Peek.butNot (Peek.op ":") (Peek.op "::"), Peek.op "="]

/-- A condition on generic parameters. -/
def whereCondition (g : Grammar) : Parser (List Item) := do
  if ← looking (fun ts => Peek.lifetime ts && Peek.second (Peek.op ":") ts) then
    lifetime
    mark ":"
    return ← sized fun n => bounds g n [whereEnd]
  let before ← boundLifetimesIf g
  let t ← g.type true
  mark ":"
  let bs ← sized fun n => bounds g n [whereEnd]
  return before ++ t ++ bs

/-- The conditions on generic parameters, if there are any. -/
def whereClause (g : Grammar) : Parser (List Item) :=
  whenNext (Peek.keyword "where") (do
    keyword "where"
    conditions) []
where
  /-- Conditions between commas. -/
  conditions : Parser (List Item) := do
    let found ← fold (fun (state : List Item × Bool) => do
      if !state.2 || (← looking whereEnd) then return none
      let items ← whereCondition g
      let goesOn ← markIf ","
      return some (state.1 ++ items, goesOn)) ([], true)
    return found.1

end RouteContracts.Source.Rule
