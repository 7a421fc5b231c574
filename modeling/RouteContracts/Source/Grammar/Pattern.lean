import RouteContracts.Source.Grammar.Path

/-! # Patterns
Rules for patterns. Each gives the items in blocks inside of what it reads.

* `Rule.patternOf`: a pattern without alternatives. `Rule.alternatives`: patterns between bars. -/

namespace RouteContracts.Source.Rule

open RouteContracts.Source.Parser

/-- Whether a bar comes that separates patterns. -/
def barNext : List Tree → Bool := Peek.butNot (Peek.op "|") (Peek.any [Peek.op "||", Peek.op "|="])

/-- The patterns after a first one, each behind a bar. -/
def moreAlternatives (g : Grammar) : Parser (List Item) := do
  let found ← many do
    if ← looking barNext then
      mark "|"
      let items ← g.pattern
      return some items
    return none
  return found.flatten

/-- Patterns between bars; a bar may stand in front. -/
def alternatives (g : Grammar) : Parser (List Item) := do
  let _ ← markIf "|"
  let first ← g.pattern
  let more ← moreAlternatives g
  return first ++ more

/-- What ends a range without an upper end. -/
def rangeEndMissing : List Tree → Bool :=
  Peek.any [Peek.nothing, Peek.op "|", Peek.op "=", Peek.butNot (Peek.op ":") (Peek.op "::"),
    Peek.op ",", Peek.op ";", Peek.keyword "if"]

/-- A block of constants. -/
def constBlock (g : Grammar) : Parser (List Item) := do
  keyword "const"
  constantBlock g

/-- An end of a range: nothing, a literal, a path or a block of constants. Tells whether there is one. -/
def rangeBound (g : Grammar) : Parser (Bool × List Item) := do
  if ← looking rangeEndMissing then return (false, [])
  if ← looking Peek.literal then
    literal
    return (true, [])
  if ← looking Peek.pathStart then
    let p ← qualifiedPath g true
    return (true, p.items)
  let items ← constBlock g
  return (true, items)

/-- The dots of a range in a pattern. Tells whether they need an upper end. -/
def patternDots : Parser Bool := do
  if ← markIf "..=" then return true
  if ← markIf "..." then return true
  mark ".."
  return false

/-- The dots of a range and its upper end. -/
def patternRange (g : Grammar) : Parser (List Item) := do
  let closed ← patternDots
  let (hasEnd, items) ← rangeBound g
  if closed && !hasEnd then fail else return items

/-- A member of a value: its name or its number. Tells whether it is a name. -/
def member : Parser Bool := do
  if ← looking Peek.identifier then
    let _ ← identifier
    return true
  let _ ← tree fun t => match t with
    | .literal l => l.toList.all Char.isDigit
    | _ => false
  return false

/-- A field in a pattern. -/
def fieldPattern (g : Grammar) : Parser (List Item) := do
  let boxed ← keywordIf "box"
  let byRef ← keywordIf "ref"
  let mutable' ← keywordIf "mut"
  -- with such a word the field is bound to its own name
  if boxed || byRef || mutable' then
    let _ ← identifier
    return []
  let named ← member
  -- a number needs a pattern, and a name can do without
  if !named || (← looking (Peek.op ":")) then
    mark ":"
    return ← alternatives g
  return []

/-- The fields of a pattern; two dots may stand at the end. -/
def fieldPatterns (g : Grammar) : Parser (List Item) := do
  let found ← many do
    if ← looking Peek.nothing then return none
    let attrs ← attributes g
    if ← looking (Peek.op "..") then
      mark ".."
      require Peek.nothing
      return some attrs
    let items ← fieldPattern g
    if !(← looking Peek.nothing) then mark ","
    return some (attrs ++ items)
  return found.flatten

/-- A pattern that begins with a path. -/
def pathPattern (g : Grammar) : Parser (List Item) := do
  let p ← qualifiedPath g true
  if p.isModuleStyle && (← looking (Peek.butNot (Peek.op "!") (Peek.op "!="))) then
    mark "!"
    let _ ← anyGroup
    return p.items
  if ← looking (Peek.group .brace) then
    let fields ← group .brace (fieldPatterns g)
    return p.items ++ fields
  if ← looking (Peek.group .parenthesis) then
    let parts ← group .parenthesis (commaSeparated (alternatives g))
    return p.items ++ parts.flatten
  if ← looking (Peek.op "..") then
    let items ← patternRange g
    return p.items ++ items
  return p.items

/-- Whether a pattern with a path comes. -/
def pathPatternNext : List Tree → Bool :=
  Peek.any
    [fun ts => Peek.identifier ts && Peek.second (Peek.any [Peek.op "::", Peek.op "!", Peek.group .brace,
      Peek.group .parenthesis, Peek.op ".."]) ts,
     fun ts => Peek.keyword "self" ts && Peek.second (Peek.op "::") ts,
     Peek.op "::", Peek.op "<", Peek.keywords ["Self", "super", "crate"]]

/-- A pattern that binds a name. -/
def namePattern (g : Grammar) : Parser (List Item) := do
  let _ ← keywordIf "ref"
  let _ ← keywordIf "mut"
  let _ ← ifNext (Peek.keyword "self") anyWord identifier
  whenNext (Peek.op "@") (do mark "@"; g.pattern) []

/-- **A pattern without alternatives.** -/
def patternOf (g : Grammar) : Parser (List Item) := do
  if ← looking pathPatternNext then return ← pathPattern g
  if ← looking (Peek.keyword "_") then
    keyword "_"
    return []
  if ← looking (Peek.keyword "box") then
    keyword "box"
    let inside ← g.pattern
    return apart inside
  if ← looking (Peek.any [Peek.op "-", Peek.literal, Peek.keyword "const"]) then
    let (_, items) ← rangeBound g
    if ← looking (Peek.op "..") then
      let more ← patternRange g
      return items ++ more
    return items
  if ← looking (Peek.any [Peek.keywords ["ref", "mut", "self"], Peek.identifier]) then
    return ← namePattern g
  if ← looking (Peek.op "&") then
    mark "&"
    let _ ← keywordIf "mut"
    return ← g.pattern
  if ← looking (Peek.group .parenthesis) then
    let parts ← group .parenthesis (commaSeparated (alternatives g))
    return parts.flatten
  if ← looking (Peek.group .bracket) then
    let parts ← group .bracket (commaSeparated (alternatives g))
    return parts.flatten
  if ← looking (Peek.butNot (Peek.op "..") (Peek.op "...")) then
    let closed ← markIf "..="
    if !closed then mark ".."
    let (hasEnd, items) ← rangeBound g
    if closed && !hasEnd then fail else return items
  fail

end RouteContracts.Source.Rule
