import RouteContracts.Source.Grammar.Expression

/-! # Items and statements
Rules for the items of a file and the statements of a block. Functions and values are kept by name, and of every
item the items inside of it: apart where it is a function, a value, a module, a trait or an implementation, and so
is what is inside of an item that is read but has no form of its own.

* `Rule.itemOf`: an item. `Rule.statements`: the content of a block. `Rule.fileItems`: a file. -/

namespace RouteContracts.Source.Rule

open RouteContracts.Source.Parser

/-! ## Visibility -/

/-- Whether parentheses after `pub` restrict it. -/
def restriction : List Tree → Bool
  | .group .parenthesis [.word w] :: _ => w == "crate" || w == "self" || w == "super"
  | .group .parenthesis (.word "in" :: _) :: _ => true
  | _ => false

/-- How far an item can be seen. -/
inductive Visibility where
  | everywhere
  | restricted
  | inherited
deriving DecidableEq, Repr

/-- The visibility in front of an item. -/
def visibility : Parser Visibility := do
  if ← looking (Peek.keyword "pub") then
    keyword "pub"
    if ← looking restriction then
      group .parenthesis do
        if ← looking (Peek.keyword "in") then
          keyword "in"
          let _ ← modulePath
        else
          let _ ← anyWord
      return .restricted
    return .everywhere
  return .inherited

/-! ## Functions -/

/-- Whether the first words of a function come. -/
def signatureNext (ts : List Tree) : Bool :=
  let front : Parser Unit := do
    let _ ← keywordIf "const"
    let _ ← keywordIf "async"
    let _ ← keywordIf "unsafe"
    callingConvention
    keyword "fn"
  (front ts).isSome

/-- Whether the first words of a function of another language come. -/
def foreignSignatureNext (ts : List Tree) : Bool :=
  signatureNext ts || (Peek.keyword "safe" ts && signatureNext (Peek.skip ts))

/-- The value that a method is called on. -/
def receiver (g : Grammar) : Parser (List Item) := do
  let byRef ← markIf "&"
  if byRef then
    let _ ← lifetimeIf
  let _ ← keywordIf "mut"
  keyword "self"
  if !byRef && (← looking (Peek.op ":")) then
    mark ":"
    return ← g.type true
  return []

/-- A parameter of a function. Tells whether it is the value that a method is called on. -/
def parameter (g : Grammar) : Parser (Bool × List Item) := do
  let attrs ← attributes g
  if ← markIf "..." then return (false, attrs)
  if ← looking (succeeds (receiver g)) then
    let items ← receiver g
    return (true, attrs ++ items)
  -- a type without a name in front
  if ← looking (fun ts => Peek.identifier ts && Peek.second (Peek.op "<") ts) then
    let t ← g.type true
    return (false, attrs ++ t)
  let p ← g.pattern
  mark ":"
  if ← markIf "..." then return (false, attrs ++ p)
  let t ← g.type true
  return (false, attrs ++ p ++ t)

/-- The parameters of a function. Only the first may be the value that a method is called on. -/
def parameters (g : Grammar) : Parser (List Item) := do
  let found ← commaSeparated (parameter g)
  if (found.drop 1).any Prod.fst then fail else return found.flatMap Prod.snd

/-- What stands in front of the body of a function: its name and the items inside. -/
def signature (g : Grammar) : Parser (String × List Item) := do
  let _ ← keywordIf "const"
  let _ ← keywordIf "async"
  let _ ← keywordIf "unsafe"
  callingConvention
  keyword "fn"
  let name ← identifier
  let params ← generics g
  let args ← group .parenthesis (parameters g)
  let out ← returned g true
  let conditions ← whereClause g
  return (name, params ++ args ++ out ++ conditions)

/-- A body or a semicolon. -/
def bodyOrNone (g : Grammar) : Parser (List Item) :=
  ifNext (Peek.op ";") (do mark ";"; return []) (bracedItems g)

/-! ## Parts of items -/

/-- The tokens of a macro behind its exclamation mark, and a semicolon unless they stand in braces. -/
def macroTokens : Parser Unit := do
  let (d, _) ← anyGroup
  if d != .brace then mark ";"

/-- A macro in the place of an item. -/
def macroItem (named : Bool) : Parser Unit := do
  let _ ← modulePath
  mark "!"
  if named && (← looking (Peek.any [Peek.identifier, Peek.keyword "try"])) then
    let _ ← anyWord
  macroTokens

/-- Whether a macro may come in the place of an item. -/
def macroItemNext : List Tree → Bool :=
  Peek.any [Peek.identifier, Peek.keywords ["self", "super", "crate"], Peek.op "::"]

/-- A field with a name. -/
def namedField (g : Grammar) : Parser (List Item) := do
  let attrs ← attributes g
  let _ ← visibility
  let _ ← identifierOrBlank
  mark ":"
  let t ← g.type true
  return attrs ++ t

/-- A field without a name. -/
def unnamedField (g : Grammar) : Parser (List Item) := do
  let attrs ← attributes g
  let _ ← visibility
  let t ← g.type true
  return attrs ++ t

/-- Fields with names. -/
def namedFields (g : Grammar) : Parser (List Item) := do
  let found ← group .brace (commaSeparated (namedField g))
  return found.flatten

/-- Fields without names. -/
def unnamedFields (g : Grammar) : Parser (List Item) := do
  let found ← group .parenthesis (commaSeparated (unnamedField g))
  return found.flatten

/-- A record. -/
def structItem (g : Grammar) : Parser (List Item) := do
  keyword "struct"
  let _ ← identifier
  let params ← generics g
  -- conditions stand in front of fields with names, and behind those without
  let hasConditions ← looking (Peek.keyword "where")
  let conditions ← whereClause g
  if !hasConditions && (← looking (Peek.group .parenthesis)) then
    let fields ← unnamedFields g
    let later ← whereClause g
    mark ";"
    return params ++ later ++ fields
  if ← looking (Peek.group .brace) then
    let fields ← namedFields g
    return params ++ conditions ++ fields
  mark ";"
  return params ++ conditions

/-- A case of an enumeration. -/
def enumCase (g : Grammar) : Parser (List Item) := do
  let attrs ← attributes g
  let _ ← visibility
  let _ ← identifier
  let fields ←
    if ← looking (Peek.group .brace) then namedFields g
    else if ← looking (Peek.group .parenthesis) then unnamedFields g
    else Pure.pure []
  let number ← whenNext (Peek.op "=") (do
    mark "="
    let e ← g.expr true
    return e.items) []
  return attrs ++ fields ++ number

/-- An enumeration. -/
def enumItem (g : Grammar) : Parser (List Item) := do
  keyword "enum"
  let _ ← identifier
  let params ← generics g
  let conditions ← whereClause g
  let cases ← group .brace (commaSeparated (enumCase g))
  return params ++ conditions ++ cases.flatten

/-- A record whose fields share their place. -/
def unionItem (g : Grammar) : Parser (List Item) := do
  keyword "union"
  let _ ← identifier
  let params ← generics g
  let conditions ← whereClause g
  let fields ← namedFields g
  return params ++ conditions ++ fields

/-- The bounds behind a colon, if there is one. -/
def colonBounds (g : Grammar) (stops : List (List Tree → Bool)) : Parser (List Item) :=
  whenNext (Peek.op ":") (do
    mark ":"
    sized fun n => bounds g n stops) []

/-- A type with a name of its own. -/
structure TypeRead where
  /-- Whether it has bounds. -/
  bounded : Bool
  /-- Whether it says which type it stands for. -/
  defined : Bool
  /-- The items inside. -/
  items : List Item

/-- A type with a name of its own. The conditions on its parameters stand in front of the type that it stands for,
or behind it where that is allowed. -/
def typeItem (g : Grammar) (conditionsBehind : Bool) : Parser TypeRead := do
  keyword "type"
  let _ ← identifier
  let params ← generics g
  let bounded ← looking (Peek.op ":")
  let bs ← colonBounds g [Peek.keyword "where", Peek.op "=", Peek.op ";"]
  let conditions ← whereClause g
  let defined ← looking (Peek.op "=")
  let t ← whenNext (Peek.op "=") (do mark "="; g.type true) []
  let later ← if conditionsBehind then whereClause g else Pure.pure []
  mark ";"
  return ⟨bounded, defined, params ++ bs ++ conditions ++ t ++ later⟩

/-- What stands behind the name of a constant up to its value: parameters, type. -/
def constantFront (g : Grammar) : Parser (Bool × List Item) := do
  let generic ← looking (Peek.op "<")
  let params ← generics g
  mark ":"
  let t ← g.type true
  return (generic, params ++ t)

/-- A constant in a trait or an implementation. -/
def memberConstant (g : Grammar) (v : Visibility) : Parser (List Item) := do
  keyword "const"
  let name ← identifierOrBlank
  let (_, front) ← constantFront g
  let value ← whenNext (Peek.op "=") (do
    mark "="
    let e ← g.expr true
    return [.value (v == .everywhere) name e]) []
  let conditions ← whereClause g
  mark ";"
  return value ++ apart (front ++ conditions)

/-- Something in a trait or an implementation. -/
def memberItem (g : Grammar) : Parser (List Item) := do
  let attrs ← attributes g
  let v ← visibility
  let defaulted ← if ← looking (Peek.butNot (Peek.keyword "default") (Peek.second (Peek.op "!"))) then
      keywordIf "default"
    else Pure.pure false
  if ← looking signatureNext then
    let (name, front) ← signature g
    let body ← bodyOrNone g
    return .function (v == .everywhere) name :: apart (attrs ++ front ++ body)
  if ← looking (Peek.keyword "const") then
    let items ← memberConstant g v
    return items ++ apart attrs
  if ← looking (Peek.keyword "type") then
    let t ← typeItem g true
    return attrs ++ t.items
  if v == .inherited && !defaulted && (← looking macroItemNext) then
    macroItem false
    return attrs
  fail

/-- The members of a trait or an implementation. -/
def memberItems (g : Grammar) : Parser (List Item) := group .brace do
  let attrs ← innerAttributes g
  let items ← toEnd (memberItem g)
  return attrs ++ items

/-- A trait, or another name for some bounds. Nobody looks into a trait. -/
def traitItem (g : Grammar) (attrs : List Item) : Parser (List Item) := do
  let isUnsafe ← keywordIf "unsafe"
  let isAuto ← keywordIf "auto"
  keyword "trait"
  let _ ← identifier
  let params ← generics g
  if !isUnsafe && !isAuto && (← looking (Peek.op "=")) then
    mark "="
    let bs ← sized fun n => bounds g n [Peek.keyword "where", Peek.op ";"]
    let conditions ← whereClause g
    mark ";"
    return [.other (attrs ++ params ++ bs ++ conditions)]
  let bs ← colonBounds g [Peek.keyword "where", Peek.group .brace]
  let conditions ← whereClause g
  let members ← memberItems g
  return apart (attrs ++ params ++ bs ++ conditions ++ members)

/-- Whether angle brackets after `impl` hold parameters. -/
def parametersNext (ts : List Tree) : Bool :=
  Peek.op "<" ts &&
    (Peek.second (Peek.any [Peek.op ">", Peek.op "#", Peek.keyword "const"]) ts
      || (Peek.second (Peek.any [Peek.lifetime, Peek.identifier]) ts
        && Peek.third (Peek.any [Peek.op ">", Peek.op ",", Peek.butNot (Peek.op ":") (Peek.op "::"),
          Peek.op "="]) ts))

/-- An implementation. -/
def implItem (g : Grammar) : Parser (List Item) := do
  let _ ← keywordIf "default"
  let _ ← keywordIf "unsafe"
  keyword "impl"
  let params ← if ← looking parametersNext then generics g else Pure.pure []
  if ← looking (fun ts => Peek.keyword "const" ts
      || (Peek.op "?" ts && Peek.second (Peek.keyword "const") ts)) then
    let _ ← markIf "?"
    keyword "const"
  if ← looking (Peek.butNot (Peek.op "!") (Peek.second (Peek.group .brace))) then mark "!"
  let t ← g.type true
  let implementer ← if ← keywordIf "for" then g.type true else Pure.pure []
  let conditions ← whereClause g
  let members ← memberItems g
  return params ++ t ++ implementer ++ conditions ++ members

/-! ## Imports, modules and foreign items -/

/-- Whether a word of an import comes. -/
def importWordNext : List Tree → Bool :=
  Peek.any [Peek.identifier, Peek.keywords ["self", "super", "crate", "try"]]

/-- **A tree of imports.** Tells whether one in braces begins at the root. -/
def importsOf (g : Grammar) (root : Bool) : Parser Bool := do
  if ← looking importWordNext then
    let _ ← anyWord
    if ← looking (Peek.op "::") then
      mark "::"
      return ← g.imports false
    if ← keywordIf "as" then
      let _ ← identifierOrBlank
    return false
  if ← looking (Peek.op "*") then
    mark "*"
    return false
  let found ← group .brace (commaSeparated do
    -- only a tree that has not begun at the root may do so inside
    let fromRoot ← if root then markIf "::" else Pure.pure false
    let inside ← g.imports (root && !fromRoot)
    return fromRoot || inside)
  return found.any id

/-- An import. One with a tree in braces that begins at the root has no form of its own. -/
def useItem (g : Grammar) (attrs : List Item) : Parser (List Item) := do
  keyword "use"
  let fromRoot ← markIf "::"
  let rooted ← g.imports (!fromRoot)
  mark ";"
  return if rooted then apart attrs else [.other attrs]

/-- The import of a library. -/
def externCrateItem : Parser Unit := do
  keyword "extern"
  keyword "crate"
  let _ ← ifNext (Peek.keyword "self") anyWord identifier
  if ← keywordIf "as" then
    let _ ← identifierOrBlank
  mark ";"

/-- A module. -/
def modItem (g : Grammar) : Parser (List Item) := do
  let _ ← keywordIf "unsafe"
  keyword "mod"
  let _ ← ifNext (Peek.keyword "try") anyWord identifier
  ifNext (Peek.op ";") (do mark ";"; return []) (group .brace do
    let attrs ← innerAttributes g
    let items ← toEnd g.item
    return attrs ++ items)

/-- Something in a block of foreign items. A function that is called safe or has a body has no form of its own, nor
has a static that is called safe or unsafe or has a value, nor a type with bounds or a definition. -/
def foreignItem (g : Grammar) : Parser (List Item) := do
  let attrs ← attributes g
  let v ← visibility
  if ← looking foreignSignatureNext then
    let safe ← keywordIf "safe"
    let (_, items) ← signature g
    let hasBody ← looking (Peek.group .brace)
    let body ← bodyOrNone g
    return if safe || hasBody then apart (attrs ++ items ++ body) else attrs ++ items
  if ← looking (fun ts => Peek.keyword "static" ts
      || (Peek.keywords ["unsafe", "safe"] ts && Peek.second (Peek.keyword "static") ts)) then
    let called ← looking (Peek.keywords ["unsafe", "safe"])
    if called then
      let _ ← anyWord
    keyword "static"
    let _ ← keywordIf "mut"
    let _ ← identifier
    mark ":"
    let t ← g.type true
    let value ← whenNext (Peek.op "=") (do
      mark "="
      let e ← g.expr true
      return some e.items) none
    mark ";"
    return if called || value.isSome then apart (attrs ++ t ++ value.getD []) else attrs ++ t
  if ← looking (Peek.keyword "type") then
    let t ← typeItem g true
    return if t.bounded || t.defined then apart (attrs ++ t.items) else attrs ++ t.items
  if v == .inherited && (← looking macroItemNext) then
    macroItem false
    return attrs
  fail

/-- A block of foreign items. -/
def foreignModItem (g : Grammar) : Parser (List Item) := do
  let _ ← keywordIf "unsafe"
  callingConvention
  group .brace do
    let attrs ← innerAttributes g
    let items ← toEnd (foreignItem g)
    return attrs ++ items

/-- A macro of the newer kind. -/
def macroDefinition : Parser Unit := do
  keyword "macro"
  let _ ← identifier
  if ← looking (Peek.group .parenthesis) then
    let _ ← anyGroup
  require (Peek.group .brace)
  let _ ← anyGroup

/-! ## Items -/

/-- A function. One without a body declares nothing. -/
def functionItem (g : Grammar) (attrs : List Item) (v : Visibility) : Parser (List Item) := do
  let (name, front) ← signature g
  if ← markIf ";" then return apart (attrs ++ front)
  let body ← bracedItems g
  return .function (v == .everywhere) name :: apart (attrs ++ front ++ body)

/-- A constant. One with parameters or conditions, or without a value, declares nothing. -/
def constItem (g : Grammar) (attrs : List Item) (v : Visibility) : Parser (List Item) := do
  keyword "const"
  let name ← identifierOrBlank
  let (generic, front) ← constantFront g
  let value ← whenNext (Peek.op "=") (do
    mark "="
    let e ← g.expr true
    return some e) none
  let conditional ← looking (Peek.keyword "where")
  let conditions ← whereClause g
  mark ";"
  match value, generic || conditional with
  | some e, false => return .value (v == .everywhere) name e :: apart (attrs ++ front)
  | _, _ => return apart (attrs ++ front ++ value.elim [] Expr.items ++ conditions)

/-- A static. One without a type or a value declares nothing. -/
def staticItem (g : Grammar) (attrs : List Item) (v : Visibility) : Parser (List Item) := do
  keyword "static"
  let _ ← keywordIf "mut"
  let name ← identifier
  if ← markIf "=" then
    let e ← g.expr true
    mark ";"
    return apart (attrs ++ e.items)
  mark ":"
  let t ← g.type true
  if ← markIf ";" then return apart (attrs ++ t)
  mark "="
  let e ← g.expr true
  mark ";"
  return .value (v == .everywhere) name e :: apart (attrs ++ t)

/-- A type with a name of its own. One with bounds, or that stands for nothing, has no form of its own. -/
def typeNameItem (g : Grammar) (attrs : List Item) : Parser (List Item) := do
  let t ← typeItem g false
  return if t.bounded || !t.defined then apart (attrs ++ t.items) else [.other (attrs ++ t.items)]

/-- Another item that is looked into. -/
def openItem (attrs : List Item) (p : Parser (List Item)) : Parser (List Item) := do
  let items ← p
  return [.other (attrs ++ items)]

/-- Another item, into which nobody looks. -/
def closedItem (attrs : List Item) (p : Parser (List Item)) : Parser (List Item) := do
  let items ← p
  return apart (attrs ++ items)

/-- Nothing inside of what is read. -/
def withoutItems (p : Parser Unit) : Parser (List Item) := do
  p
  return []

/-- An item behind its attributes and its visibility. -/
def itemRest (g : Grammar) (attrs : List Item) (v : Visibility) : Parser (List Item) := do
  let ts ← ahead
  if signatureNext ts then return ← functionItem g attrs v
  if Peek.keyword "extern" ts then
    if Peek.second (Peek.keyword "crate") ts then return ← openItem attrs (withoutItems externCrateItem)
    else return ← openItem attrs (foreignModItem g)
  if Peek.keyword "use" ts then return ← useItem g attrs
  if Peek.keyword "static" ts then return ← staticItem g attrs v
  if Peek.keyword "const" ts then return ← constItem g attrs v
  if Peek.keyword "unsafe" ts then
    if Peek.second (Peek.any [Peek.keyword "trait",
        fun ts => Peek.keyword "auto" ts && Peek.second (Peek.keyword "trait") ts]) ts then
      return ← traitItem g attrs
    if Peek.second (Peek.keyword "impl") ts then return ← closedItem attrs (implItem g)
    if Peek.second (Peek.keyword "extern") ts then return ← openItem attrs (foreignModItem g)
    if Peek.second (Peek.keyword "mod") ts then return ← closedItem attrs (modItem g)
    fail
  else
    if Peek.keyword "mod" ts then return ← closedItem attrs (modItem g)
    if Peek.keyword "type" ts then return ← typeNameItem g attrs
    if Peek.keyword "struct" ts then return ← openItem attrs (structItem g)
    if Peek.keyword "enum" ts then return ← openItem attrs (enumItem g)
    if Peek.keyword "union" ts && Peek.second Peek.identifier ts then return ← openItem attrs (unionItem g)
    if Peek.keyword "trait" ts
        || (Peek.keyword "auto" ts && Peek.second (Peek.keyword "trait") ts) then
      return ← traitItem g attrs
    if Peek.keyword "impl" ts || (Peek.keyword "default" ts && !Peek.second (Peek.op "!") ts) then
      return ← closedItem attrs (implItem g)
    if Peek.keyword "macro" ts then return ← closedItem attrs (withoutItems macroDefinition)
    if v == .inherited && macroItemNext ts then return ← openItem attrs (withoutItems (macroItem true))
    fail

/-- **An item**, and apart from it what is inside of it where nobody looks. -/
def itemOf (g : Grammar) : Parser (List Item) := do
  let attrs ← attributes g
  let v ← visibility
  itemRest g attrs v

/-- The items of a file. -/
def fileItems (g : Grammar) : Parser (List Item) := do
  let attrs ← innerAttributes g
  let items ← toEnd (itemOf g)
  return if attrs.isEmpty then items else .other attrs :: items

/-! ## Statements -/

/-- Whether an item comes in the place of a statement. -/
def itemNext : List Tree → Bool :=
  Peek.any
    [Peek.keyword "pub", Peek.butNot (Peek.keyword "crate") (Peek.second (Peek.op "::")),
     Peek.keywords ["extern", "use", "fn", "mod", "type", "struct", "enum", "trait", "impl", "macro"],
     -- not a closure that begins with the word
     fun ts => Peek.keyword "static" ts && (Peek.second (Peek.keyword "mut") ts
       || (Peek.second Peek.identifier ts && !(Peek.second (Peek.keyword "async") ts
         && Peek.third (Peek.any [Peek.keyword "move", Peek.op "|"]) ts))),
     -- not a block or a closure that begins with the word
     fun ts => Peek.keyword "const" ts && !(Peek.second (Peek.any [Peek.group .brace,
         Peek.keywords ["static", "move"], Peek.op "|"]) ts
       || (Peek.second (Peek.keyword "async") ts
         && !Peek.third (Peek.keywords ["unsafe", "extern", "fn"]) ts)),
     fun ts => Peek.keyword "unsafe" ts && !Peek.second (Peek.group .brace) ts,
     fun ts => Peek.keyword "async" ts && Peek.second (Peek.keywords ["unsafe", "extern", "fn"]) ts,
     fun ts => Peek.keyword "union" ts && Peek.second Peek.identifier ts,
     fun ts => Peek.keyword "auto" ts && Peek.second (Peek.keyword "trait") ts,
     fun ts => Peek.keyword "default" ts && Peek.second (Peek.keywords ["unsafe", "impl"]) ts]

/-- What a macro in the place of a statement is. -/
inductive MacroStatement where
  /-- An item. -/
  | item
  /-- A statement of its own, its tokens in braces. -/
  | braces
  /-- The beginning of an expression, or no macro at all. -/
  | none
deriving DecidableEq

/-- What a path and an exclamation mark begin in the place of a statement. -/
def macroStatement (ts : List Tree) : MacroStatement :=
  match modulePath ts with
  | some r =>
    if Peek.op "!" r.rest then
      if Peek.second (Peek.any [Peek.identifier, Peek.keyword "try"]) r.rest then .item
      else if Peek.second (Peek.group .brace) r.rest
          && !Peek.third (Peek.any [Peek.butNot (Peek.op ".") (Peek.op ".."), Peek.op "?"]) r.rest then
        .braces
      else .none
    else .none
  | Option.none => .none

/-- Whether trees end with a group in braces. -/
def endsWithBraces (ts : List Tree) : Bool :=
  match ts.getLast? with
  | some (.group .brace _) => true
  | _ => false

/-- A binding in the place of a statement. -/
def letStatement (g : Grammar) : Parser (List Item) := do
  keyword "let"
  let p ← g.pattern
  let t ← whenNext (Peek.op ":") (do mark ":"; g.type true) []
  if ← looking (Peek.op "=") then
    mark "="
    let e ← g.expr true
    -- an alternative may not follow a brace, which could end the value
    let otherwise ←
      if !endsWithBraces e.tokens && (← looking (Peek.keyword "else")) then do
        keyword "else"
        let b ← group .brace g.block
        Pure.pure (blockItems b)
      else Pure.pure []
    mark ";"
    return p ++ t ++ e.items ++ otherwise
  mark ";"
  return p ++ t

/-- What a statement leaves: the items inside, the expression when it is one without a semicolon, and
whether something has to stand between it and the next. -/
structure Statement where
  /-- The items inside. -/
  items : List Item
  /-- The expression of a statement without a semicolon. -/
  last : Option Expr
  /-- Whether the statement ends only at the end of the block. -/
  open' : Bool

/-- An expression in the place of a statement. -/
def exprStatement (g : Grammar) : Parser Statement := do
  let e ← g.early
  let ended ← markIf ";"
  -- a macro call is a statement if it has braces or a semicolon
  let isMacro := e.shape == .braceMacro || (e.shape == .otherMacro && ended)
  if isMacro || ended then return ⟨e.expr.items, none, false⟩
  return ⟨[], some e.expr, e.shape != .blockLike⟩

/-- A statement. -/
def statement (g : Grammar) : Parser Statement := do
  let start ← ahead
  match attributes g start with
  | Option.none => fail
  | some r =>
    let ts := r.rest
    match macroStatement ts with
    | .braces =>
      let attrs ← attributes g
      let _ ← modulePath
      mark "!"
      let _ ← anyGroup
      let _ ← markIf ";"
      return ⟨attrs, none, false⟩
    | m =>
      if Peek.keyword "let" ts then
        let attrs ← attributes g
        let items ← letStatement g
        return ⟨attrs ++ items, none, false⟩
      if m == .item || itemNext ts then
        let items ← g.item
        return ⟨items, none, false⟩
      exprStatement g

/-- **The content of a block**: the items in it, and its last expression when it ends with one. -/
def statements (g : Grammar) : Parser (List Item × Option Expr) := do
  let found ← fold (fun (state : List Item × Option Expr) => do
    if ← looking Peek.nothing then return none
    -- an expression was the last one only if nothing follows it
    let before := state.1 ++ state.2.elim [] Expr.items
    if ← markIf ";" then return some (before, none)
    let s ← statement g
    if s.open' && !(← looking Peek.nothing) then fail
    else return some (before ++ s.items, s.last)) ([], none)
  return found

end RouteContracts.Source.Rule
