import RouteContracts.Companion.Grammar.Expression
import RouteContracts.Text.Blank

/-! # Items
How the items of unfinished source text are read. Constants and records are noted wherever they stand.

* `Rule.item`, `Rule.itemsOf`: items. `Rule.statementsOf`: the statements of a block.
* `Rule.constant`, `Rule.record`: what is noted. -/

namespace RouteContracts.Companion.Rule

/-- Trees in brackets. A closing brace that fits nothing ends them. -/
def treesWithin : Nat → List String → Reader Unit
  | 0, _ => nothing
  | fuel + 1, around => fun ts =>
    match ts, around with
    | [], _ | _, [] => ⟨(), ts, []⟩
    | t :: rest, closing :: outer =>
      if t.isText closing then treesWithin fuel outer rest
      else if t.isText "(" then treesWithin fuel (")" :: around) rest
      else if t.isText "[" then treesWithin fuel ("]" :: around) rest
      else if t.isText "\x7b" then treesWithin fuel ("\x7d" :: around) rest
      else if t.isText "\x7d" then treesWithin fuel outer ts
      else treesWithin fuel around rest

/-- Trees in brackets, from the opening one on. -/
def treesOf : Reader Unit := fun ts =>
  let closing := if Next.is "(" ts then ")" else if Next.is "[" ts then "]" else "\x7d"
  treesWithin (2 * ts.length) [closing] ts.tail

/-! ## Records -/

/-- The unnamed fields of a record. -/
def unnamedFields (g : Rules) : Reader Unit :=
  delimited "(" ")" "," (fun ts => Next.type ts || Next.oneOf ["#", "pub"] ts) do
    attributes g
    let _ ← visibility g true
    ifNext Next.type (do g.anyType; pure true) (pure false)

/-- The text of a type without blanks. -/
def typeText (ts : List Token) : String :=
  String.ofList ((Token.textOf ts).toList.filter fun c => !Text.isBlank c)

/-- A field of a record: its name and type, if it has both. -/
def namedField (g : Rules) : Reader (Option (String × String)) := do
  attributes g
  let _ ← visibility g false
  let _ ← eat "unsafe"
  ifNext Next.name
    (do
      let name ← ident
      expect ":"
      let (present, read) ← (g.type true).withRead
      whenNext (Next.is "=") do
        bump
        let _ ← g.anyExpression
      match name with
      -- a field counts only with its name and its type
      | some n => if present then pure (some (n, typeText read)) else pure none
      | none => pure none)
    (do
      bump
      pure none)

/-- The named fields of a record, at most so many. -/
def namedFieldsWithin (g : Rules) : Nat → Reader (List (String × String))
  | 0 => pure []
  | fuel + 1 =>
    ifNext (fun ts => Next.nothing ts || Next.is "\x7d" ts) (pure [])
      (ifNext (Next.is "\x7b") (do misplacedBlock g; namedFieldsWithin g fuel)
        (do
          let field ← namedField g
          whenNext (fun ts => !Next.is "\x7d" ts) (expect ",")
          let rest ← namedFieldsWithin g fuel
          pure (field.toList ++ rest)))

/-- The named fields of a record. -/
def namedFields (g : Rules) : Reader (List (String × String)) := do
  bump
  let fields ← fun ts => namedFieldsWithin g (ts.length + 1) ts
  expect "\x7d"
  pure fields

/-- What follows the name and the parameters of a record. -/
def recordBody (g : Rules) (whole : Bool) : Reader (List (String × String)) :=
  ifNext (Next.is "where")
    (do
      whereClause g
      ifNext (Next.is "\x7b") (namedFields g) (do whenNext (Next.is ";") bump; pure []))
    (ifNext (Next.is "\x7b") (namedFields g)
      (do
        if whole then
          ifNext (Next.is ";") bump
            (whenNext (Next.is "(") do
              unnamedFields g
              whereClause g
              expect ";")
        pure []))

/-- A record after its keyword: its name, and its fields. -/
def record (g : Rules) (whole : Bool) : Reader (Option String × List (String × String)) := do
  bump
  let name ← nameOr Next.itemFronts
  genericParams g
  let fields ← recordBody g whole
  pure (name, fields)

/-! ## Constants -/

/-- A constant or a static after its keyword: its name. -/
def constant (g : Rules) (generic : Bool) : Reader (Option String) := do
  bump
  let _ ← eat "mut"
  let name ← do
    if ← (if generic then eat "_" else pure false) then pure none else ident
  if generic then genericParams g
  whenNext (Next.is ":") (do let _ ← ascription g)
  if ← eat "=" then
    let _ ← g.anyExpression
  if generic then whereClause g
  expect ";"
  pure name

/-! ## Other items -/

/-- A variant of an enumeration. -/
def variant (g : Rules) : Reader Unit := do
  attributes g
  ifNext Next.name
    (do
      bump
      ifNext (Next.is "\x7b") (do let _ ← namedFields g) (whenNext (Next.is "(") (unnamedFields g))
      if ← eat "=" then
        let _ ← g.anyExpression)
    bump

/-- An enumeration. -/
def enumeration (g : Rules) : Reader Unit := do
  bump
  let _ ← nameOr Next.itemFronts
  genericParams g
  whereClause g
  whenNext (Next.is "\x7b") do
    bump
    Reader.whileNext (fun ts => !Next.nothing ts && !Next.is "\x7d" ts) do
      ifNext (Next.is "\x7b") (misplacedBlock g) (do
        variant g
        whenNext (fun ts => !Next.is "\x7d" ts) (expect ","))
      pure true
    expect "\x7d"

/-- A function. -/
def function (g : Rules) : Reader Unit := do
  bump
  let _ ← nameOr Next.itemFronts
  genericParams g
  whenNext (Next.is "(") (params g .definition "(" ")")
  let _ ← returned g
  Reader.whileNext (Next.oneOf [")", "]", ">"]) (do bump; pure true)
  whereClause g
  if ← eat ";" then nothing else block g

/-- Items in braces. -/
def itemBlock (g : Rules) : Reader Unit := do
  bump
  innerAttributes g
  g.items
  expect "\x7d"

/-- A trait. -/
def interface (g : Rules) : Reader Unit := do
  bump
  let _ ← nameOr Next.itemFronts
  genericParams g
  if ← eat "=" then
    g.bounds
    whereClause g
    expect ";"
  else
    colonBounds g
    whereClause g
    whenNext (Next.is "\x7b") (itemBlock g)

/-- Whether the parameters of an implementation come, and not a path. -/
def implementationParams (ts : List Token) : Bool :=
  Next.is "<" ts &&
    (Next.after 1 (Next.oneOf ["#", ">", "const"]) ts ||
      Next.after 1 (fun ts => Next.name ts || Next.kind .lifetime ts) ts &&
        Next.after 2 (Next.oneOf [">", ",", ":", "="]) ts)

/-- An implementation. -/
def implementation (g : Rules) : Reader Unit := do
  let target : Reader Unit := whenNext (fun ts => !Next.is "impl" ts) g.anyType
  bump
  whenNext implementationParams (genericParams g)
  let _ ← eat "const"
  let _ ← eat "!"
  target
  if ← eat "for" then target
  whereClause g
  whenNext (Next.is "\x7b") (itemBlock g)

/-- A module. -/
def module (g : Rules) : Reader Unit := do
  bump
  let _ ← ident
  ifNext (Next.is "\x7b") (itemBlock g) (do let _ ← eat ";")

/-- Another name for a type. -/
def typeAlias (g : Rules) : Reader Unit := do
  bump
  let _ ← ident
  genericParams g
  colonBounds g
  whereClause g
  if ← eat "=" then g.anyType
  whereClause g
  expect ";"

/-- A new name for something imported. -/
def renamed : Reader Unit := do
  if ← eat "as" then
    if ← eat "_" then nothing else let _ ← ident

/-- An import. -/
def useItem (g : Rules) : Reader Unit := do
  bump
  let _ ← g.imports true
  expect ";"

/-- Imports in braces. -/
def importList (g : Rules) : Reader Unit :=
  delimited "\x7b" "\x7d" "," (fun ts => Next.importPath ts || Next.oneOf ["\x7b", "*"] ts) (g.imports false)

/-- The tree of an import. Tells whether there was one. -/
def importsOf (g : Rules) (top : Bool) : Reader Bool :=
  let front (peek : List Token → Bool) (ts : List Token) : Bool :=
    peek ts || Next.op "::" ts && Next.after 2 peek ts
  ifNext (front (Next.is "*")) (do let _ ← eatOp "::"; bump; pure true)
    (ifNext (front (Next.is "\x7b")) (do let _ ← eatOp "::"; importList g; pure true)
      (ifNext Next.importPath
        (do
          path g .imported
          ifNext (Next.is "as") renamed
            (do
              if ← eatOp "::" then
                ifNext (Next.is "*") bump (whenNext (Next.is "\x7b") (importList g)))
          pure true)
        (do
          recover (if top then Next.itemFronts else [])
          pure false)))

/-- A crate that is linked. -/
def linked : Reader Unit := do
  bumps 2
  whenNext (fun ts => Next.name ts || Next.is "self" ts) bump
  renamed
  expect ";"

/-- The rules of a macro after its first words. -/
def macroRules (g : Rules) : Reader Unit := do
  bumps 2
  let _ ← ident
  ifNext (Next.is "\x7b") g.trees
    (whenNext (Next.oneOf ["(", "["]) do
      g.trees
      expect ";")

/-- A macro. -/
def macroItem (g : Rules) : Reader Unit := do
  bump
  let _ ← nameOr Next.itemFronts
  ifNext (Next.is "\x7b") g.trees
    (whenNext (Next.is "(") do
      g.trees
      whenNext (Next.oneOf ["\x7b", "[", "("]) g.trees)

/-! ## Items -/

/-- What an item turned out to be. -/
inductive ItemKind where
  /-- A constant of a name. -/
  | constant (name : Option String)
  /-- A record. -/
  | record (name : Option String) (fields : List (String × String))
  /-- Any other item. -/
  | other
  /-- No item, but words that only stand in front of items. -/
  | broken
  /-- Nothing of an item. -/
  | missing

/-- What is noted of an item with these tokens. -/
def ItemKind.declared (kind : ItemKind) (tokens : List Token) : Option Declared :=
  match kind with
  | .constant (some name) => some (.constant name (Token.declarationText tokens))
  | .record (some name) fields => some (.record name fields)
  | _ => none

/-- An item of other kinds. -/
def otherItem (p : Reader Unit) : Reader ItemKind := do
  p
  pure .other

/-- A constant. -/
def constantItem (g : Rules) : Reader ItemKind := do pure (.constant (← constant g true))

/-- Whether the name of a constant or static may come after its keyword. -/
def valueNext (keyword : String) (ts : List Token) : Bool :=
  Next.is keyword ts && Next.after 1 (fun ts => Next.name ts || Next.oneOf ["_", "mut"] ts) ts

/-- An item without words in front. -/
def plainItem (g : Rules) : Reader ItemKind :=
  ifNext (fun ts => Next.is "extern" ts && Next.after 1 (Next.is "crate") ts) (otherItem linked)
    (ifNext (Next.is "use") (otherItem (useItem g))
      (ifNext (Next.is "mod") (otherItem (module g))
        (ifNext (Next.is "type") (otherItem (typeAlias g))
          (ifNext (Next.is "struct") (do let r ← record g true; pure (.record r.1 r.2))
            (ifNext (Next.is "enum") (otherItem (enumeration g))
              (ifNext (fun ts => Next.is "union" ts && Next.after 1 Next.name ts)
                (otherItem (do let _ ← record g false))
                (ifNext (Next.is "macro") (otherItem (macroItem g))
                  (ifNext
                    (fun ts => Next.is "macro_rules" ts && Next.after 1 (Next.is "!") ts &&
                      Next.after 2 Next.name ts)
                    (otherItem (macroRules g))
                    (ifNext (valueNext "const") (constantItem g)
                      (ifNext (valueNext "static") (otherItem (do let _ ← constant g false))
                        (ifNext (Next.is "trait") (otherItem (interface g))
                          (ifNext (Next.is "impl") (otherItem (implementation g))
                            (pure .missing)))))))))))))

/-- A word in front of an item, if it comes. Tells whether it did. -/
def modifier (peek : List Token → Bool) (count : Nat) : Reader Bool :=
  ifNext peek (do bumps count; pure true) (pure false)

/-- The words in front of an item. Tells whether there were any, and whether the convention was named. -/
def modifiers : Reader (Bool × Bool) := do
  let after1 (ss : List String) : List Token → Bool := Next.after 1 (Next.oneOf ss)
  let const ← modifier (fun ts => Next.is "const" ts && !after1 ["\x7b"] ts) 1
  let async ← modifier (fun ts => Next.is "async" ts && !after1 ["\x7b", "move", "|"] ts) 1
  let gen ← modifier (fun ts => Next.is "gen" ts && after1 ["fn"] ts) 1
  let guarded ← modifier (fun ts => Next.is "unsafe" ts && !after1 ["\x7b"] ts) 1
  let safe ← modifier (fun ts => Next.is "safe" ts && after1 ["fn", "extern", "static"] ts) 1
  let foreign ← Reader.looking (Next.is "extern")
  convention
  let auto ← modifier (fun ts => Next.is "auto" ts && after1 ["trait"] ts) 1
  let default ← modifier (fun ts => Next.is "default" ts && after1 ["fn", "type", "const", "impl"] ts) 1
  let guardedDefault ← modifier
    (fun ts => Next.is "default" ts && after1 ["unsafe"] ts && Next.after 2 (Next.oneOf ["impl", "fn"]) ts) 2
  let asyncDefault ← modifier
    (fun ts => Next.is "default" ts && after1 ["async"] ts && Next.after 2 (Next.oneOf ["fn", "unsafe"]) ts) 2
  pure (const || async || gen || guarded || safe || foreign || auto || default || guardedDefault ||
    asyncDefault, foreign)

/-- What an item is, after its attributes. -/
def itemKind (g : Rules) : Reader ItemKind := do
  let visible ← visibility g false
  match ← plainItem g with
  | .missing => do
    -- words in front of no item are an error of their own
    let (modified, foreign) ← modifiers
    ifNext (Next.is "fn") (otherItem (function g))
      (ifNext (fun ts => Next.is "const" ts && !Next.after 1 (Next.is "\x7b") ts) (constantItem g)
        (ifNext (valueNext "static") (otherItem (do let _ ← constant g false))
          (ifNext (Next.is "trait") (otherItem (interface g))
            (ifNext (Next.is "impl") (otherItem (implementation g))
              (ifNext (Next.is "type") (otherItem (typeAlias g))
                (ifNext (fun ts => Next.is "\x7b" ts && foreign) (otherItem (itemBlock g))
                  (pure (if visible || modified then .broken else .missing))))))))
  | kind => pure kind

/-- An item, with its attributes, if there is one. Tells what it was. -/
def optionalItem (g : Rules) : Reader ItemKind := fun ts =>
  let p : Reader ItemKind := do
    attributes g
    itemKind g
  let r := p.withRead ts
  -- an item is noted in front of those found inside of it
  ⟨r.value.1, r.rest, (r.value.1.declared r.value.2).toList ++ r.found⟩

/-- The declaration of a variable. -/
def letStatement (g : Rules) (closed : Bool) : Reader Unit := do
  let _ ← eat "super"
  bump
  g.pattern true
  whenNext (Next.is ":") (do let _ ← ascription g)
  if ← eat "=" then
    let _ ← g.anyExpression
  if ← eat "else" then block g
  if closed then expect ";" else let _ ← eat ";"

/-- A macro call where an item is expected, or what does not fit there. -/
def noItem (g : Rules) (inBraces : Bool) : Reader Unit :=
  ifNext Next.importPath
    (do
      path g .imported
      whenNext (Next.is "!") do
        if ← macroBody g then nothing else expect ";")
    (ifNext (Next.is "\x7b") (misplacedBlock g)
      (ifNext (fun ts => Next.is "\x7d" ts && inBraces) nothing
        (ifNext (Next.is "let") (letStatement g false) bump)))

/-- An item, or what stands in its place. -/
def item (g : Rules) (inBraces : Bool) : Reader Unit := do
  match ← optionalItem g with
  | .missing => noItem g inBraces
  | _ => whenNext (Next.is ";") bump

/-- **Items up to the end**, or to a closing brace. -/
def itemsOf (g : Rules) (inBraces : Bool) : Reader Unit :=
  Reader.whileNext (fun ts => !Next.nothing ts && !(inBraces && Next.is "\x7d" ts)) do
    item g inBraces
    pure true

/-- A statement. -/
def statement (g : Rules) : Reader Unit := do
  if ← eat ";" then nothing
  else
    ifNext (fun ts => Next.is "let" ts || Next.is "super" ts && Next.after 1 (Next.is "let") ts)
      (letStatement g true)
      (do
        match ← optionalItem g with
        | .missing =>
          ifNext (Next.is "let") (letStatement g true)
            (ifNext Next.expression
              (do
                match ← g.expression ⟨false, true⟩ 1 with
                | some ends =>
                  whenNext (fun ts => !Next.is "\x7d" ts) do
                    if ends then let _ ← eat ";" else expect ";"
                | none => nothing)
              bump)
        | _ => nothing)

/-- **The statements of a block.** -/
def statementsOf (g : Rules) : Reader Unit := do
  innerAttributes g
  Reader.whileNext (fun ts => !Next.nothing ts && !Next.is "\x7d" ts) do
    statement g
    pure true

end RouteContracts.Companion.Rule
