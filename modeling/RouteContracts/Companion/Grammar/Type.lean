import RouteContracts.Companion.Reader

/-! # Types and patterns
How unfinished source text is read where a path, a type, a list of parameters or a pattern is expected.

* `Rule.attributes`, `Rule.visibility`, `Rule.path`: what stands in front of and inside other rules.
* `Rule.typeOf`, `Rule.boundsOf`: types and their bounds. `Rule.genericParams`, `Rule.whereClause`,
  `Rule.params`: parameters. `Rule.patternOf`: patterns. -/

namespace RouteContracts.Companion.Rule

/-- The parts of macros in any brackets; tells whether they were in braces. -/
def macroBody (g : Rules) : Reader Bool := do
  expect "!"
  ifNext (Next.is "\x7b") (do g.trees; pure true)
    (ifNext (Next.oneOf ["(", "["]) (do g.trees; pure false) (pure false))

/-- A block in braces. -/
def block (g : Rules) : Reader Unit :=
  whenNext (Next.is "\x7b") do
    bump
    g.statements
    expect "\x7d"

/-- A block where none is expected. -/
def misplacedBlock (g : Rules) : Reader Unit := do
  bump
  g.statements
  expect "\x7d"

/-! ## Paths -/

/-- The places where paths stand. -/
inductive PathPlace where
  | imported
  | decoration
  | visibility
  | typed
  | valued
deriving DecidableEq, Repr

/-- Where a missing segment of a path is not looked for any more. -/
def segmentEnds : PathPlace → List String
  | .imported => Next.itemFronts
  | .decoration => Next.itemFronts ++ ["]", "=", "#"]
  | .visibility => Next.itemFronts ++ [")"]
  | .typed => Next.typeEnds
  | .valued => Next.itemFronts ++ [")", ",", "let"]

/-- Whether the words at which a segment begins come. -/
def segmentNext (ts : List Token) : Bool := Next.name ts || Next.oneOf ["self", "super", "crate", "Self"] ts

/-- The type that a function gives. Tells whether there was one. -/
def returned (g : Rules) : Reader Bool := do
  if ← eatOp "->" then
    g.plainType
    pure true
  else pure false

/-- The value of a constant parameter. -/
def constArgument (g : Rules) : Reader Unit :=
  ifNext (Next.is "\x7b") (block g)
    (ifNext (Next.is "-") (do bump; whenNext Next.literal bump) (whenNext Next.literal bump))

/-- The types between parentheses after a path. -/
def parenthesized (g : Rules) : Reader Unit := do
  delimited "(" ")" "," Next.type do
    ifNext Next.type (do g.anyType; pure true) (pure false)
  let _ ← returned g
  pure ()

/-- What follows the bounds or a part of a generic argument that began with a name. -/
def afterNamedArgument (g : Rules) (more arguments : Reader Unit) : Reader Unit := do
  arguments
  ifNext (Next.is "=")
    (do
      bump
      ifNext Next.type g.anyType (constArgument g))
    (ifNext (fun ts => Next.is ":" ts && !Next.op "::" ts) (do bump; g.bounds)
      (do
        more
        whenNext (fun ts => Next.is "!" ts && !Next.op "!=" ts) (do let _ ← macroBody g)
        whenNext (Next.is "+") (do bump; g.bounds)))

/-- Whether generic arguments come; with a separator in front, if it is required. -/
def genericNext (separated : Bool) (ts : List Token) : Bool :=
  Next.op "::" ts && Next.after 2 (Next.is "<") ts ||
    !separated && Next.is "<" ts && !Next.after 1 (Next.is "=") ts

/-- A generic argument. -/
def genericArgument (g : Rules) (more arguments : Reader Unit) : Reader Bool :=
  ifNext (fun ts => Next.kind .lifetime ts && !Next.after 1 (Next.is "+") ts) (do bump; pure true)
    (ifNext (fun ts => Next.oneOf ["\x7b", "-"] ts || Next.literal ts) (do constArgument g; pure true)
      (ifNext Next.name
        (do
          bump
          afterNamedArgument g more arguments
          pure true)
        (ifNext Next.type (do g.anyType; pure true) (pure false))))

/-- Whether a generic argument may come. -/
def argumentNext (ts : List Token) : Bool :=
  Next.type ts || Next.literal ts || Next.oneOf ["\x7b", "-"] ts

/-- The rest of a path, each segment read by the given reader. -/
def pathRest (segment : Reader Unit) : Reader Unit :=
  Reader.whileNext (fun ts => Next.op "::" ts && !Next.after 2 (Next.oneOf ["*", "\x7b"]) ts) do
    bumps 2
    segment
    pure true

/-- The arguments of a segment, with at most so many levels of arguments in arguments. -/
def segmentArguments (g : Rules) : Nat → PathPlace → Reader Unit
  | 0, _ => nothing
  | depth + 1, place =>
    let deeper := segmentArguments g depth .typed
    -- paths inside of an argument have one level less to go
    let segment : Reader Unit :=
      ifNext segmentNext (do bump; deeper) (recover (segmentEnds .typed))
    let generics (separated : Bool) : Reader Unit :=
      whenNext (genericNext separated) do
        let _ ← eatOp "::"
        delimited "<" ">" "," argumentNext (genericArgument g (pathRest segment) deeper)
    match place with
    | .typed => do
      whenNext (fun ts => Next.op "::" ts && Next.after 2 (Next.is "(") ts) (bumps 2)
      ifNext (Next.is "(") (parenthesized g) (generics false)
    | .valued => generics true
    | _ => nothing

/-- The arguments of a segment. -/
def arguments (g : Rules) (place : PathPlace) : Reader Unit := fun ts =>
  segmentArguments g (ts.length + 1) place ts

/-- A segment of a path after the first. -/
def segment (g : Rules) (place : PathPlace) : Reader Unit :=
  ifNext segmentNext (do bump; arguments g place) (recover (segmentEnds place))

/-- The first segment of a path. Tells whether there was one. -/
def firstSegment (g : Rules) (place : PathPlace) : Reader Bool :=
  ifNext (Next.is "<")
    (do
      bump
      g.anyType
      if ← eat "as" then
        whenNext Next.importPath g.plainType
      expect ">"
      pure true)
    (do
      let separated ← eatOp "::"
      ifNext segmentNext (do bump; arguments g place; pure true)
        (do
          recover (segmentEnds place)
          pure separated))

/-- **A path.** -/
def path (g : Rules) (place : PathPlace) : Reader Unit := do
  if ← firstSegment g place then pathRest (segment g place)

/-! ## Attributes and visibility -/

/-- What stands in an attribute. -/
def attributeBody (g : Rules) : Reader Unit := do
  let guarded ← eat "unsafe"
  if guarded then expect "("
  path g .decoration
  ifNext (Next.is "=") (do bump; let _ ← g.anyExpression) (whenNext (Next.oneOf ["(", "[", "\x7b"]) g.trees)
  if guarded then expect ")"

/-- An attribute, from its brackets on. -/
def attributeRest (g : Rules) : Reader Unit := do
  if ← eat "[" then
    attributeBody g
    expect "]"

/-- The attributes of what follows. -/
def attributes (g : Rules) : Reader Unit :=
  Reader.whileNext (Next.is "#") do
    bump
    attributeRest g
    pure true

/-- The attributes of what they stand in. -/
def innerAttributes (g : Rules) : Reader Unit :=
  Reader.whileNext (fun ts => Next.is "#" ts && Next.after 1 (Next.is "!") ts) do
    bumps 2
    attributeRest g
    pure true

/-- A visibility. In a list of unnamed fields, parentheses after it may be a type. Tells whether there was
one. -/
def visibility (g : Rules) (unnamed : Bool) : Reader Bool := do
  if ← eat "pub" then
    let place : Reader Unit := do
      path g .visibility
      expect ")"
    ifNext (fun ts => Next.is "(" ts && Next.after 1 (Next.is "in") ts) (do bumps 2; place)
      (whenNext
        (fun ts => Next.is "(" ts && !Next.after 2 (Next.is ":") ts &&
          -- of an unnamed field, other parentheses are its type
          (Next.after 1 (Next.oneOf ["crate", "self", "super"]) ts ||
            !unnamed && Next.after 1 (fun ts => Next.name ts || Next.is ")" ts) ts))
        (do bump; place))
    pure true
  else pure false

/-! ## Generic parameters -/

/-- Bounds after a colon. -/
def colonBounds (g : Rules) : Reader Unit :=
  whenNext (Next.is ":") do
    bump
    g.bounds

/-- A type after a colon; none is looked for in front of an equals sign. -/
def ascription (g : Rules) : Reader Bool := do
  expect ":"
  ifNext (Next.is "=") (pure false) (g.type true)

/-- A generic parameter. -/
def genericParam (g : Rules) : Reader Bool := do
  attributes g
  ifNext (Next.kind .lifetime) (do bump; colonBounds g; pure true)
    (ifNext Next.name
      (do
        bump
        colonBounds g
        if ← eat "=" then g.anyType
        pure true)
      (ifNext (Next.is "const")
        (do
          bump
          let _ ← ident
          whenNext (Next.is ":") (do let _ ← ascription g)
          if ← eat "=" then constArgument g
          pure true)
        (do
          recover []
          pure false)))

/-- The generic parameters of a declaration, if there are any. -/
def genericParams (g : Rules) : Reader Unit :=
  whenNext (Next.is "<")
    (delimited "<" ">" ","
      (fun ts => Next.name ts || Next.kind .lifetime ts || Next.oneOf ["const", "#"] ts) (genericParam g))

/-- The lifetimes that a type is for. -/
def forBinder (g : Rules) : Reader Unit := do
  bump
  genericParams g

/-- A condition of a declaration. -/
def wherePredicate (g : Rules) : Reader Unit :=
  ifNext (Next.kind .lifetime) (do bump; colonBounds g)
    (do
      whenNext (Next.is "for") (forBinder g)
      g.plainType
      colonBounds g)

/-- The conditions of a declaration, if there are any. -/
def whereClause (g : Rules) : Reader Unit :=
  whenNext (Next.is "where") do
    bump
    Reader.whileNext (fun ts => Next.type ts && !Next.is "impl" ts) do
      wherePredicate g
      let _ ← eat ","
      let ends ← Reader.looking (Next.oneOf ["\x7b", ";", "="])
      pure !ends

/-! ## Bounds -/

/-- One bound. Tells whether there was one. -/
def boundOf (g : Rules) : Reader Bool := do
  let enclosed ← eat "("
  let went ← ifNext (Next.kind .lifetime) (do bump; pure true)
    (ifNext (Next.is "for") (do forBinder g; g.plainType; pure true)
      (ifNext (fun ts => Next.is "use" ts && Next.after 1 (Next.is "<") ts)
        (do bump; genericParams g; pure true)
        (do
          if ← eat "~" then expect "const"
          else
            let _ ← eat "const"
          let _ ← eat "async"
          let _ ← eat "?"
          whenNext (Next.is "for") (forBinder g)
          ifNext Next.path (do g.plainType; pure true) (pure false))))
  if went && enclosed then expect ")"
  pure went

/-- Bounds with plus signs between them. -/
def boundsOf (g : Rules) : Reader Unit :=
  Reader.repeating do
    if ← boundOf g then eat "+" else pure false

/-! ## Parameters -/

/-- The lists of parameters. -/
inductive ParamPlace where
  | definition
  | pointer
  | closure
deriving DecidableEq, Repr

/-- The dots of further parameters. Tells whether they were there. -/
def variadic : Reader Bool := fun ts =>
  if Next.is ":" ts && Next.after 1 (Next.op "...") ts then ⟨true, ts.drop 4, []⟩ else ⟨false, ts, []⟩

/-- The type of a parameter, if there is one. -/
def paramType (g : Rules) : Reader Unit := do
  if ← variadic then pure ()
  else whenNext (Next.is ":") (do let _ ← ascription g)

/-- A parameter. -/
def param (g : Rules) (place : ParamPlace) : Reader Unit :=
  match place with
  | .definition => ifNext (Next.op "...") (bumps 3) (do g.pattern true; paramType g)
  | .pointer =>
    ifNext
      (fun ts => (Next.name ts || Next.is "_" ts) &&
        Next.after 1 (fun ts => Next.is ":" ts && !Next.op "::" ts) ts)
      (do
        g.pattern false
        paramType g)
      (ifNext (Next.op "...") (bumps 3) g.anyType)
  | .closure => do
    g.pattern false
    whenNext (fun ts => Next.is ":" ts && !Next.op "::" ts) (do let _ ← ascription g)

/-- Whether a parameter for the receiver comes. -/
def receiverNext (ts : List Token) : Bool :=
  Next.is "self" ts || Next.is "mut" ts && Next.after 1 (Next.is "self") ts ||
    Next.is "&" ts &&
      (Next.after 1 (Next.is "self") ts ||
        Next.after 1 (Next.is "mut") ts && Next.after 2 (Next.is "self") ts ||
        Next.after 1 (Next.kind .lifetime) ts &&
          (Next.after 2 (Next.is "self") ts ||
            Next.after 2 (Next.is "mut") ts && Next.after 3 (Next.is "self") ts))

/-- A parameter for the receiver, if there is one. -/
def receiver (g : Rules) : Reader Unit :=
  whenNext receiverNext do
    if ← eat "&" then
      whenNext (Next.kind .lifetime) bump
      let _ ← eat "mut"
      expect "self"
    else
      let _ ← eat "mut"
      expect "self"
      whenNext (Next.is ":") (do let _ ← ascription g)
    whenNext (fun ts => !Next.is ")" ts) (expect ",")

/-- Whether a parameter may come. -/
def paramNext (ts : List Token) : Bool := Next.pattern ts || Next.type ts || Next.is "#" ts

/-- **A list of parameters.** -/
def params (g : Rules) (place : ParamPlace) (opening closing : String) : Reader Unit := do
  expect opening
  if place = .definition then
    attributes g
    receiver g
  Reader.whileNext (fun ts => !Next.nothing ts && !Next.is closing ts) do
    attributes g
    ifNext (fun ts => Next.pattern ts || Next.type ts)
      (do
        param g place
        if ← eat "," then pure true else Reader.looking paramNext)
      (pure false)
  expect closing

/-! ## Types -/

/-- The types in parentheses. -/
def tupleType (g : Rules) : Reader Unit := do
  bump
  Reader.whileNext (fun ts => !Next.nothing ts && !Next.is ")" ts) do
    g.anyType
    eat ","
  expect ")"

/-- An array or a slice. -/
def sequenceType (g : Rules) : Reader Unit := do
  bump
  g.anyType
  if ← eat "]" then nothing
  else whenNext (Next.is ";") do
    bump
    let _ ← g.anyExpression
    expect "]"

/-- The words in front of the name of a foreign convention. -/
def convention : Reader Unit :=
  whenNext (Next.is "extern") do
    bump
    whenNext (Next.kind .quoted) bump

/-- A pointer to a function. Tells whether there was one. -/
def pointerType (g : Rules) : Reader Bool := do
  let _ ← eat "unsafe"
  convention
  if ← eat "fn" then
    whenNext (Next.is "(") (params g .pointer "(" ")")
    let _ ← returned g
    pure true
  else pure false

/-- The bounds that make a type one of any value with them. -/
def moreBounds (g : Rules) (bounded : Bool) : Reader Unit :=
  whenNext (fun ts => bounded && Next.is "+" ts) do
    bump
    g.bounds

/-- **A type.** Tells whether there was one. -/
def typeOf (g : Rules) (bounded : Bool) : Reader Bool :=
  ifNext (Next.is "(") (do tupleType g; pure true)
    (ifNext (Next.oneOf ["!", "_"]) (do bump; pure true)
      (ifNext (Next.is "*")
        (do
          bump
          whenNext (Next.oneOf ["mut", "const"]) bump
          g.plainType
          pure true)
        (ifNext (Next.is "[") (do sequenceType g; pure true)
          (ifNext (Next.is "&")
            (do
              bump
              whenNext (Next.kind .lifetime) bump
              let _ ← eat "mut"
              g.plainType
              pure true)
            (ifNext (Next.oneOf ["fn", "unsafe", "extern"]) (pointerType g)
              (ifNext (Next.is "for")
                (do
                  forBinder g
                  g.plainType
                  moreBounds g bounded
                  pure true)
                (ifNext (Next.oneOf ["impl", "dyn"]) (do bump; g.bounds; pure true)
                  (ifNext Next.path
                    (do
                      path g .typed
                      whenNext (fun ts => Next.is "!" ts && !Next.op "!=" ts) (do let _ ← macroBody g)
                      moreBounds g bounded
                      pure true)
                    (ifNext (fun ts => Next.kind .lifetime ts && Next.after 1 (Next.is "+") ts)
                      (do g.bounds; pure true)
                      (do
                        recover Next.typeEnds
                        pure false))))))))))

/-! ## Patterns -/

/-- Where a missing pattern is not looked for any more. -/
def patternEnds : List String := ["let", "if", "while", "loop", "match", ")", ",", "="]

/-- Patterns with commas between them. -/
def patternList (g : Rules) (closing : String) : Reader Unit := do
  bump
  Reader.whileNext (fun ts => !Next.nothing ts && !Next.is closing ts) do
    g.pattern true
    if ← eat "," then pure true else Reader.looking fun ts => Next.pattern ts || Next.is "|" ts
  expect closing

/-- A name that is bound. -/
def binding (g : Rules) (nested : Bool) : Reader Unit := do
  let _ ← eat "ref"
  let _ ← eat "mut"
  let _ ← ident
  if nested then
    if ← eat "@" then g.pattern false

/-- A field in a pattern. -/
def fieldPattern (g : Rules) : Reader Unit := do
  attributes g
  ifNext (Next.op "..") (bumps 2)
    (ifNext (Next.is "\x7b") (misplacedBlock g)
      (ifNext
        (fun ts => (Next.name ts || Next.kind .integer ts) && Next.after 1 (Next.is ":") ts)
        (do
          bumps 2
          g.pattern true)
        (ifNext (Next.is "box") (do bump; g.pattern false)
          (ifNext (fun ts => Next.name ts || Next.oneOf ["ref", "mut"] ts) (binding g false)
            (recover [","])))))

/-- The fields in a pattern. -/
def fieldPatterns (g : Rules) : Reader Unit := do
  bump
  Reader.whileNext (fun ts => !Next.nothing ts && !Next.is "\x7d" ts) do
    fieldPattern g
    whenNext (fun ts => !Next.is "\x7d" ts) (expect ",")
    pure true
  expect "\x7d"

/-- A pattern that begins with a path. -/
def pathPattern (g : Rules) : Reader Unit := do
  path g .valued
  ifNext (Next.is "(") (patternList g ")")
    (ifNext (Next.is "\x7b") (fieldPatterns g)
      (whenNext (fun ts => Next.is "!" ts && !Next.op "!=" ts) (do let _ ← macroBody g)))

/-- A pattern without alternatives and ranges. Tells whether there was one. -/
def patternAtom (g : Rules) : Reader Bool :=
  ifNext (Next.is "box") (do bump; g.pattern false; pure true)
    (ifNext (Next.oneOf ["ref", "mut"]) (do binding g true; pure true)
      (ifNext (Next.is "const") (do bump; block g; pure true)
        (ifNext
          (fun ts => Next.name ts &&
            !(Next.after 1 (Next.oneOf ["(", "\x7b", "!"]) ts || Next.after 1 (Next.op "::") ts))
          (do binding g true; pure true)
          (ifNext (fun ts => Next.literal ts || Next.is "-" ts && Next.after 1 Next.literal ts)
            (do
              let _ ← eat "-"
              bump
              pure true)
            (ifNext (Next.is "_") (do bump; pure true)
              (ifNext (Next.is "&")
                (do
                  bump
                  let _ ← eat "mut"
                  g.pattern false
                  pure true)
                (ifNext (Next.is "(") (do patternList g ")"; pure true)
                  (ifNext (Next.is "[") (do patternList g "]"; pure true)
                    (ifNext Next.path (do pathPattern g; pure true)
                      (do
                        recover patternEnds
                        pure false))))))))))

/-- The upper end of a range, if there is one. -/
def rangeEnd (g : Rules) : Reader Unit :=
  whenNext (fun ts => !Next.nothing ts && !Next.oneOf ["=", ",", ":", ")", "\x7d", "]", "if"] ts) do
    let _ ← patternAtom g

/-- A pattern without alternatives. -/
def patternSingle (g : Rules) : Reader Unit :=
  ifNext (Next.op "..=") (do bumps 3; let _ ← patternAtom g)
    (ifNext (Next.op "..")
      (do
        bumps 2
        whenNext (fun ts => Next.literal ts || Next.pathFront ts || Next.oneOf ["-", "const"] ts) do
          let _ ← patternAtom g)
      (do
        let _ ← patternAtom g
        ifNext (fun ts => Next.op "..." ts || Next.op "..=" ts) (do bumps 3; rangeEnd g)
          (whenNext (Next.op "..") (do bumps 2; rangeEnd g))))

/-- **A pattern.** -/
def patternOf (g : Rules) (alternatives : Bool) : Reader Unit :=
  if alternatives then do
    let _ ← eat "|"
    patternSingle g
    Reader.whileNext (Next.is "|") do
      bump
      patternSingle g
      pure true
  else patternSingle g

end RouteContracts.Companion.Rule
