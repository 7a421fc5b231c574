import RouteContracts.Notice
import RouteContracts.Schema.Basic
import RouteContracts.Source.Literal
import RouteContracts.Source.Syntax

/-! # Schemas that expressions construct
The schema that an expression of builder calls and combinators would construct, read off the syntax
alone. Lazy initializers, closures, blocks, parentheses and references are looked through, an unknown
combinator counts as a refinement, and a field that cannot be resolved accepts anything.

* `Expr.evaluate`: the schema of an expression.
* `Expr.objectFields`: the fields of an expression that constructs an object.
* `Expr.buildsObject`: whether an expression recognizably constructs an object. -/

namespace RouteContracts.Source

/-- Why an expression constructs no known schema. -/
inductive Unsupported where
  /-- The expression is not one of the known forms. -/
  | expression (shown : String)
  /-- A builder is called without its argument. -/
  | missingArgument (builder : String)
  /-- A list macro does not hold expressions between commas. -/
  | brokenList
  /-- The expression constructs something else than an object. -/
  | notObject (shown : String)
deriving DecidableEq, Repr

/-- What is reported for an expression that constructs no known schema. -/
def Unsupported.message (why : Unsupported) : String :=
  "Unsupported schema expression: " ++
    match why with
    | .expression shown => shown
    | .missingArgument builder => "\x60" ++ builder ++ "()\x60 needs an argument"
    | .brokenList => "expected \x60,\x60"
    | .notObject shown => "\x60" ++ shown ++ "\x60 is not an object schema"

/-- A result, or why there is none, and the notices that arose on the way. -/
structure Resolution (α : Type) where
  /-- What came out. -/
  result : Except Unsupported α
  /-- What a developer should know. -/
  notices : List Notice

namespace Resolution

/-- A result without notices. -/
def pure {α : Type} (a : α) : Resolution α := ⟨.ok a, []⟩

/-- No result. -/
def fail {α : Type} (why : Unsupported) : Resolution α := ⟨.error why, []⟩

/-- Goes on with a result; the notices of both parts are kept in order. -/
def bind {α β : Type} (r : Resolution α) (f : α → Resolution β) : Resolution β :=
  match r.result with
  | .ok a => ⟨(f a).result, r.notices ++ (f a).notices⟩
  | .error why => ⟨.error why, r.notices⟩

instance : Monad Resolution where
  pure := Resolution.pure
  bind := Resolution.bind

/-- A result taken from a value that may be missing. -/
def ofOption {α : Type} (why : Unsupported) : Option α → Resolution α
  | some a => .pure a
  | none => .fail why

/-- A field's schema: `.any` for one that could not be resolved, with a notice. -/
def orAny (field : String) (r : Resolution Schema) : Resolution Schema :=
  match r.result with
  | .ok _ => r
  | .error _ => ⟨.ok .any, r.notices ++ [.unresolvedField field]⟩

end Resolution

/-- The builder calls. -/
inductive Builder where
  /-- A leaf; arguments do not count. -/
  | leaf (schema : Schema)
  /-- Exactly the value of the argument. -/
  | literal
  /-- One of the listed texts. -/
  | enumeration
  /-- An array of the argument. -/
  | array
  /-- An object with the listed fields. -/
  | object
  /-- The argument, or absent. -/
  | optional
  /-- The argument, or null. -/
  | nullable
  /-- A value made on first use: the argument itself. -/
  | lazy

namespace Builder

/-- The builder of a name. -/
def ofName? : String → Option Builder
  | "string" => some (.leaf .string)
  | "number" => some (.leaf .number)
  | "boolean" => some (.leaf .boolean)
  | "bool" => some (.leaf .boolean)
  | "null" => some (.leaf .null)
  | "undefined" => some (.leaf .undefined)
  | "any" => some (.leaf .any)
  | "unknown" => some (.leaf .any)
  | "literal" => some .literal
  | "enumeration" => some .enumeration
  | "array" => some .array
  | "object" => some .object
  | "optional" => some .optional
  | "nullable" => some .nullable
  | "new" => some .lazy
  | _ => none

end Builder

/-- The schema that a combinator makes of another, given the value of its argument. A name that is no combinator is
taken as a refinement, `opaqueNamed`. -/
def combine (name : String) (argument : Json) (inner : Schema) : Schema :=
  match name with
  | "optional" => .optional inner
  | "nullable" => .nullable inner
  | "nullish" => inner.nullish
  | "default" => .default inner argument
  | "catch" => .catching inner argument
  | "coerce" => .coerce inner
  | "clone" | "into" | "to_owned" => inner
  | other => .effects inner (.opaqueNamed other)

namespace Expr

/-- The last word of the path that is called. -/
def calleeName? : Expr → Option String
  | .path _ last _ => some last
  | _ => none

/-- The text of a literal. -/
def textValue? : Expr → Option String
  | .literal _ text => Literal.textValue? text
  | _ => none

/-- The JSON value of a plain literal; anything else is `null`. -/
def literalValue : Expr → Json
  | .literal _ text => Literal.json text
  | .truth _ value => .bool value
  | _ => .null

/-- The value of the first of some arguments; null when there is none. -/
def firstValue : List Expr → Json
  | e :: _ => e.literalValue
  | [] => .null

/-- That an expression is not one of the known forms. -/
def unsupported {α : Type} (e : Expr) : Resolution α := .fail (.expression e.shown)

/-- `textValue?` of each of some literals. -/
def texts : List Expr → Resolution (List String)
  | [] => .pure []
  | e :: rest => do
    let s ← Resolution.ofOption (.expression e.shown) e.textValue?
    pure (s :: (← texts rest))

/-- The texts of an array, possibly behind references. -/
def textList : Expr → Resolution (List String)
  | .array _ elements => texts elements
  | .reference _ inner => textList inner
  | e => unsupported e

mutual

/-- **The schema that an expression constructs.** Parentheses, references, closures and blocks are looked through; a
call is that of a `Builder`, and a method is a combinator, by `combine`. -/
def evaluate : Expr → Resolution Schema
  | .paren _ inner => evaluate inner
  | .reference _ inner => evaluate inner
  | .closure _ _ body => evaluate body
  -- statements in front of the last expression are not looked at
  | .block ts before last =>
    match last with
    | some e => evaluate e
    | none => unsupported (.block ts before none)
  | .call _ callee arguments =>
    match callee.calleeName? with
    | none => unsupported callee
    | some name =>
      match Builder.ofName? name with
      | none => unsupported callee
      | some builder => build name builder arguments
  | .method _ receiver name _ arguments => do
    let inner ← evaluate receiver
    pure (combine name (firstValue arguments) inner)
  | e => unsupported e

/-- The schema of a call of a `Builder` with these arguments; further ones are not looked at. -/
def build (name : String) (builder : Builder) : List Expr → Resolution Schema
  | [] =>
    match builder with
    | .leaf s => pure s
    | .literal => pure (.literal .null)
    | _ => .fail (.missingArgument name)
  -- further arguments are not looked at
  | first :: _ =>
    match builder with
    | .leaf s => pure s
    | .literal => pure (.literal first.literalValue)
    | .enumeration => do pure (.enumeration (← textList first))
    | .array => do pure (.array (← evaluate first))
    | .object => do pure (.object (Members.ofList (← fieldList first)))
    | .optional => do pure (.optional (← evaluate first))
    | .nullable => do pure (.nullable (← evaluate first))
    | .lazy => evaluate first

/-- `fieldsOf` the pairs of a list, possibly behind references and in a list macro. -/
def fieldList : Expr → Resolution (List (String × Schema))
  | .array _ elements => fieldsOf elements
  | .reference _ inner => fieldList inner
  | .paren _ inner => fieldList inner
  | .listMacro _ elements =>
    match elements with
    | some elements => fieldsOf elements
    | none => .fail .brokenList
  | e => unsupported e

/-- The fields of some pairs, each a name and an expression, whose schema is `orAny`. -/
def fieldsOf : List Expr → Resolution (List (String × Schema))
  | [] => pure []
  | element :: rest =>
    match element with
    | .tuple _ [nameExpr, value] => do
      let name ← Resolution.ofOption (.expression nameExpr.shown) nameExpr.textValue?
      -- a field that cannot be told accepts anything, with a notice
      let field ← (evaluate value).orAny name
      pure ((name, field) :: (← fieldsOf rest))
    | _ => unsupported element

end

/-- **The fields of an expression that constructs an object**: `fields?` of what it evaluates to. -/
def objectFields (e : Expr) : Resolution (Members Schema) := do
  let schema ← e.evaluate
  Resolution.ofOption (.notObject e.shown) schema.fields?

mutual

/-- **Whether an expression recognizably constructs an object**, possibly behind lazy initializers and combinators. It
is read off the forms of the expression; nothing is evaluated. -/
def buildsObject : Expr → Bool
  | .paren _ inner => buildsObject inner
  | .reference _ inner => buildsObject inner
  | .closure _ _ body => buildsObject body
  | .block _ _ last =>
    match last with
    | some e => buildsObject e
    | none => false
  | .method _ receiver _ _ _ => buildsObject receiver
  | .call _ callee arguments =>
    match callee.calleeName? with
    | some "object" => true
    -- a lazy initializer constructs what is given to it
    | some "new" => firstBuildsObject arguments
    | _ => false
  | _ => false

/-- Whether the first of some arguments constructs an object. -/
def firstBuildsObject : List Expr → Bool
  | first :: _ => buildsObject first
  | [] => false

end

end Expr

end RouteContracts.Source
