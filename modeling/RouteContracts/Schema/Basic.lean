import RouteContracts.Json.Value

/-! # Schemas
A schema says which JSON values, present or absent, an endpoint accepts. Six of the constructors are
**layers** around an inner schema: they decide about absence, fallbacks, refinements and conversion,
and have no structure of their own.

* `Schema.inner?`, `Schema.base`: one layer down, and down through all of them.
* `Schema.isOptional`, `Schema.isArray`, `Schema.isBoolean`, `Schema.fields?`: what a schema is.
* `Refinement.holds`: a refinement without a predicate always holds. -/

namespace RouteContracts

/-- A named condition on a value that the schema below has already accepted. -/
structure Refinement where
  /-- The combinator that the condition came from. -/
  name : String
  /-- What is reported when the condition fails. -/
  message : String
  /-- The condition; `none` when only its name is known. -/
  check : Option (Json → Bool)
deriving Inhabited

namespace Refinement

/-- A refinement of which only the name is known: `holds` is true of every value. -/
def opaqueNamed (name : String) : Refinement := ⟨name, "Failed \x60" ++ name ++ "\x60 check", none⟩

/-- A refinement with a condition and the message for its failure. -/
def of (message : String) (check : Json → Bool) : Refinement := ⟨"refine", message, some check⟩

/-- `r.check value`, and true where only the name is known. -/
def holds (r : Refinement) (value : Json) : Bool := r.check.elim true (· value)

@[simp] theorem holds_opaqueNamed (name : String) (value : Json) :
    (opaqueNamed name).holds value = true := rfl

end Refinement

/-- What an endpoint accepts as a value, present or absent. -/
inductive Schema where
  /-- Any text. -/
  | string
  /-- Any number. -/
  | number
  /-- A truth value. -/
  | boolean
  /-- The value `null`. -/
  | null
  /-- No value. -/
  | undefined
  /-- Any value, or none. -/
  | any
  /-- Exactly one value. -/
  | literal (value : Json)
  /-- One of some texts. -/
  | enumeration (options : List String)
  /-- An object with these fields; other names are dropped. -/
  | object (fields : List (String × Schema))
  /-- An array whose items all fit one schema. -/
  | array (element : Schema)
  /-- A layer: or no value. -/
  | optional (inner : Schema)
  /-- A layer: or `null`. -/
  | nullable (inner : Schema)
  /-- A layer: an absent value is replaced first. -/
  | default (inner : Schema) (value : Json)
  /-- A layer: any failure is replaced. -/
  | catching (inner : Schema) (value : Json)
  /-- A layer: a further condition. -/
  | effects (inner : Schema) (refinement : Refinement)
  /-- A layer: texts are converted to the base's kind first. -/
  | coerce (inner : Schema)
deriving Inhabited

namespace Schema

/-- The schema with which a value may be absent or `null`. -/
def nullish (s : Schema) : Schema := .optional (.nullable s)

/-- The schema under one layer. -/
def inner? : Schema → Option Schema
  | .optional s | .nullable s | .default s _ | .catching s _ | .effects s _ | .coerce s => some s
  | _ => none

/-- The schema under all layers: `inner?` as often as there is one. -/
def base : Schema → Schema
  | .optional s | .nullable s | .default s _ | .catching s _ | .effects s _ | .coerce s => s.base
  | s => s

/-- Whether the base is an array. -/
def isArray (s : Schema) : Bool :=
  match s.base with
  | .array _ => true
  | _ => false

/-- Whether the base is a truth value. -/
def isBoolean (s : Schema) : Bool :=
  match s.base with
  | .boolean => true
  | _ => false

/-- Whether an absent value is accepted, as far as the layers and the base tell: under `.optional`, `.default` and
`.catching`, and for `.any` and `.undefined`. -/
def isOptional : Schema → Bool
  | .optional _ | .default _ _ | .catching _ _ | .any | .undefined => true
  | .nullable s | .effects s _ | .coerce s => s.isOptional
  | _ => false

/-- The fields of the `base`, when it is an `.object`. -/
def fields? (s : Schema) : Option (Members Schema) :=
  match s.base with
  | .object fields => some fields
  | _ => none

@[simp] theorem base_optional (s : Schema) : (Schema.optional s).base = s.base := rfl
@[simp] theorem base_nullable (s : Schema) : (Schema.nullable s).base = s.base := rfl
@[simp] theorem base_default (s : Schema) (v : Json) : (Schema.default s v).base = s.base := rfl
@[simp] theorem base_catching (s : Schema) (v : Json) : (Schema.catching s v).base = s.base := rfl
@[simp] theorem base_effects (s : Schema) (r : Refinement) : (Schema.effects s r).base = s.base := rfl
@[simp] theorem base_coerce (s : Schema) : (Schema.coerce s).base = s.base := rfl

end Schema

end RouteContracts
