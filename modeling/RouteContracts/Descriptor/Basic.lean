import RouteContracts.Schema.Basic

/-! # Descriptors
A descriptor is the shape of a schema without its refinements, defaults and fallbacks: what a registry
stores and an artifact turns into types. Inside an object the names that may be absent are collected
beside the fields, and the fields are stored without that layer.

* `Schema.toDescriptor`: the shape of a schema. It never fails; an unknown shape is `undefined`.
* `Descriptor.base`, `Descriptor.asObject?`: through the absence layers.
* `Descriptor.same`: equality, for which the order of fields does not count.
* `ObjectShape.queryViolations`: the fields that a query string cannot carry. -/

namespace RouteContracts

/-- The kind of a leaf. -/
inductive Primitive where
  | string
  | number
  | boolean
  | null
  /-- Unknown, or absent. -/
  | undefined
deriving DecidableEq, Repr, Inhabited

/-- The word for a leaf kind. -/
def Primitive.word : Primitive → String
  | .string => "string"
  | .number => "number"
  | .boolean => "boolean"
  | .null => "null"
  | .undefined => "undefined"

/-- Every leaf kind. -/
def Primitive.all : List Primitive := [.string, .number, .boolean, .null, .undefined]

/-- The leaf kind of a word. -/
def Primitive.ofWord? (w : String) : Option Primitive := Primitive.all.find? fun p => p.word == w

@[simp] theorem Primitive.ofWord?_word (p : Primitive) : Primitive.ofWord? p.word = some p := by
  cases p <;> rfl

/-- A set of names, kept as an ascending list. -/
abbrev NameSet := List String

/-- Adds a name to a set. -/
def NameSet.insert (name : String) : NameSet → NameSet
  | [] => [name]
  | n :: rest =>
    if name < n then name :: n :: rest
    else if name = n then n :: rest
    else n :: NameSet.insert name rest

/-- The set of the names in a list. -/
def NameSet.ofList (names : List String) : NameSet := names.foldl (fun s n => NameSet.insert n s) []

/-- The shape of a value. -/
inductive Descriptor where
  /-- A leaf. -/
  | primitive (of : Primitive)
  /-- An object: its fields in order, and the names among them that may be absent. -/
  | object (fields : List (String × Descriptor)) (optional : NameSet)
  /-- An array. -/
  | array (element : Descriptor)
  /-- May be absent. -/
  | optional (inner : Descriptor)
  /-- May be `null`. -/
  | nullable (inner : Descriptor)
deriving Inhabited

/-- The fields of an object descriptor and the names that may be absent. -/
structure ObjectShape where
  /-- The fields in order. -/
  fields : Members Descriptor
  /-- The names that may be absent. -/
  optional : NameSet
deriving Inhabited

namespace Descriptor

/-- The shape under `.optional` and `.nullable`. -/
def base : Descriptor → Descriptor
  | .optional d | .nullable d => d.base
  | d => d

/-- Whether the base is an array. -/
def isArray (d : Descriptor) : Bool :=
  match d.base with
  | .array _ => true
  | _ => false

/-- Whether the base is a truth value. -/
def isBoolean (d : Descriptor) : Bool :=
  match d.base with
  | .primitive .boolean => true
  | _ => false

/-- The fields and the names of `.object` at the base, when it is one. -/
def asObject? (d : Descriptor) : Option ObjectShape :=
  match d.base with
  | .object fields omittable => some ⟨fields, omittable⟩
  | _ => none

mutual

/-- **Equality of descriptors**: the order of an object's fields does not count, by `fieldsWithin`. -/
def same : Descriptor → Descriptor → Bool
  | .primitive a, .primitive b => a == b
  | .object fs os, .object gs ps => fs.length == gs.length && fieldsWithin fs gs && os == ps
  | .array a, .array b => same a b
  | .optional a, .optional b => same a b
  | .nullable a, .nullable b => same a b
  | _, _ => false

/-- Whether each field stands among the others, with a descriptor that is the `same`. -/
def fieldsWithin : List (String × Descriptor) → Members Descriptor → Bool
  | [], _ => true
  | (name, d) :: rest, others =>
    (match Members.get? name others with
      | some other => same d other
      | none => false) && fieldsWithin rest others

end

/-- Takes `.optional` off a field's descriptor, also from below one `.nullable`; tells whether there was one. -/
def splitAbsence : Descriptor → Bool × Descriptor
  | .optional d => (true, d)
  | .nullable (.optional d) => (true, .nullable d)
  | d => (false, d)

@[simp] theorem base_optional (d : Descriptor) : (Descriptor.optional d).base = d.base := rfl
@[simp] theorem base_nullable (d : Descriptor) : (Descriptor.nullable d).base = d.base := rfl

end Descriptor

mutual

/-- **The shape of a schema.** `.effects` and `.coerce` keep the shape of what is inside; `.default` and `.catching` are
`.optional`, as a value stands in for what is absent. -/
def Schema.toDescriptor : Schema → Descriptor
  -- what is refined or coerced keeps its shape
  | .effects inner _ | .coerce inner => inner.toDescriptor
  -- a value stands in for what is absent, so it may be absent
  | .optional inner | .default inner _ | .catching inner _ => .optional inner.toDescriptor
  | .nullable inner => .nullable inner.toDescriptor
  | .string => .primitive .string
  | .number => .primitive .number
  | .boolean => .primitive .boolean
  | .null => .primitive .null
  | .undefined => .primitive .undefined
  | .array element => .array element.toDescriptor
  | .object fields =>
    let split := Schema.fieldShapes fields
    .object (split.map fun f => (f.1, f.2.2))
      (NameSet.ofList ((split.filter fun f => f.2.1).map Prod.fst))
  -- no shape of their own
  | .any | .literal _ | .enumeration _ => .primitive .undefined

/-- `toDescriptor` of each field, its absence layer taken off by `splitAbsence`, and whether it had one. -/
def Schema.fieldShapes : List (String × Schema) → List (String × Bool × Descriptor)
  | [] => []
  | (name, field) :: rest =>
    (name, field.toDescriptor.splitAbsence) :: Schema.fieldShapes rest

end

namespace ObjectShape

/-- The descriptor of the object. -/
def toDescriptor (o : ObjectShape) : Descriptor := .object o.fields o.optional

/-- Whether a field may be absent. -/
def isOptional (o : ObjectShape) (name : String) : Bool := o.optional.contains name

/-- Whether the object has no fields. -/
def isEmpty (o : ObjectShape) : Bool := o.fields.isEmpty

end ObjectShape

namespace Descriptor

/-- Whether a query string can carry the value as one text: a text, a number or a truth value at the base. -/
def isQueryLeaf (d : Descriptor) : Bool :=
  match d.base with
  | .primitive .string | .primitive .number | .primitive .boolean => true
  | _ => false

/-- Whether a query string can carry the value: `isQueryLeaf`, or an array of such, by repeating the name. -/
def isQueryCompatible (d : Descriptor) : Bool :=
  match d.base with
  | .array element => element.isQueryLeaf
  | leaf => leaf.isQueryLeaf

end Descriptor

/-- The names of the fields that are not `isQueryCompatible`. -/
def ObjectShape.queryViolations (o : ObjectShape) : List String :=
  (o.fields.filter fun f => !f.2.isQueryCompatible).map Prod.fst

end RouteContracts
