import RouteContracts.Descriptor.Basic

/-! # Descriptors as JSON
A descriptor is written as an object whose `kind` names its constructor. Reading is more lenient than
writing: unknown names are ignored, and each node may be an array of its parts in order, the kind first.

* `Descriptor.toJson`: the written form.
* `Descriptor.ofJson?`: reading. The kind of a node below the top may also be its number. -/

namespace RouteContracts

namespace Descriptor

/-- A leaf as JSON. -/
def primitiveJson (p : Primitive) : Json :=
  .object [("kind", .string "primitive"), ("of", .string p.word)]

mutual

/-- **The JSON form of a descriptor**: an object with its `kind`, and with the parts of that kind under their names. -/
def toJson : Descriptor → Json
  | .primitive p => primitiveJson p
  | .object fields omittable =>
    .object [("kind", .string "object"), ("fields", .object (fieldsToJson fields)),
      ("optional", .array (omittable.map .string))]
  | .array element => .object [("kind", .string "array"), ("element", element.toJson)]
  | .optional inner => .object [("kind", .string "optional"), ("inner", inner.toJson)]
  | .nullable inner => .object [("kind", .string "nullable"), ("inner", inner.toJson)]

/-- The JSON forms of fields, under their names. -/
def fieldsToJson : List (String × Descriptor) → List (String × Json)
  | [] => []
  | (name, d) :: rest => (name, d.toJson) :: fieldsToJson rest

end

/-- The constructors of a descriptor. -/
inductive Kind where
  | primitive
  | object
  | array
  | optional
  | nullable
deriving DecidableEq, Repr

/-- The word for a constructor. -/
def Kind.word : Kind → String
  | .primitive => "primitive"
  | .object => "object"
  | .array => "array"
  | .optional => "optional"
  | .nullable => "nullable"

/-- Every constructor, in order of their numbers. -/
def Kind.all : List Kind := [.primitive, .object, .array, .optional, .nullable]

/-- The constructor that a `kind` names; by its number only where `numbered` allows it. -/
def Kind.ofJson? (numbered : Bool) : Json → Option Kind
  | .string s => Kind.all.find? fun k => k.word == s
  | .number (.int i _) => if numbered ∧ 0 ≤ i then Kind.all[i.toNat]? else none
  | _ => none

/-- Whether a value stands for nothing: `null` or an empty object. -/
def isUnit : Json → Bool
  | .null => true
  | .object [] => true
  | _ => false

/-- `Primitive.ofWord?` of a text, or of the only name of an object whose value `isUnit`. -/
def primitiveOfJson? : Json → Option Primitive
  | .string s => Primitive.ofWord? s
  | .object [(s, v)] => if isUnit v then Primitive.ofWord? s else none
  | _ => none

/-- A set of names from an array of texts. -/
def namesOfJson? : Json → Option NameSet
  | .array items => (items.mapM Json.asString?).map NameSet.ofList
  | _ => none

mutual

/-- **The descriptor of a JSON value**: an object whose `kind` is a `Kind`, with the parts that it has. The kind inside
of others may be given by its number, and that outside of all where `numbered`. -/
def ofJson? (numbered : Bool) : Json → Option Descriptor
  | .object members => do
    let kind ← Kind.ofJson? numbered (← Members.get? "kind" members)
    match kind with
    | .primitive => (Members.get? "of" members).bind primitiveOfJson? |>.map .primitive
    | .array => (memberOfJson? "element" members).map .array
    | .optional => (memberOfJson? "inner" members).map .optional
    | .nullable => (memberOfJson? "inner" members).map .nullable
    | .object =>
      some (.object (← fieldsMemberOfJson? members) (← (Members.get? "optional" members).bind namesOfJson?))
  -- the same as a list: the kind, and its parts in order
  | .array (tag :: parts) => do
    match ← Kind.ofJson? numbered tag, parts with
    | .primitive, [of] => (primitiveOfJson? of).map .primitive
    | .array, [element] => (ofJson? true element).map .array
    | .optional, [inner] => (ofJson? true inner).map .optional
    | .nullable, [inner] => (ofJson? true inner).map .nullable
    | .object, [.object fields, omittable] =>
      some (.object (← fieldsOfJson? fields) (← namesOfJson? omittable))
    | _, _ => none
  | _ => none

/-- The descriptor under one name. -/
def memberOfJson? (name : String) : List (String × Json) → Option Descriptor
  | [] => none
  | (key, value) :: rest => if key = name then ofJson? true value else memberOfJson? name rest

/-- The fields under the name `fields`. -/
def fieldsMemberOfJson? : List (String × Json) → Option (Members Descriptor)
  | [] => none
  | (key, value) :: rest =>
    if key = "fields" then
      match value with
      | .object fields => fieldsOfJson? fields
      | _ => none
    else fieldsMemberOfJson? rest

/-- The descriptors of fields. -/
def fieldsOfJson? : List (String × Json) → Option (Members Descriptor)
  | [] => some []
  | (name, value) :: rest => do some ((name, ← ofJson? true value) :: (← fieldsOfJson? rest))

end

end Descriptor

end RouteContracts
