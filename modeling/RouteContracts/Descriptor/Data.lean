import RouteContracts.Descriptor.Basic

/-! # Typed data
A typed client holds the value of a descriptor in types of its own: every number is a double, a field
that may be absent is left out when it has no value, and unknown names are dropped. Reading a JSON value
into those types and writing it again gives its **normal form**.

* `Descriptor.normal?`: the normal form, when the types can hold the value. -/

namespace RouteContracts.Descriptor

/-- Whether the type of a descriptor can hold the absence of a value. -/
def holdsNothing : Descriptor → Bool
  | .optional _ | .nullable _ => true
  | _ => false

/-- The normal form of a value that has no parts. -/
def normalLeaf? : Primitive → Json → Option Json
  | .string, .string s => some (.string s)
  | .number, .number n => some (.number (.float n.toBinary64))
  | .boolean, .bool b => some (.bool b)
  | .null, .null => some .null
  | .undefined, v => some v
  | _, _ => none

/-- The member that a field of an object writes. `omittable` fields are left out without a value, other
ones write `null` then, if their type can hold that. -/
def fieldMember? (omittable : Bool) (name : String) (d : Descriptor)
    (normal : Json → Option Json) : Option Json → Option (Members Json)
  | none => if omittable then some [] else if d.holdsNothing then some [(name, .null)] else none
  | some .null => if omittable then some [] else (normal .null).map fun v => [(name, v)]
  | some v => (normal v).map fun v => [(name, v)]

mutual

/-- **The normal form of a value** in the types of a descriptor: what is left when the value is read in these types and
written again. -/
def normal? : Descriptor → Json → Option Json
  | .primitive p, v => normalLeaf? p v
  | .optional inner, v | .nullable inner, v => if v.isNull then some .null else normal? inner v
  | .array element, v =>
    match v with
    | .array items => (items.mapM fun item => normal? element item).map .array
    | _ => none
  | .object fields omittable, v =>
    match v with
    | .object members => (normalMembers? omittable members fields).map .object
    -- items are taken for the fields, in order
    | .array items => (normalItems? omittable fields items).map .object
    | _ => none

/-- The normal form of an object's members, in the order of the fields. -/
def normalMembers? (omittable : NameSet) (members : Members Json) :
    List (String × Descriptor) → Option (Members Json)
  | [] => some []
  | (name, d) :: rest => do
    let here ← fieldMember? (omittable.contains name) name d (normal? d) (Members.get? name members)
    some (here ++ (← normalMembers? omittable members rest))

/-- The normal form of an object that is given as an array of its fields in order. Only fields that may
be left out may be missing at the end. -/
def normalItems? (omittable : NameSet) :
    List (String × Descriptor) → List Json → Option (Members Json)
  | [], [] => some []
  | [], _ :: _ => none
  | (name, _) :: rest, [] => if omittable.contains name then normalItems? omittable rest [] else none
  | (name, d) :: rest, item :: items => do
    let here ← fieldMember? (omittable.contains name) name d (normal? d) (some item)
    some (here ++ (← normalItems? omittable rest items))

end

end RouteContracts.Descriptor
