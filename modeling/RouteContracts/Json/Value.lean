import RouteContracts.Json.Number

/-! # JSON values
Objects keep their members in the order in which the names first arrived, and hold each name once.

* `Json.get?`, `Members.insert`: look-up, and insertion that keeps the place of a present name.
* `Json.same`: equality of values. The order of an object's members does not count; the kind of a
  number does.
* `Json.kind`: the word for a value's kind. -/

namespace RouteContracts

/-- A JSON value. -/
inductive Json where
  /-- The value `null`. -/
  | null
  /-- A truth value. -/
  | bool (value : Bool)
  /-- A number. -/
  | number (value : Json.Number)
  /-- A text. -/
  | string (value : String)
  /-- A list of values. -/
  | array (items : List Json)
  /-- Named values, in the order in which the names arrived. -/
  | object (members : List (String × Json))
deriving Inhabited

/-- Named values, in the order in which the names arrived. -/
abbrev Members (α : Type) := List (String × α)

namespace Members

variable {α : Type}

/-- The value under a name. -/
def get? (name : String) : Members α → Option α
  | [] => none
  | (key, value) :: rest => if key = name then some value else get? name rest

/-- Sets the value under a name: a present name keeps its place, a new one goes to the end. -/
def insert (name : String) (value : α) : Members α → Members α
  | [] => [(name, value)]
  | (key, old) :: rest =>
    if key = name then (key, value) :: rest else (key, old) :: insert name value rest

/-- Removes a name: the last member takes its place. -/
def erase (name : String) : Members α → Members α
  | [] => []
  | (key, value) :: rest =>
    if key = name then rest.getLast?.toList ++ rest.dropLast else (key, value) :: erase name rest

/-- The names, in order. -/
def names (members : Members α) : List String := members.map Prod.fst

/-- The members of a list in which a name may come again: first place, last value. -/
def ofList (pairs : List (String × α)) : Members α :=
  pairs.foldl (fun members m => insert m.1 m.2 members) []

@[simp] theorem get?_nil (name : String) : get? name ([] : Members α) = none := rfl

theorem get?_insert_self (name : String) (value : α) (members : Members α) :
    get? name (insert name value members) = some value := by
  induction members with
  | nil => simp [insert, get?]
  | cons m rest ih =>
    obtain ⟨key, old⟩ := m
    by_cases h : key = name <;> simp [insert, get?, h, ih]

theorem get?_insert_of_ne {name other : String} (value : α) (members : Members α)
    (h : other ≠ name) : get? other (insert name value members) = get? other members := by
  induction members with
  | nil => simp [insert, get?, Ne.symm h]
  | cons m rest ih =>
    obtain ⟨key, old⟩ := m
    by_cases hk : key = name
    · subst hk; simp [insert, get?, Ne.symm h]
    · by_cases ho : key = other
      · subst ho; simp [insert, get?, hk]
      · simp [insert, get?, hk, ho, ih]

end Members

namespace Json

/-- The word for the kind of a value. -/
def kind : Json → String
  | .null => "null"
  | .bool _ => "boolean"
  | .number _ => "number"
  | .string _ => "string"
  | .array _ => "array"
  | .object _ => "object"

/-- The member under a name, when the value is an object that has it. -/
def get? (name : String) : Json → Option Json
  | .object members => Members.get? name members
  | _ => none

/-- The truth value, when the value is one. -/
def asBool? : Json → Option Bool
  | .bool b => some b
  | _ => none

/-- The text, when the value is one. -/
def asString? : Json → Option String
  | .string s => some s
  | _ => none

/-- The number, when the value is one. -/
def asNumber? : Json → Option Number
  | .number n => some n
  | _ => none

/-- The integer, when the value is an integer number. -/
def asInt? : Json → Option Int
  | .number (.int i _) => some i
  | _ => none

/-- The items, when the value is an array. -/
def asArray? : Json → Option (List Json)
  | .array items => some items
  | _ => none

/-- The members, when the value is an object. -/
def asObject? : Json → Option (Members Json)
  | .object members => some members
  | _ => none

/-- Whether the value is `null`. -/
def isNull : Json → Bool
  | .null => true
  | _ => false

mutual

/-- **Equality of values**: objects are equal when they have the same names with equal values, in any
order. -/
def same : Json → Json → Bool
  | .null, .null => true
  | .bool a, .bool b => a == b
  | .number a, .number b => a.same b
  | .string a, .string b => a == b
  | .array as, .array bs => sameItems as bs
  | .object ms, .object ns => ms.length == ns.length && membersWithin ms ns
  | _, _ => false

/-- Item by item equality. -/
def sameItems : List Json → List Json → Bool
  | [], [] => true
  | a :: as, b :: bs => same a b && sameItems as bs
  | _, _ => false

/-- Whether each member stands, with an equal value, among the others. -/
def membersWithin : List (String × Json) → Members Json → Bool
  | [], _ => true
  | (name, value) :: rest, others =>
    (match Members.get? name others with
      | some other => same value other
      | none => false) && membersWithin rest others

end

/-- A natural number as a value; beyond 64 bits there is none. -/
def ofNat (n : Nat) : Json := (Number.ofInt? n).elim .null .number

end Json

end RouteContracts
