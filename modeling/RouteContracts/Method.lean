/-! # Request methods
The six methods an endpoint may serve, in the order in which artifacts list them, and tables that hold
at most one entry per method.

* `Method.ofToken?`, `Method.token`: the upper-case token of a method.
* `PerMethod`: a value for some of the methods; its list view is always in method order. -/

namespace RouteContracts

/-- A request method that an endpoint can serve. -/
inductive Method where
  | get
  | post
  | patch
  | put
  | delete
  | options
deriving DecidableEq, Repr, Inhabited

namespace Method

/-- Every method, in artifact order. -/
def all : List Method := [.get, .post, .patch, .put, .delete, .options]

theorem mem_all (m : Method) : m ∈ all := by cases m <;> decide

/-- The upper-case token of a method. -/
def token : Method → String
  | .get => "GET"
  | .post => "POST"
  | .patch => "PATCH"
  | .put => "PUT"
  | .delete => "DELETE"
  | .options => "OPTIONS"

/-- The method with the upper-case token `t`. -/
def ofToken? (t : String) : Option Method := all.find? fun m => m.token == t

/-- Whether requests of this method may carry a body. -/
def carriesBody : Method → Bool
  | .get => false
  | .options => false
  | _ => true

/-- The place of a method in artifact order. -/
def position : Method → Nat
  | .get => 0
  | .post => 1
  | .patch => 2
  | .put => 3
  | .delete => 4
  | .options => 5

/-- The name of the artifact module that holds a method's endpoints. -/
def moduleName : Method → String
  | .get => "get"
  | .post => "post"
  | .patch => "patch"
  | .put => "put"
  | .delete => "delete"
  | .options => "options"

/-- The name of a method's variant in artifacts. -/
def variantName : Method → String
  | .get => "Get"
  | .post => "Post"
  | .patch => "Patch"
  | .put => "Put"
  | .delete => "Delete"
  | .options => "Options"

@[simp] theorem ofToken?_token (m : Method) : ofToken? m.token = some m := by cases m <;> rfl

theorem token_of_ofToken? {t : String} {m : Method} (h : ofToken? t = some m) : m.token = t := by
  have := List.find?_some h
  simpa using this

end Method

/-- A value for some of the methods. -/
structure PerMethod (α : Type) where
  /-- The value of each method that has one. -/
  entry : Method → Option α

namespace PerMethod

variable {α β : Type}

/-- No method has a value. -/
def empty : PerMethod α := ⟨fun _ => none⟩

instance : Inhabited (PerMethod α) := ⟨empty⟩

/-- The value of a method. -/
def get? (table : PerMethod α) (m : Method) : Option α := table.entry m

/-- Gives `m` a value, in place of the one it had. -/
def insert (table : PerMethod α) (m : Method) (value : α) : PerMethod α :=
  ⟨fun n => if n = m then some value else table.entry n⟩

/-- Applies a function to every value. -/
def map (f : Method → α → β) (table : PerMethod α) : PerMethod β :=
  ⟨fun m => (table.entry m).map (f m)⟩

/-- The methods that have a value, in the order of `Method.all`, each with its value. -/
def toList (table : PerMethod α) : List (Method × α) :=
  Method.all.filterMap fun m => (table.entry m).map (m, ·)

/-- The table that `insert` makes of a list; of two values for a method the later one stays. -/
def ofList (pairs : List (Method × α)) : PerMethod α :=
  pairs.foldl (fun table p => table.insert p.1 p.2) empty

/-- Equality of tables by an equality of values: the same methods, with `eq` values. -/
def same (eq : α → α → Bool) (a b : PerMethod α) : Bool :=
  Method.all.all fun m =>
    match a.entry m, b.entry m with
    | none, none => true
    | some x, some y => eq x y
    | _, _ => false

@[ext] theorem ext {a b : PerMethod α} (h : ∀ m, a.get? m = b.get? m) : a = b := by
  cases a; cases b; simp only [mk.injEq]; exact funext h

@[simp] theorem get?_empty (m : Method) : (empty : PerMethod α).get? m = none := rfl

@[simp] theorem get?_insert (table : PerMethod α) (m n : Method) (value : α) :
    (table.insert m value).get? n = if n = m then some value else table.get? n := rfl

theorem mem_toList {table : PerMethod α} {m : Method} {value : α} :
    (m, value) ∈ table.toList ↔ table.get? m = some value := by
  simp only [toList, List.mem_filterMap, Option.map_eq_some_iff, Prod.mk.injEq, get?]
  constructor
  · rintro ⟨n, _, v, hv, rfl, rfl⟩; exact hv
  · exact fun h => ⟨m, Method.mem_all m, value, h, rfl, rfl⟩

end PerMethod

end RouteContracts
