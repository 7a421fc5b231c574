/-! # Paths
A path is kept as it was written. Its meaning is its list of **components**: repeated and trailing
slashes and all `.` but a leading one disappear, `..` stays.

* `Path.components`, `Path.ofComponents`: between a path and its components.
* `Path.same`, `Path.before`: equality and order by components.
* `Path.join`, `Path.parent?`, `Path.fileName?`, `Path.within?`, `Path.withoutDots`: the operations. -/

namespace RouteContracts

/-- One component of a path. -/
inductive Component where
  /-- The slash at the front of an absolute path. -/
  | root
  /-- A leading `.`. -/
  | current
  /-- A `..`. -/
  | parent
  /-- A name, whose bytes are UTF-8. -/
  | normal (name : String)
deriving DecidableEq, Repr, Inhabited

namespace Component

/-- The text of a component. -/
def text : Component → String
  | .root => "/"
  | .current => "."
  | .parent => ".."
  | .normal name => name

/-- The place of a component's kind in the order of paths. -/
def kindOrder : Component → Nat
  | .root => 0
  | .current => 1
  | .parent => 2
  | .normal _ => 3

/-- The order of components: by `kindOrder`, and names by their characters. -/
def compare : Component → Component → Ordering
  | .normal a, .normal b => Ord.compare a b
  | a, b => Ord.compare a.kindOrder b.kindOrder

end Component

/-- A path of a file system, as it was written. The names of files can be other bytes than UTF-8 on some systems; such
names are in no `Path`. -/
structure Path where
  /-- The text, whose bytes are those of the path. -/
  text : String
deriving DecidableEq, Repr, Inhabited

namespace Path

/-- The pieces of a text between slashes. -/
def pieces : List Char → List (List Char)
  | [] => [[]]
  | '/' :: rest => [] :: pieces rest
  | c :: rest =>
    match pieces rest with
    | p :: ps => (c :: p) :: ps
    | [] => [[c]]

/-- Whether a path starts at the root. -/
def isAbsolute (p : Path) : Bool := p.text.toList.head? == some '/'

/-- The component of a piece that is not at the front; empty pieces and `.` give none. -/
def componentOf? (piece : List Char) : Option Component :=
  if piece = [] ∨ piece = ['.'] then none
  else if piece = ['.', '.'] then some .parent
  else some (.normal (String.ofList piece))

/-- **The components of a path**: `.root` for a slash at the front, `.current` for a `.` there, and `componentOf?` of
the other pieces. -/
def components (p : Path) : List Component :=
  let ps := pieces p.text.toList
  if p.isAbsolute then .root :: ps.filterMap componentOf?
  else match ps with
    | ['.'] :: rest => .current :: rest.filterMap componentOf?
    | _ => ps.filterMap componentOf?

/-- The path of a list of components. -/
def ofComponents : List Component → Path
  | .root :: rest => ⟨"/" ++ "/".intercalate (rest.map Component.text)⟩
  | cs => ⟨"/".intercalate (cs.map Component.text)⟩

/-- Equality of paths: by their `components`. -/
def same (p q : Path) : Bool := p.components == q.components

/-- Order of component lists, by `Component.compare` of the first two that differ. -/
def compareComponents : List Component → List Component → Ordering
  | [], [] => .eq
  | [], _ :: _ => .lt
  | _ :: _, [] => .gt
  | a :: as, b :: bs => (a.compare b).then (compareComponents as bs)

/-- Whether a path comes before another one or is equal to it, by `compareComponents`. -/
def before (p q : Path) : Bool := compareComponents p.components q.components != .gt

/-- `q` below `p`, with a slash between them where it is needed; an absolute `q` is itself. -/
def join (p q : Path) : Path :=
  if q.isAbsolute then q
  else if p.text.isEmpty then q
  else if p.text.toList.getLast? = some '/' then ⟨p.text ++ q.text⟩
  else ⟨p.text ++ "/" ++ q.text⟩

/-- The name of the last component, when it is a `.normal` one. -/
def fileName? (p : Path) : Option String :=
  match p.components.getLast? with
  | some (.normal name) => some name
  | _ => none

/-- Whether a piece that is not at the front gives no component. -/
def isVoid (piece : List Char) : Bool := piece == [] || piece == ['.']

/-- The pieces in front of the last one that is not `isVoid`, as they are written. -/
def piecesBefore (ps : List (List Char)) : List (List Char) :=
  (((ps.reverse.dropWhile isVoid).drop 1).dropWhile isVoid).reverse

/-- A text of pieces with slashes between them. -/
def joinPieces (ps : List (List Char)) : String := String.ofList (['/'].intercalate ps)

/-- **The path without its last component**, as it is written, by `piecesBefore`; the root and the empty path have
none. -/
def parent? (p : Path) : Option Path :=
  match pieces p.text.toList with
  | [] => none
  | first :: rest =>
    if p.isAbsolute then
      if rest.all isVoid then none else some ⟨"/" ++ joinPieces (piecesBefore rest)⟩
    else if first = [] then none
    else if rest.all isVoid then some ⟨""⟩
    else some ⟨joinPieces (first :: piecesBefore rest)⟩

/-- `as` without `bs` at its front: what follows a list of components at the front of another. -/
def afterComponents? : List Component → List Component → Option (List Component)
  | [], cs => some cs
  | _ :: _, [] => none
  | a :: as, b :: bs => if a = b then afterComponents? as bs else none

/-- The path relative to a directory whose `components` are at its front. -/
def within? (p dir : Path) : Option Path :=
  (afterComponents? dir.components p.components).map ofComponents

/-- The path of its `components` other than `.current`, written plainly. -/
def withoutDots (p : Path) : Path := ofComponents (p.components.filter (· ≠ .current))

end Path

end RouteContracts
