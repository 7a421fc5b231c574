import RouteContracts.Config

/-! # Numeric hosts
Four bytes with dots between them, and eight groups of hex digits with colons between them. The first kind
has many spellings: fewer numbers, of which the last one counts for several bytes, in decimal, octal or
hexadecimal.

* `Address.fourBytes?`, `Address.fourBytesText`: reading and writing the first kind.
* `Address.groups?`, `Address.groupsText`: reading and writing the second kind. -/

namespace RouteContracts.Address

/-- The pieces of a text between occurrences of a character. -/
def splitAt (sep : Char) : List Char → List (List Char)
  | [] => [[]]
  | c :: rest =>
    if c = sep then [] :: splitAt sep rest
    else match splitAt sep rest with
      | p :: ps => (c :: p) :: ps
      | [] => [[c]]

/-! ## Four bytes -/

/-- A number in decimal or, after a mark, in octal or hexadecimal. The mark alone is zero. -/
def number? (s : List Char) : Option Nat :=
  match s with
  | '0' :: 'x' :: rest | '0' :: 'X' :: rest => if rest = [] then some 0 else Config.digitsValue? 16 rest
  | '0' :: c :: rest => Config.digitsValue? 8 (c :: rest)
  | s => Config.digitsValue? 10 s

/-- The pieces between dots; one dot at the end is not counted. -/
def numbersOf (s : List Char) : List (List Char) :=
  match (splitAt '.' s).reverse with
  | [] :: p :: ps => (p :: ps).reverse
  | ps => ps.reverse

/-- Whether a host ends in a number, and so has to be an address. -/
def endsInNumber (s : List Char) : Bool :=
  match (numbersOf s).getLast? with
  | some last => (!last.isEmpty && last.all Char.isDigit) || (number? last).isSome
  | none => false

/-- The address of numbers, of which all but the last one are bytes, after some of them. -/
def combined? (value places : Nat) : List Nat → Option Nat
  | [] => none
  | [n] => if places ≠ 0 ∧ n < 256 ^ places then some (value * 256 ^ places + n) else none
  | n :: rest =>
    match places with
    | 0 => none
    | places + 1 => if n < 256 then combined? (value * 256 + n) places rest else none

/-- **The address of four bytes** that a text denotes, as one number. -/
def fourBytes? (s : List Char) : Option Nat := do
  let numbers ← (numbersOf s).mapM number?
  combined? 0 4 numbers

/-- The text of an address of four bytes. -/
def fourBytesText (n : Nat) : String :=
  ".".intercalate ([n / 16777216, n / 65536 % 256, n / 256 % 256, n % 256].map Nat.repr)

/-! ## Eight groups -/

/-- A group of one to four hex digits. -/
def group? (s : List Char) : Option Nat := if s.length ≤ 4 then Config.digitsValue? 16 s else none

/-- A byte in decimal, without zeros in front. -/
def byte? (s : List Char) : Option Nat :=
  match s with
  | '0' :: _ :: _ => none
  | s => if s.length ≤ 3 then (Config.digitsValue? 10 s).filter (· < 256) else none

/-- The two groups of four bytes with dots between them. -/
def bytesAsGroups? (s : List Char) : Option (List Nat) :=
  match (splitAt '.' s).mapM byte? with
  | some [a, b, c, d] => some [a * 256 + b, c * 256 + d]
  | _ => none

/-- The groups of pieces; the last one can be written as bytes. -/
def groupsOf? : List (List Char) → Option (List Nat)
  | [] => some []
  | [last] => if last.contains '.' then bytesAsGroups? last else (group? last).map fun g => [g]
  | p :: rest => do
    let g ← group? p
    let more ← groupsOf? rest
    some (g :: more)

/-- The two sides of the first two colons that follow each other. -/
def atGap? : List Char → Option (List Char × List Char)
  | [] => none
  | ':' :: ':' :: rest => some ([], rest)
  | c :: rest => (atGap? rest).map fun sides => (c :: sides.1, sides.2)

/-- The groups on one side of a gap. -/
def sideGroups? (s : List Char) : Option (List Nat) := if s = [] then some [] else groupsOf? (splitAt ':' s)

/-- **The eight groups** that a text denotes. Two colons stand for as many zeros as are missing, at least
one. -/
def groups? (s : List Char) : Option (List Nat) :=
  match atGap? s with
  | none => (groupsOf? (splitAt ':' s)).filter fun gs => gs.length == 8
  | some (before, after) => do
    if before.contains '.' then none
    else
      let front ← sideGroups? before
      let back ← sideGroups? after
      let given := front.length + back.length
      if given ≤ 7 then some (front ++ List.replicate (8 - given) 0 ++ back) else none

/-- How many zeros a list begins with. -/
def zerosInFront (gs : List Nat) : Nat := (gs.takeWhile (· = 0)).length

/-- The place and the length of the first of the longest stretches of zeros. -/
def longestZeros : Nat → List Nat → Nat × Nat
  | _, [] => (0, 0)
  | place, g :: rest =>
    let here := zerosInFront (g :: rest)
    let later := longestZeros (place + 1) rest
    if later.2 ≤ here then (place, here) else later

/-- The text of groups, without a gap. -/
def plainGroups (gs : List Nat) : String := ":".intercalate (gs.map fun g => String.ofList (Nat.toDigits 16 g))

/-- **The text of eight groups**: the first of the longest stretches of two or more zeros is left out. -/
def groupsText (gs : List Nat) : String :=
  let (place, length) := longestZeros 0 gs
  if length < 2 then plainGroups gs
  else plainGroups (gs.take place) ++ "::" ++ plainGroups (gs.drop (place + length))

end RouteContracts.Address
