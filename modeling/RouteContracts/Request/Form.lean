import RouteContracts.Text.Utf8

/-! # Form-encoded queries
Names and values as `name=value` pairs joined with `&`: letters, digits and four marks stand for
themselves, a space is written `+`, every other byte as `%` and two upper-case hex digits.

* `Form.encode`, `Form.encodePairs`: writing.
* `Form.decode`, `Form.decodePairs`: reading, which accepts any text. -/

namespace RouteContracts.Form

/-- Whether a byte stands for itself. -/
def isPlain (b : UInt8) : Bool :=
  let c := Char.ofNat b.toNat
  c.isAlphanum || c == '*' || c == '-' || c == '.' || c == '_'

/-- An upper-case hex digit. -/
def hexDigit (n : Nat) : Char := (Nat.digitChar n).toUpper

/-- A byte as it is written. -/
def encodeByte (b : UInt8) : List Char :=
  if isPlain b then [Char.ofNat b.toNat]
  else if b = 0x20 then ['+']
  else ['%', hexDigit (b.toNat / 16), hexDigit (b.toNat % 16)]

/-- `encodeByte` of each byte of a text. -/
def encode (s : String) : List Char := (Utf8.encode s).flatMap encodeByte

/-- A pair as it is written. -/
def encodePair (p : String × String) : List Char := encode p.1 ++ '=' :: encode p.2

/-- **The text of a list of pairs**: `encodePair` of each, with `&` between them. -/
def encodePairs (pairs : List (String × String)) : String :=
  String.ofList (List.intercalate ['&'] (pairs.map encodePair))

/-- The value of a hex digit of either case. -/
def hexValue? (b : UInt8) : Option Nat :=
  if 0x30 ≤ b ∧ b ≤ 0x39 then some (b.toNat - 0x30)
  else if 0x41 ≤ b ∧ b ≤ 0x46 then some (b.toNat - 0x41 + 10)
  else if 0x61 ≤ b ∧ b ≤ 0x66 then some (b.toNat - 0x61 + 10)
  else none

/-- The bytes with each `%` and its two hex digits turned into the byte they denote. -/
def percentDecode : List UInt8 → List UInt8
  | 0x25 :: h :: l :: rest =>
    match hexValue? h, hexValue? l with
    | some a, some b => UInt8.ofNat (a * 16 + b) :: percentDecode rest
    | _, _ => 0x25 :: percentDecode (h :: l :: rest)
  | b :: rest => b :: percentDecode rest
  | [] => []

/-- The text that a name or a value stands for: `percentDecode`, with `+` for a blank, and `Utf8.decodeLossy`. -/
def decode (s : List UInt8) : String :=
  Utf8.decodeLossy (percentDecode (s.map fun b => if b = 0x2B then 0x20 else b))

/-- The pieces of a list between separators. -/
def splitOn (sep : UInt8) : List UInt8 → List (List UInt8)
  | [] => [[]]
  | b :: rest =>
    if b = sep then [] :: splitOn sep rest
    else match splitOn sep rest with
      | p :: ps => (b :: p) :: ps
      | [] => [[b]]

/-- The two sides of the first `=`; without one the value is empty. -/
def splitPair (piece : List UInt8) : List UInt8 × List UInt8 :=
  (piece.takeWhile (· ≠ 0x3D), (piece.dropWhile (· ≠ 0x3D)).drop 1)

/-- **The pairs of a text**: the two sides of each piece between `&`, by `splitPair`. Empty pieces are skipped. -/
def decodePairs (s : String) : List (String × String) :=
  ((splitOn 0x26 (Utf8.encode s)).filter fun p => !p.isEmpty).map fun p =>
    let (name, value) := splitPair p
    (decode name, decode value)

end RouteContracts.Form
