import RouteContracts.Decimal

/-! # JSON numbers
A JSON number is an integer of the signed or unsigned 64-bit range, or else a finite double. The two
kinds are never equal: `1` is not `1.0`.

* `Json.Number.text`: integers in decimal, doubles by their shortest decimal, always with a point or
  an exponent.
* `Json.Number.read`: the grammar of a JSON number and the value it denotes. -/

namespace RouteContracts.Json

/-- The least integer that is kept as an integer. -/
def minInteger : Int := -9223372036854775808

/-- The greatest integer that is kept as an integer. -/
def maxInteger : Int := 18446744073709551615

/-- A number of a JSON text. -/
inductive Number where
  /-- An integer of the signed or the unsigned 64-bit range. -/
  | int (value : Int) (inRange : minInteger ≤ value ∧ value ≤ maxInteger)
  /-- A finite double. -/
  | float (value : Binary64)
deriving DecidableEq

namespace Number

/-- The integer as a number, if it is in range. -/
def ofInt? (i : Int) : Option Number :=
  if h : minInteger ≤ i ∧ i ≤ maxInteger then some (.int i h) else none

/-- Equality of numbers: integers by value, doubles by value, and never one with the other. -/
def same : Number → Number → Bool
  | .int a _, .int b _ => a == b
  | .float a, .float b => a.sameValue b
  | _, _ => false

@[simp] theorem same_self (n : Number) : n.same n = true := by cases n <;> simp [same]

/-- The double nearest to the number. -/
def toBinary64 : Number → Binary64
  | .int i _ => (Binary64.ofInt? i).getD Binary64.zero
  | .float x => x

/-! ## Writing -/

/-- The decimal digits of a natural number. -/
def natText (n : Nat) : String := String.ofList (Nat.toDigits 10 n)

/-- The decimal text of an integer. -/
def intText (i : Int) : String :=
  if i < 0 then "-" ++ natText i.natAbs else natText i.natAbs

/-- `n` zeros. -/
def zeros (n : Nat) : List Char := List.replicate n '0'

/-- A positive decimal laid out. Leading exponents from `-5` to `15` are written positionally with at
least one digit on both sides of the point, all others with an exponent that carries its sign. -/
def decimalText (d : Decimal) : List Char :=
  let ds := Nat.toDigits 10 d.digits
  let lead : Int := d.exponent + ds.length - 1
  if -5 ≤ lead ∧ lead ≤ 15 then
    -- no digit behind the point, some on either side, or all of them behind it
    if 0 ≤ d.exponent then ds ++ zeros d.exponent.toNat ++ ['.', '0']
    else if 0 ≤ lead then
      ds.take (lead + 1).toNat ++ '.' :: ds.drop (lead + 1).toNat
    else '0' :: '.' :: zeros (-lead - 1).toNat ++ ds
  else
    let mantissa := match ds with
      | [c] => [c]
      | c :: rest => c :: '.' :: rest
      | [] => []
    let sign := if lead < 0 then '-' else '+'
    mantissa ++ 'e' :: sign :: Nat.toDigits 10 lead.natAbs

/-- The text of a double. -/
def floatText (x : Binary64) : String :=
  let body := if x.rank = 0 then ['0', '.', '0'] else decimalText (Decimal.shortest x.rank)
  String.ofList (if x.negative then '-' :: body else body)

/-- The JSON text of a number. -/
def text : Number → String
  | .int i _ => intText i
  | .float x => floatText x

/-! ## Reading -/

/-- The value of a digit. -/
def digitValue (c : Char) : Nat := c.toNat - '0'.toNat

/-- The natural number written by a list of digits. -/
def natOfDigits (ds : List Char) : Nat := ds.foldl (fun n c => n * 10 + digitValue c) 0

/-- The significant digits read so far: those that fit 64 bits, and how many were left out. -/
structure Significand where
  /-- The number made of the digits that were kept. -/
  value : Nat
  /-- How many digits came after the last one kept. -/
  dropped : Nat
deriving DecidableEq, Repr

/-- Keeps reading digits while the number fits 64 bits; the rest is only counted. -/
def Significand.extend (s : Significand) : List Char → Significand
  | [] => s
  | c :: cs =>
    let next := s.value * 10 + digitValue c
    if s.dropped = 0 ∧ next < 2 ^ 64 then Significand.extend ⟨next, 0⟩ cs
    else ⟨s.value, s.dropped + (c :: cs).length⟩

/-- The magnitude `value * 10 ^ exponent`, computed with one rounding of the value and one of each
power of ten: at most 308 at a time, so that small results pass through several quotients. -/
def scaled (value : Nat) (exponent : Int) : Option Binary64 := do
  let start ← Binary64.ofNat? value
  if 308 < exponent then
    -- more than any double, unless it is zero
    if start.isZero then some start else none
  else if 0 ≤ exponent then
    start.mul? (← Binary64.ofNat? (Nat.pow 10 exponent.toNat))
  else shrink ((-exponent).toNat / 308 + 1) start (-exponent).toNat
where
  /-- Divides by `10 ^ places`, 308 places at a time while there are more. -/
  shrink : Nat → Binary64 → Nat → Option Binary64
    | 0, x, _ => some x
    | rounds + 1, x, places => do
      if places ≤ 308 then x.div? (← Binary64.ofNat? (Nat.pow 10 places))
      else if x.isZero then some x
      else shrink rounds (← x.div? (← Binary64.ofNat? (Nat.pow 10 308))) (places - 308)

/-- The largest exponent that is read digit by digit; one beyond it settles the value by its sign. -/
def maxExponent : Nat := 2147483647

/-- The parts of a written number: sign, integer digits, fraction digits, signed exponent digits. -/
structure Parts where
  /-- Whether a minus sign stands in front. -/
  negative : Bool
  /-- The digits before the point. -/
  whole : List Char
  /-- The digits after the point, when there is one. -/
  fraction : Option (List Char)
  /-- Whether the exponent is negative, and its digits, when there is one. -/
  exponent : Option (Bool × List Char)
deriving DecidableEq, Repr

/-- The double of a number written with a fraction, an exponent, or too many digits. -/
def Parts.toFloat (p : Parts) : Option Binary64 := do
  let whole := Significand.extend ⟨0, 0⟩ p.whole
  let fraction := p.fraction.getD []
  -- the digits behind the point go on with the number made of those in front of it
  let all := Significand.extend ⟨whole.value, 0⟩ fraction
  -- digits left out in front of the point raise the exponent, digits kept behind it lower it
  let point : Int := (whole.dropped : Int) - ((fraction.length - all.dropped : Nat) : Int)
  let magnitude ← match p.exponent with
    | none => scaled all.value point
    | some (negative, ds) =>
      let e := natOfDigits ds
      -- such an exponent is not computed with
      if maxExponent < e then
        if all.value ≠ 0 ∧ !negative then none else some Binary64.zero
      else
        let e' : Int := if negative then point - e else point + e
        scaled all.value (max (-2147483648) (min 2147483647 e'))
  some (if p.negative then magnitude.neg else magnitude)

/-- The number that the parts denote: an integer when there is neither fraction nor exponent and the
value is in range, a double otherwise. Negative zero is a double. `none` means overflow. -/
def Parts.toNumber (p : Parts) : Option Number :=
  match p.fraction, p.exponent with
  | none, none =>
    let n := natOfDigits p.whole
    if p.negative then
      -- a double, as no integer keeps the sign of zero
      if n = 0 then some (.float Binary64.zero.neg)
      else match ofInt? (-(n : Int)) with
        | some i => some i
        | none => p.toFloat.map .float
    else match ofInt? n with
      | some i => some i
      | none => p.toFloat.map .float
  | _, _ => p.toFloat.map .float

/-- Splits a text after its leading digits. -/
def spanDigits (s : List Char) : List Char × List Char := (s.takeWhile Char.isDigit, s.dropWhile Char.isDigit)

/-- Reads the parts of a number from the front of a text: no leading zeros, a digit on both sides of
the point, a digit in the exponent. -/
def readParts (s : List Char) : Option (Parts × List Char) := do
  let (negative, s) := match s with
    | '-' :: r => (true, r)
    | _ => (false, s)
  let (whole, s) := spanDigits s
  match whole with
  | [] => none
  -- no digit may follow a zero in front
  | '0' :: _ :: _ => none
  | _ =>
    let (fraction, s) ← match s with
      | '.' :: r =>
        let (ds, r) := spanDigits r
        if ds.isEmpty then none else some (some ds, r)
      | _ => some (none, s)
    let (exponent, s) ← match s with
      | c :: r =>
        if c = 'e' ∨ c = 'E' then
          let (negative, r) := match r with
            | '-' :: r => (true, r)
            | '+' :: r => (false, r)
            | _ => (false, r)
          let (ds, r) := spanDigits r
          if ds.isEmpty then none else some (some (negative, ds), r)
        else some (none, s)
      | [] => some (none, s)
    some (⟨negative, whole, fraction, exponent⟩, s)

/-- Reads a number from the front of a text. -/
def read (s : List Char) : Option (Number × List Char) := do
  let (parts, rest) ← readParts s
  let n ← parts.toNumber
  some (n, rest)

end Number

end RouteContracts.Json
