import RouteContracts.Binary64

/-! # Decimals
A `Decimal` is `digits * 10 ^ exponent`. This module rounds decimals to `Binary64` and selects, for a
`Binary64`, the **shortest decimal** that rounds back to it.

* `Decimal.toRank`: the rank nearest to a decimal.
* `Decimal.shortest`: the fewest digits that round back, the nearest of those, ties to the even digit.
* `Decimal.toRank_of_mem_candidates`: a candidate is kept only if it rounds back. -/

namespace RouteContracts

/-- The number `digits * 10 ^ exponent`. -/
structure Decimal where
  /-- The digits, read as one natural number. -/
  digits : Nat
  /-- The power of ten they are scaled by. -/
  exponent : Int
deriving DecidableEq, Repr

namespace Decimal

/-- `(Nat.toDigits 10 n).length`, and none for zero. -/
def digitCount (n : Nat) : Nat := if n = 0 then 0 else (Nat.toDigits 10 n).length

/-- The rank nearest to a decimal, by `Binary64.nearestRank`. Exponents far outside the range of doubles are settled
without computing the power. -/
def toRank (d : Decimal) : Nat :=
  let top : Int := d.exponent + digitCount d.digits
  if d.digits = 0 then 0
  else if top < -400 then 0
  else if 400 < top then Binary64.overflowRank
  else Binary64.nearestRank (d.digits * Nat.pow 10 d.exponent.toNat) (Nat.pow 10 (-d.exponent).toNat)

/-- The decimal with trailing zeros moved from the digits into the exponent. -/
def normalize (d : Decimal) : Decimal := go (digitCount d.digits) d
where
  /-- At most `fuel` zeros are moved; a number has no more zeros than digits. -/
  go : Nat → Decimal → Decimal
    | 0, d => d
    | fuel + 1, d =>
      if d.digits ≠ 0 ∧ d.digits % 10 = 0 then go fuel ⟨d.digits / 10, d.exponent + 1⟩ else d

/-- The least `k` with `m * 2 ^ q < 10 ^ k` for the magnitude of a positive rank. -/
def decimalPoint (rank : Nat) : Int :=
  let num := Binary64.numerator rank
  let den := Binary64.denominator rank
  let guess : Int := (Binary64.binaryExponent num den * 30103).fdiv 100000
  let below (k : Int) : Bool := decide (num * Nat.pow 10 (-k).toNat < den * Nat.pow 10 k.toNat)
  if below (guess - 1) then guess - 1
  else if below guess then guess
  else if below (guess + 1) then guess + 1
  else guess + 2

/-- The two neighbours of the magnitude on the grid `10 ^ exponent` whose `toRank` is the rank again. -/
def candidates (rank : Nat) (exponent : Int) : List Decimal :=
  let num := Binary64.numerator rank * Nat.pow 10 (-exponent).toNat
  let den := Binary64.denominator rank * Nat.pow 10 exponent.toNat
  [⟨num / den, exponent⟩, ⟨num / den + 1, exponent⟩].filter fun d => d.toRank == rank

theorem toRank_of_mem_candidates {rank : Nat} {exponent : Int} {d : Decimal}
    (h : d ∈ candidates rank exponent) : d.toRank = rank := by
  have := (List.mem_filter.1 h).2
  simpa using this

/-- Of the `candidates` on one grid the nearer; an exact tie goes to the even one. -/
def nearestCandidate (rank : Nat) (exponent : Int) : Option Decimal :=
  match candidates rank exponent with
  | [] => none
  | [d] => some d
  | low :: high :: _ =>
    let num := Binary64.numerator rank * Nat.pow 10 (-exponent).toNat
    let den := Binary64.denominator rank * Nat.pow 10 exponent.toNat
    let r := num % den
    if 2 * r < den then some low
    else if den < 2 * r then some high
    else if low.digits % 2 = 0 then some low else some high

/-- The exact decimal value of a magnitude. -/
def exact (rank : Nat) : Decimal :=
  let q := Binary64.scale rank
  ⟨Binary64.significand rank * Nat.pow 2 q.toNat * Nat.pow 5 (-q).toNat, min q 0⟩

/-- The **shortest decimal** that rounds back to a magnitude: `nearestCandidate` on the coarsest grid that has one, and
else the `exact` one. -/
def shortest (rank : Nat) : Decimal :=
  let k := decimalPoint rank
  let found := (List.range 17).findSome? fun n => nearestCandidate rank (k - (n + 1 : Nat))
  (found.getD (exact rank)).normalize

end Decimal

end RouteContracts
