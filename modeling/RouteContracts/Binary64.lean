/-! # Finite binary floating-point numbers
A `Binary64` is a finite double-precision number, kept as a sign and a **rank**: its position among
the non-negative finite doubles in increasing order. Ranks make order and equality plain arithmetic
on naturals, and the rounding of an exact quotient is one function on them.

* `Binary64.significand`, `Binary64.scale`: a rank as `m * 2 ^ q`.
* `Binary64.nearestRank`: the rank nearest to a quotient of naturals, ties to the even one.
* `Binary64.mul`, `Binary64.div`, `Binary64.ofNat`: one rounding each, `none` on overflow. -/

namespace RouteContracts

/-- A finite double-precision number: a sign and the rank of its magnitude. -/
structure Binary64 where
  /-- Whether the sign bit is set; a zero has a sign too. -/
  negative : Bool
  /-- The position of the magnitude among the non-negative finite doubles. -/
  rank : Nat
  /-- Ranks from here on up belong to infinity and to no number. -/
  rank_lt : rank < 0x7FF0000000000000
deriving DecidableEq

namespace Binary64

/-- The first rank that is no finite number. -/
def overflowRank : Nat := 0x7FF0000000000000

/-- The integer `m` with which a magnitude of this rank is `m * 2 ^ q`. -/
def significand (rank : Nat) : Nat :=
  if rank < Nat.pow 2 52 then rank else Nat.pow 2 52 + rank % Nat.pow 2 52

/-- The exponent `q` with which a magnitude of this rank is `m * 2 ^ q`. -/
def scale (rank : Nat) : Int :=
  if rank < Nat.pow 2 52 then -1074 else (rank / Nat.pow 2 52 : Nat) - 1075

/-- The numerator of the exact magnitude. -/
def numerator (rank : Nat) : Nat := significand rank * Nat.pow 2 (scale rank).toNat

/-- The denominator of the exact magnitude. -/
def denominator (rank : Nat) : Nat := Nat.pow 2 (-scale rank).toNat

/-- The integer nearest to `num / den`, an exact half going to the even neighbour. -/
def roundHalfEven (num den : Nat) : Nat :=
  let q := num / den
  let r := num % den
  if 2 * r < den then q
  else if den < 2 * r then q + 1
  else if q % 2 = 0 then q else q + 1

/-- The largest `e` with `2 ^ e ≤ num / den`, for positive `num` and `den`. -/
def binaryExponent (num den : Nat) : Int :=
  let guess : Int := (num.log2 : Int) - (den.log2 : Int)
  if num * Nat.pow 2 (-guess).toNat < den * Nat.pow 2 guess.toNat then guess - 1 else guess

/-- The rank nearest to `num / den`, an exact half going to the even rank. From `overflowRank` on
the quotient is too large for a finite number. -/
def nearestRank (num den : Nat) : Nat :=
  if num = 0 ∨ den = 0 then 0
  else
    let q := max (binaryExponent num den - 52) (-1074)
    (q + 1074).toNat * Nat.pow 2 52 + roundHalfEven (num * Nat.pow 2 (-q).toNat) (den * Nat.pow 2 q.toNat)

/-- The number of a sign and a rank, unless the rank is beyond the finite ones. -/
def ofRank? (negative : Bool) (rank : Nat) : Option Binary64 :=
  if h : rank < 0x7FF0000000000000 then some ⟨negative, rank, h⟩ else none

/-- Positive zero. -/
def zero : Binary64 := ⟨false, 0, by decide⟩

/-- The number nearest to a natural one. -/
def ofNat? (n : Nat) : Option Binary64 := ofRank? false (nearestRank n 1)

/-- The number nearest to an integer. -/
def ofInt? (i : Int) : Option Binary64 := ofRank? (decide (i < 0)) (nearestRank i.natAbs 1)

/-- The same magnitude with the other sign. -/
def neg (x : Binary64) : Binary64 := { x with negative := !x.negative }

/-- The product, rounded once. -/
def mul? (x y : Binary64) : Option Binary64 :=
  ofRank? (x.negative != y.negative)
    (nearestRank (numerator x.rank * numerator y.rank) (denominator x.rank * denominator y.rank))

/-- The quotient by a number other than zero, rounded once. -/
def div? (x y : Binary64) : Option Binary64 :=
  if y.rank = 0 then none
  else ofRank? (x.negative != y.negative)
    (nearestRank (numerator x.rank * denominator y.rank) (denominator x.rank * numerator y.rank))

/-- Whether the number is a zero of either sign. -/
def isZero (x : Binary64) : Bool := x.rank == 0

/-- The signed rank, which orders the numbers and gives both zeros one place. -/
def key (x : Binary64) : Int := if x.negative then -(x.rank : Int) else x.rank

/-- Equality of values: the two zeros are equal. -/
def sameValue (x y : Binary64) : Bool := x.key == y.key

/-- Order of values. -/
def le (x y : Binary64) : Bool := decide (x.key ≤ y.key)

/-- Whether the value is an integer. -/
def isInteger (x : Binary64) : Bool := numerator x.rank % denominator x.rank == 0

/-- The integer value, when the number is one. -/
def toInt? (x : Binary64) : Option Int :=
  if x.isInteger then
    let n : Int := (numerator x.rank / denominator x.rank : Nat)
    some (if x.negative then -n else n)
  else none

@[simp] theorem sameValue_self (x : Binary64) : x.sameValue x = true := by simp [sameValue]

theorem sameValue_comm (x y : Binary64) : x.sameValue y = y.sameValue x := by
  simp only [sameValue]; exact Bool.beq_comm

end Binary64

end RouteContracts
