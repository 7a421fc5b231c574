/-! # Punycode
Characters beyond ASCII, written with letters and digits after the ASCII characters of a label: one number
for each, which says how far it is from the one before, counted over characters and places. Numbers have a
variable length in base 36, and the digits adapt to how large the numbers are.

* `Punycode.encode`: a label with ASCII characters only.
* `Punycode.decode?`: the label that is written so. -/

namespace RouteContracts.Punycode

/-- The value of a digit, at most 35, as a character. -/
def digit (n : Nat) : Char := if n < 26 then Char.ofNat (0x61 + n) else Char.ofNat (0x30 + (n - 26))

/-- The value of a digit of either case. -/
def digitValue? (c : Char) : Option Nat :=
  if c.isLower then some (c.toNat - 0x61)
  else if c.isUpper then some (c.toNat - 0x41)
  else if c.isDigit then some (c.toNat - 0x30 + 26)
  else none

/-- The least value at a place at which a number goes on; places are counted in steps of 36. -/
def threshold (bias place : Nat) : Nat :=
  if place ≤ bias + 1 then 1 else if bias + 26 ≤ place then 26 else place - bias

theorem threshold_pos (bias place : Nat) : 0 < threshold bias place := by
  unfold threshold; split <;> (try split) <;> omega

theorem threshold_le (bias place : Nat) : threshold bias place ≤ 26 := by
  unfold threshold; split <;> (try split) <;> omega

/-- Divides by 35 until at most 455 is left, and counts the steps in 36s. -/
def shrink (delta steps : Nat) : Nat × Nat :=
  if 455 < delta then shrink (delta / 35) (steps + 36) else (delta, steps)
termination_by delta
decreasing_by omega

/-- The bias after a number, with so many characters written. -/
def adapt (delta count : Nat) (first : Bool) : Nat :=
  let delta := if first then delta / 700 else delta / 2
  let (rest, steps) := shrink (delta + delta / count) 0
  steps + 36 * rest / (rest + 38)

/-! ## Encoding -/

/-- The digits of a number. -/
def digits (bias place n : Nat) : List Char :=
  let t := threshold bias place
  if n < t then [digit n] else digit (t + (n - t) % (36 - t)) :: digits bias (place + 36) ((n - t) / (36 - t))
termination_by n
decreasing_by
  have h₁ := threshold_pos bias place
  have h₂ := threshold_le bias place
  exact Nat.lt_of_le_of_lt (Nat.div_le_self _ _) (by omega)

/-- How far the encoding of a label has come. -/
structure Progress where
  /-- How many characters are written. -/
  written : Nat
  delta : Nat
  bias : Nat
  /-- The digits so far. -/
  out : List Char

/-- Goes over a character of the label, for the code point that is written now. -/
def Progress.over (basic point : Nat) (p : Progress) (c : Char) : Progress :=
  if c.toNat < point then { p with delta := p.delta + 1 }
  else if c.toNat = point then
    { written := p.written + 1
      delta := 0
      bias := adapt p.delta (p.written + 1) (p.written == basic)
      out := p.out ++ digits p.bias 36 p.delta }
  else p

/-- Writes all characters with one of the code points, which ascend. -/
def encodePoints (label : List Char) (basic : Nat) : List Nat → Nat → Progress → Progress
  | [], _, p => p
  | point :: rest, from_, p =>
    let p := { p with delta := p.delta + (point - from_) * (p.written + 1) }
    let p := label.foldl (Progress.over basic point) p
    encodePoints label basic rest (point + 1) { p with delta := p.delta + 1 }

/-- Puts a number in its place, unless it is there. -/
def insertPoint (n : Nat) : List Nat → List Nat
  | [] => [n]
  | m :: rest => if n < m then n :: m :: rest else if n = m then m :: rest else m :: insertPoint n rest

/-- **A label with ASCII characters only.** -/
def encode (label : List Char) : List Char :=
  let basic := label.filter fun c => c.toNat < 0x80
  let points := ((label.filter fun c => 0x80 ≤ c.toNat).map Char.toNat).foldr insertPoint []
  let p := encodePoints label basic.length points 0x80 ⟨basic.length, 0, 72, []⟩
  basic ++ (if basic.isEmpty then [] else ['-']) ++ p.out

/-! ## Decoding -/

/-- The number that digits begin with, and what follows it. -/
def number? (bias place weight : Nat) : List Char → Option (Nat × List Char)
  | [] => none
  | c :: rest => do
    let d ← digitValue? c
    let t := threshold bias place
    if d < t then some (d * weight, rest)
    else
      let (more, rest) ← number? bias (place + 36) (weight * (36 - t)) rest
      some (d * weight + more, rest)

/-- The label after the numbers that follow, so many at most: `out` has been read, and the last number led
to a code point and a place. -/
def decodeFrom? : Nat → (out : List Char) → (point place bias : Nat) → List Char → Option (List Char)
  | _, out, _, _, _, [] => some out
  | 0, _, _, _, _, _ => none
  | fuel + 1, out, point, place, bias, s => do
    let (delta, rest) ← number? bias 36 1 s
    let count := out.length + 1
    -- places wrap around the label, and each round is one code point further
    let point := point + (place + delta) / count
    let at_ := (place + delta) % count
    if 0x10FFFF < point ∨ (0xD800 ≤ point ∧ point ≤ 0xDFFF) then none
    else
      let bias := adapt delta count (place == 0)
      decodeFrom? fuel (out.take at_ ++ Char.ofNat point :: out.drop at_) point (at_ + 1) bias rest

/-- The characters in front of the last hyphen, and those behind it. -/
def atLastHyphen (s : List Char) : List Char × List Char :=
  let behind := (s.reverse.takeWhile (· ≠ '-')).reverse
  (s.take (s.length - behind.length - 1), behind)

/-- **The label that is written so.** -/
def decode? (s : List Char) : Option (List Char) :=
  let (basic, rest) := atLastHyphen s
  if basic.all fun c => c.toNat < 0x80 then decodeFrom? rest.length basic 0x80 0 72 rest else none

end RouteContracts.Punycode
