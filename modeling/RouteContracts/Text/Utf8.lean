/-! # UTF-8
Texts as bytes and back. Bytes that are no text can be refused, or each longest stretch that might have
begun a character be replaced by U+FFFD.

* `Utf8.encode`: the bytes of a text.
* `Utf8.decode?`: the text of well-formed bytes. `Utf8.decodeLossy`: a text for any bytes. -/

namespace RouteContracts.Utf8

/-- A byte that goes on with a character: six bits. -/
def tail (n : Nat) : UInt8 := UInt8.ofNat (0x80 + n % 64)

/-- The bytes of a character. -/
def encodeChar (c : Char) : List UInt8 :=
  let n := c.toNat
  if n < 0x80 then [UInt8.ofNat n]
  else if n < 0x800 then [UInt8.ofNat (0xC0 + n / 64), tail n]
  else if n < 0x10000 then [UInt8.ofNat (0xE0 + n / 4096), tail (n / 64), tail n]
  else [UInt8.ofNat (0xF0 + n / 262144), tail (n / 4096), tail (n / 64), tail n]

/-- The bytes of a list of characters. -/
def encodeChars (s : List Char) : List UInt8 := s.flatMap encodeChar

/-- **The bytes of a text.** -/
def encode (s : String) : List UInt8 := encodeChars s.toList

/-- How many bytes go on with a character that starts with a byte, and the least and the greatest first
one of them. -/
def lead? (a : UInt8) : Option (Nat × UInt8 × UInt8) :=
  if 0xC2 ≤ a ∧ a ≤ 0xDF then some (1, 0x80, 0xBF)
  else if a = 0xE0 then some (2, 0xA0, 0xBF)
  else if a = 0xED then some (2, 0x80, 0x9F)
  else if 0xE1 ≤ a ∧ a ≤ 0xEF then some (2, 0x80, 0xBF)
  else if a = 0xF0 then some (3, 0x90, 0xBF)
  else if 0xF1 ≤ a ∧ a ≤ 0xF3 then some (3, 0x80, 0xBF)
  else if a = 0xF4 then some (3, 0x80, 0x8F)
  else none

/-- Whether a byte goes on with a character. -/
def isTail (b : UInt8) : Bool := 0x80 ≤ b && b ≤ 0xBF

/-- The low six bits of a byte. -/
def six (b : UInt8) : Nat := b.toNat % 64

/-- The character at the front of some bytes, or `none` for a stretch that is none, and how many bytes
it takes. -/
def front : List UInt8 → Option Char × Nat
  | [] => (none, 0)
  | a :: rest =>
    if a < 0x80 then (some (Char.ofNat a.toNat), 1)
    else match lead? a with
      | none => (none, 1)
      -- a stretch ends in front of the first byte that does not fit
      | some (more, low, high) =>
        match more, rest with
        | 1, b :: _ =>
          if low ≤ b ∧ b ≤ high then (some (Char.ofNat (a.toNat % 32 * 64 + six b)), 2) else (none, 1)
        | 2, b :: more =>
          if low ≤ b ∧ b ≤ high then
            match more with
            | c :: _ =>
              if isTail c then (some (Char.ofNat (a.toNat % 16 * 4096 + six b * 64 + six c)), 3)
              else (none, 2)
            | [] => (none, 2)
          else (none, 1)
        | 3, b :: more =>
          if low ≤ b ∧ b ≤ high then
            match more with
            | c :: d :: _ =>
              if isTail c then
                if isTail d then
                  (some (Char.ofNat (a.toNat % 8 * 262144 + six b * 4096 + six c * 64 + six d)), 4)
                else (none, 3)
              else (none, 2)
            | [c] => (none, if isTail c then 3 else 2)
            | [] => (none, 2)
          else (none, 1)
        | _, _ => (none, 1)

/-- The characters of some bytes, `none` standing for each stretch that is no character. -/
def stretches : Nat → List UInt8 → List (Option Char)
  | _, [] => []
  | 0, _ => []
  | fuel + 1, bs =>
    let (c, n) := front bs
    c :: stretches fuel (bs.drop (max n 1))

/-- The text of any bytes, what is no character replaced by U+FFFD. -/
def decodeLossy (bs : List UInt8) : String :=
  String.ofList ((stretches bs.length bs).map fun c => c.getD '\ufffd')

/-- The text of well-formed bytes. -/
def decode? (bs : List UInt8) : Option String :=
  ((stretches bs.length bs).mapM id).map String.ofList

end RouteContracts.Utf8
