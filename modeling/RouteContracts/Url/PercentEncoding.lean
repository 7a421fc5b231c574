import RouteContracts.Request.Form

/-! # Percent-encoding
In each part of a URL some characters stand for themselves; every other one is written as the bytes of its
UTF-8 form, each as `%` and two upper-case hex digits. Characters beyond ASCII and controls are always
written so.

* `PercentEncoding.encode`: a text for a part of a URL. -/

namespace RouteContracts.PercentEncoding

/-- The parts of a URL with the printable ASCII characters that do not stand for themselves there. -/
inductive Part where
  | fragment
  | query
  /-- The query of a URL with one of the common schemes. -/
  | commonQuery
  | path
  | userInfo
  /-- A part that is not taken apart any further. -/
  | whole
deriving DecidableEq, Repr

/-- The printable ASCII characters that are encoded in a part. -/
def Part.encoded : Part → List Char
  | .fragment => [' ', '"', '<', '>', '\x60']
  | .query => [' ', '"', '#', '<', '>']
  | .commonQuery => [' ', '"', '#', '<', '>', '\'']
  | .path => [' ', '"', '<', '>', '\x60', '#', '?', '\x7b', '\x7d']
  | .userInfo =>
    [' ', '"', '<', '>', '\x60', '#', '?', '\x7b', '\x7d', '/', ':', ';', '=', '@', '[', '\\', ']', '^', '|']
  | .whole => []

/-- Whether a character stands for itself in a part. -/
def Part.keeps (part : Part) (c : Char) : Bool :=
  0x20 ≤ c.toNat && c.toNat < 0x7F && !part.encoded.contains c

/-- A byte in encoded form. -/
def encodeByte (b : UInt8) : List Char := ['%', Form.hexDigit (b.toNat / 16), Form.hexDigit (b.toNat % 16)]

/-- A character as it is written in a part. -/
def encodeChar (part : Part) (c : Char) : List Char :=
  if part.keeps c then [c] else (Utf8.encodeChar c).flatMap encodeByte

/-- **A text as it is written in a part.** -/
def encode (part : Part) (s : List Char) : List Char := s.flatMap (encodeChar part)

end RouteContracts.PercentEncoding
