/-! # White space
The characters with the white-space property: twenty-five code points in ten ranges.

* `Text.isBlank`: membership.
* `Text.trim`: a text without the blanks at its two ends. -/

namespace RouteContracts.Text

/-- Closed ranges of code points, ascending and apart. -/
abbrev Ranges := List (Nat × Nat)

/-- Whether a code point lies in one of the ranges. -/
def Ranges.has (ranges : Ranges) (n : Nat) : Bool := ranges.any fun r => r.1 ≤ n && n ≤ r.2

/-- The code points with the white-space property. -/
def blankRanges : Ranges :=
  [(0x09, 0x0D), (0x20, 0x20), (0x85, 0x85), (0xA0, 0xA0), (0x1680, 0x1680), (0x2000, 0x200A),
   (0x2028, 0x2029), (0x202F, 0x202F), (0x205F, 0x205F), (0x3000, 0x3000)]

/-- Whether a character is white space. -/
def isBlank (c : Char) : Bool := blankRanges.has c.toNat

/-- The characters without the blanks in front. -/
def trimStart (s : List Char) : List Char := s.dropWhile isBlank

/-- The characters without the blanks at both ends. -/
def trimChars (s : List Char) : List Char := (trimStart (trimStart s).reverse).reverse

/-- A text without the blanks at both ends. -/
def trim (s : String) : String := String.ofList (trimChars s.toList)

end RouteContracts.Text
