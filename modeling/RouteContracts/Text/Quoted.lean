import RouteContracts.Text.Printable

/-! # Quoted texts
A text in double quotes for a message: quotes, backslashes and five control characters are escaped by a
letter, what has no visible form by its hexadecimal number in braces.

* `Text.quoted`: one text. `Text.quotedList`: several, in brackets. -/

namespace RouteContracts.Text

/-- The letter that stands for a character after a backslash, for those that have one. -/
def quotedLetter? : Char → Option Char
  | '\x00' => some '0'
  | '\t' => some 't'
  | '\r' => some 'r'
  | '\n' => some 'n'
  | '\\' => some '\\'
  | '"' => some '"'
  | _ => none

/-- The hexadecimal number of a character, in lower case. -/
def hexNumber (c : Char) : List Char := Nat.toDigits 16 c.toNat

/-- A character inside a quoted text. -/
def quotedChar (c : Char) : List Char :=
  match quotedLetter? c with
  | some l => ['\\', l]
  | none =>
    if isPrintable c && !isExtending c then [c]
    else '\\' :: 'u' :: '\x7b' :: hexNumber c ++ ['\x7d']

/-- **A text in quotes.** -/
def quoted (s : String) : String := String.ofList ('"' :: s.toList.flatMap quotedChar ++ ['"'])

/-- Several texts in quotes, in brackets. -/
def quotedList (texts : List String) : String := "[" ++ ", ".intercalate (texts.map quoted) ++ "]"

end RouteContracts.Text
