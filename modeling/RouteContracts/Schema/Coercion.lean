import RouteContracts.Json.Writer
import RouteContracts.Schema.Basic
import RouteContracts.Text.Blank

/-! # Coercion
What a `coerce` layer does to a value before its base sees it: texts become numbers or truth values,
numbers and truth values become texts. A value that cannot be converted stays as it is.

* `readInt64?`, `readDouble?`: the texts that denote an integer or a double.
* `coerceTo`: the conversion for a base. -/

namespace RouteContracts

/-- The signed 64-bit integer written by an optional sign and at least one digit. -/
def readInt64? (s : List Char) : Option Int :=
  let (negative, digits) := match s with
    | '-' :: r => (true, r)
    | '+' :: r => (false, r)
    | _ => (false, s)
  if digits.isEmpty || !digits.all Char.isDigit then none
  else
    let n : Int := Json.Number.natOfDigits digits
    let i := if negative then -n else n
    if -9223372036854775808 ≤ i ∧ i ≤ 9223372036854775807 then some i else none

/-- The exponent after a mantissa: nothing, or the letter `e`, an optional sign and digits. -/
def readExponent? : List Char → Option Int
  | [] => some 0
  | c :: r =>
    if c = 'e' ∨ c = 'E' then
      let (negative, digits) := match r with
        | '-' :: r => (true, r)
        | '+' :: r => (false, r)
        | _ => (false, r)
      if digits.isEmpty || !digits.all Char.isDigit then none
      else
        let n : Int := Json.Number.natOfDigits digits
        some (if negative then -n else n)
    else none

/-- The finite double nearest to a written decimal: an optional sign, digits with an optional point
among them, an optional exponent. Words for infinity and for no number are not finite. -/
def readDouble? (s : List Char) : Option Binary64 := do
  let (negative, s) := match s with
    | '-' :: r => (true, r)
    | '+' :: r => (false, r)
    | _ => (false, s)
  let (whole, s) := Json.Number.spanDigits s
  let (fraction, s) := match s with
    | '.' :: r => Json.Number.spanDigits r
    | _ => ([], s)
  if whole.isEmpty && fraction.isEmpty then none
  else
    let exponent ← readExponent? s
    let decimal : Decimal := ⟨Json.Number.natOfDigits (whole ++ fraction), exponent - fraction.length⟩
    Binary64.ofRank? negative decimal.toRank

/-- The number that a text denotes, blanks around it left out: `readInt64?` where that reads it, and else
`readDouble?`. -/
def readNumber? (s : String) : Option Json.Number :=
  let cs := Text.trimChars s.toList
  match readInt64? cs with
  | some i => Json.Number.ofInt? i
  | none => (readDouble? cs).map .float

/-- The value that a base under a `.coerce` layer is checked against. A text becomes a number or a truth value where it
denotes one, and a number or a truth value becomes its text; any other value stays. -/
def coerceTo : Schema → Json → Json
  | .number, .string s => (readNumber? s).elim (.string s) .number
  | .boolean, .string s =>
    if s = "true" ∨ s = "1" then .bool true
    else if s = "false" ∨ s = "0" ∨ s = "" then .bool false
    else .string s
  | .string, .number n => .string n.text
  | .string, .bool b => .string (if b then "true" else "false")
  | _, v => v

end RouteContracts
