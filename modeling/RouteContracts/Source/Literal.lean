import RouteContracts.Json.Reader
import RouteContracts.Schema.Coercion
import RouteContracts.Text.Identifier

/-! # Literals of source text
How literals are spelled and what they denote: texts with escapes or raw, bytes, characters, numbers
with underscores and a suffix.

* `Literal.scan`: the literal at the front of a text.
* `Literal.textValue?`: the text that a literal denotes.
* `Literal.number?`: the digits of a numeric literal, and whether it is an integer. -/

namespace RouteContracts.Source.Literal

/-- What was read and what is left. -/
abbrev Scan := Option (List Char × List Char)

/-- Puts characters in front of what was read. -/
def Scan.prepend (chars : List Char) (s : Scan) : Scan := s.map fun r => (chars ++ r.1, r.2)

/-- The kinds of quoted literals, which differ in what may stand inside. -/
inductive Quoting where
  /-- Any text. -/
  | text
  /-- ASCII text for bytes. -/
  | bytes
  /-- Text without the zero character. -/
  | terminated
deriving DecidableEq, Repr

/-- An identifier at the front, if there is one. -/
def suffix (s : List Char) : List Char × List Char :=
  match s with
  | c :: rest =>
    if Text.isIdentStart c then (c :: rest.takeWhile Text.isIdentPart, rest.dropWhile Text.isIdentPart)
    else ([], s)
  | [] => ([], [])

/-- Adds the suffix that follows a literal. -/
def withSuffix (chars rest : List Char) : Scan :=
  let (more, rest) := suffix rest
  some (chars ++ more, rest)

/-- Reads the hex digits of a character number, at most six with underscores between, and the brace
after them. Gives the number. -/
def braced : Nat → Nat → List Char → Option (Nat × List Char × List Char)
  | _, _, [] => none
  | value, count, c :: rest =>
    if c = '_' ∧ 0 < count then (braced value count rest).map fun r => (r.1, c :: r.2.1, r.2.2)
    else if c = '\x7d' ∧ 0 < count then some (value, [c], rest)
    else match Json.hexValue? c with
      | some d =>
        if count = 6 then none
        else (braced (value * 16 + d) (count + 1) rest).map fun r => (r.1, c :: r.2.1, r.2.2)
      | none => none

/-- Whether a number is that of a character. -/
def isCharacter (n : Nat) : Bool := n < 0xD800 || 0xE000 ≤ n && n < 0x110000

/-- The character that an escape after a backslash denotes, its spelling, and the rest. -/
def escape (q : Quoting) : List Char → Option (Char × List Char × List Char)
  | 'x' :: a :: b :: rest => do
    let n := (← Json.hexValue? a) * 16 + (← Json.hexValue? b)
    -- a text has no bytes above ASCII, and a terminated one no zero
    match q with
    | .text => if n < 0x80 then some (Char.ofNat n, ['x', a, b], rest) else none
    | .bytes => some (Char.ofNat n, ['x', a, b], rest)
    | .terminated => if n = 0 then none else some (Char.ofNat n, ['x', a, b], rest)
  | 'u' :: '\x7b' :: rest => do
    if q = .bytes then none
    else
      let (n, chars, rest) ← braced 0 0 rest
      if isCharacter n ∧ (q = .terminated → n ≠ 0) then
        some (Char.ofNat n, 'u' :: '\x7b' :: chars, rest)
      else none
  | 'n' :: rest => some ('\n', ['n'], rest)
  | 'r' :: rest => some ('\r', ['r'], rest)
  | 't' :: rest => some ('\t', ['t'], rest)
  | '\\' :: rest => some ('\\', ['\\'], rest)
  | '\'' :: rest => some ('\'', ['\''], rest)
  | '"' :: rest => some ('"', ['"'], rest)
  | '0' :: rest => if q = .terminated then none else some ('\x00', ['0'], rest)
  | _ => none

/-- The blanks after a backslash at the end of a line. A carriage return needs its line feed, and
something has to follow. -/
def continuation : List Char → Scan
  | ' ' :: rest => (continuation rest).prepend [' ']
  | '\t' :: rest => (continuation rest).prepend ['\t']
  | '\n' :: rest => (continuation rest).prepend ['\n']
  | '\r' :: '\n' :: rest => (continuation rest).prepend ['\r', '\n']
  | '\r' :: _ => none
  | [] => none
  | rest => some ([], rest)

/-- What stands between the quotes of a literal with escapes, the closing quote included: the value, the
spelling and the rest. -/
def quotedBody (q : Quoting) : Nat → List Char → Option (List Char × List Char × List Char)
  | 0, _ => none
  | fuel + 1, s =>
    match s with
    | [] => none
    | '"' :: rest => some ([], ['"'], rest)
    -- the end of a line counts as one character, however it is spelled
    | '\r' :: '\n' :: rest => do
      let (v, t, rest) ← quotedBody q fuel rest
      some ('\n' :: v, '\r' :: '\n' :: t, rest)
    | '\r' :: _ => none
    | '\\' :: '\n' :: rest => do
      let (blanks, rest) ← continuation rest
      let (v, t, rest) ← quotedBody q fuel rest
      some (v, '\\' :: '\n' :: blanks ++ t, rest)
    | '\\' :: '\r' :: '\n' :: rest => do
      let (blanks, rest) ← continuation rest
      let (v, t, rest) ← quotedBody q fuel rest
      some (v, '\\' :: '\r' :: '\n' :: blanks ++ t, rest)
    | '\\' :: rest => do
      let (c, chars, rest) ← escape q rest
      let (v, t, rest) ← quotedBody q fuel rest
      some (c :: v, '\\' :: chars ++ t, rest)
    | c :: rest => do
      if (q = .bytes ∧ 0x80 ≤ c.toNat) ∨ (q = .terminated ∧ c = '\x00') then none
      else
        let (v, t, rest) ← quotedBody q fuel rest
        some (c :: v, c :: t, rest)

/-- A quoted literal with escapes, from behind its opening quote. -/
def quotedRest (q : Quoting) (s : List Char) : Option (List Char × List Char × List Char) :=
  quotedBody q (s.length + 1) s

/-- Whether a list starts with another one. -/
def startsWith : List Char → List Char → Bool
  | [], _ => true
  | _ :: _, [] => false
  | a :: as, b :: bs => a == b && startsWith as bs

/-- What stands between the quotes of a raw literal: the value, the spelling and the rest. -/
def rawBody (q : Quoting) (hashes : List Char) : List Char → Option (List Char × List Char × List Char)
  | [] => none
  | '"' :: rest =>
    if startsWith hashes rest then some ([], '"' :: hashes, rest.drop hashes.length)
    else (rawBody q hashes rest).map fun r => ('"' :: r.1, '"' :: r.2.1, r.2.2)
  | '\r' :: '\n' :: rest =>
    (rawBody q hashes rest).map fun r => ('\r' :: '\n' :: r.1, '\r' :: '\n' :: r.2.1, r.2.2)
  | '\r' :: _ => none
  | c :: rest =>
    if (q = .bytes ∧ 0x80 ≤ c.toNat) ∨ (q = .terminated ∧ c = '\x00') then none
    else (rawBody q hashes rest).map fun r => (c :: r.1, c :: r.2.1, r.2.2)

/-- A raw literal, from behind its letter. -/
def rawRest (q : Quoting) (s : List Char) : Option (List Char × List Char × List Char) :=
  let hashes := s.takeWhile (· == '#')
  match s.dropWhile (· == '#') with
  | '"' :: rest =>
    if 255 < hashes.length then none
    else (rawBody q hashes rest).map fun r => (r.1, hashes ++ '"' :: r.2.1, r.2.2)
  | _ => none

/-- The spelling of a literal whose value does not matter, with a suffix. -/
def spelled (front : List Char) (r : Option (List Char × List Char × List Char)) : Scan :=
  r.bind fun r => withSuffix (front ++ r.2.1) r.2.2

/-- One character in single quotes, from behind the first. -/
def character (q : Quoting) (front : List Char) : List Char → Scan
  | '\\' :: rest => do
    let (_, chars, rest) ← escape q rest
    match rest with
    | '\'' :: rest => withSuffix (front ++ '\\' :: chars ++ ['\'']) rest
    | _ => none
  | c :: '\'' :: rest =>
    if q = .bytes ∧ 0x80 ≤ c.toNat then none else withSuffix (front ++ [c, '\'']) rest
  | _ => none

/-- A number ends where no identifier goes on. -/
def wordBreak (chars rest : List Char) : Scan :=
  match rest with
  | c :: _ => if Text.isIdentPart c then none else some (chars, rest)
  | [] => some (chars, rest)

/-- Whether a character may stand among the digits of a decimal. -/
def isDigitPart (c : Char) : Bool := c.isDigit || c == '_'

/-- The exponent of a decimal from behind its letter: an optional sign and at least one digit. A sign
may have underscores before and after it. -/
def exponent : Bool → Bool → List Char → Scan
  | sign, digits, c :: rest =>
    if c = '+' ∨ c = '-' then
      if digits then some ([], c :: rest)
      else if sign then none
      else (exponent true digits rest).prepend [c]
    else if c.isDigit then (exponent sign true rest).prepend [c]
    else if c = '_' then (exponent sign digits rest).prepend [c]
    else if digits then some ([], c :: rest) else none
  | _, digits, [] => if digits then some ([], []) else none

/-- The digits of a decimal with a point or an exponent. -/
def decimalDigits (s : List Char) : Scan :=
  match s with
  | c :: _ =>
    if !c.isDigit then none
    else
      let whole := s.takeWhile isDigitPart
      match s.dropWhile isDigitPart with
      | '.' :: rest =>
        -- a range or a member of the number begins here
        let blocked := match rest with
          | c :: _ => c == '.' || Text.isIdentStart c
          | [] => false
        if blocked then none
        else
          let fraction := rest.takeWhile isDigitPart
          let read := whole ++ '.' :: fraction
          match rest.dropWhile isDigitPart with
          | e :: more =>
            if e = 'e' ∨ e = 'E' then
              match exponent false false more with
              | some (chars, left) => some (read ++ e :: chars, left)
              -- a letter without digits behind it begins a suffix
              | none => some (read, e :: more)
            else some (read, e :: more)
          | [] => some (read, [])
      | e :: more =>
        if e = 'e' ∨ e = 'E' then (exponent false false more).prepend (whole ++ [e]) else none
      | [] => none
  | [] => none

/-- A decimal literal. -/
def decimal (s : List Char) : Scan := do
  let (digits, rest) ← decimalDigits s
  let (more, rest) := suffix rest
  wordBreak (digits ++ more) rest

/-- The digits of an integer in a base: those of the base and underscores; a larger decimal digit is an
error. -/
def baseDigits (base : Nat) : Bool → List Char → Scan
  | empty, c :: rest =>
    if c.isDigit then
      if base ≤ c.toNat - '0'.toNat then none else (baseDigits base false rest).prepend [c]
    else if c = '_' then
      if empty ∧ base = 10 then none else (baseDigits base empty rest).prepend [c]
    else if base = 16 ∧ (Json.hexValue? c).isSome then (baseDigits base false rest).prepend [c]
    else if empty then none else some ([], c :: rest)
  | empty, [] => if empty then none else some ([], [])

/-- The digits of an integer with the letters of its base. -/
def integerDigits : List Char → Scan
  | '0' :: 'x' :: rest => (baseDigits 16 true rest).prepend ['0', 'x']
  | '0' :: 'o' :: rest => (baseDigits 8 true rest).prepend ['0', 'o']
  | '0' :: 'b' :: rest => (baseDigits 2 true rest).prepend ['0', 'b']
  | s => baseDigits 10 true s

/-- An integer literal. -/
def integer (s : List Char) : Scan := do
  let (digits, rest) ← integerDigits s
  let (more, rest) := suffix rest
  wordBreak (digits ++ more) rest

/-- A quoted literal of any kind. -/
def quoted : List Char → Scan
  | '"' :: rest => spelled ['"'] (quotedRest .text rest)
  | 'r' :: rest => spelled ['r'] (rawRest .text rest)
  | 'b' :: '"' :: rest => spelled ['b', '"'] (quotedRest .bytes rest)
  | 'b' :: 'r' :: rest => spelled ['b', 'r'] (rawRest .bytes rest)
  | 'c' :: '"' :: rest => spelled ['c', '"'] (quotedRest .terminated rest)
  | 'c' :: 'r' :: rest => spelled ['c', 'r'] (rawRest .terminated rest)
  | 'b' :: '\'' :: rest => character .bytes ['b', '\''] rest
  | '\'' :: rest => character .text ['\''] rest
  | _ => none

/-- **The literal at the front of a text**, a suffix included, and the rest. -/
def scan (s : List Char) : Scan := (quoted s).or ((decimal s).or (integer s))

/-! ## Values -/

/-- **The text that a literal denotes**, when it is one for texts. -/
def textValue? (literal : String) : Option String :=
  match literal.toList with
  | '"' :: rest => (quotedRest .text rest).map fun r => String.ofList r.1
  | 'r' :: rest => (rawRest .text rest).map fun r => String.ofList r.1
  | _ => none

/-- The value of a numeric literal. -/
inductive NumberValue where
  /-- An integer. -/
  | integer (n : Nat)
  /-- A decimal, without underscores and suffix. -/
  | decimal (digits : List Char)
deriving DecidableEq, Repr

/-- The natural number that digits of a base denote; underscores do not count. -/
def natOfDigits (base : Nat) (digits : List Char) : Nat :=
  digits.foldl (fun n c => match Json.hexValue? c with | some d => n * base + d | none => n) 0

/-- The integer that a literal denotes, when it is not a decimal. -/
def integerValue? (s : List Char) : Option Nat := do
  let (chars, rest) ← integerDigits s
  match chars with
  | '0' :: 'x' :: digits => some (natOfDigits 16 digits)
  | '0' :: 'o' :: digits => some (natOfDigits 8 digits)
  | '0' :: 'b' :: digits => some (natOfDigits 2 digits)
  | digits =>
    match rest with
    | '.' :: _ => none
    | e :: more =>
      if (e = 'e' ∨ e = 'E') ∧ (more.dropWhile (· == '_')).any fun c => c.isDigit || c == '-' || c == '+'
      then if (exponent false false more).isSome then none else some (natOfDigits 10 digits)
      else some (natOfDigits 10 digits)
    | [] => some (natOfDigits 10 digits)

/-- The value of a numeric literal. -/
def number? (literal : String) : Option NumberValue :=
  let s := literal.toList
  match s with
  | c :: _ =>
    if !c.isDigit then none
    else match integerValue? s with
      | some n => some (.integer n)
      | none =>
        (decimalDigits s).map fun r => .decimal (r.1.filter fun c => c ≠ '_' && c ≠ '+')
  | [] => none

/-- The JSON value of a literal: texts, integers of 64 bits, finite decimals; others are `null`. -/
def json (literal : String) : Json :=
  match textValue? literal with
  | some s => .string s
  | none =>
    match number? literal with
    | some (.integer n) =>
      if (n : Int) ≤ 9223372036854775807 then Json.ofNat n else .null
    | some (.decimal digits) => (readDouble? digits).elim .null fun x => .number (.float x)
    | none => .null

end RouteContracts.Source.Literal
