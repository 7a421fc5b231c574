import RouteContracts.Json.Value

/-! # Reading JSON
A text is first cut into tokens and the tokens are then assembled with a stack of open arrays and
objects, so that both steps recurse on their input. Nesting deeper than a given limit is refused.

* `Json.scanString`: the characters of a quoted text, escapes and surrogate pairs decoded.
* `Json.tokens?`: the tokens of a text.
* `Json.assemble`: a value from tokens. `Json.read?` joins the two. -/

namespace RouteContracts.Json

/-- A token of a JSON text. -/
inductive Token where
  /-- One of the six structural characters. -/
  | mark (c : Char)
  /-- A value that holds no other. -/
  | scalar (value : Json)

/-- The value of a hex digit. -/
def hexValue? (c : Char) : Option Nat :=
  if '0' ≤ c ∧ c ≤ '9' then some (c.toNat - '0'.toNat)
  else if 'a' ≤ c ∧ c ≤ 'f' then some (c.toNat - 'a'.toNat + 10)
  else if 'A' ≤ c ∧ c ≤ 'F' then some (c.toNat - 'A'.toNat + 10)
  else none

/-- The 16-bit unit written by four hex digits. -/
def unit? (a b c d : Char) : Option Nat := do
  some (((← hexValue? a) * 16 + (← hexValue? b)) * 256 + ((← hexValue? c) * 16 + (← hexValue? d)))

/-- The character that a letter after a backslash stands for. -/
def unescapeLetter? : Char → Option Char
  | '"' => some '"'
  | '\\' => some '\\'
  | '/' => some '/'
  | 'b' => some '\x08'
  | 'f' => some '\x0c'
  | 'n' => some '\n'
  | 'r' => some '\r'
  | 't' => some '\t'
  | _ => none

/-- Whether a 16-bit unit is the first half of a pair. -/
def isHighHalf (u : Nat) : Bool := 0xD800 ≤ u && u ≤ 0xDBFF

/-- Whether a 16-bit unit is the second half of a pair. -/
def isLowHalf (u : Nat) : Bool := 0xDC00 ≤ u && u ≤ 0xDFFF

/-- Reads a quoted text from behind its opening quote. A control character, an unknown escape and half
a surrogate pair are errors. The result also tells the rest of the text. -/
def scanString : List Char → Option (List Char × List Char)
  | [] => none
  | '"' :: rest => some ([], rest)
  -- two escapes in a row may be the halves of one character
  | '\\' :: 'u' :: a :: b :: c :: d :: '\\' :: 'u' :: e :: f :: g :: h :: rest => do
    let u ← unit? a b c d
    if isHighHalf u then
      let v ← unit? e f g h
      if isLowHalf v then
        let (cs, rest) ← scanString rest
        some (Char.ofNat (0x10000 + (u - 0xD800) * 0x400 + (v - 0xDC00)) :: cs, rest)
      else none
    else if isLowHalf u then none
    else
      -- the second escape is one of its own
      let (cs, rest) ← scanString ('\\' :: 'u' :: e :: f :: g :: h :: rest)
      some (Char.ofNat u :: cs, rest)
  | '\\' :: 'u' :: a :: b :: c :: d :: rest => do
    let u ← unit? a b c d
    if isHighHalf u || isLowHalf u then none
    else
      let (cs, rest) ← scanString rest
      some (Char.ofNat u :: cs, rest)
  | '\\' :: l :: rest => do
    let c ← unescapeLetter? l
    let (cs, rest) ← scanString rest
    some (c :: cs, rest)
  | c :: rest =>
    if c = '\\' ∨ c.toNat < 0x20 then none
    else do
      let (cs, rest) ← scanString rest
      some (c :: cs, rest)
termination_by s => s.length

/-- Whether a character is white space between tokens. -/
def isSpace (c : Char) : Bool := c == ' ' || c == '\n' || c == '\t' || c == '\r'

/-- Whether a character is one of the six structural ones. -/
def isMark (c : Char) : Bool :=
  c == '[' || c == ']' || c == '\x7b' || c == '\x7d' || c == ',' || c == ':'

/-- The token at the front of a text that does not start with white space. -/
def token? : List Char → Option (Token × List Char)
  | 'n' :: 'u' :: 'l' :: 'l' :: rest => some (.scalar .null, rest)
  | 't' :: 'r' :: 'u' :: 'e' :: rest => some (.scalar (.bool true), rest)
  | 'f' :: 'a' :: 'l' :: 's' :: 'e' :: rest => some (.scalar (.bool false), rest)
  | '"' :: rest => do
    let (cs, rest) ← scanString rest
    some (.scalar (.string (String.ofList cs)), rest)
  | c :: rest =>
    if isMark c then some (.mark c, rest)
    else do
      let (n, rest) ← Number.read (c :: rest)
      some (.scalar (.number n), rest)
  | [] => none

/-- The tokens of a text; at most `fuel` of them and of the blanks between them. -/
def tokensWithin : Nat → List Char → Option (List Token)
  | _, [] => some []
  | 0, _ => none
  | fuel + 1, c :: rest =>
    if isSpace c then tokensWithin fuel rest
    else do
      let (t, rest) ← token? (c :: rest)
      some (t :: (← tokensWithin fuel rest))

/-- The tokens of a text. Each takes at least one character. -/
def tokens? (s : List Char) : Option (List Token) := tokensWithin s.length s

/-- What is open around the place that is being read, with what has been read of it in reverse. -/
inductive Frame where
  /-- An array. -/
  | array (items : List Json)
  /-- An object, waiting for the value of a name. -/
  | object (members : Members Json) (name : String)

/-- What may come next. -/
inductive Expecting where
  /-- A value. -/
  | value
  /-- A value, or the end of the array that was just opened. -/
  | valueOrEnd
  /-- A name, or the end of the object that was just opened. -/
  | nameOrEnd (members : Members Json)
  /-- A name after a comma. -/
  | name (members : Members Json)
  /-- The colon after a name. -/
  | colon (members : Members Json) (name : String)
  /-- A comma or the end of what is open, after a value. -/
  | more (value : Json)

/-- Assembles tokens into one value. `limit` bounds the number of open arrays and objects. -/
def assemble (limit : Nat) : List Frame → Expecting → List Token → Option Json
  | [], .more v, [] => some v
  | _, _, [] => none
  | frames, .value, .scalar v :: ts => assemble limit frames (.more v) ts
  | frames, .valueOrEnd, .scalar v :: ts => assemble limit (.array [] :: frames) (.more v) ts
  | frames, .value, .mark c :: ts => opened limit frames c ts
  | frames, .valueOrEnd, .mark ']' :: ts => assemble limit frames (.more (.array [])) ts
  | frames, .valueOrEnd, .mark c :: ts => opened limit (.array [] :: frames) c ts
  | frames, .nameOrEnd members, .mark '\x7d' :: ts => assemble limit frames (.more (.object members)) ts
  | frames, .nameOrEnd members, .scalar (.string s) :: ts => assemble limit frames (.colon members s) ts
  | frames, .name members, .scalar (.string s) :: ts => assemble limit frames (.colon members s) ts
  | frames, .colon members s, .mark ':' :: ts => assemble limit (.object members s :: frames) .value ts
  | .array items :: frames, .more v, .mark ',' :: ts =>
    assemble limit (.array (v :: items) :: frames) .value ts
  | .array items :: frames, .more v, .mark ']' :: ts =>
    assemble limit frames (.more (.array (v :: items).reverse)) ts
  | .object members s :: frames, .more v, .mark ',' :: ts =>
    assemble limit frames (.name (Members.insert s v members)) ts
  | .object members s :: frames, .more v, .mark '\x7d' :: ts =>
    assemble limit frames (.more (.object (Members.insert s v members))) ts
  | _, _, _ :: _ => none
where
  /-- Opens an array or an object. -/
  opened (limit : Nat) (frames : List Frame) (c : Char) (ts : List Token) : Option Json :=
    if limit ≤ frames.length then none
    else if c = '[' then assemble limit frames .valueOrEnd ts
    else if c = '\x7b' then assemble limit frames (.nameOrEnd []) ts
    else none

/-- The value of a JSON text with at most `limit` levels of nesting. -/
def readWithin? (limit : Nat) (s : String) : Option Json := do
  assemble limit [] .value (← tokens? s.toList)

/-- The deepest nesting of arrays and objects that is read. -/
def maxDepth : Nat := 127

/-- **The value of a JSON text.** -/
def read? (s : String) : Option Json := readWithin? maxDepth s

end RouteContracts.Json
