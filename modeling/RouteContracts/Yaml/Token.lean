import RouteContracts.Yaml.Scalar

/-! # YAML tokens
How the tokens of a YAML text are found, one after another.

* `Scan.next?`: the next token. `tokens?`: all tokens of a text. -/

namespace RouteContracts.Yaml

namespace Scan

/-- Passes blanks, comments and line ends. A tab may not stand where a key may begin. -/
def toToken : Nat → Scan → Scan
  | 0, s => s
  | fuel + 1, s =>
    match s.rest with
    | ' ' :: _ => toToken fuel s.skip
    -- where a key may begin, a tab would be indentation
    | '\t' :: _ => if 0 < s.flow ∨ s.keyAllowed = false then toToken fuel s.skip else s
    | '#' :: _ => toToken fuel (s.takeWhile fun c => !isBreak c).2
    | c :: _ =>
      if isBreak c then
        let s := s.readBreak.2
        toToken fuel (if s.flow = 0 then s.allowKey true else s)
      else s
    | [] => s

/-! ## Directives and properties -/

/-- A number in a directive. -/
def directiveNumber? (s : Scan) : Option (Nat × Scan) :=
  let (digits, s) := s.takeWhile Char.isDigit
  if digits.isEmpty ∨ 9 < digits.length then none
  else some (digits.foldl (fun n c => n * 10 + (c.toNat - '0'.toNat)) 0, s)

/-- The version in a directive. -/
def version? (s : Scan) : Option (Token × Scan) := do
  let (major, s) ← s.directiveNumber?
  match s.rest with
  | '.' :: _ => do
    let (minor, s) ← s.skip.directiveNumber?
    some (.versionDirective major minor, s)
  | _ => none

/-- Whether a character may stand in the rest of a tag. -/
def isTagChar (c : Char) : Bool := isNameChar c || ";/?:@&=+$.!~*'()%".toList.contains c

/-- Whether a character may stand in a tag between angle brackets or in a directive. -/
def isVerbatimTagChar (c : Char) : Bool := isTagChar c || [',', '[', ']'].contains c

/-- The handle of a tag: exclamation marks around a name, or one alone. -/
def tagHandle? (s : Scan) : Option (List Char × Scan) :=
  match s.rest with
  | '!' :: _ =>
    let (name, s) := s.skip.takeWhile isNameChar
    match s.rest with
    | '!' :: _ => some ('!' :: name ++ ['!'], s.skip)
    | _ => some ('!' :: name, s)
  | _ => none

/-- The handle in a directive, and what it stands for. -/
def tagDirective? (s : Scan) : Option (Token × Scan) := do
  let (handle, s) ← s.tagHandle?
  if handle ≠ ['!'] ∧ handle.getLast? ≠ some '!' then none
  else if !oneOfNext [' ', '\t'] s.rest then none
  else
    let (_, s) := s.takeWhile isSpace
    let (address, s) := s.takeWhile isVerbatimTagChar
    if address.isEmpty ∨ !blankNext s.rest then none
    else some (.tagDirective (String.ofList handle), s)

/-- A directive, from after its sign. -/
def directive? (s : Scan) : Option Scan := do
  let (name, s) := s.takeWhile isNameChar
  if name.isEmpty ∨ !blankNext s.rest then none
  else
    let (_, s) := s.takeWhile isSpace
    let (t, s) ← match String.ofList name with
      | "YAML" => s.version?
      | "TAG" => s.tagDirective?
      | _ => none
    let (_, s) := s.takeWhile isSpace
    let (_, s) := if oneOfNext ['#'] s.rest then s.takeWhile (fun c => !isBreak c) else ([], s)
    if !endNext s.rest then none else some (s.skipBreak.push t)

/-- The name of an anchor or alias, from after its sign. -/
def anchorName? (s : Scan) : Option (String × Scan) :=
  let (name, s) := s.takeWhile isNameChar
  if name.isEmpty || !(blankNext s.rest || oneOfNext "?:,]\x7d%@\x60".toList s.rest) then none
  else some (String.ofList name, s)

/-- A tag: the handle that has to be known, if it has one. -/
def tag? (s : Scan) : Option (Token × Scan) := do
  let (handle, s) ← match s.rest with
    | '!' :: '<' :: _ =>
      let (address, s) := (s.skips 2).takeWhile isVerbatimTagChar
      if address.isEmpty || !oneOfNext ['>'] s.rest then none else some (([] : List Char), s.skip)
    | _ => do
      let (handle, s) ← s.tagHandle?
      let (suffix, s) := s.takeWhile isTagChar
      if 2 ≤ handle.length ∧ handle.getLast? = some '!' then
        if suffix.isEmpty then none else some (handle, s)
      else some (['!'], s)
  if blankNext s.rest || decide (0 < s.flow) && oneOfNext [','] s.rest then
    some (.tag (String.ofList handle), s)
  else none

/-! ## Tokens -/

/-- A directive, at the front of a line. -/
def fetchDirective? (s : Scan) : Option Scan := do
  let s ← (s.unindentTo (-1)).dropKey?
  (s.allowKey false).skip.directive?

/-- The mark of a document. -/
def fetchDocumentMark? (s : Scan) : Option Scan := do
  let t := if oneOfNext ['-'] s.rest then Token.documentStart else .documentEnd
  let s ← (s.unindentTo (-1)).dropKey?
  some (((s.allowKey false).skips 3).push t)

/-- An opening bracket. -/
def fetchOpening? (t : Token) (s : Scan) : Option Scan := do
  let s ← s.saveKey?
  some ({ s with flow := s.flow + 1, keys := none :: s.keys, keyAllowed := true }.skip.push t)

/-- A closing bracket. -/
def fetchClosing? (t : Token) (s : Scan) : Option Scan := do
  let s ← s.dropKey?
  let s := if s.flow = 0 then s else { s with flow := s.flow - 1, keys := s.keys.tail }
  some ((s.allowKey false).skip.push t)

/-- A comma in brackets. -/
def fetchComma? (s : Scan) : Option Scan := do
  let s ← s.dropKey?
  some ((s.allowKey true).skip.push .flowEntry)

/-- The dash of an entry. -/
def fetchEntry? (s : Scan) : Option Scan := do
  if s.flow = 0 ∧ s.keyAllowed = false then none
  else
    let s := s.indentTo s.column s.tokens.length .blockSequenceStart
    let s ← s.dropKey?
    some ((s.allowKey true).skip.push .blockEntry)

/-- The question mark of a key. -/
def fetchKey? (s : Scan) : Option Scan := do
  if s.flow = 0 ∧ s.keyAllowed = false then none
  else
    let s := s.indentTo s.column s.tokens.length .blockMappingStart
    let s ← s.dropKey?
    some ((s.allowKey (s.flow == 0)).skip.push .key)

/-- The colon of a value. It makes a possible key a key. -/
def fetchValue? (s : Scan) : Option Scan := do
  match ← s.currentKey? with
  | some k =>
    -- what was read before the colon becomes the key afterwards
    let s := (s.insert k.position .key).indentTo k.column k.position .blockMappingStart
    some (((s.setKey none).allowKey false).skip.push .value)
  | none =>
    if s.flow = 0 ∧ s.keyAllowed = false then none
    else
      let s := s.indentTo s.column s.tokens.length .blockMappingStart
      some (((s.setKey none).allowKey (s.flow == 0)).skip.push .value)

/-- A token at which a key may begin, and after which none may. -/
def fetchNode? (read? : Scan → Option (Token × Scan)) (s : Scan) : Option Scan := do
  let s ← s.saveKey?
  let (t, s) ← read? (s.allowKey false)
  some (s.push t)

/-- A block scalar. -/
def fetchBlock? (folded : Bool) (s : Scan) : Option Scan := do
  let s ← s.dropKey?
  let (text, s) ← (s.allowKey true).skip.block? folded
  some (s.push (.scalar .marked text))

/-- Reads a scalar or a name as a token. -/
def asToken (token : String → Token) (read? : Scan → Option (String × Scan)) (s : Scan) :
    Option (Token × Scan) := do
  let (text, s) ← read? s
  some (token text, s)

/-- Whether a plain scalar begins here. -/
def plainBegins (s : Scan) : Bool :=
  match s.rest with
  | '-' :: c :: _ => !isSpace c
  | ['-'] => true
  | '?' :: rest => s.flow == 0 && !blankNext rest
  | ':' :: rest => s.flow == 0 && !blankNext rest
  | c :: _ => !(isSpace c || isBreak c || ",[]\x7b\x7d#&*!|>'\"%@\x60".toList.contains c)
  | [] => false

/-- The token of a sign, if the next character is one. -/
def fetchSign? (s : Scan) (c : Char) (rest : List Char) : Option (Option Scan) :=
  match c with
  | '[' => some (s.fetchOpening? .flowSequenceStart)
  | '\x7b' => some (s.fetchOpening? .flowMappingStart)
  | ']' => some (s.fetchClosing? .flowSequenceEnd)
  | '\x7d' => some (s.fetchClosing? .flowMappingEnd)
  | ',' => some s.fetchComma?
  | '-' => if blankNext rest then some s.fetchEntry? else none
  | '?' => if 0 < s.flow ∨ blankNext rest = true then some s.fetchKey? else none
  | ':' => if 0 < s.flow ∨ blankNext rest = true then some s.fetchValue? else none
  | '*' => some (s.fetchNode? fun s => asToken .alias anchorName? s.skip)
  | '&' => some (s.fetchNode? fun s => asToken .anchor anchorName? s.skip)
  | '!' => some (s.fetchNode? tag?)
  | '|' => if s.flow = 0 then some (s.fetchBlock? false) else none
  | '>' => if s.flow = 0 then some (s.fetchBlock? true) else none
  | '\'' => some (s.fetchNode? fun s => asToken (.scalar .marked) singleQuoted? s.skip)
  | '"' => some (s.fetchNode? fun s => asToken (.scalar .marked) doubleQuoted? s.skip)
  | _ => none

/-- Gives up possible keys that cannot be keys any more; it is an error if one is required. -/
def withoutStaleKeys? (s : Scan) : Option Scan :=
  if s.keys.all fun k => k.all fun k => s.isFresh k || !k.required then
    some { s with keys := s.keys.map fun k => k.filter s.isFresh }
  else none

/-- **The next token**, which begins with a character that is no blank. -/
def next? (s : Scan) (c : Char) (rest : List Char) : Option Scan :=
  if s.column = 0 ∧ c = '%' then s.fetchDirective?
  else if s.documentMark then s.fetchDocumentMark?
  else match s.fetchSign? c rest with
    | some next => next
    | none => if s.plainBegins then s.fetchNode? (asToken (.scalar .plain) plain?) else none

/-- The tokens up to the end of the text. -/
def allWithin : Nat → Scan → Option (List Token)
  | 0, _ => none
  | fuel + 1, s => do
    let s ← (toToken (s.rest.length + 1) s).withoutStaleKeys?
    match s.rest with
    | [] => do
      let s ← (s.unindentTo (-1)).dropKey?
      some s.tokens
    | c :: rest => do
      let s ← (s.unindentTo s.column).next? c rest
      allWithin fuel s

end Scan

/-- The text without the mark that tells its encoding. -/
def withoutMark : List Char → List Char
  | '\ufeff' :: rest => rest
  | s => s

/-- **The tokens of a YAML text.** -/
def tokens? (text : String) : Option (List Token) :=
  let s := withoutMark text.toList
  if s.all isAllowed then Scan.allWithin (s.length + 2) (Scan.start s) else none

end RouteContracts.Yaml
