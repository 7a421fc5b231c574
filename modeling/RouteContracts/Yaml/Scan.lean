/-! # Scanning YAML
The place in a YAML text, and the tokens that have been found so far. In YAML, indentation opens and closes
collections, and a key is recognized only by the colon that follows it: a **possible key** is remembered by
its place among the tokens, and its tokens are put there once the colon comes.

* `Scan`: the state. `Scan.skip`, `Scan.readBreak`: going on in the text.
* `Scan.saveKey`, `Scan.dropKey`, `Scan.indentTo`, `Scan.unindentTo`: keys and collections. -/

namespace RouteContracts.Yaml

/-- How a scalar is written. -/
inductive ScalarStyle where
  /-- Without any mark. -/
  | plain
  /-- In quotes or as a block. -/
  | marked
deriving DecidableEq, Repr

/-- A YAML token. -/
inductive Token where
  | versionDirective (major minor : Nat)
  | tagDirective (handle : String)
  | documentStart
  | documentEnd
  | blockSequenceStart
  | blockMappingStart
  | blockEnd
  | flowSequenceStart
  | flowSequenceEnd
  | flowMappingStart
  | flowMappingEnd
  | blockEntry
  | flowEntry
  | key
  | value
  | alias (name : String)
  | anchor (name : String)
  | tag (handle : String)
  | scalar (style : ScalarStyle) (text : String)
deriving DecidableEq, Repr

/-- A place where a key may have begun. -/
structure PossibleKey where
  /-- Whether it has to turn out to be a key. -/
  required : Bool
  /-- How many tokens come before it. -/
  position : Nat
  /-- The line it begins on. -/
  line : Nat
  /-- The column it begins at. -/
  column : Nat
  /-- The number of characters before it. -/
  index : Nat
deriving DecidableEq, Repr

/-- How far a YAML text is scanned. -/
structure Scan where
  /-- What is left of the text. -/
  rest : List Char
  line : Nat
  column : Nat
  /-- The number of characters read. -/
  index : Nat
  /-- The number of open brackets. -/
  flow : Nat
  /-- The column of the innermost collection. -/
  indent : Int
  /-- The columns of the collections around it. -/
  outer : List Int
  /-- Whether a key may begin here. -/
  keyAllowed : Bool
  /-- The possible key at each level of brackets, the innermost first. -/
  keys : List (Option PossibleKey)
  /-- The tokens so far. -/
  tokens : List Token

/-! ## Characters -/

/-- Whether a character ends a line. -/
def isBreak (c : Char) : Bool := ['\n', '\r', '\u0085', '\u2028', '\u2029'].contains c

/-- Whether a character is a space or a tab. -/
def isSpace (c : Char) : Bool := c == ' ' || c == '\t'

/-- Whether a line ends here. -/
def breakNext : List Char → Bool
  | c :: _ => isBreak c
  | [] => false

/-- Whether a line or the text ends here. -/
def endNext : List Char → Bool
  | c :: _ => isBreak c
  | [] => true

/-- Whether a space, a tab or the end of a line or of the text comes. -/
def blankNext : List Char → Bool
  | c :: _ => isSpace c || isBreak c
  | [] => true

/-- Whether one of some characters comes. -/
def oneOfNext (cs : List Char) : List Char → Bool
  | c :: _ => cs.contains c
  | [] => false

/-- Whether a character may stand in a name. -/
def isNameChar (c : Char) : Bool := c.isAlphanum || c == '_' || c == '-'

/-- Whether a character may stand in a YAML text. -/
def isAllowed (c : Char) : Bool :=
  c == '\t' || c == '\n' || c == '\r' || c == '\u0085' ||
    0x20 ≤ c.toNat && c.toNat ≤ 0x7e || 0xa0 ≤ c.toNat && c.toNat ≤ 0xd7ff ||
    0xe000 ≤ c.toNat && c.toNat ≤ 0xfffd && c != '\ufeff' || 0x10000 ≤ c.toNat

namespace Scan

/-- The start of a text. -/
def start (text : List Char) : Scan := ⟨text, 0, 0, 0, 0, -1, [], true, [none], []⟩

/-- Passes one character on the line. -/
def skip (s : Scan) : Scan := { s with rest := s.rest.tail, column := s.column + 1, index := s.index + 1 }

/-- Passes so many characters on the line. -/
def skips (n : Nat) (s : Scan) : Scan :=
  { s with rest := s.rest.drop n, column := s.column + n, index := s.index + n }

/-- Passes the characters on the line that satisfy a condition, and gives them. -/
def takeWhile (p : Char → Bool) (s : Scan) : List Char × Scan :=
  let taken := s.rest.takeWhile p
  (taken, s.skips taken.length)

/-- Passes the end of a line. Gives the character that stands for it. -/
def readBreak (s : Scan) : List Char × Scan :=
  let past (n : Nat) : Scan :=
    { s with rest := s.rest.drop n, line := s.line + 1, column := 0, index := s.index + n }
  match s.rest with
  | '\r' :: '\n' :: _ => (['\n'], past 2)
  | c :: _ => (if c = '\u2028' ∨ c = '\u2029' then [c] else ['\n'], past 1)
  | [] => ([], s)

/-- Passes the end of a line, if it comes. -/
def skipBreak (s : Scan) : Scan := if breakNext s.rest then s.readBreak.2 else s

/-- Adds a token. -/
def push (s : Scan) (t : Token) : Scan := { s with tokens := s.tokens ++ [t] }

/-- Puts a token in front of those from a place on. -/
def insert (s : Scan) (position : Nat) (t : Token) : Scan :=
  { s with tokens := s.tokens.take position ++ t :: s.tokens.drop position }

/-- Allows or forbids that a key begins next. -/
def allowKey (allowed : Bool) (s : Scan) : Scan := { s with keyAllowed := allowed }

/-- Whether a possible key can still be one: it has to end on the line it began on, and soon. -/
def isFresh (s : Scan) (k : PossibleKey) : Bool := k.line == s.line && decide (s.index ≤ k.index + 1024)

/-- The possible key of the current level, when it can still be one. It is an error when a required key
cannot be one any more. -/
def currentKey? (s : Scan) : Option (Option PossibleKey) :=
  match s.keys.head? with
  | some (some k) => if s.isFresh k then some (some k) else if k.required then none else some none
  | _ => some none

/-- Sets the possible key of the current level. -/
def setKey (s : Scan) (k : Option PossibleKey) : Scan := { s with keys := k :: s.keys.tail }

/-- Gives up the possible key of the current level. -/
def dropKey? (s : Scan) : Option Scan :=
  match s.keys.head? with
  | some (some k) => if k.required then none else some (s.setKey none)
  | _ => some (s.setKey none)

/-- Remembers that a key may begin here. -/
def saveKey? (s : Scan) : Option Scan :=
  if s.keyAllowed then do
    let required := s.flow == 0 && s.indent == (s.column : Int)
    let s ← s.dropKey?
    some (s.setKey (some ⟨required, s.tokens.length, s.line, s.column, s.index⟩))
  else some s

/-- Opens a collection at a column, if it is farther right than the one around; its token goes to a place
among the tokens. -/
def indentTo (s : Scan) (column position : Nat) (t : Token) : Scan :=
  if s.flow = 0 ∧ s.indent < (column : Int) then
    { s with indent := column, outer := s.indent :: s.outer }.insert position t
  else s

/-- Closes collections that are farther right than a column. -/
def unindentWithin : Nat → Int → Scan → Scan
  | 0, _, s => s
  | fuel + 1, column, s =>
    if column < s.indent then
      match s.outer with
      | i :: outer => unindentWithin fuel column ({ s with indent := i, outer }.push .blockEnd)
      | [] => s
    else s

/-- Closes the collections that are farther right than a column. -/
def unindentTo (s : Scan) (column : Int) : Scan :=
  if s.flow = 0 then unindentWithin (s.outer.length + 1) column s else s

/-- Whether the marks of a document stand here. -/
def documentMark (s : Scan) : Bool :=
  s.column == 0 &&
    match s.rest with
    | '-' :: '-' :: '-' :: rest => blankNext rest
    | '.' :: '.' :: '.' :: rest => blankNext rest
    | _ => false

end Scan

end RouteContracts.Yaml
