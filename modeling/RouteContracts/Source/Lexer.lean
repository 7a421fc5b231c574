import RouteContracts.Source.Literal
import RouteContracts.Source.Token
import RouteContracts.Text.Blank
import RouteContracts.Text.Quoted

/-! # From text to tokens
Blanks and comments separate tokens and vanish; documentation comments become attributes. The brackets
of a text have to match.

* `Lexer.lexemes?`: the flat tokens of a text.
* `Lexer.trees?`: the token trees of a text. -/

namespace RouteContracts.Source.Lexer

/-- Whether a character separates tokens. -/
def isSpace (c : Char) : Bool := Text.isBlank c || c == '\u200e' || c == '\u200f'

/-- What stands up to the end of a line, and what follows it. -/
def line : List Char → List Char × List Char
  | [] => ([], [])
  | '\n' :: rest => ([], '\n' :: rest)
  | '\r' :: '\n' :: rest => ([], '\n' :: rest)
  | c :: rest => let (l, rest) := line rest; (c :: l, rest)

/-- What stands in a block comment up to the end of the outermost of `depth` comments, and what follows. -/
def block : Nat → List Char → Option (List Char × List Char)
  | _, [] => none
  | depth, '/' :: '*' :: rest => (block (depth + 1) rest).map fun r => ('/' :: '*' :: r.1, r.2)
  | 0, '*' :: '/' :: rest => some ([], rest)
  | depth + 1, '*' :: '/' :: rest => (block depth rest).map fun r => ('*' :: '/' :: r.1, r.2)
  | depth, c :: rest => (block depth rest).map fun r => (c :: r.1, r.2)

/-- Whether a text has a carriage return without its line feed. -/
def hasBareReturn : List Char → Bool
  | [] => false
  | '\r' :: '\n' :: rest => hasBareReturn rest
  | '\r' :: _ => true
  | _ :: rest => hasBareReturn rest

/-- A flat token. -/
inductive Lexeme where
  /-- An opening bracket. -/
  | opening (d : Delimiter)
  /-- A closing bracket. -/
  | closing (d : Delimiter)
  /-- Trees without open brackets. -/
  | trees (ts : List Tree)

/-- The attribute that a documentation comment stands for: `#[doc = ".."]`, or `#![doc = ".."]` for an `inner` one. -/
def documentation (inner : Bool) (comment : List Char) : List Tree :=
  Tree.lone '#' :: (if inner then [Tree.lone '!'] else []) ++
    [.group .bracket [.word "doc", Tree.lone '=', .literal (Text.quoted (String.ofList comment))]]

/-- A documentation comment at the front of a text, as its attribute; none where `hasBareReturn`. -/
def documented? (s : List Char) : Option (List Tree × List Char) := do
  let (inner, comment, rest) ← match s with
    | '/' :: '/' :: '!' :: rest => let (l, rest) := line rest; some (true, l, rest)
    | '/' :: '/' :: '/' :: '/' :: _ => none
    | '/' :: '/' :: '/' :: rest => let (l, rest) := line rest; some (false, l, rest)
    | '/' :: '*' :: '!' :: rest => (block 0 rest).map fun r => (true, r.1, r.2)
    | '/' :: '*' :: '*' :: '*' :: _ => none
    | '/' :: '*' :: '*' :: '/' :: _ => none
    | '/' :: '*' :: '*' :: rest => (block 0 rest).map fun r => (false, r.1, r.2)
    | _ => none
  if hasBareReturn comment then none else some (documentation inner comment, rest)

/-- Whether a documentation comment begins at the front of a text, also one that `documented?` refuses. -/
def startsDocumentation : List Char → Bool
  | '/' :: '/' :: '!' :: _ => true
  | '/' :: '/' :: '/' :: '/' :: _ => false
  | '/' :: '/' :: '/' :: _ => true
  | '/' :: '*' :: '!' :: _ => true
  | '/' :: '*' :: '*' :: '*' :: _ => false
  | '/' :: '*' :: '*' :: '/' :: _ => false
  | '/' :: '*' :: '*' :: _ => true
  | _ => false

/-- What is left after a blank or a comment at the front of a text. No documentation comment is left out, so that one
with a bare carriage return makes the text unreadable. -/
def skipped? (s : List Char) : Option (List Char) :=
  match s with
  | '/' :: '/' :: rest => if startsDocumentation s then none else some (line rest).2
  | '/' :: '*' :: rest =>
    if startsDocumentation s then none else (block 0 rest).map Prod.snd
  | c :: rest => if isSpace c then some rest else none
  | [] => none

/-- The marks. -/
def isMark (c : Char) : Bool := "~!@#$%^&*-=+|;:,<.>/?'".toList.contains c

/-- Whether a mark stands at the front of a text; the slash of a comment is none. -/
def markAtFront : List Char → Bool
  | '/' :: '/' :: _ => false
  | '/' :: '*' :: _ => false
  | c :: _ => isMark c
  | [] => false

/-- An identifier or keyword at the front of a text. -/
def plainWord? (s : List Char) : Option (List Char × List Char) :=
  match s with
  | c :: rest =>
    if Text.isIdentStart c then
      some (c :: rest.takeWhile Text.isIdentPart, rest.dropWhile Text.isIdentPart)
    else none
  | [] => none

/-- The words that have no raw form. -/
def neverRaw : List String := ["_", "super", "self", "Self", "crate"]

/-- A word at the front of a text, raw or not; `r#` in front of one of `neverRaw` is no word. -/
def word? (s : List Char) : Option (List Char × List Char) :=
  match s with
  | 'r' :: '#' :: rest => do
    let (w, rest) ← plainWord? rest
    if neverRaw.contains (String.ofList w) then none else some ('r' :: '#' :: w, rest)
  | _ => plainWord? s

/-- The beginnings of quoted literals, at which no word begins. -/
def quotedFronts : List (List Char) :=
  [['r', '"'], ['r', '#', '"'], ['r', '#', '#'], ['b', '"'], ['b', '\''], ['b', 'r', '"'],
   ['b', 'r', '#'], ['c', '"'], ['c', 'r', '"'], ['c', 'r', '#']]

/-- A mark at the front of a text. The quote of a lifetime has to be followed by a word, and not by
another quote after that. -/
def mark? (s : List Char) : Option (Tree × List Char) :=
  if !markAtFront s then none
  else match s with
    | '\'' :: rest => do
      let (_, after) ← word? rest
      match after with
      | '\'' :: _ => none
      | '#' :: _ => if Literal.startsWith ['r', '#'] rest then some (Tree.joined '\'', rest) else none
      | _ => some (Tree.joined '\'', rest)
    | c :: rest => some (.mark c (markAtFront rest), rest)
    | [] => none

/-- A token that is no bracket: a literal, else a mark, else a word at which no quoted literal begins. -/
def leaf? (s : List Char) : Option (Tree × List Char) :=
  match Literal.scan s with
  | some (l, rest) => some (.literal (String.ofList l), rest)
  | none =>
    match mark? s with
    | some r => some r
    | none =>
      if quotedFronts.any (Literal.startsWith · s) then none
      else (word? s).map fun r => (.word (String.ofList r.1), r.2)

/-- The bracket that a character opens. -/
def opens? : Char → Option Delimiter
  | '(' => some .parenthesis
  | '[' => some .bracket
  | '\x7b' => some .brace
  | _ => none

/-- The bracket that a character closes. -/
def closes? : Char → Option Delimiter
  | ')' => some .parenthesis
  | ']' => some .bracket
  | '\x7d' => some .brace
  | _ => none

/-- The next flat token and the rest of a text that does not start with a blank: `documented?`, a bracket, or
`leaf?`. -/
def lexeme? (s : List Char) : Option (Lexeme × List Char) :=
  match documented? s with
  | some (ts, rest) => some (.trees ts, rest)
  | none =>
    match s with
    | c :: rest =>
      match opens? c, closes? c with
      | some d, _ => some (.opening d, rest)
      | _, some d => some (.closing d, rest)
      | _, _ => (leaf? s).map fun r => (.trees [r.1], r.2)
    | [] => none

/-- The flat tokens of a text, by `skipped?` and `lexeme?`, at most `fuel` of them and of the blanks between. -/
def lexemesWithin : Nat → List Char → Option (List Lexeme)
  | _, [] => some []
  | 0, _ => none
  | fuel + 1, s =>
    match skipped? s with
    | some rest => lexemesWithin fuel rest
    | none => do
      let (l, rest) ← lexeme? s
      some (l :: (← lexemesWithin fuel rest))

/-- `lexemesWithin` as many as there are characters. -/
def lexemes? (s : List Char) : Option (List Lexeme) := lexemesWithin s.length s

/-- Assembles flat tokens into trees. `open` holds the brackets around the current place, each with the
trees before it, and `here` the trees of the current group, both in reverse. -/
def assemble : List (Delimiter × List Tree) → List Tree → List Lexeme → Option (List Tree)
  | [], here, [] => some here.reverse
  | _ :: _, _, [] => none
  | around, here, .opening d :: rest => assemble ((d, here) :: around) [] rest
  | (d, before) :: around, here, .closing e :: rest =>
    if d = e then assemble around (.group d here.reverse :: before) rest else none
  | [], _, .closing _ :: _ => none
  | around, here, .trees ts :: rest => assemble around (ts.reverse ++ here) rest

/-- The mark that may stand in front of a text to tell its encoding. -/
def withoutByteOrderMark : List Char → List Char
  | '\ufeff' :: rest => rest
  | s => s

/-- **The token trees of a text**: its flat tokens, assembled. -/
def trees? (s : List Char) : Option (List Tree) := do assemble [] [] (← lexemes? (withoutByteOrderMark s))

end RouteContracts.Source.Lexer
