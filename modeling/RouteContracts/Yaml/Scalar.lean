import RouteContracts.Json.Reader
import RouteContracts.Yaml.Scan

/-! # YAML scalars
How the text of a scalar is read: plain, in quotes, or as an indented block. Where a scalar goes on over
several lines, a single line end between them becomes a blank, and empty lines become line ends.

* `Folding`: the blanks and line ends since the last character of a scalar.
* `Scan.plain?`, `Scan.singleQuoted?`, `Scan.doubleQuoted?`, `Scan.block?`: the scalars. -/

namespace RouteContracts.Yaml

/-- What has been passed since the last character of a scalar. -/
structure Folding where
  /-- Blanks on the same line. -/
  blanks : List Char
  /-- The first line end, if there was one. -/
  first : List Char
  /-- The line ends after it. -/
  more : List Char
  /-- Whether the line has ended. -/
  ended : Bool

namespace Folding

/-- Nothing has been passed. -/
def empty : Folding := ⟨[], [], [], false⟩

/-- The line has ended, and its end does not count. -/
def escaped : Folding := ⟨[], [], [], true⟩

/-- What the passed characters become in the scalar. -/
def text (f : Folding) : List Char :=
  if f.ended then
    if f.first = ['\n'] then (if f.more = [] then [' '] else f.more) else f.first ++ f.more
  else f.blanks

/-- Adds a blank. -/
def addBlank (f : Folding) (c : Char) : Folding :=
  if f.ended then f else { f with blanks := f.blanks ++ [c] }

/-- Adds a line end. -/
def addBreak (f : Folding) (b : List Char) : Folding :=
  if f.ended then { f with more := f.more ++ b } else ⟨[], b, f.more, true⟩

end Folding

namespace Scan

/-- Passes blanks and line ends. In a plain scalar, given its indentation, no tab may stand left of it. -/
def foldWithin (indent : Option Int) : Nat → Folding → Scan → Option (Folding × Scan)
  | 0, f, s => some (f, s)
  | fuel + 1, f, s =>
    match s.rest with
    | c :: _ =>
      if isSpace c then
        -- a tab does not count as indentation
        if f.ended && c == '\t' && indent.any (fun i => decide ((s.column : Int) < i)) then none
        else foldWithin indent fuel (f.addBlank c) s.skip
      else if isBreak c then
        let (b, s) := s.readBreak
        foldWithin indent fuel (f.addBreak b) s
      else some (f, s)
    | [] => some (f, s)

/-- Passes blanks and line ends. -/
def fold? (indent : Option Int) (f : Folding) (s : Scan) : Option (Folding × Scan) :=
  foldWithin indent (s.rest.length + 1) f s

/-! ## Plain scalars -/

/-- Whether a plain scalar ends in front of a character of its line. -/
def plainEnds (s : Scan) : Bool :=
  match s.rest with
  | ':' :: rest => blankNext rest
  | c :: _ => decide (0 < s.flow) && [',', '[', ']', '\x7b', '\x7d'].contains c
  | [] => true

/-- Whether a colon stands where no plain scalar may have one. -/
def strayColon (s : Scan) : Bool :=
  decide (0 < s.flow) &&
    match s.rest with
    | ':' :: rest => oneOfNext [',', '?', '[', ']', '\x7b', '\x7d'] rest
    | _ => false

/-- The characters of a plain scalar up to a blank. -/
def plainRun? : Nat → List Char → Scan → Option (List Char × Scan)
  | 0, text, s => some (text, s)
  | fuel + 1, text, s =>
    match s.rest with
    | c :: _ =>
      if blankNext s.rest then some (text, s)
      else if s.strayColon then none
      else if s.plainEnds then some (text, s)
      else plainRun? fuel (text ++ [c]) s.skip
    | [] => some (text, s)

/-- The parts of a plain scalar. -/
def plainWithin : Nat → List Char → Folding → Scan → Option (List Char × Bool × Scan)
  | 0, text, f, s => some (text, f.ended, s)
  | fuel + 1, text, f, s =>
    if s.documentMark || oneOfNext ['#'] s.rest then some (text, f.ended, s)
    else do
      let (run, s) ← plainRun? (s.rest.length + 1) [] s
      -- what was passed before is of the scalar only if more of it follows
      let (text, f) := if run.isEmpty then (text, f) else (text ++ f.text ++ run, Folding.empty)
      if !(oneOfNext [' ', '\t'] s.rest || breakNext s.rest) then some (text, f.ended, s)
      else
        let (f, s) ← s.fold? (some (s.indent + 1)) f
        -- a line that is not indented enough is not of the scalar
        if s.flow = 0 ∧ (s.column : Int) < s.indent + 1 then some (text, f.ended, s)
        else plainWithin fuel text f s

/-- **A plain scalar.** After the end of a line, a key may begin. -/
def plain? (s : Scan) : Option (String × Scan) := do
  let (text, ended, s) ← plainWithin (s.rest.length + 1) [] .empty s
  some (String.ofList text, if ended then s.allowKey true else s)

/-! ## Quoted scalars -/

/-- The character that a letter after a backslash stands for. -/
def escapeLetter? : Char → Option Char
  | '0' => some '\x00'
  | 'a' => some '\x07'
  | 'b' => some '\x08'
  | 't' => some '\t'
  | '\t' => some '\t'
  | 'n' => some '\n'
  | 'v' => some '\x0b'
  | 'f' => some '\x0c'
  | 'r' => some '\r'
  | 'e' => some '\x1b'
  | ' ' => some ' '
  | '"' => some '"'
  | '/' => some '/'
  | '\\' => some '\\'
  | 'N' => some '\u0085'
  | '_' => some '\u00a0'
  | 'L' => some '\u2028'
  | 'P' => some '\u2029'
  | _ => none

/-- The number of hexadecimal digits after a letter that follows a backslash. -/
def escapeDigits? : Char → Option Nat
  | 'x' => some 2
  | 'u' => some 4
  | 'U' => some 8
  | _ => none

/-- The number that hexadecimal digits denote. -/
def hexNumber? (digits : List Char) : Option Nat :=
  digits.foldlM (fun n c => (Json.hexValue? c).map fun d => n * 16 + d) 0

/-- The character that an escape stands for, from after its backslash, and the number of characters it
takes. -/
def escape? : List Char → Option (Char × Nat)
  | c :: rest =>
    match escapeLetter? c with
    | some d => some (d, 1)
    | none => do
      let count ← escapeDigits? c
      let digits := rest.take count
      if digits.length < count then none
      else
        let n ← hexNumber? digits
        if 0xd800 ≤ n ∧ n ≤ 0xdfff ∨ 0x10ffff < n then none else some (Char.ofNat n, count + 1)
  | [] => none

/-- What stands in single quotes on a line. -/
def singleRun : Nat → List Char → Scan → List Char × Scan
  | 0, text, s => (text, s)
  | fuel + 1, text, s =>
    match s.rest with
    | '\'' :: '\'' :: _ => singleRun fuel (text ++ ['\'']) (s.skips 2)
    | '\'' :: _ => (text, s)
    | c :: _ => if blankNext s.rest then (text, s) else singleRun fuel (text ++ [c]) s.skip
    | [] => (text, s)

/-- What stands in double quotes on a line, and whether the line ended with a backslash. -/
def doubleRun? : Nat → List Char → Scan → Option (List Char × Bool × Scan)
  | 0, text, s => some (text, false, s)
  | fuel + 1, text, s =>
    match s.rest with
    | '"' :: _ => some (text, false, s)
    | '\\' :: rest =>
      -- the end of the line is escaped
      if breakNext rest then some (text, true, s.skip.readBreak.2)
      else do
        let (c, count) ← escape? rest
        doubleRun? fuel (text ++ [c]) (s.skips (count + 1))
    | c :: _ => if blankNext s.rest then some (text, false, s) else doubleRun? fuel (text ++ [c]) s.skip
    | [] => some (text, false, s)

/-- The parts of a quoted scalar, each with whether its line ended with a backslash, up to the quote. -/
def quotedWithin (quote : Char) (run? : Scan → Option (List Char × Bool × Scan)) :
    Nat → List Char → Scan → Option (String × Scan)
  | 0, _, _ => none
  | fuel + 1, text, s => do
    if s.documentMark || s.rest.isEmpty then none
    else
      let (run, escaped, s) ← run? s
      let text := text ++ run
      if !escaped && oneOfNext [quote] s.rest then some (String.ofList text, s.skip)
      else
        let (f, s) ← s.fold? none (if escaped then .escaped else .empty)
        quotedWithin quote run? fuel (text ++ f.text) s

/-- **A scalar in single quotes**, from after the first one. -/
def singleQuoted? (s : Scan) : Option (String × Scan) :=
  quotedWithin '\'' (fun s => let r := singleRun (s.rest.length + 1) [] s; some (r.1, false, r.2))
    (s.rest.length + 2) [] s

/-- **A scalar in double quotes**, from after the first one. -/
def doubleQuoted? (s : Scan) : Option (String × Scan) :=
  quotedWithin '"' (fun s => doubleRun? (s.rest.length + 1) [] s) (s.rest.length + 2) [] s

/-! ## Block scalars -/

/-- How the line ends after a block are kept. -/
inductive Chomping where
  /-- None is kept. -/
  | strip
  /-- The first is kept. -/
  | clip
  /-- All are kept. -/
  | keep
deriving DecidableEq, Repr

/-- The sign for the line ends after a block. -/
def chomping? : List Char → Option Chomping
  | '+' :: _ => some .keep
  | '-' :: _ => some .strip
  | _ => none

/-- The digit for the indentation of a block; zero is an error. -/
def increment? (s : Scan) : Option (Nat × Scan) :=
  match s.rest with
  | c :: _ =>
    if c.isDigit then
      if c = '0' then none else some (c.toNat - '0'.toNat, s.skip)
    else some (0, s)
  | [] => some (0, s)

/-- The signs after the mark of a block, in any order: the line ends that are kept, and the indentation or
zero. -/
def blockHeader? (s : Scan) : Option (Chomping × Nat × Scan) :=
  match chomping? s.rest with
  | some c => do
    let (n, s) ← s.skip.increment?
    some (c, n, s)
  | none => do
    let (n, s) ← s.increment?
    if n = 0 then some (.clip, 0, s)
    else match chomping? s.rest with
      | some c => some (c, n, s.skip)
      | none => some (.clip, n, s)

/-- Passes the indentation and empty lines in front of a line of a block; a zero indentation is not known
yet. Gives the line ends and the farthest column. -/
def blockBreaksWithin (indent : Int) : Nat → Nat → List Char → Scan → Option (List Char × Nat × Scan)
  | 0, farthest, breaks, s => some (breaks, farthest, s)
  | fuel + 1, farthest, breaks, s =>
    let inside : Bool := indent == 0 || decide ((s.column : Int) < indent)
    match s.rest with
    | ' ' :: _ =>
      if inside then blockBreaksWithin indent fuel farthest breaks s.skip
      else some (breaks, max farthest s.column, s)
    | '\t' :: _ => if inside then none else some (breaks, max farthest s.column, s)
    | c :: _ =>
      let farthest := max farthest s.column
      if isBreak c then
        let (b, s) := s.readBreak
        blockBreaksWithin indent fuel farthest (breaks ++ b) s
      else some (breaks, farthest, s)
    | [] => some (breaks, max farthest s.column, s)

/-- Passes the indentation and empty lines in front of a line of a block, whose indentation is found out if
it is not known. -/
def blockBreaks? (indent : Int) (s : Scan) : Option (List Char × Int × Scan) := do
  let (breaks, farthest, s) ← blockBreaksWithin indent (2 * s.rest.length + 2) 0 [] s
  some (breaks, if indent = 0 then max (max (farthest : Int) (s.indent + 1)) 1 else indent, s)

/-- The lines of a block. `first` is the last line end and `more` those after it; `blank` tells whether the
last line began with a blank. -/
def blockLines (folded : Bool) (indent : Int) :
    Nat → List Char → List Char → List Char → Bool → Scan → Option (List Char × List Char × List Char × Scan)
  | 0, text, first, more, _, s => some (text, first, more, s)
  | fuel + 1, text, first, more, blank, s =>
    if (s.column : Int) = indent ∧ !s.rest.isEmpty then do
      let begins := oneOfNext [' ', '\t'] s.rest
      -- lines are joined unless one of them begins with a blank
      let joined :=
        if folded && first == ['\n'] && !blank && !begins then (if more.isEmpty then [' '] else []) else first
      let (line, s) := s.takeWhile fun c => !isBreak c
      let (b, s) := if breakNext s.rest then s.readBreak else ([], s)
      let (breaks, _, s) ← s.blockBreaks? indent
      blockLines folded indent fuel (text ++ joined ++ more ++ line) b breaks begins s
    else some (text, first, more, s)

/-- **A block scalar**, from after its mark. -/
def block? (folded : Bool) (s : Scan) : Option (String × Scan) := do
  let (chomping, increment, s) ← s.blockHeader?
  let (_, s) := s.takeWhile isSpace
  let (_, s) := if oneOfNext ['#'] s.rest then s.takeWhile (fun c => !isBreak c) else ([], s)
  if !endNext s.rest then none
  else
    let s := s.skipBreak
    let indent : Int := if increment = 0 then 0 else max s.indent 0 + increment
    let (breaks, indent, s) ← s.blockBreaks? indent
    let (text, first, more, s) ← blockLines folded indent (s.rest.length + 1) [] [] breaks false s
    let ending := match chomping with
      | .strip => []
      | .clip => first
      | .keep => first ++ more
    some (String.ofList (text ++ ending), s)

end Scan

end RouteContracts.Yaml
