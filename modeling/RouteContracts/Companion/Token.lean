import RouteContracts.Text.Identifier

/-! # Tokens of unfinished source text
Companion files are read while they are being written, so nothing in them is an error here: a literal
without its end goes on to the end of the text, and a character that begins nothing is a token of its own.
Every token keeps the blanks and comments in front of it, since the text of a declaration includes them.

* `Token.scan`: the tokens of a text.
* `Token.attached`: the blanks and comments in front of a declaration that belong to it.
* `Token.textOf`: the text of a declaration. -/

namespace RouteContracts.Companion

/-- What may stand between tokens. -/
inductive Filler where
  | blanks (text : String)
  | comment (text : String)
deriving DecidableEq, Repr

/-- The text of a filler. -/
def Filler.text : Filler → String
  | .blanks s => s
  | .comment s => s

/-- The kinds of tokens. -/
inductive TokenKind where
  /-- An identifier or a keyword. -/
  | word
  /-- A punctuation character. -/
  | mark
  /-- A lifetime. -/
  | lifetime
  /-- An integer. -/
  | integer
  /-- A number with a fraction or an exponent. -/
  | decimal
  /-- A quoted literal. -/
  | quoted
  /-- Anything else. -/
  | stray
deriving DecidableEq, Repr

/-- A token. -/
structure Token where
  /-- What stands in front of it. -/
  before : List Filler
  /-- Its kind. -/
  kind : TokenKind
  /-- Its text. -/
  text : String
deriving DecidableEq, Repr

namespace Token

/-- Whether a character is a blank between tokens. -/
def isBlank (c : Char) : Bool :=
  [' ', '\t', '\n', '\x0b', '\x0c', '\r', '\u0085', '\u200e', '\u200f', '\u2028', '\u2029'].contains c

/-- The length of a block comment whose front is read; `depth` more of them are open. -/
def blockEnd : Nat → List Char → List Char × List Char
  | _, [] => ([], [])
  | depth, '/' :: '*' :: rest => let r := blockEnd (depth + 1) rest; ('/' :: '*' :: r.1, r.2)
  | 0, '*' :: '/' :: rest => (['*', '/'], rest)
  | depth + 1, '*' :: '/' :: rest => let r := blockEnd depth rest; ('*' :: '/' :: r.1, r.2)
  | depth, c :: rest => let r := blockEnd depth rest; (c :: r.1, r.2)

/-- A filler at the front of a text. -/
def filler? (s : List Char) : Option (Filler × List Char) :=
  match s with
  | '/' :: '/' :: _ =>
    some (.comment (String.ofList (s.takeWhile (· ≠ '\n'))), s.dropWhile (· ≠ '\n'))
  | '/' :: '*' :: rest =>
    let r := blockEnd 0 rest
    some (.comment (String.ofList ('/' :: '*' :: r.1)), r.2)
  | c :: _ =>
    if isBlank c then some (.blanks (String.ofList (s.takeWhile isBlank)), s.dropWhile isBlank) else none
  | [] => none

/-- A word at the front of a text. -/
def word (s : List Char) : List Char × List Char :=
  match s with
  | c :: rest =>
    if Text.isIdentStart c then (c :: rest.takeWhile Text.isIdentPart, rest.dropWhile Text.isIdentPart)
    else ([], s)
  | [] => ([], [])

/-- Adds the suffix that may follow a literal. -/
def suffixed (kind : TokenKind) (r : List Char × List Char) : TokenKind × List Char × List Char :=
  let (suffix, rest) := word r.2
  (kind, r.1 ++ suffix, rest)

/-- A literal up to its closing double quote; a backslash keeps a quote or a backslash from counting. -/
def doubleQuoted : List Char → List Char × List Char
  | [] => ([], [])
  | '"' :: rest => (['"'], rest)
  | '\\' :: '\\' :: rest => let r := doubleQuoted rest; ('\\' :: '\\' :: r.1, r.2)
  | '\\' :: '"' :: rest => let r := doubleQuoted rest; ('\\' :: '"' :: r.1, r.2)
  | c :: rest => let r := doubleQuoted rest; (c :: r.1, r.2)

/-- A raw literal up to a quote with so many hashes after it. -/
def rawQuoted (hashes : Nat) : List Char → List Char × List Char
  | [] => ([], [])
  | c :: rest =>
    if c = '"' ∧ (rest.take hashes) = List.replicate hashes '#' then
      (c :: rest.take hashes, rest.drop hashes)
    else let r := rawQuoted hashes rest; (c :: r.1, r.2)

/-- A raw literal from its hashes on. Without a quote after them it ends there. -/
def raw (s : List Char) : List Char × List Char :=
  let hashes := s.takeWhile (· == '#')
  match s.dropWhile (· == '#') with
  | '"' :: rest =>
    let r := rawQuoted hashes.length rest
    (hashes ++ '"' :: r.1, r.2)
  | rest => (hashes, rest)

/-- What follows a single quote, when it is no lifetime, up to the closing quote, the end of the line or a
slash. -/
def singleQuotedRest : List Char → List Char × List Char
  | [] => ([], [])
  | '\'' :: rest => (['\''], rest)
  | '/' :: rest => ([], '/' :: rest)
  | '\n' :: '\'' :: rest => (['\n', '\''], rest)
  | '\n' :: rest => ([], '\n' :: rest)
  | '\\' :: c :: rest => let r := singleQuotedRest rest; ('\\' :: c :: r.1, r.2)
  | c :: rest => let r := singleQuotedRest rest; (c :: r.1, r.2)

/-- What follows a single quote, when it is no lifetime. -/
def singleQuoted (s : List Char) : List Char × List Char :=
  match s with
  | '\\' :: _ => singleQuotedRest s
  | c :: '\'' :: rest => ([c, '\''], rest)
  | _ => singleQuotedRest s

/-- A lifetime or a character, from after its quote. -/
def quoteOrLifetime (s : List Char) : TokenKind × List Char × List Char :=
  let quoted := suffixed .quoted (singleQuoted s)
  let literal := (quoted.1, '\'' :: quoted.2.1, quoted.2.2)
  match s with
  -- one character between quotes, before a lifetime is thought of
  | _ :: '\'' :: _ => literal
  | c :: rest =>
    if Text.isIdentStart c || c.isDigit then
      let name := c :: rest.takeWhile Text.isIdentPart
      match rest.dropWhile Text.isIdentPart with
      | '\'' :: rest => (.quoted, '\'' :: name ++ ['\''], rest)
      | rest => (.lifetime, '\'' :: name, rest)
    else literal
  | [] => literal

/-- Whether a character goes on with a decimal number. -/
def isDecimal (c : Char) : Bool := c.isDigit || c == '_'

/-- The exponent of a number, from after its letter. -/
def exponent (s : List Char) : List Char × List Char :=
  match s with
  | '+' :: rest => ('+' :: rest.takeWhile isDecimal, rest.dropWhile isDecimal)
  | '-' :: rest => ('-' :: rest.takeWhile isDecimal, rest.dropWhile isDecimal)
  | rest => (rest.takeWhile isDecimal, rest.dropWhile isDecimal)

/-- A number that has digits and perhaps more. -/
def decimalNumber (digits rest : List Char) : TokenKind × List Char × List Char :=
  match rest with
  | '.' :: more =>
    -- a range or a member of the number begins here
    let ends := match more with
      | c :: _ => c == '.' || Text.isIdentStart c
      | [] => false
    if ends then (.integer, digits, rest)
    else match more with
      | d :: _ =>
        if d.isDigit then
          let fraction := digits ++ '.' :: more.takeWhile isDecimal
          match more.dropWhile isDecimal with
          | e :: tail =>
            if e = 'e' ∨ e = 'E' then
              let r := exponent tail
              (.decimal, fraction ++ e :: r.1, r.2)
            else (.decimal, fraction, e :: tail)
          | [] => (.decimal, fraction, [])
        else (.decimal, digits ++ ['.'], more)
      | [] => (.decimal, digits ++ ['.'], [])
  | e :: tail =>
    if e = 'e' ∨ e = 'E' then
      let r := exponent tail
      (.decimal, digits ++ e :: r.1, r.2)
    else (.integer, digits, rest)
  | [] => (.integer, digits, [])

/-- A number. -/
def number (s : List Char) : TokenKind × List Char × List Char :=
  let isHex := fun (c : Char) => isDecimal c || ('a' ≤ c && c ≤ 'f') || ('A' ≤ c && c ≤ 'F')
  let r := match s with
    | '0' :: 'x' :: rest => decimalNumber ('0' :: 'x' :: rest.takeWhile isHex) (rest.dropWhile isHex)
    | '0' :: 'o' :: rest => decimalNumber ('0' :: 'o' :: rest.takeWhile isDecimal) (rest.dropWhile isDecimal)
    | '0' :: 'b' :: rest => decimalNumber ('0' :: 'b' :: rest.takeWhile isDecimal) (rest.dropWhile isDecimal)
    | s => decimalNumber (s.takeWhile isDecimal) (s.dropWhile isDecimal)
  suffixed r.1 r.2

/-- A word, or a quoted literal with letters in front. -/
def wordOrQuoted (s : List Char) : TokenKind × List Char × List Char :=
  let ahead (front : List Char) (r : List Char × List Char) := suffixed .quoted (front ++ r.1, r.2)
  let plain := let r := word s; (TokenKind.word, r.1, r.2)
  match s with
  | 'r' :: '"' :: _ => ahead ['r'] (raw s.tail)
  | 'r' :: '#' :: c :: _ =>
    if Text.isIdentStart c then
      let r := word (s.drop 2)
      (.word, 'r' :: '#' :: r.1, r.2)
    else ahead ['r'] (raw s.tail)
  | 'b' :: '\'' :: rest => ahead ['b', '\''] (singleQuoted rest)
  | 'b' :: '"' :: rest => ahead ['b', '"'] (doubleQuoted rest)
  | 'b' :: 'r' :: '"' :: _ => ahead ['b', 'r'] (raw (s.drop 2))
  | 'b' :: 'r' :: '#' :: _ => ahead ['b', 'r'] (raw (s.drop 2))
  | 'c' :: '"' :: rest => ahead ['c', '"'] (doubleQuoted rest)
  | 'c' :: 'r' :: '"' :: _ => ahead ['c', 'r'] (raw (s.drop 2))
  | 'c' :: 'r' :: '#' :: _ => ahead ['c', 'r'] (raw (s.drop 2))
  | _ => plain

/-- The punctuation characters. -/
def marks : List Char := ";,.(){}[]@#~?:$=!<>-&|+*/^%".toList

/-- The token at the front of a text. -/
def token (s : List Char) : TokenKind × List Char × List Char :=
  match s with
  | '"' :: rest => let r := doubleQuoted rest; suffixed .quoted ('"' :: r.1, r.2)
  | '\'' :: rest => quoteOrLifetime rest
  | c :: rest =>
    if Text.isIdentStart c then wordOrQuoted s
    else if c.isDigit then number s
    else if marks.contains c then (.mark, [c], rest)
    else (.stray, [c], rest)
  | [] => (.stray, [], [])

/-- The tokens of a text after some fillers, at most so many of both. -/
def scanWithin : Nat → List Filler → List Char → List Token
  | 0, _, _ => []
  | _, _, [] => []
  | fuel + 1, before, s =>
    match filler? s with
    | some (f, rest) => scanWithin fuel (before ++ [f]) rest
    | none =>
      let (kind, text, rest) := token s
      ⟨before, kind, String.ofList text⟩ :: scanWithin fuel [] rest

/-- **The tokens of a text.** -/
def scan (s : List Char) : List Token := scanWithin (s.length + 1) [] s

/-- Whether a comment documents what follows it. -/
def documentsNext (comment : String) : Bool :=
  match comment.toList with
  | '/' :: '/' :: '/' :: '/' :: _ => false
  | '/' :: '*' :: '*' :: '*' :: _ => false
  | '/' :: '/' :: '/' :: _ => true
  | '/' :: '*' :: '*' :: _ => true
  | _ => false

/-- Whether a comment documents what it stands in. -/
def documentsOuter (comment : String) : Bool :=
  match comment.toList with
  | '/' :: '/' :: '!' :: _ => true
  | '/' :: '*' :: '!' :: _ => true
  | _ => false

/-- Whether blanks hold an empty line. -/
def hasEmptyLine : List Char → Bool
  | '\n' :: '\n' :: _ => true
  | _ :: rest => hasEmptyLine rest
  | [] => false

/-- How many fillers in front of a declaration belong to it, the nearest first: those up to the farthest
comment without an empty line between, unless a documenting comment stands above that line. `seen` have
been looked at and `kept` of them belong to it. -/
def attachedCount (seen kept : Nat) : List Filler → Nat
  | [] => kept
  | .comment s :: rest =>
    if documentsOuter s then kept else attachedCount (seen + 1) (seen + 1) rest
  | .blanks s :: rest =>
    if hasEmptyLine s.toList then
      match rest with
      | .comment c :: _ => if documentsNext c then attachedCount (seen + 1) kept rest else kept
      | _ => kept
    else attachedCount (seen + 1) kept rest

/-- **The fillers in front of a declaration that belong to it.** -/
def attached (before : List Filler) : List Filler :=
  before.drop (before.length - attachedCount 0 0 before.reverse)

/-- The text of some fillers. -/
def fillersText (fs : List Filler) : String := String.join (fs.map Filler.text)

/-- The text of tokens after the first one. -/
def continuedText (ts : List Token) : String :=
  String.join (ts.map fun t => fillersText t.before ++ t.text)

/-- The text of tokens, from the first to the last of them. -/
def textOf : List Token → String
  | [] => ""
  | t :: rest => t.text ++ continuedText rest

/-- **The text of a declaration**, with the comments in front that belong to it. -/
def declarationText : List Token → String
  | [] => ""
  | t :: rest => fillersText (attached t.before) ++ t.text ++ continuedText rest

/-- The words that are no identifiers. -/
def keywords : List String :=
  ["_", "Self", "abstract", "as", "async", "await", "become", "box", "break", "const", "continue", "crate",
   "do", "dyn", "else", "enum", "extern", "false", "final", "fn", "for", "if", "impl", "in", "let",
   "loop", "macro", "match", "mod", "move", "mut", "override", "priv", "pub", "ref", "return", "self",
   "static", "struct", "super", "trait", "true", "try", "type", "typeof", "unsafe", "unsized", "use",
   "virtual", "where", "while", "yield"]

/-- Whether a token is an identifier. -/
def isName (t : Token) : Bool := t.kind == .word && !keywords.contains t.text

/-- Whether a token is a word or mark with this text. -/
def isText (t : Token) (s : String) : Bool := (t.kind == .word || t.kind == .mark) && t.text == s

end Token

end RouteContracts.Companion
