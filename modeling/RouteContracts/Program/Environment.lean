import RouteContracts.Files
import RouteContracts.Json.Value
import RouteContracts.Text.Blank
import RouteContracts.Text.Letters

/-! # Environments
The variables with which a program is run. A file `.env` in the working directory or above it adds
variables, one `NAME=value` after the other; those that are there already stay as they are.

* `EnvironmentFile.lines`: the lines of such a file. A quoted value can go over several.
* `EnvironmentFile.assignment`: the variable and the value of a line.
* `Variables.extended`: the environment with the file's variables. -/

namespace RouteContracts

/-- Variables and their values. -/
abbrev Variables := Members String

namespace EnvironmentFile

/-! ## Lines -/

/-- What a line is in the middle of. -/
inductive LineState where
  /-- Nothing that has to go on. -/
  | complete
  /-- A blank, after which a comment can begin. -/
  | blank
  | comment
  /-- A character that loses its meaning. -/
  | escape
  /-- A value in single quotes. -/
  | strong
  | strongEscape
  /-- A value in double quotes. -/
  | weak
  | weakEscape
deriving DecidableEq, Repr

/-- The state after a character that is in no quotes. -/
def LineState.afterPlain (c : Char) : LineState :=
  if c = '\\' then .escape else if c = '"' then .weak else if c = '\'' then .strong else .complete

/-- The state after a character. -/
def LineState.next (s : LineState) (c : Char) : LineState :=
  match s with
  | .blank => if c = '#' then .comment else afterPlain c
  | .complete => if Text.isBlank c && c ≠ '\n' && c ≠ '\r' then .blank else afterPlain c
  | .comment => .comment
  | .escape => .complete
  | .strong => if c = '\\' then .strongEscape else if c = '\'' then .complete else .strong
  | .strongEscape => .strong
  | .weak => if c = '\\' then .weakEscape else if c = '"' then .complete else .weak
  | .weakEscape => .weak

/-- The characters up to a comment, and the state after them. -/
def upToComment (s : LineState) : List Char → List Char × LineState
  | [] => ([], s)
  | c :: rest =>
    match s.next c with
    | .comment => ([], .comment)
    | s => let (front, last) := upToComment s rest; (c :: front, last)

/-- The rows of a text, each with the line break at its end. -/
def rows : List Char → List (List Char)
  | [] => []
  | '\n' :: rest => ['\n'] :: rows rest
  | c :: rest =>
    match rows rest with
    | row :: more => (c :: row) :: more
    | [] => [[c]]

/-- A row without its line break. -/
def withoutBreak (row : List Char) : List Char :=
  match row.reverse with
  | '\n' :: '\r' :: rest => rest.reverse
  | '\n' :: rest => rest.reverse
  | _ => row

/-- The lines that rows make up, after the beginning of one; a line that does not end is `none`. -/
def linesFrom (begun : List Char) (s : LineState) : List (List Char) → List (Option (List Char))
  | [] => if s = .complete then [] else [none]
  | row :: more =>
    if (Text.trimStart (begun ++ row)).head? = some '#' then some [] :: linesFrom [] .complete more
    else match upToComment s row with
      | (front, .complete) => some (withoutBreak (begun ++ front)) :: linesFrom [] .complete more
      | (front, .comment) => some (begun ++ front) :: linesFrom [] .complete more
      | (front, s) => linesFrom (begun ++ front) s more

/-- **The lines of a text.** -/
def lines (text : List Char) : List (Option (List Char)) := linesFrom [] .complete (rows text)

/-! ## Values -/

/-- What a value is in the middle of. -/
inductive ValueMode where
  | plain
  | strong
  | escape
  /-- After a blank: only a comment can follow. -/
  | ended
  /-- The name of a variable, in reverse. -/
  | name (chars : List Char)
  /-- The name of a variable in braces, in reverse. -/
  | bracedName (chars : List Char)
deriving DecidableEq, Repr

/-- A value that is being read. -/
structure ValueState where
  mode : ValueMode
  /-- Whether it is in double quotes. -/
  weak : Bool
  /-- What has been read, in reverse. -/
  read : List Char

namespace ValueState

/-- Goes on in a mode, after more of the value. -/
def add (s : ValueState) (mode : ValueMode) (more : List Char) : ValueState :=
  { s with mode, read := more.reverse ++ s.read }

/-- The state after a character that names no variable. -/
def afterPlain (s : ValueState) (c : Char) : ValueState :=
  if c = '$' then { s with mode := .name [] }
  -- variables and escapes count in double quotes, blanks and single quotes do not
  else if s.weak then
    if c = '"' then { s with weak := false }
    else if c = '\\' then { s with mode := .escape }
    else s.add .plain [c]
  else if c = '\'' then { s with mode := .strong }
  else if c = '"' then { s with weak := true }
  else if c = '\\' then { s with mode := .escape }
  else if c = ' ' ∨ c = '\t' then { s with mode := .ended }
  else s.add .plain [c]

/-- What an escaped character stands for. -/
def escaped? (c : Char) : Option Char :=
  if c = 'n' then some '\n'
  else if ['\\', '\'', '"', '$', ' '].contains c then some c
  else none

/-- The state after a character; none when it cannot stand there. -/
def next? (valueOf : List Char → List Char) (s : ValueState) (c : Char) : Option ValueState :=
  match s.mode with
  | .plain => some (s.afterPlain c)
  | .strong => some (if c = '\'' then { s with mode := .plain } else s.add .strong [c])
  | .escape => (escaped? c).map fun e => s.add .plain [e]
  | .ended => if c = ' ' ∨ c = '\t' then some s else none
  | .name chars =>
    if Text.isAlphanumeric c then some { s with mode := .name (c :: chars) }
    else if c = '\x7b' ∧ chars = [] then some { s with mode := .bracedName [] }
    else
      -- the character that ends the name is one of the value
      let value := valueOf chars.reverse
      some (if c = '$' then s.add (.name []) value else s.add .plain (value ++ [c]))
  | .bracedName chars =>
    if Text.isAlphanumeric c then some { s with mode := .bracedName (c :: chars) }
    else if c = '\x7d' then some (s.add .plain (valueOf chars.reverse))
    else some { s with mode := .bracedName (c :: chars) }

/-- The value that has been read; none when quotes or braces do not close. -/
def result? (valueOf : List Char → List Char) (s : ValueState) : Option (List Char) :=
  if s.weak then none
  else match s.mode with
    | .strong | .bracedName _ => none
    | .name chars => some (s.read.reverse ++ valueOf chars.reverse)
    | _ => some s.read.reverse

end ValueState

/-- The value that characters denote, after some of them. -/
def valueFrom? (valueOf : List Char → List Char) (s : ValueState) : List Char → Option (List Char)
  | [] => s.result? valueOf
  | c :: rest =>
    if s.mode = .ended ∧ c = '#' then s.result? valueOf
    else (s.next? valueOf c).bind fun s => valueFrom? valueOf s rest

/-! ## Assignments -/

/-- Whether a character can begin the name of a variable. -/
def beginsName (c : Char) : Bool := c.isAlpha || c == '_'

/-- Whether a character can be in the name of a variable. -/
def isInName (c : Char) : Bool := c.isAlphanum || c == '_' || c == '.'

/-- A name, and what follows it and blanks. -/
def name? (s : List Char) : Option (List Char × List Char) :=
  match s with
  | c :: _ => if beginsName c then some (s.takeWhile isInName, Text.trimStart (s.dropWhile isInName)) else none
  | [] => none

/-- The name that is assigned, and what follows the equals sign. The word `export` may stand in front. -/
def assigned? (s : List Char) : Option (List Char × List Char) :=
  match name? s with
  | some (name, '=' :: rest) => some (name, rest)
  | some (['e', 'x', 'p', 'o', 'r', 't'], rest) =>
    match name? rest with
    | some (name, '=' :: rest) => some (name, rest)
    | _ => none
  | _ => none

/-- What a line of a file is. -/
inductive Line where
  /-- Nothing, or a comment. -/
  | empty
  /-- A variable and its value. -/
  | assignment (name value : String)
  /-- Something else. -/
  | unfit
deriving DecidableEq, Repr

/-- **What a line is**, given the values of variables. -/
def line (valueOf : List Char → List Char) (s : List Char) : Line :=
  let s := Text.trimStart (Text.trimStart s.reverse).reverse
  match s with
  | [] => .empty
  | '#' :: _ => .empty
  | s =>
    match assigned? s with
    | none => .unfit
    | some (name, rest) =>
      let value := Text.trimStart rest
      if value = [] ∨ value.head? = some '#' then .assignment (String.ofList name) ""
      else match valueFrom? valueOf ⟨.plain, false, []⟩ value with
        | some value => .assignment (String.ofList name) (String.ofList value)
        | none => .unfit

end EnvironmentFile

namespace Variables

open EnvironmentFile

/-- The value of a variable: in the environment, else in the lines above. -/
def valueOf (environment above : Variables) (name : List Char) : List Char :=
  ((environment.get? (String.ofList name)).or (above.get? (String.ofList name))).elim [] String.toList

/-- The environment after some lines; the first line that is unfit ends them. -/
def afterLines (environment above : Variables) : List (Option (List Char)) → Variables
  | [] => environment
  | none :: _ => environment
  | some s :: more =>
    match line (valueOf environment above) s with
    | .empty => afterLines environment above more
    | .unfit => environment
    | .assignment name value =>
      -- what is set already stays, but the lines below see what this line says
      afterLines (if (environment.get? name).isSome then environment else environment.insert name value)
        (above.insert name value) more

/-- **The environment with the variables of a file's text.** -/
def extended (environment : Variables) (text : String) : Variables :=
  afterLines environment [] (lines (match text.toList with
    | '\ufeff' :: rest => rest
    | s => s))

end Variables

namespace EnvironmentFile

/-- The name of the file. -/
def fileName : String := ".env"

/-- The text of the file in a directory or, without one, in the nearest directory above. -/
def find? (files : Files) (dir : Location) : Option String :=
  match files.locate true (dir.path.join ⟨fileName⟩) with
  | .ok (.found _ (.text s)) => some s
  -- a file that is no text ends the search
  | .ok (.found _ (.bytes _)) => none
  | .ok _ | .error .notFound =>
    match dir with
    | [] => none
    | name :: rest => find? files (name :: rest).dropLast
  | .error _ => none
termination_by dir.length
decreasing_by all_goals simp

end EnvironmentFile

end RouteContracts
