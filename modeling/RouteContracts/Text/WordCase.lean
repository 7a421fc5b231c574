import RouteContracts.Text.LetterCase
import RouteContracts.Text.Letters

/-! # Words and their spellings
A name of any style is a list of **words**: other characters than letters and digits separate them, and so
does a change of letter case. The words are then spelled in one style.

* `Text.words`: the words of a name.
* `Text.upperCamel`, `Text.snake`: a name with its words capitalized, and with underscores between. -/

namespace RouteContracts.Text

/-- The case of the letters just read. -/
inductive LetterMode where
  /-- No letter of the word has a case so far. -/
  | none
  | lower
  | upper
deriving DecidableEq, Repr

namespace LetterMode

/-- The mode after one more character; one without case keeps it. -/
def after (mode : LetterMode) (c : Char) : LetterMode :=
  if isLowercase c then .lower else if isUppercase c then .upper else mode

end LetterMode

/-- Cuts letters and digits into words: before an upper-case letter that follows a lower-case one, and
before the last of several upper-case letters in front of a lower-case one. -/
def wordsFrom (mode : LetterMode) (word : List Char) : List Char → List (List Char)
  | [] => []
  | [c] => [word ++ [c]]
  | c :: next :: rest =>
    if mode.after c = .lower ∧ isUppercase next then
      (word ++ [c]) :: wordsFrom .none [] (next :: rest)
    else if mode = .upper ∧ isUppercase c ∧ isLowercase next then
      word :: wordsFrom .none [c] (next :: rest)
    else wordsFrom (mode.after c) (word ++ [c]) (next :: rest)

/-- The runs of letters and digits; empty ones stand between adjacent separators. -/
def runs : List Char → List (List Char)
  | [] => [[]]
  | c :: rest =>
    if isAlphanumeric c then
      match runs rest with
      | r :: rs => (c :: r) :: rs
      | [] => [[c]]
    else [] :: runs rest

/-- **The words of a name.** -/
def words (name : List Char) : List (List Char) := (runs name).flatMap (wordsFrom .none [])

/-- A word in lower case; a sigma at its end takes the form for that place. -/
def lowerWord : List Char → List Char
  | [] => []
  | ['\u03a3'] => ['\u03c2']
  | c :: rest => lowerChar c ++ lowerWord rest

/-- A word with its first letter in upper case and the others in lower case. -/
def capitalized : List Char → List Char
  | [] => []
  | c :: rest => upperChar c ++ lowerWord rest

/-- **A name with its words capitalized** and nothing between them. -/
def upperCamel (name : String) : String :=
  String.ofList ((words name.toList).flatMap capitalized)

/-- **A name with its words in lower case** and underscores between them. -/
def snake (name : String) : String :=
  String.ofList (['_'].intercalate ((words name.toList).map lowerWord))

end RouteContracts.Text
