/-! # Tokens of source text
A source text is a list of **token trees**: words, marks, literals, and groups in brackets that hold
trees again. A mark knows whether it joins the one after it, so that `::` is two marks.

* `Tree.joined`, `Tree.lone`: a mark. `Tree.operator`: the marks of an operator.
* `Tree.same`: equality. `Tree.behind?`: the trees behind some others.
* `Tree.listText`: how trees are shown, one blank between any two that do not join. -/

namespace RouteContracts.Source

/-- The brackets of a group. -/
inductive Delimiter where
  | parenthesis
  | bracket
  | brace
deriving DecidableEq, Repr, Inhabited

/-- A token, or a group of tokens. -/
inductive Tree where
  /-- An identifier or a keyword; a raw identifier keeps its mark in front. -/
  | word (text : String)
  /-- A punctuation character, and whether it joins the next one. -/
  | mark (c : Char) (joins : Bool)
  /-- A literal, as it is written. -/
  | literal (text : String)
  /-- Trees in brackets. -/
  | group (delimiter : Delimiter) (content : List Tree)
deriving Inhabited, Repr

namespace Tree

/-- A mark that joins the next one. -/
def joined (c : Char) : Tree := .mark c true

/-- A mark that stands alone. -/
def lone (c : Char) : Tree := .mark c false

/-- The marks of an operator: all but the last join. -/
def operator : List Char → List Tree
  | [] => []
  | [c] => [lone c]
  | c :: rest => joined c :: operator rest

mutual

/-- How many tokens a tree has, brackets included. -/
def size : Tree → Nat
  | .group _ content => sizes content + 2
  | _ => 1

/-- How many tokens some trees have. -/
def sizes : List Tree → Nat
  | [] => 0
  | t :: rest => size t + sizes rest

end

mutual

/-- Equality of trees. -/
def same : Tree → Tree → Bool
  | .word a, .word b => a == b
  | .mark a i, .mark b j => a == b && i == j
  | .literal a, .literal b => a == b
  | .group d as, .group e bs => d == e && sameAll as bs
  | _, _ => false

/-- Equality of lists of trees. -/
def sameAll : List Tree → List Tree → Bool
  | [], [] => true
  | a :: as, b :: bs => same a b && sameAll as bs
  | _, _ => false

end

/-- The trees behind some others, when these stand at the front. -/
def behind? : List Tree → List Tree → Option (List Tree)
  | [], ts => some ts
  | front :: fronts, t :: ts => if same front t then behind? fronts ts else none
  | _ :: _, [] => none

mutual

/-- How a tree is shown. Braces keep a blank inside. -/
def text : Tree → String
  | .word s => s
  | .mark c _ => String.singleton c
  | .literal s => s
  | .group .parenthesis content => "(" ++ listText true content ++ ")"
  | .group .bracket content => "[" ++ listText true content ++ "]"
  | .group .brace content =>
    "\x7b " ++ listText true content ++ (if content.isEmpty then "" else " ") ++ "\x7d"

/-- How trees are shown; `tight` when the first of them follows without a blank. -/
def listText (tight : Bool) : List Tree → String
  | [] => ""
  | t :: rest =>
    (if tight then "" else " ") ++ text t ++
      listText (match t with | .mark _ joins => joins | _ => false) rest

end

end Tree

/-- How a list of trees is shown. -/
def treesText (trees : List Tree) : String := Tree.listText true trees

end RouteContracts.Source
