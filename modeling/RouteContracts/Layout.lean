/-! # Line layout
A text is laid out from **pieces**: words, gaps at which a line may end, and boxes around pieces. A box
whose content fits what is left of the line stays on it. In a box that does not fit, either every gap ends
the line or each gap ends it only when what follows up to the next gap does not fit.

* `Piece`, `Piece.box`: pieces, and a box around pieces.
* `exceeds`: whether pieces up to the next gap around them take more than some space.
* `render`: the text of pieces. -/

namespace RouteContracts.Layout

/-- How the gaps of a box that does not fit behave. -/
inductive Breaking where
  /-- Every gap ends the line. -/
  | consistent
  /-- A gap ends the line when what follows it does not fit. -/
  | inconsistent
deriving DecidableEq, Repr

/-- A place where a line may end. -/
structure Gap where
  /-- The number of blanks when the line goes on. -/
  blanks : Nat
  /-- What is added to the indentation of the next line. -/
  offset : Int
  /-- Whether a comma is written at the end of a line. -/
  comma : Bool
  /-- Whether the line goes on in any case. -/
  never : Bool
deriving DecidableEq, Repr

/-- A piece of a layout. -/
inductive Piece where
  /-- A word. -/
  | word (text : String)
  /-- A gap. -/
  | gap (g : Gap)
  /-- The start of a box, with what its content is indented by when it does not fit. -/
  | start (breaking : Breaking) (offset : Int)
  /-- The end of a box. -/
  | stop
deriving Repr

/-- The space of a line without indentation. -/
def margin : Int := 89

/-- The space that every line has. -/
def leastSpace : Int := 60

/-- How far the content of a box is indented. -/
def step : Int := 4

/-- A width that no line has. -/
def unbounded : Nat := 65535

namespace Piece

/-- A gap without blanks. -/
def zero : Piece := .gap ⟨0, 0, false, false⟩

/-- A gap without blanks in front of the end of an indented box. -/
def zeroBack : Piece := .gap ⟨0, -step, false, false⟩

/-- A gap of one blank. -/
def space : Piece := .gap ⟨1, 0, false, false⟩

/-- A gap at the end of an indented list, with a comma when the line ends. -/
def commaBack : Piece := .gap ⟨0, -step, true, false⟩

/-- A gap at which no line ends. -/
def glue : Piece := .gap ⟨0, 0, false, true⟩

/-- A gap at which every line ends. -/
def line : Piece := .gap ⟨unbounded, 0, false, false⟩

/-- The end of a line in front of the end of an indented box. -/
def lineBack : Piece := .gap ⟨unbounded, -step, false, false⟩

/-- A box around pieces. -/
def box (breaking : Breaking) (offset : Int) (content : List Piece) : List Piece :=
  .start breaking offset :: content ++ [.stop]

/-- An indented box whose gaps break together. -/
def block (content : List Piece) : List Piece := box .consistent step content

/-- Lists of pieces with a comma and a gap between them. -/
def commas : List (List Piece) → List Piece
  | [] => []
  | [ps] => ps
  | ps :: rest => ps ++ [.word ",", space] ++ commas rest

/-- A list in an indented box, with a comma after the last entry when it does not fit on a line. -/
def listing (entries : List (List Piece)) : List Piece := block (zero :: commas entries ++ [commaBack])

/-- Lists of pieces, each on lines of its own, in front of the end of an indented box. -/
def linesBack : List (List Piece) → List Piece
  | [] => []
  | [ps] => ps ++ [lineBack]
  | ps :: rest => ps ++ [line] ++ linesBack rest

end Piece

/-- **Whether pieces take more than some space**, up to the first gap outside of the boxes that start
among them. `depth` counts the boxes that have started. -/
def exceeds : Nat → Int → List Piece → Bool
  | _, space, [] => decide (space < 0)
  | depth, space, p :: rest =>
    if space < 0 then true
    else match p with
      | .word s => exceeds depth (space - s.utf8ByteSize) rest
      | .start _ _ => exceeds (depth + 1) space rest
      | .stop => exceeds (depth - 1) space rest
      | .gap g => if depth = 0 then false else exceeds depth (space - g.blanks) rest

/-- An open box: whether it does not fit, and then its breaking and the indentation outside. -/
inductive Frame where
  | fits
  | broken (breaking : Breaking) (outside : Int)
deriving DecidableEq, Repr

/-- Where the layout stands. -/
structure Cursor where
  /-- What is written, the last part first. -/
  written : List String
  /-- Blanks that are written once a word follows. -/
  pending : Nat
  /-- What is left of the line. -/
  space : Int
  /-- The indentation of the next line. -/
  indent : Int
  /-- The open boxes, the innermost first. -/
  frames : List Frame

namespace Cursor

/-- The start of a layout. -/
def initial : Cursor := ⟨[], 0, margin, 0, []⟩

/-- Blanks. -/
def blanksText (n : Nat) : String := String.ofList (List.replicate n ' ')

/-- Writes a text after the pending blanks. -/
def write (c : Cursor) (s : String) : Cursor :=
  { c with written := s :: blanksText c.pending :: c.written, pending := 0 }

/-- Writes a word. -/
def word (c : Cursor) (s : String) : Cursor :=
  let c := c.write s
  { c with space := c.space - s.utf8ByteSize }

/-- Whether the line goes on at a gap; the pieces after it follow. -/
def continues (c : Cursor) (g : Gap) (rest : List Piece) : Bool :=
  g.never || match c.frames with
    | .fits :: _ => true
    | .broken .consistent _ :: _ => false
    | _ => !exceeds 0 (c.space - g.blanks) rest

/-- Ends a line. -/
def endLine (c : Cursor) (g : Gap) : Cursor :=
  let c := if g.comma then c.write "," else c
  let indent := c.indent + g.offset
  { c with
    written := "\n" :: c.written
    pending := indent.toNat
    space := max (margin - indent) leastSpace }

/-- Passes a gap. -/
def gap (c : Cursor) (g : Gap) (rest : List Piece) : Cursor :=
  if c.continues g rest then { c with pending := c.pending + g.blanks, space := c.space - g.blanks }
  else c.endLine g

/-- Enters a box; its content and what follows are given. -/
def enter (c : Cursor) (breaking : Breaking) (offset : Int) (rest : List Piece) : Cursor :=
  if exceeds 1 c.space rest then
    { c with frames := .broken breaking c.indent :: c.frames, indent := c.indent + offset }
  else { c with frames := .fits :: c.frames }

/-- Leaves a box. -/
def leave (c : Cursor) : Cursor :=
  match c.frames with
  | .broken _ outside :: frames => { c with frames, indent := outside }
  | _ :: frames => { c with frames }
  | [] => c

/-- Lays out pieces. -/
def run (c : Cursor) : List Piece → Cursor
  | [] => c
  | .word s :: rest => (c.word s).run rest
  | .gap g :: rest => (c.gap g rest).run rest
  | .start breaking offset :: rest => (c.enter breaking offset rest).run rest
  | .stop :: rest => c.leave.run rest

end Cursor

/-- **The text of pieces.** -/
def render (pieces : List Piece) : String := String.join (Cursor.initial.run pieces).written.reverse

end RouteContracts.Layout
