import DocLedger.Text.Blank
import DocLedger.Text.Width

/-!
# Lines on a terminal

A text is laid out in lines of a bounded width.  A line that fits stays as it
is.  Another one is broken before the words that do not fit any more; a word
that is wider than a line is broken too or, where it may not be, cut off at the
width with an ellipsis.
-/

namespace DocLedger.Console

/-- What happens to words that are wider than a line. -/
inductive Overflow
  | breaks
  | cuts
deriving Repr, DecidableEq

/-- Whether a control character is left out: the bell, the backspace, and the
controls that move the carriage otherwise than by ending a line. -/
def isLeftOut (c : Char) : Bool := [7, 8, 11, 12, 13].contains c.toNat

def withoutControls (cs : List Char) : List Char := cs.filter fun c => !isLeftOut c

/-- The cells between two stops of the tabulator. -/
def tabWidth : Nat := 8

/-- A line with its tabulators replaced by blanks up to the next stop, from a
column on. -/
def expandTabs : Nat → List Char → List Char
  | _, [] => []
  | column, c :: cs =>
    if c == '\t' then
      let blanks := tabWidth - column % tabWidth
      List.replicate blanks ' ' ++ expandTabs (column + blanks) cs
    else c :: expandTabs (column + Text.cells c) cs

/-- Put a character in front of runs: blanks end a run, and any other character
after them begins the next one. -/
def addToRuns (c : Char) : List (List Char) → List (List Char)
  | (d :: run) :: rest =>
    if Text.isBlank c && !Text.isBlank d then [c] :: (d :: run) :: rest else (c :: d :: run) :: rest
  | runs => [c] :: runs

/-- The words of a line, each with the blanks after it; the first one has also
the blanks before it. -/
def lineWords (cs : List Char) : List (List Char) :=
  match cs.foldr addToRuns [] with
  | first :: second :: rest =>
    if first.all Text.isBlank then (first ++ second) :: rest else first :: second :: rest
  | runs => runs

/-- Put a character in front of the first one of some pieces. -/
def addToFirst (c : Char) : List (List Char) → List (List Char)
  | [] => [[c]]
  | piece :: rest => (c :: piece) :: rest

/-- A word in pieces of at most some width; the second argument is the width of
what is in front of it. -/
def chop (width used : Nat) : List Char → List (List Char)
  | [] => [[]]
  | c :: cs =>
    let n := Text.cells c
    if width < used + n then [] :: addToFirst c (chop width n cs)
    else addToFirst c (chop width (used + n) cs)

/-- The lines of some words; the first arguments are the line so far and its
width. -/
def placeWords (width : Nat) (o : Overflow) (line : List Char) (used : Nat) :
    List (List Char) → List (List Char)
  | [] => [line]
  | word :: rest =>
    let n := Text.width (Text.trimEnd word)
    let before := if line.isEmpty then [] else [line]
    if used + n ≤ width then placeWords width o (line ++ word) (used + Text.width word) rest
    else if width < n then
      match o with
      | .cuts => before ++ placeWords width o word (Text.width word) rest
      | .breaks =>
        let pieces := chop width 0 word
        let last := pieces.getLastD []
        before ++ pieces.dropLast ++ placeWords width o last (Text.width last) rest
    else if used != 0 && !line.isEmpty then
      line :: placeWords width o word (Text.width word) rest
    else placeWords width o (line ++ word) used rest

/-- A line without the blanks at its end by which it is too long. -/
def withoutExcess (width : Nat) (line : List Char) : List Char :=
  let blanks := (line.reverse.takeWhile Text.isBlank).length
  line.take (line.length - min blanks (line.length - width))

/-- The front of a line that takes some cells, or one less before a wide
character.  Its length is between the two bounds and is found by halving, in at
most so many steps, so that the empty characters at its end are there or not. -/
def halvedFront (width : Nat) (line : List Char) : (steps low high : Nat) → List Char
  | 0, low, _ => line.take low
  | steps + 1, low, high =>
    let middle := (low + high) / 2
    let front := line.take (middle + 1)
    let n := Text.width front
    if n == width + 1 && front.getLast?.map Text.cells == some 2 then front.dropLast
    else if n == width then front
    else if width < n then halvedFront width line steps low middle
    else halvedFront width line steps middle high

/-- The front of a line that takes some cells, of which the line has more. -/
def front (width : Nat) (line : List Char) : List Char :=
  if width == 0 then [] else halvedFront width line (line.length + 1) 0 line.length

def padded (width : Nat) (line : List Char) : List Char :=
  line ++ List.replicate (width - Text.width line) ' '

/-- A line that is cut off where it is too wide. -/
def truncated (width : Nat) (o : Overflow) (line : List Char) : List Char :=
  if Text.width line ≤ width then line
  else
    match o with
    | .breaks => padded width (front width line)
    | .cuts => padded (width - 1) (front (width - 1) line) ++ ['…']

def wrapLine (width : Nat) (o : Overflow) (line : List Char) : List (List Char) :=
  let line := if line.contains '\t' then expandTabs 0 line else line
  let lines :=
    if Text.width line ≤ width then [line] else placeWords width o [] 0 (lineWords line)
  lines.map fun l => truncated width o (withoutExcess width l)

/-- The lines in which a text is laid out. -/
def wrap (width : Nat) (o : Overflow) (text : String) : List (List Char) :=
  ((withoutControls text.toList).splitOn '\n').flatMap (wrapLine width o)

def centred (width : Nat) (line : List Char) : List Char :=
  let line := Text.trimEnd line
  padded width (List.replicate ((width - Text.width line) / 2) ' ' ++ line)

end DocLedger.Console
