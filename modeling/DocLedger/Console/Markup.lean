import DocLedger.Console.Handler
import DocLedger.Console.Shortcode
import DocLedger.Console.Style

/-!
# Markup

Printed text may hold tags in square brackets.  A tag opens a style, or closes
the last open style of its name or the last open style at all.  A backslash in
front of a tag makes it ordinary text, and two backslashes there stand for one.
Rendering leaves the tags out; a closing tag without an open one is a fault, and
so is one that closes a handler which cannot be read.  Styles are read once more
when the text is shown, now with the parameters of their tags.
Escaping makes ordinary text of everything that looks like a tag.
-/

namespace DocLedger.Console

def backslash : Char := Char.ofNat 92

def startsTag (c : Char) : Bool :=
  ('a' ≤ c && c ≤ 'z') || c == '#' || c == '/' || c == '@'

/-- The inside of a tag at the front of a text: it ends at the first closing
bracket, before which no bracket is opened. -/
def tagInside? : List Char → Option (List Char)
  | '[' :: c :: rest =>
    if startsTag c then
      let body := rest.takeWhile fun d => d != '[' && d != ']'
      if (rest.drop body.length).head? == some ']' then some (c :: body) else none
    else none
  | _ => none

/-- A tag at the front of a text, with the number of backslashes before it. -/
def tagAt? (cs : List Char) : Option (Nat × List Char) :=
  let escapes := (cs.takeWhile (· == backslash)).length
  (tagInside? (cs.drop escapes)).map fun inside => (escapes, inside)

/-- The characters that a tag takes up, with the backslashes before it. -/
def tagLength (escapes : Nat) (inside : List Char) : Nat := escapes + inside.length + 2

/-- A part of marked text. -/
inductive Piece
  /-- Text between tags. -/
  | plain (cs : List Char)
  /-- Text that an escape stands for. -/
  | literal (cs : List Char)
  /-- The inside of a tag, and the position of the tag. -/
  | tag (position : Nat) (inside : List Char)
deriving Repr, DecidableEq

/-- Put a character in front of some pieces. -/
def addPlain (c : Char) : List Piece → List Piece
  | .plain cs :: rest => .plain (c :: cs) :: rest
  | rest => .plain [c] :: rest

def tagPieces (position escapes : Nat) (inside : List Char) : List Piece :=
  let slashes := List.replicate (escapes / 2) backslash
  (if slashes.isEmpty then [] else [.literal slashes]) ++
    if escapes % 2 == 1 then [.literal ('[' :: inside ++ [']'])]
    else [.tag (position + escapes) inside]

/-- The pieces of a text from a position on, after as many characters that a
tag has taken up. -/
def piecesFrom (position : Nat) : Nat → List Char → List Piece
  | _, [] => []
  | taken + 1, _ :: cs => piecesFrom (position + 1) taken cs
  | 0, c :: cs =>
    match tagAt? (c :: cs) with
    | some (escapes, inside) =>
      tagPieces position escapes inside ++
        piecesFrom (position + 1) (tagLength escapes inside - 1) cs
    | none => addPlain c (piecesFrom (position + 1) 0 cs)

def pieces (cs : List Char) : List Piece := piecesFrom 0 0 cs

/-- Text in which a backslash before an opening bracket is left out. -/
def unescaped : List Char → List Char
  | [] => []
  | c :: cs => if c == backslash && cs.head? == some '[' then unescaped cs else c :: unescaped cs

def shownText (cs : List Char) : List Char := withPictograms (unescaped cs)

/-- The name of a tag: what stands before the first equals sign. -/
def tagName (inside : List Char) : List Char := inside.takeWhile (· != '=')

/-- The parameters of a tag: what stands after the first equals sign. -/
def tagParameters? (inside : List Char) : Option String :=
  if inside.contains '=' then some (String.ofList (inside.drop ((tagName inside).length + 1)))
  else none

/-- A tag that is open: the normal form of its name, and its parameters. -/
structure OpenTag where
  name : String
  parameters : Option String
deriving Repr, DecidableEq

namespace OpenTag

def style (t : OpenTag) : String :=
  match t.parameters with
  | none => t.name
  | some parameters => t.name ++ " " ++ parameters

/-- Close a tag: the parameters of a handler have to be readable. -/
def close (t : OpenTag) : Except Fault Unit :=
  if t.name.startsWith "@" then
    match t.parameters with
    | none => .ok ()
    | some "" => .ok ()
    | some parameters => Handler.check parameters
  else .ok ()

end OpenTag

/-- The last open tag of a name, and the tags that are open without it. -/
def close? (name : String) : List OpenTag → Option (OpenTag × List OpenTag)
  | [] => none
  | opened :: rest =>
    if opened.name == name then some (opened, rest)
    else (close? name rest).map fun (tag, others) => (tag, opened :: others)

/-- The fault of a closing tag for a style that is not open. -/
def unmatched (position : Nat) (inside : List Char) : Fault :=
  .markup ("closing tag '[" ++ String.ofList inside ++ "]' at position " ++ toString position ++
    " doesn't match any open tag")

/-- The fault of a closing tag when no style is open. -/
def nothingToClose (position : Nat) : Fault :=
  .markup ("closing tag '[/]' at position " ++ toString position ++ " has nothing to close")

/-- The tags that are open after a tag; the last one opened comes first. -/
def applyTag (position : Nat) (inside : List Char) (opened : List OpenTag) :
    Except Fault (List OpenTag) :=
  match tagName inside with
  | '/' :: name =>
    if name.all Text.isBlank then
      match opened with
      | [] => .error (nothingToClose position)
      | tag :: rest => tag.close.map fun _ => rest
    else do
      match close? (← normalStyle (String.ofList (Text.trim name))) opened with
      | some (tag, rest) => tag.close.map fun _ => rest
      | none => .error (unmatched position inside)
  | name => do return ⟨← normalStyle (String.ofList name), tagParameters? inside⟩ :: opened

/-- Marked text that has been read: its text, and the styles of its parts in the
order in which they were opened. -/
structure Marked where
  text : List Char
  styles : List String
deriving Repr, DecidableEq

namespace Marked

/-- A text in front of marked text. -/
def after (cs : List Char) (m : Marked) : Marked := { m with text := cs ++ m.text }

/-- Read some pieces, when some tags are open. -/
def ofPieces : List OpenTag → List Piece → Except Fault Marked
  | _, [] => .ok ⟨[], []⟩
  | opened, .plain cs :: rest => (ofPieces opened rest).map (after (shownText cs))
  | opened, .literal cs :: rest => (ofPieces opened rest).map (after (shownText cs))
  | opened, .tag position inside :: rest => do
    let next ← applyTag position inside opened
    let m ← ofPieces next rest
    return if (tagName inside).head? == some '/' then m
      else { m with styles := ((next.head?.map OpenTag.style).toList) ++ m.styles }

def ofString (markup : String) : Except Fault Marked :=
  let cs := markup.toList
  if cs.contains '[' then ofPieces [] (pieces cs) else .ok ⟨withPictograms cs, []⟩

/-- Show marked text: each style is read, and what is no style changes nothing. -/
def shown (m : Marked) : Except Fault String := do
  let _ ← m.styles.mapM Style.ofName
  return String.ofList m.text

end Marked

def render (markup : String) : Except Fault String := do (← Marked.ofString markup).shown

/-- A text with a backslash before each tag, and the backslashes there doubled,
after as many characters that a tag has taken up. -/
def escapeTags : Nat → List Char → List Char
  | _, [] => []
  | taken + 1, _ :: cs => escapeTags taken cs
  | 0, c :: cs =>
    match tagAt? (c :: cs) with
    | some (escapes, inside) =>
      List.replicate (2 * escapes + 1) backslash ++ '[' :: inside ++ ']' ::
        escapeTags (tagLength escapes inside - 1) cs
    | none => c :: escapeTags 0 cs

/-- A text in which nothing is a tag.  A single backslash at its end is
doubled, lest it escape what is put after it. -/
def escape (s : String) : String :=
  let cs := escapeTags 0 s.toList
  let endsOdd := cs.getLast? == some backslash && cs.dropLast.getLast? != some backslash
  String.ofList (if endsOdd then cs ++ [backslash] else cs)

end DocLedger.Console
