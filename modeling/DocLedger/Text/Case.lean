import DocLedger.Text.CaseTable

/-!
# Upper and lower case

Texts in upper and in lower case.  The case of a letter may be several
characters, and the lower case of a sigma depends on the letters around it: at
the end of a word the sigma has a form of its own.
-/

namespace DocLedger.Text

/-- Whether a character lies in one of some ranges. -/
def isAmong (ranges : Array (Nat × Nat)) (c : Char) : Bool :=
  ranges.any fun (first, last) => first ≤ c.toNat && c.toNat ≤ last

/-- The other case of a character, if one of some runs has it. -/
def shifted? (runs : Array CaseRun) (c : Char) : Option Char :=
  let n := c.toNat
  (runs.find? fun run => run.first ≤ n && n ≤ run.last && (n - run.first) % run.step == 0).map
    fun run => Char.ofNat (Int.ofNat n + run.shift).toNat

def upperCase (c : Char) : List Char :=
  if c.toNat < 128 then [c.toUpper]
  else
    match upperGroups.find? fun group => group.1 == c.toNat with
    | some (_, letters) => letters.map Char.ofNat
    | none => [(shifted? upperRuns c).getD c]

/-- The capital sigma, the sigma inside a word, and the one at its end. -/
def capitalSigma : Char := Char.ofNat 0x3a3
@[inherit_doc capitalSigma]
def innerSigma : Char := Char.ofNat 0x3c3
@[inherit_doc capitalSigma]
def finalSigma : Char := Char.ofNat 0x3c2

/-- The capital I with a dot above. -/
def dottedCapital : Char := Char.ofNat 0x130

/-- A character in lower case, where it does not depend on its neighbours. -/
def lowerCase (c : Char) : List Char :=
  if c.toNat < 128 then [c.toLower]
  else if c == dottedCapital then ['i', Char.ofNat 0x307]
  else [(shifted? lowerRuns c).getD c]

/-- Whether the first character that counts is a letter with a case. -/
def startsCased (cs : List Char) : Bool :=
  match cs.dropWhile (isAmong caseIgnorableRanges) with
  | [] => false
  | c :: _ => isAmong casedRanges c

/-- The lower case of a sigma, from the characters before it, the nearest one
first, and those after it. -/
def lowerSigma (before after : List Char) : Char :=
  if startsCased before && !startsCased after then finalSigma else innerSigma

/-- A text in lower case, given the characters before it, the nearest one
first. -/
def lowerFrom (before : List Char) : List Char → List Char
  | [] => []
  | c :: cs =>
    (if c == capitalSigma then [lowerSigma before cs] else lowerCase c) ++ lowerFrom (c :: before) cs

def lowered (cs : List Char) : List Char := lowerFrom [] cs

/-- A text in upper case. -/
def raised (cs : List Char) : List Char := cs.flatMap upperCase

def lower (s : String) : String := String.ofList (lowered s.toList)

def upper (s : String) : String := String.ofList (raised s.toList)

end DocLedger.Text
