import DocLedger.Number.Text
import DocLedger.Text.Blank

/-!
# Moments

A moment is a day of the calendar and a time on it, to the microsecond.
Moments are ordered by their parts, the year first.
-/

namespace DocLedger

/-- A day of the calendar and a time on it. -/
structure Moment where
  year : Nat
  month : Nat
  day : Nat
  hour : Nat
  minute : Nat
  second : Nat
  micro : Nat
deriving Repr, DecidableEq

namespace Moment

/-- The parts of a moment, the greatest first. -/
def parts (m : Moment) : List Nat :=
  [m.year, m.month, m.day, m.hour, m.minute, m.second, m.micro]

/-- Whether a moment comes before another. -/
def before (a b : Moment) : Bool := decide (a.parts < b.parts)

/-- The parts that the literal text of a moment shows: a time without seconds
ends with the minutes. -/
def shownParts (m : Moment) : List Nat :=
  [m.year, m.month, m.day, m.hour, m.minute] ++
    (if m.second == 0 && m.micro == 0 then [] else [m.second]) ++
    (if m.micro == 0 then [] else [m.micro])

def literal (m : Moment) : String :=
  "datetime.datetime(" ++ Text.joined ", " (m.shownParts.map toString) ++ ")"

/-- A number with at least so many digits. -/
def digits (width n : Nat) : String :=
  String.ofList (Number.zeroFilled width (Number.natDigits n))

def plain (m : Moment) : String :=
  digits 4 m.year ++ "-" ++ digits 2 m.month ++ "-" ++ digits 2 m.day ++ " " ++ digits 2 m.hour ++
    ":" ++ digits 2 m.minute ++ ":" ++ digits 2 m.second ++
    (if m.micro == 0 then "" else "." ++ digits 6 m.micro)

end Moment

end DocLedger
