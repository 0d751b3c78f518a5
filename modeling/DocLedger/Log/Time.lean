import DocLedger.Log.Template

/-!
# Times of records

A record has the time at which it was made, in seconds since the start of 1970,
and the milliseconds beyond the last full second.  A line shows the day and the
time of day, with the year in as few digits as it has.
-/

namespace DocLedger.Log

/-- The year, month and day of a day counted from the first of January 1970. -/
def calendarDay (day : Int) : Int × Int × Int :=
  let shifted := day + 719468
  let era := Int.fdiv shifted 146097
  let dayOfEra := shifted - era * 146097
  let yearOfEra :=
    (dayOfEra - dayOfEra / 1460 + dayOfEra / 36524 - dayOfEra / 146096) / 365
  let dayOfYear := dayOfEra - (365 * yearOfEra + yearOfEra / 4 - yearOfEra / 100)
  let shiftedMonth := (5 * dayOfYear + 2) / 153
  let dayOfMonth := dayOfYear - (153 * shiftedMonth + 2) / 5 + 1
  let month := if shiftedMonth < 10 then shiftedMonth + 3 else shiftedMonth - 9
  let year := yearOfEra + era * 400 + (if month ≤ 2 then 1 else 0)
  (year, month, dayOfMonth)

/-- A number filled with zeros up to two digits. -/
def padded (n : Int) : String :=
  String.ofList (Number.zeroFilled 2 (Number.intDigits n))

/-- The day and the time of day of a second. -/
def secondText (second : Int) : String :=
  let day := Int.fdiv second 86400
  let rest := second - day * 86400
  let (year, month, dayOfMonth) := calendarDay day
  String.ofList (Number.intDigits year) ++ "-" ++ padded month ++ "-" ++ padded dayOfMonth ++ " " ++
    padded (rest / 3600) ++ ":" ++ padded (rest / 60 % 60) ++ ":" ++ padded (rest % 60)

/-- The seconds that a clock counts in either direction. -/
def clockBound : Int := 9223372036854775808

/-- The last second of a year that a calendar counts. -/
def lastSecond : Int := 67768036191676799

/-- The first second of a year that a calendar counts. -/
def firstSecond : Int := -67768040609740800

def lastShown : Int := 67767976233532799

def checkSecond (second : Int) : Except Fault Int :=
  if second < -clockBound || clockBound ≤ second then .error .timeRange
  else if second < firstSecond || lastSecond < second then .error (.os .timeTooLarge)
  else if lastShown < second then .error .yearRange
  else .ok second

/-- The last full second of a time.  Nothing stands for the present, which counts
as the start of all times. -/
def secondOf : Value → Except Fault Int
  | .null => .ok 0
  | .int n => checkSecond n
  | .bool b => checkSecond (if b then 1 else 0)
  | .float x =>
    match Number.exact x with
    | .undefined => .error .undefinedTime
    | .infinite _ => .error .timeRange
    | .fraction n d => checkSecond (Int.fdiv n (Int.ofNat d))
  | v => .error (.notAnInteger v.qualifiedTypeName)

/-- The time of a record as a line shows it. -/
def timeText (created milliseconds : Value) : Except Fault String := do
  let second ← secondOf created
  Template.fill "%s,%03d" (.tuple [.text (secondText second), milliseconds])

/-- The time that is some milliseconds after the start of 1970, in seconds. -/
def createdAt (ms : Int) : Value :=
  .float (Number.ofDecimal (decide (ms < 0)) ms.natAbs (-3))

/-- The milliseconds of a time beyond its last full second. -/
def beyondSecond (ms : Int) : Value := .int (ms - Int.fdiv ms 1000 * 1000)

end DocLedger.Log
