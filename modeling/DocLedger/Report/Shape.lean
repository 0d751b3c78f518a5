import DocLedger.Value.Literal

/-!
# Shapes of engine reports

The engine reports in JSON.  A shape says what a report has to look like; a
lenient reader brings a value that fits into normal form and lists every part
that does not fit.  Numbers may come as text or as doubles without a fraction,
truth values as the usual words, and texts as UTF-8 bytes.  Keys that a shape
does not name are passed over, so that a newer engine may report more.
-/

namespace DocLedger.Report

mutual

/-- What a value has to look like. -/
inductive Shape
  | text
  | integer
  | truth
  | anything
  | optional (shape : Shape)
  | list (shape : Shape)
  | record (name : String) (fields : Fields)
deriving Repr

/-- The fields of a record in their order, each with its shape and, if it may be
left out, the value that stands for it then. -/
inductive Fields
  | nil
  | cons (name : String) (shape : Shape) (default : Option Value) (rest : Fields)
deriving Repr

end

/-- Why a value does not fit. -/
inductive Misfit
  | missing
  | notText
  | notUnicode
  | notInteger
  | notIntegerText
  | fractional
  | notFinite
  | tooLarge
  | notTruth
  | notTruthWord
  | notList
  | notRecord (name : String)
deriving Repr, DecidableEq

def Misfit.words : Misfit → String
  | .missing => "Field required"
  | .notText => "Input should be a valid string"
  | .notUnicode => "Input should be a valid string, unable to parse raw data as a unicode string"
  | .notInteger => "Input should be a valid integer"
  | .notIntegerText => "Input should be a valid integer, unable to parse string as an integer"
  | .fractional => "Input should be a valid integer, got a number with a fractional part"
  | .notFinite => "Input should be a finite number"
  | .tooLarge => "Unable to parse input string as an integer, exceeded maximum size"
  | .notTruth => "Input should be a valid boolean"
  | .notTruthWord => "Input should be a valid boolean, unable to interpret input"
  | .notList => "Input should be a valid list"
  | .notRecord name => "Input should be a valid dictionary or instance of " ++ name

/-- A step on the way to a part of a value. -/
inductive Step
  | field (name : String)
  | item (index : Nat)
deriving Repr, DecidableEq

def Step.text : Step → String
  | .field name => name
  | .item index => toString index

/-- A part of a value that does not fit. -/
structure Problem where
  path : List Step
  misfit : Misfit
deriving Repr, DecidableEq

def Problem.text (p : Problem) : String :=
  let place := Text.joined "." (p.path.map Step.text)
  (if place == "" then "<root>" else place) ++ ": " ++ p.misfit.words

def summary (problems : List Problem) : String :=
  Text.joined "; " (problems.map Problem.text)

def readText : Value → Except Misfit Value
  | .text s => .ok (.text s)
  | .bytes bs =>
    match Text.Utf8.decodeStrict bs with
    | .ok s => .ok (.text s)
    | .error _ => .error .notUnicode
  | _ => .error .notText

/-- Whether a character is white space around a number: a blank that is no
information separator. -/
def isSpace (c : Char) : Bool :=
  Text.isBlank c && !(0x1c ≤ c.toNat && c.toNat ≤ 0x1f)

/-- A text without the white space around it. -/
def withoutSpace (cs : List Char) : List Char :=
  ((cs.dropWhile isSpace).reverse.dropWhile isSpace).reverse

/-- The integer that a text without any leading zeros writes.  The sign counts
as one of the digits, of which there may be so many and no more. -/
def plainInteger (cs : List Char) : Except Misfit Int :=
  let (negative, unsigned) := match cs with
    | '-' :: rest => (true, rest)
    | _ => (false, cs)
  let (digits, rest) := Number.spanDigits unsigned
  match digits with
  | [] => .error .notIntegerText
  | '0' :: more => if more.isEmpty && rest.isEmpty then .ok 0 else .error .notIntegerText
  | _ =>
    if Number.digitLimit < digits.length + (if negative then 1 else 0) then .error .tooLarge
    else if !rest.isEmpty then .error .notIntegerText
    else
      let n := Int.ofNat (Number.digitsValue digits)
      .ok (if negative then -n else n)

/-- What follows the zeros and underscores after a leading zero, given the last
of these: a number, or the last zero with a fraction or at the end. -/
def afterZeros? (last : Char) : List Char → Option (List Char)
  | [] => some [last]
  | c :: rest =>
    if c == '0' || c == '_' then afterZeros? c rest
    else if c == '.' then some (last :: c :: rest)
    else if c.isDigit || c == '-' then some (c :: rest)
    else none

def withoutLeadingZeros? : List Char → Option (List Char)
  | [] => none
  | c :: rest =>
    if c == '0' then afterZeros? c rest
    else if c.isDigit || c == '-' then some (c :: rest)
    else none

def withoutZeroFraction (cs : List Char) : List Char :=
  match cs.dropWhile (· != '.') with
  | _ :: c :: rest => if (c :: rest).all (· == '0') then cs.takeWhile (· != '.') else cs
  | _ => cs

/-- Whether two underscores of a text stand side by side. -/
def hasDoubleUnderscore : List Char → Bool
  | '_' :: '_' :: _ => true
  | _ :: rest => hasDoubleUnderscore rest
  | [] => false

/-- Whether the underscores of a number stand alone and between other characters;
a minus sign is none of these. -/
def hasInnerUnderscores (cs : List Char) : Bool :=
  let unsigned := if cs.head? == some '-' then cs.drop 1 else cs
  unsigned.head? != some '_' && cs.getLast? != some '_' && !hasDoubleUnderscore cs

def withoutUnderscores (cs : List Char) : List Char :=
  if hasInnerUnderscores cs then cs.filter (· != '_') else cs

/-- A text without the white space around it and without a plus sign, which no
minus sign may follow. -/
def withoutPlus? (cs : List Char) : Option (List Char) :=
  match withoutSpace cs with
  | '+' :: '-' :: _ => none
  | '+' :: rest => some rest
  | trimmed => some trimmed

/-- The number in a text that is more than digits: inside white space, with a
plus sign, leading zeros, underscores and a fraction of zeros. -/
def cleaned? (cs : List Char) : Option (List Char) :=
  ((withoutPlus? cs).bind withoutLeadingZeros?).map fun number =>
    withoutUnderscores (withoutZeroFraction number)

def integerOfText (cs : List Char) : Except Misfit Int :=
  match plainInteger cs with
  | .error .notIntegerText =>
    match cleaned? cs with
    | some number => plainInteger number
    | none => .error .notIntegerText
  | result => result

def integerOfExact : Number.Exact → Except Misfit Int
  | .undefined => .error .notFinite
  | .infinite _ => .error .notFinite
  | .fraction n d => if n % Int.ofNat d == 0 then .ok (n / Int.ofNat d) else .error .fractional

def doubleBound : Int := 9223372036854775808

def integerOfDouble (x : Float) : Except Misfit Int := do
  let n ← integerOfExact (Number.exact x)
  if -doubleBound < n && n < doubleBound then return n else throw .tooLarge

def truthOfDouble (x : Float) : Except Misfit Bool :=
  match integerOfDouble x with
  | .ok n => if n == 0 then .ok false else if n == 1 then .ok true else .error .notTruthWord
  | .error _ => .error .notTruth

def readInteger : Value → Except Misfit Value
  | .int n => .ok (.int n)
  | .bool b => .ok (.int (if b then 1 else 0))
  | .float x => (integerOfDouble x).map .int
  | .decimal d => (integerOfExact d.exact).map .int
  | .text s => (integerOfText s.toList).map .int
  | .bytes bs =>
    match Text.Utf8.decodeStrict bs with
    | .ok s => (integerOfText s.toList).map .int
    | .error _ => .error .notIntegerText
  | _ => .error .notInteger

/-- The words for the false and the true truth value. -/
def falseWords : List String := ["0", "off", "f", "false", "n", "no"]

@[inherit_doc falseWords]
def trueWords : List String := ["1", "on", "t", "true", "y", "yes"]

/-- The truth value of a word, whatever the case of its letters. -/
def truthOfWord (s : String) : Except Misfit Bool :=
  let word := String.ofList (s.toList.map Char.toLower)
  if falseWords.contains word then .ok false
  else if trueWords.contains word then .ok true
  else .error .notTruthWord

def truthOfInteger (n : Int) : Except Misfit Bool :=
  if n == 0 then .ok false
  else if n == 1 then .ok true
  else if -doubleBound ≤ n && n < doubleBound then .error .notTruthWord
  else .error .notTruth

def readTruth : Value → Except Misfit Value
  | .bool b => .ok (.bool b)
  | .int n => (truthOfInteger n).map .bool
  | .float x => (truthOfDouble x).map .bool
  | .decimal d => (truthOfDouble d.toDouble).map .bool
  | .text s => (truthOfWord s).map .bool
  | .bytes bs =>
    match Text.Utf8.decodeStrict bs with
    | .ok s => (truthOfWord s).map .bool
    | .error _ => .error .notTruthWord
  | _ => .error .notTruth

/-- The items of a value that may stand for a list. -/
def itemsOf? : Value → Option (List Value)
  | .list items => some items
  | .tuple items => some items
  | .set items => some items
  | .loop false => some [.loop false]
  | _ => none

/-- The result of reading a part: its normal form, or its problems. -/
abbrev Read (α : Type) := Except (List Problem) α

/-- Join the results for the first part and for the rest, with the problems of
both. -/
def joinRead {α β γ : Type} (join : α → β → γ) (first : Read α) (rest : Read β) : Read γ :=
  match first, rest with
  | .ok a, .ok b => .ok (join a b)
  | .ok _, .error problems => .error problems
  | .error problems, .ok _ => .error problems
  | .error problems, .error more => .error (problems ++ more)

/-- Read each item of a list, from an index on. -/
def readItems (read : List Step → Value → Read Value) (path : List Step) :
    Nat → List Value → Read (List Value)
  | _, [] => .ok []
  | index, v :: rest =>
    joinRead List.cons (read (path ++ [.item index]) v) (readItems read path (index + 1) rest)

def atPath (path : List Step) (r : Except Misfit Value) : Read Value :=
  r.mapError fun misfit => [⟨path, misfit⟩]

mutual

def Shape.read : Shape → List Step → Value → Read Value
  | .text, path, v => atPath path (readText v)
  | .integer, path, v => atPath path (readInteger v)
  | .truth, path, v => atPath path (readTruth v)
  | .anything, _, v => .ok v
  | .optional shape, path, v => if v.isNull then .ok .null else shape.read path v
  | .list shape, path, v =>
    match itemsOf? v with
    | none => .error [⟨path, .notList⟩]
    | some items => (readItems shape.read path 0 items).map .list
  | .record name fields, path, v =>
    match v with
    | .mapping entries => (fields.read path entries).map .mapping
    | .loop true => (fields.read path [(.text "self", .loop true)]).map .mapping
    | _ => .error [⟨path, .notRecord name⟩]

/-- Read the fields of a record from the entries of a mapping. -/
def Fields.read : Fields → List Step → List (Value × Value) → Read (List (Value × Value))
  | .nil, _, _ => .ok []
  | .cons name shape default rest, path, entries =>
    let here : Read Value :=
      match Value.lookup name entries, default with
      | some v, _ => shape.read (path ++ [.field name]) v
      | none, some v => .ok v
      | none, none => .error [⟨path ++ [.field name], .missing⟩]
    joinRead (fun v more => (.text name, v) :: more) here (rest.read path entries)

end

end DocLedger.Report
