import DocLedger.Number.Rounded
import DocLedger.Value.Compare

/-!
# Messages with directives

A message may be a template in which directives stand for arguments.  A
directive is a percent sign, perhaps a key in parentheses, flags, a width and a
precision, and a letter that says how the argument is shown.  Every argument
has to be used, unless keys may be looked up in the arguments.
-/

namespace DocLedger.Log.Template

/-- A directive without its letter. -/
structure Directive where
  left : Bool
  plus : Bool
  blank : Bool
  alternate : Bool
  zeros : Bool
  width : Nat
  precision : Option Nat
deriving Repr

def Directive.bare : Directive := ⟨false, false, false, false, false, 0, none⟩

/-- The arguments of a template: those not used yet, and what keys are looked up
in, if there is anything. -/
structure Arguments where
  rest : List Value
  source : Option Value
deriving Repr

/-- Whether keys may be looked up in a value. -/
def isSource : Value → Bool
  | .list _ => true
  | .bytes _ => true
  | .mapping _ => true
  | .loop _ => true
  | _ => false

/-- The arguments that a value stands for: the items of a tuple, or the value
itself, in which keys may be looked up. -/
def Arguments.ofValue : Value → Arguments
  | .tuple items => ⟨items, none⟩
  | v => ⟨[v], if isSource v then some v else none⟩

def entryUnder (key : String) : Value → Except Fault Value
  | .list _ => .error (.notAnIndex "list" "str")
  | .loop false => .error (.notAnIndex "list" "str")
  | .bytes _ => .error (.notAnIndex "bytes" "str")
  | .loop true => if key == "self" then .ok (.loop true) else .error (.noKey key)
  | v =>
    match v.get? key with
    | some w => .ok w
    | none => .error (.noKey key)

def readFlags : Directive → List Char → Directive × List Char
  | d, '-' :: cs => readFlags { d with left := true } cs
  | d, '+' :: cs => readFlags { d with plus := true } cs
  | d, ' ' :: cs => readFlags { d with blank := true } cs
  | d, '#' :: cs => readFlags { d with alternate := true } cs
  | d, '0' :: cs => readFlags { d with zeros := true } cs
  | d, cs => (d, cs)

def Arguments.next (args : Arguments) : Except Fault (Value × Arguments) :=
  match args.rest with
  | [] => .error .argumentsMissing
  | v :: rest => .ok (v, { args with rest := rest })

/-- A size that numbers in a directive must not exceed. -/
structure Limit where
  /-- The part of a directive that has the size. -/
  part : String
  /-- The name of the size. -/
  size : String
  bits : Nat

def widthLimit : Limit := ⟨"width", "C ssize_t", 63⟩

def precisionLimit : Limit := ⟨"precision", "C int", 31⟩

/-- The number that the next argument gives for a star. -/
def Arguments.star (args : Arguments) (limit : Limit) : Except Fault (Int × Arguments) := do
  let (v, args) ← args.next
  let n ← match v with
    | .int n => pure n
    | .bool b => pure (if b then 1 else 0)
    | _ => throw .starNotInteger
  let bound : Int := Int.ofNat (Nat.pow 2 limit.bits)
  if n < -bound || bound ≤ n then throw (.beyond limit.size)
  return (n, args)

/-- The number at the front of a text, within a limit. -/
def readLimited (limit : Limit) (cs : List Char) : Except Fault (Nat × List Char) :=
  let (ds, rest) := Number.spanDigits cs
  let n := Number.digitsValue ds
  if n < Nat.pow 2 limit.bits then .ok (n, rest) else .error (.tooBig limit.part)

/-- A key up to the parenthesis that closes it, given how many are open, and
what follows. -/
def readKey : (opened : Nat) → List Char → Option (List Char × List Char)
  | _, [] => none
  | opened, c :: cs =>
    if c == ')' then
      match opened with
      | 0 => some ([], cs)
      | n + 1 => (readKey n cs).map fun (key, rest) => (c :: key, rest)
    else (readKey (if c == '(' then opened + 1 else opened) cs).map fun (key, rest) => (c :: key, rest)

/-- Read the key of a directive, if it has one; the entry under the key is then
the one argument left. -/
def readEntry (args : Arguments) (cs : List Char) : Except Fault (List Char × Arguments) :=
  match cs with
  | '(' :: more =>
    match args.source with
    | none => .error .notMapping
    | some source =>
      match readKey 0 more with
      | none => .error .incompleteKey
      | some (key, rest) =>
        (entryUnder (String.ofList key) source).map fun v => (rest, { args with rest := [v] })
  | _ => .ok (cs, args)

/-- Read the width of a directive.  A negative width keeps the text on the
left. -/
def readWidth (d : Directive) (args : Arguments) (cs : List Char) :
    Except Fault (Directive × List Char × Arguments) :=
  match cs with
  | '*' :: rest => do
    let (n, args) ← args.star widthLimit
    return ({ d with width := n.natAbs, left := d.left || n < 0 }, rest, args)
  | _ => do
    let (n, rest) ← readLimited widthLimit cs
    return ({ d with width := n }, rest, args)

/-- Read the precision of a directive, if it has one. -/
def readPrecision (d : Directive) (args : Arguments) (cs : List Char) :
    Except Fault (Directive × List Char × Arguments) :=
  match cs with
  | '.' :: '*' :: rest => do
    let (n, args) ← args.star precisionLimit
    return ({ d with precision := some n.toNat }, rest, args)
  | '.' :: more => do
    let (n, rest) ← readLimited precisionLimit more
    return ({ d with precision := some n }, rest, args)
  | _ => .ok (d, cs, args)

/-- Read all of a directive up to its letter, in front of which the size of the
argument may stand. -/
def readDirective (args : Arguments) (cs : List Char) :
    Except Fault (Directive × List Char × Arguments) := do
  let (cs, args) ← readEntry args cs
  let (d, cs) := readFlags Directive.bare cs
  let (d, cs, args) ← readWidth d args cs
  let (d, cs, args) ← readPrecision d args cs
  match cs with
  | 'h' :: rest => return (d, rest, args)
  | 'l' :: rest => return (d, rest, args)
  | 'L' :: rest => return (d, rest, args)
  | _ => return (d, cs, args)

def Directive.filled (d : Directive) (cs : List Char) : List Char :=
  let missing := List.replicate (d.width - cs.length) ' '
  if d.left then cs ++ missing else missing ++ cs

/-- A number from its sign and digits, filled up to the width. -/
def Directive.number (d : Directive) (negative : Bool) (lead digits : List Char) : List Char :=
  let sign := if negative then ['-'] else if d.plus then ['+'] else if d.blank then [' '] else []
  let digits := Number.zeroFilled (d.precision.getD 0) digits
  let used := sign.length + lead.length + digits.length
  if d.zeros && !d.left then sign ++ lead ++ List.replicate (d.width - used) '0' ++ digits
  else d.filled (sign ++ lead ++ digits)

/-- A double as the letter of a directive asks, with its sign apart. -/
def Directive.double (d : Directive) (letter : Char) (x : Float) : Bool × List Char :=
  match Number.parts x with
  | .notANumber => (false, "nan".toList)
  | .infinite negative => (negative, "inf".toList)
  | .finite negative mantissa exponent =>
    let (num, den) := Number.magnitudeOf mantissa exponent
    let places := d.precision.getD 6
    (negative,
      match letter with
      | 'e' => Number.scientificDigits num den places d.alternate
      | 'g' => Number.generalDigits num den places d.alternate
      | _ => Number.fixedDigits num den places d.alternate)

def wholePart (letter : Char) (v : Value) : Except Fault Int :=
  match v.number? with
  | none => .error (.notReal letter v.qualifiedTypeName)
  | some .undefined => .error (.undefinedToInteger v.isDecimal)
  | some (.infinite _) => .error (.infiniteToInteger v.isDecimal)
  | some (.fraction n d) => .ok (Int.tdiv n (Int.ofNat d))

/-- The integer that a value is, where no other number will do. -/
def integer (letter : Char) : Value → Except Fault Int
  | .int n => .ok n
  | .bool b => .ok (if b then 1 else 0)
  | v => .error (.notInteger letter v.qualifiedTypeName)

def doubleOf (v : Value) : Except Fault Float :=
  match v.amount? with
  | none => .error (.notRealNumber v.qualifiedTypeName)
  | some (.decimal d) => if d.isSignaling then .error .signalingDouble else .ok d.toDouble
  | some amount =>
    match amount.toDouble? with
    | some x => .ok x
    | none => .error .doubleOverflow

def characterOf : Value → Except Fault Char
  | .text s =>
    match s.toList with
    | [c] => .ok c
    | _ => .error .notCharacter
  | .int n => if 0 ≤ n && n < 0x110000 then .ok (Char.ofNat n.toNat) else .error .characterRange
  | .bool b => .ok (Char.ofNat (if b then 1 else 0))
  | _ => .error .notCharacter

/-- A text of a value, shortened and filled up. -/
def Directive.text (d : Directive) (v : Value) (shown : List Char) : Except Fault (List Char) :=
  if v.overlong then .error .tooManyDigits
  else
    match d.precision with
    | some n => .ok (d.filled (shown.take n))
    | none => .ok (d.filled shown)

/-- An argument as the letter of a directive asks. -/
def Directive.show (d : Directive) (letter : Char) (index : Nat) (v : Value) :
    Except Fault (List Char) :=
  if letter == 's' then d.text v v.plain.toList
  else if letter == 'r' then d.text v v.literal
  else if letter == 'a' then d.text v (v.literal.flatMap Text.Quoted.escaped)
  else if letter == 'd' || letter == 'i' || letter == 'u' then do
    let n ← wholePart letter v
    if Number.tooLong n then throw .tooManyDigits
    return d.number (decide (n < 0)) [] (Number.natDigits n.natAbs)
  else if letter == 'x' || letter == 'X' || letter == 'o' then do
    let n ← integer letter v
    let ds := Nat.toDigits (if letter == 'o' then 8 else 16) n.natAbs
    let ds := if letter == 'X' then ds.map Char.toUpper else ds
    return d.number (decide (n < 0)) (if d.alternate then ['0', letter] else []) ds
  else if ['e', 'f', 'g'].contains letter.toLower then do
    let (negative, digits) := d.double letter.toLower (← doubleOf v)
    let digits := if letter == letter.toLower then digits else digits.map Char.toUpper
    return { d with precision := none }.number negative [] digits
  else if letter == 'c' then do
    return d.filled [← characterOf v]
  else .error (.badDirective letter index)

/-- Fill in a template of a given length.  The fuel bounds the number of
characters. -/
def fillFrom (length : Nat) : (fuel : Nat) → Arguments → List Char → Except Fault (List Char)
  | 0, _, _ => .ok []
  | _ + 1, args, [] =>
    if args.source.isNone && !args.rest.isEmpty then .error .argumentsLeft else .ok []
  | fuel + 1, args, c :: cs =>
    if c != '%' then (fillFrom length fuel args cs).map (c :: ·)
    else if cs.head? == some '%' then (fillFrom length fuel args (cs.drop 1)).map ('%' :: ·)
    else
      match readDirective args cs with
      | .error fault => .error fault
      | .ok (_, [], _) => .error .incompleteDirective
      | .ok (d, letter :: rest, args) =>
        match args.next with
        | .error fault => .error fault
        | .ok (v, args) =>
          match d.show letter (length - rest.length - 1) v with
          | .error fault => .error fault
          | .ok shown => (fillFrom length fuel args rest).map (shown ++ ·)

/-- A message with its arguments filled in; without arguments it stays as it
is. -/
def fill (template : String) (args : Value) : Except Fault String :=
  if !args.truthy then .ok template
  else
    let cs := template.toList
    (fillFrom cs.length (cs.length + 1) (Arguments.ofValue args) cs).map String.ofList

end DocLedger.Log.Template
