import DocLedger.Number.Text

/-!
# Calculations

A calculation in a script is over integers: sums, products, quotients towards
zero and remainders, with brackets.  A name stands for the value of a parameter,
which counts as zero when it is not a number.
-/

namespace DocLedger.Script

/-- The operators of a calculation, with how strongly they bind. -/
inductive Calculation
  | plus
  | minus
  | times
  | quotient
  | modulo
deriving Repr, DecidableEq

namespace Calculation

def ofChar? : Char → Option Calculation
  | '+' => some plus
  | '-' => some minus
  | '*' => some times
  | '/' => some quotient
  | '%' => some modulo
  | _ => none

def isProduct : Calculation → Bool
  | plus => false
  | minus => false
  | _ => true

def apply : Calculation → Int → Int → Int
  | plus, a, b => a + b
  | minus, a, b => a - b
  | times, a, b => a * b
  | quotient, a, b => Int.tdiv a b
  | modulo, a, b => Int.tmod a b

end Calculation

mutual

/-- The value of an operand in front of a text, and the text after it. -/
def operand (value : String → Int) : (fuel : Nat) → List Char → Int × List Char
  | 0, cs => (0, cs)
  | _, [] => (0, [])
  | fuel + 1, c :: rest =>
    if c == '(' then
      let (n, after) := operations value fuel false (operand value fuel rest)
      (n, after.drop 1)
    else if c == '-' then
      let (n, after) := operand value fuel rest
      (-n, after)
    else if c.isDigit then
      let (ds, after) := Number.spanDigits (c :: rest)
      (Number.digitsValue ds, after)
    else
      let name := (c :: rest).takeWhile fun d => d.isAlphanum || d == '_'
      (value (String.ofList name), (c :: rest).drop (max name.length 1))

/-- Go on with the operators after a value; only those that bind as products
do, when `products` says so. -/
def operations (value : String → Int) : (fuel : Nat) → (products : Bool) → Int × List Char →
    Int × List Char
  | 0, _, done => done
  | fuel + 1, products, (n, cs) =>
    match cs with
    | [] => (n, [])
    | c :: rest =>
      match Calculation.ofChar? c with
      | none => (n, cs)
      | some op =>
        if op.isProduct then
          let (m, after) := operand value fuel rest
          operations value fuel products (op.apply n m, after)
        else if products then (n, cs)
        else
          let (m, after) := operations value fuel true (operand value fuel rest)
          operations value fuel products (op.apply n m, after)

end

def calculated (value : String → Int) (source : List Char) : Int :=
  let cs := source.filter fun c => !(c == ' ' || c == '$' || c == '\n' || c == '\t')
  (operations value (2 * cs.length + 2) false (operand value (2 * cs.length + 2) cs)).1

end DocLedger.Script
