/-!
# Patterns

A pattern matches whole texts.  A star stands for any text, a question mark for
any character, and brackets for one of some characters; quoted characters stand
for themselves.
-/

namespace DocLedger.Script

/-- An element of a pattern. -/
inductive Element
  | only (c : Char)
  | any
  | one
  | among (ranges : List (Char × Char)) (negated : Bool)
deriving Repr, DecidableEq

namespace Element

/-- Whether an element other than a star matches a character. -/
def accepts (e : Element) (c : Char) : Bool :=
  match e with
  | only d => c == d
  | any => true
  | one => true
  | among ranges negated =>
    (ranges.any fun (low, high) => low.toNat ≤ c.toNat && c.toNat ≤ high.toNat) != negated

end Element

def isMatch : List Element → List Char → Bool
  | [], text => text.isEmpty
  | .any :: pattern, [] => isMatch pattern []
  | .any :: pattern, c :: text =>
    isMatch pattern (c :: text) || isMatch (.any :: pattern) text
  | _ :: _, [] => false
  | e :: pattern, c :: text => e.accepts c && isMatch pattern text
termination_by pattern text => (pattern.length + text.length)

def ranges : List Char → List (Char × Char)
  | a :: '-' :: b :: rest => (a, b) :: ranges rest
  | a :: rest => (a, a) :: ranges rest
  | [] => []

/-- The pattern of characters, each with whether it is quoted.  The fuel bounds
the elements. -/
def elements : (fuel : Nat) → List (Char × Bool) → List Element
  | 0, _ => []
  | _, [] => []
  | fuel + 1, (c, quoted) :: rest =>
    if quoted then .only c :: elements fuel rest
    else if c == '*' then .any :: elements fuel rest
    else if c == '?' then .one :: elements fuel rest
    else if c == '[' then
      let inside := (rest.takeWhile fun (d, _) => d != ']').map Prod.fst
      let after := rest.drop inside.length
      match inside, after with
      | '!' :: listed, _ :: more => .among (ranges listed) true :: elements fuel more
      | listed, _ :: more => .among (ranges listed) false :: elements fuel more
      | _, [] => .only c :: elements fuel rest
    else .only c :: elements fuel rest

def pattern (cs : List (Char × Bool)) : List Element := elements (cs.length + 1) cs

end DocLedger.Script
