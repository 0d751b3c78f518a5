import DocLedger.Index.Database

/-!
# Statements in text

A statement that a caller writes is one query of one table, or a statement that
would write.  The reader of statements splits the text into tokens and reads
the clauses of a query one after another; a token that does not fit is a fault
that names it.
-/

namespace DocLedger.Index

/-- A token of a statement. -/
inductive Token
  | word (s : String)
  | quoted (s : String)
  | sign (c : Char)
  | bad (s : String)
deriving Repr, DecidableEq

/-- The text of a token, as faults show it. -/
def Token.text : Token → String
  | word s => s
  | quoted s => quoteIdentifier s
  | sign c => String.singleton c
  | bad s => s

def isWordChar (c : Char) : Bool := c.isAlphanum || c == '_' || 128 ≤ c.toNat

def literalMark : Char := Char.ofNat 39

/-- The text up to the closing mark, which stands for itself when doubled, and
the rest; none if there is no closing mark. -/
def untilMark (mark : Char) : (fuel : Nat) → List Char → Option (List Char × List Char)
  | 0, _ => none
  | _ + 1, [] => none
  | fuel + 1, c :: rest =>
    if c == mark then
      match rest with
      | d :: more =>
        if d == mark then (untilMark mark fuel more).map fun (s, last) => (mark :: s, last)
        else some ([], rest)
      | [] => some ([], [])
    else (untilMark mark fuel rest).map fun (s, last) => (c :: s, last)

/-- The tokens of a statement.  Reading stops at a token that is at fault. -/
def tokens : (fuel : Nat) → List Char → List Token
  | 0, _ => []
  | _ + 1, [] => []
  | fuel + 1, c :: rest =>
    if c == ' ' || c == '\n' || c == '\t' || c == '\r' then tokens fuel rest
    else if isWordChar c then
      .word (String.ofList ((c :: rest).takeWhile isWordChar)) ::
        tokens fuel ((c :: rest).dropWhile isWordChar)
    else if c == identifierMark then
      match untilMark identifierMark (rest.length + 1) rest with
      | some (s, last) => .quoted (String.ofList s) :: tokens fuel last
      | none => [.bad (String.ofList (c :: rest))]
    else if c == literalMark then
      match untilMark literalMark (rest.length + 1) rest with
      | some (s, last) => .word (String.ofList s) :: tokens fuel last
      | none => [.bad (String.ofList (c :: rest))]
    else .sign c :: tokens fuel rest

/-- What a statement does. -/
inductive Statement
  | nothing
  | query (columns : Option (List String)) (table : String) (condition order : Option String)
  | write (table : Option String)
deriving Repr

/-- The fault of a token that does not fit. -/
def unexpected : List Token → QueryFault
  | [] => .incomplete
  | .bad s :: _ => .badToken s
  | t :: _ => .nearSyntax t.text

/-- Whether a token is a word, whatever the case of its letters. -/
def Token.isWord (t : Token) (w : String) : Bool :=
  match t with
  | word s => sameName s w
  | _ => false

def readName : List Token → Except QueryFault (String × List Token)
  | .word s :: rest => .ok (s, rest)
  | .quoted s :: rest => .ok (s, rest)
  | ts => .error (unexpected ts)

def expectWord (w : String) : List Token → Except QueryFault (List Token)
  | t :: rest => if t.isWord w then .ok rest else .error (unexpected (t :: rest))
  | [] => .error .incomplete

def expectSign (c : Char) : List Token → Except QueryFault (List Token)
  | .sign d :: rest => if d == c then .ok rest else .error (unexpected (.sign d :: rest))
  | ts => .error (unexpected ts)

/-- Read names with commas between them. -/
def readNames : (fuel : Nat) → List Token → Except QueryFault (List String × List Token)
  | 0, ts => .error (unexpected ts)
  | fuel + 1, ts => do
    let (name, rest) ← readName ts
    match rest with
    | .sign ',' :: more =>
      let (names, last) ← readNames fuel more
      return (name :: names, last)
    | _ => return ([name], rest)

/-- Read a condition, if there is one. -/
def readCondition (ts : List Token) : Except QueryFault (Option String × List Token) :=
  match ts with
  | t :: rest =>
    if t.isWord "where" then do
      let (name, rest) ← readName rest
      let rest ← expectSign '=' rest
      let rest ← expectSign '?' rest
      return (some name, rest)
    else .ok (none, ts)
  | [] => .ok (none, [])

/-- Read an order, if there is one. -/
def readOrder (ts : List Token) : Except QueryFault (Option String × List Token) :=
  match ts with
  | t :: rest =>
    if t.isWord "order" then do
      let rest ← expectWord "by" rest
      let (name, rest) ← readName rest
      return (some name, rest)
    else .ok (none, ts)
  | [] => .ok (none, [])

def readQuery (ts : List Token) : Except QueryFault Statement := do
  let (columns, rest) ←
    match ts with
    | .sign '*' :: rest => pure (none, rest)
    | _ => do
      let (names, rest) ← readNames ts.length ts
      pure (some names, rest)
  let rest ← expectWord "from" rest
  let (table, rest) ← readName rest
  let (condition, rest) ← readCondition rest
  let (order, rest) ← readOrder rest
  match rest with
  | [] => return .query columns table condition order
  | [.sign ';'] => return .query columns table condition order
  | _ => throw (unexpected rest)

/-- The name of the table that a writing statement is about, after its first
word. -/
def writtenTable (ts : List Token) : Option String :=
  match ts with
  | .word w :: rest =>
    if sameName w "from" || sameName w "into" then
      match readName rest with
      | .ok (name, _) => some name
      | .error _ => none
    else none
  | _ => none

def Statement.read (text : String) : Except QueryFault Statement :=
  let cs := text.toList
  match tokens (cs.length + 1) cs with
  | [] => .ok .nothing
  | t :: rest =>
    if t.isWord "select" then readQuery rest
    else if t.isWord "insert" || t.isWord "delete" then .ok (.write (writtenTable rest))
    else if t.isWord "update" || t.isWord "create" || t.isWord "drop" then .ok (.write none)
    else .error (unexpected (t :: rest))

/-- Whether a value can be handed to the database. -/
def isStorable : Value → Bool
  | .null | .bool _ | .int _ | .float _ | .text _ | .bytes _ | .moment _ => true
  | _ => false

/-- Whether a value is an integer that no cell keeps. -/
def isTooLarge : Value → Bool
  | .int n => n < -9223372036854775808 || 9223372036854775807 < n
  | _ => false

def checkValues (index : Nat) : List Value → Except QueryFault (List Value)
  | [] => .ok []
  | v :: rest => do
    if !isStorable v then throw (.unsupported index v.qualifiedTypeName)
    if isTooLarge v then throw .tooLarge
    return stored v :: (← checkValues (index + 1) rest)

/-- Run a statement with values for its marks. -/
def Database.run (db : Database) (text : String) (values : List Value) :
    Except QueryFault (List Row) := do
  match ← Statement.read text with
  | .nothing =>
    if values.isEmpty then return [] else throw (.bindings 0 values.length)
  | .write table =>
    match table with
    | some name => if (db.table? name).isNone then throw (.noTable name) else throw .readOnly
    | none => throw .readOnly
  | .query columns table condition order =>
    let check : Query := ⟨columns, table, condition.map fun c => ⟨c, .null⟩, order⟩
    let _ ← db.select check
    let uses := if condition.isSome then 1 else 0
    if values.length != uses then throw (.bindings uses values.length)
    let values ← checkValues 1 values
    db.select ⟨columns, table,
      condition.map fun c => ⟨c, values.head?.getD .null⟩, order⟩

end DocLedger.Index
