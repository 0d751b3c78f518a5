import DocLedger.Script.Word

/-!
# Commands of a script

Tokens make commands: simple ones, and those that join, choose between or
repeat others.
-/

namespace DocLedger.Script

/-- Where a stream of a command goes instead. -/
inductive Redirection
  | duplicate (stream source : Nat)
  | toFile (stream : Nat) (target : Word)
  | fromFile (source : Word)
  | fromText (text : Word)
deriving Repr, DecidableEq

/-- A command. -/
inductive Command
  | empty
  | simple (words : List Word) (redirections : List Redirection)
  /-- The output of the first is the input of the second. -/
  | piped (first second : Command)
  /-- A command in a shell of its own. -/
  | apart (body : Command)
  | sequence (first second : Command)
  | both (first second : Command)
  | either (first second : Command)
  | negation (body : Command)
  | choice (condition yes no : Command)
  | select (subject : Word) (branches : List (List Word × Command))
  | each (name : String) (items : Option (List Word)) (body : Command)
  | loop (condition : Command) (goal : Bool) (body : Command)
  | redirected (body : Command) (redirections : List Redirection)
deriving Repr

/-- The words of the language that end a list of commands. -/
def closers : List String :=
  ["then", "elif", "else", "fi", "do", "done", "esac", String.singleton closeBrace]

/-- Whether the tokens start with a word of the language. -/
def startsWith (word : String) : List Token → Bool
  | .word w :: _ => plainText? w == some word
  | _ => false

/-- The tokens after a word of the language, which has to come first. -/
def expect (word : String) (ts : List Token) : Option (List Token) :=
  if startsWith word ts then some (ts.drop 1) else none

def skipLines (ts : List Token) : List Token :=
  ts.dropWhile (· == .operator "\n")

def skipSeparators (ts : List Token) : List Token :=
  ts.dropWhile fun t => t == .operator "\n" || t == .operator ";"

def atEnd : List Token → Bool
  | [] => true
  | .operator o :: _ => o == ";;" || o == ")"
  | .word w :: _ => ((plainText? w).map closers.contains).getD false
  | _ => false

def redirections : List Token → List Redirection × List Token
  | .duplicate stream source :: rest =>
    let (more, after) := redirections rest
    (.duplicate stream source :: more, after)
  | .toFile stream :: .word w :: rest =>
    let (more, after) := redirections rest
    (.toFile stream w :: more, after)
  | .fromFile :: .word w :: rest =>
    let (more, after) := redirections rest
    (.fromFile w :: more, after)
  | .fromText w :: rest =>
    let (more, after) := redirections rest
    (.fromText w :: more, after)
  | ts => ([], ts)

/-- Read the words and redirections of a simple command. -/
def simpleParts : List Token → (List Word × List Redirection) × List Token
  | .word w :: rest =>
    let ((words, more), after) := simpleParts rest
    ((w :: words, more), after)
  | .duplicate stream source :: rest =>
    let ((words, more), after) := simpleParts rest
    ((words, .duplicate stream source :: more), after)
  | .toFile stream :: .word w :: rest =>
    let ((words, more), after) := simpleParts rest
    ((words, .toFile stream w :: more), after)
  | .fromFile :: .word w :: rest =>
    let ((words, more), after) := simpleParts rest
    ((words, .fromFile w :: more), after)
  | .fromText w :: rest =>
    let ((words, more), after) := simpleParts rest
    ((words, .fromText w :: more), after)
  | ts => (([], []), ts)

def wordsOf : List Token → List Word × List Token
  | .word w :: rest =>
    let (more, after) := wordsOf rest
    (w :: more, after)
  | ts => ([], ts)

def branchPatterns : List Token → Option (List Word × List Token)
  | .operator "(" :: rest => branchPatterns rest
  | .word w :: .operator "|" :: rest => do
    let (more, after) ← branchPatterns rest
    return (w :: more, after)
  | .word w :: .operator ")" :: rest => some ([w], rest)
  | _ => none

mutual

/-- Read commands up to the end of their list. -/
def parseList : (fuel : Nat) → List Token → Option (Command × List Token)
  | 0, _ => none
  | fuel + 1, ts => do
    let ts := skipSeparators ts
    if atEnd ts then return (.empty, ts)
    let (first, rest) ← parseAndOr fuel ts
    match rest with
    | .operator o :: more =>
      if o == ";" || o == "\n" || o == "&" then
        let (second, after) ← parseList fuel more
        return (.sequence first second, after)
      return (first, rest)
    | _ => return (first, rest)

def parseAndOr : (fuel : Nat) → List Token → Option (Command × List Token)
  | 0, _ => none
  | fuel + 1, ts => do
    let (first, rest) ← parsePipeline fuel ts
    parseJoined fuel first rest

def parseJoined : (fuel : Nat) → Command → List Token → Option (Command × List Token)
  | 0, _, _ => none
  | fuel + 1, first, ts =>
    match ts with
    | .operator "&&" :: rest => do
      let (second, after) ← parsePipeline fuel (skipLines rest)
      parseJoined fuel (.both first second) after
    | .operator "||" :: rest => do
      let (second, after) ← parsePipeline fuel (skipLines rest)
      parseJoined fuel (.either first second) after
    | _ => some (first, ts)

/-- Read commands each of which gets the output of the one before it. -/
def parsePipeline : (fuel : Nat) → List Token → Option (Command × List Token)
  | 0, _ => none
  | fuel + 1, ts => do
    if startsWith "!" ts then
      let (body, after) ← parsePipeline fuel (ts.drop 1)
      return (.negation body, after)
    let (first, rest) ← parseCommand fuel ts
    match rest with
    | .operator "|" :: more =>
      let (second, after) ← parsePipeline fuel (skipLines more)
      return (.piped first second, after)
    | _ => return (first, rest)

def parseCommand : (fuel : Nat) → List Token → Option (Command × List Token)
  | 0, _ => none
  | fuel + 1, ts => do
    match ← parseCompound fuel ts with
    | (some body, after) =>
      let (redirected, rest) := redirections after
      return (if redirected.isEmpty then body else .redirected body redirected, rest)
    | (none, _) =>
      let ((words, redirected), after) := simpleParts ts
      if words.isEmpty && redirected.isEmpty then none
      return (.simple words redirected, after)

/-- Read a command that starts with a word of the language, if there is one. -/
def parseCompound : (fuel : Nat) → List Token → Option (Option Command × List Token)
  | 0, _ => none
  | fuel + 1, ts => do
    let rest := ts.drop 1
    if startsWith "if" ts then
      let (c, after) ← parseChoice fuel rest
      return (some c, after)
    if startsWith "while" ts || startsWith "until" ts then
      let (condition, after) ← parseList fuel rest
      let (body, last) ← parseBody fuel after
      return (some (.loop condition (startsWith "while" ts) body), last)
    if startsWith "for" ts then
      match rest with
      | .word w :: more =>
        let name ← plainText? w
        let more := skipLines more
        let (items, after) := if startsWith "in" more then
            let (ws, after) := wordsOf (more.drop 1)
            (some ws, after)
          else (none, more)
        let (body, last) ← parseBody fuel (skipSeparators after)
        return (some (.each name items body), last)
      | _ => none
    if startsWith "case" ts then
      match rest with
      | .word w :: more =>
        let after ← expect "in" (skipLines more)
        let (branches, last) ← parseBranches fuel after
        return (some (.select w branches), last)
      | _ => none
    if startsWith (String.singleton openBrace) ts then
      let (body, after) ← parseList fuel rest
      let last ← expect (String.singleton closeBrace) after
      return (some body, last)
    match ts with
    | .operator "(" :: more =>
      let (body, after) ← parseList fuel more
      match after with
      | .operator ")" :: last => return (some (.apart body), last)
      | _ => none
    | _ => return (none, ts)

/-- Read the rest of a choice after its first word. -/
def parseChoice : (fuel : Nat) → List Token → Option (Command × List Token)
  | 0, _ => none
  | fuel + 1, ts => do
    let (condition, rest) ← parseList fuel ts
    let rest ← expect "then" rest
    let (yes, rest) ← parseList fuel rest
    if startsWith "elif" rest then
      let (no, after) ← parseChoice fuel (rest.drop 1)
      return (.choice condition yes no, after)
    if startsWith "else" rest then
      let (no, rest) ← parseList fuel (rest.drop 1)
      let after ← expect "fi" rest
      return (.choice condition yes no, after)
    let after ← expect "fi" rest
    return (.choice condition yes .empty, after)

def parseBody : (fuel : Nat) → List Token → Option (Command × List Token)
  | 0, _ => none
  | fuel + 1, ts => do
    let rest ← expect "do" ts
    let (body, rest) ← parseList fuel rest
    let after ← expect "done" rest
    return (body, after)

def parseBranches : (fuel : Nat) → List Token → Option (List (List Word × Command) × List Token)
  | 0, _ => none
  | fuel + 1, ts => do
    let ts := skipLines ts
    if startsWith "esac" ts then return ([], ts.drop 1)
    let (patterns, rest) ← branchPatterns ts
    let (body, rest) ← parseList fuel rest
    let rest := match rest with
      | .operator ";;" :: more => more
      | _ => rest
    let (branches, after) ← parseBranches fuel rest
    return ((patterns, body) :: branches, after)

end

def parse (source : List Char) : Option Command :=
  let ts := scan source
  match parseList (4 * ts.length + 8) ts with
  | some (command, []) => some command
  | _ => none

end DocLedger.Script
