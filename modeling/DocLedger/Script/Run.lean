import DocLedger.Script.Expansion
import DocLedger.Script.Pattern
import DocLedger.Script.Tool

/-!
# Running a script

A script runs until it exits, is ended by a signal, or goes on for so long that
only a signal ends it.  The child that runs it shows all that it wrote and how
it ended, or what it does when it is asked to terminate.
-/

namespace DocLedger.Script

open Engine (Bytes Child Ending Reaction)

/-- An assignment that a word is, if it is one. -/
def assignment? (w : Word) : Option (String × Word) :=
  match w with
  | .literal text false :: rest =>
    let name := text.takeWhile isNameChar
    match text.drop name.length with
    | '=' :: more =>
      if name.isEmpty || (name.head?.map Char.isDigit).getD false then none
      else some (String.ofList name, .literal more false :: rest)
    | _ => none
  | _ => none

/-- The assignments in front of a simple command, and its other words. -/
def assignments : List Word → List (String × Word) × List Word
  | [] => ([], [])
  | w :: rest =>
    match assignment? w with
    | some a =>
      let (more, words) := assignments rest
      (a :: more, words)
    | none => ([], w :: rest)

/-- Run a simple command whose words are expanded. -/
def perform (handle : List Char → Run Unit) (words : List String) : Run Unit := do
  match words with
  | [] => return ()
  | ["exec"] => return ()
  | "exec" :: name :: args => do
    modify fun s => { s with trap := if s.trap = .ignored then .ignored else .standard }
    command handle "exec: " name args
    throw (.exits (← get).status)
  | name :: args => command handle "" name args

/-- The status with which a shell of its own ends: a signal counts from 128. -/
def innerStatus (outcome : Except Stop Unit) (last : Int) : Int :=
  match outcome with
  | .error (.exits code) => if code < 0 then 128 - code else code
  | _ => last

/-- Run a body in a shell of its own with some input and give its output. -/
def captured (input : Bytes) (body : Run Unit) : Run Bytes := do
  let s ← get
  let (outcome, after) := (ExceptT.run body).run
    { s with stdout := [], outTo := .stdout, input := input }
  set { s with stderr := after.stderr, waited := after.waited,
               status := innerStatus outcome after.status }
  match outcome with
  | .error .lasts => throw .lasts
  | _ => return after.stdout

/-- Run a body in a shell of its own and take its output as a text. -/
def inOwnShell (body : Run Unit) : Run String := do
  let text := Text.Utf8.decode (← captured (← get).input body)
  return String.ofList ((text.reverse.dropWhile (· == '\n')).reverse)

/-- Run a body in a shell of its own. -/
def apart (input : Bytes) (body : Run Unit) : Run Unit := do
  let s ← get
  let (outcome, after) := (ExceptT.run body).run { s with input := input }
  set { s with stdout := after.stdout, stderr := after.stderr, waited := after.waited,
               status := innerStatus outcome after.status }
  match outcome with
  | .error .lasts => throw .lasts
  | _ => return ()

/-- Run a round of a repetition, and say whether the repetition goes on. -/
def round (body : Run Unit) : Run Bool :=
  tryCatch (do body; return true) fun
    | .leaves altogether => return !altogether
    | stop => throw stop

/-- Run a command.  The fuel bounds the depth of the run; without fuel the run
counts as one that goes on. -/
def execute : (fuel : Nat) → Command → Run Unit
  | 0, _ => throw .lasts
  | fuel + 1, c =>
    let handle (source : List Char) : Run Unit :=
      match parse source with
      | some body => execute fuel body
      | none => throw (.exits 2)
    let run (source : List Char) : Run String := inOwnShell (handle source)
    let succeeded : Run Bool := do return (← get).status == 0
    match c with
    | .empty => return ()
    | .simple words redirections => do
      let (assigned, words) := assignments words
      let args ← textsOf run words
      let values ← assigned.mapM fun (name, w) => do
        return (name, fieldText (← wholeOf run w))
      let before ← get
      modify fun s => { s with bindings := s.bindings.overlay values }
      if args == ["exec"] then redirections.forM (redirect run)
      else
        redirecting run redirections (perform handle args)
        if !args.isEmpty && !assigned.isEmpty then
          modify fun s => { s with bindings := before.bindings }
    | .piped a b => do
      let output ← captured (← get).input (execute fuel a)
      apart output (execute fuel b)
    | .apart body => do apart (← get).input (execute fuel body)
    | .sequence a b => do
      execute fuel a
      execute fuel b
    | .both a b => do
      execute fuel a
      if ← succeeded then execute fuel b
    | .either a b => do
      execute fuel a
      if !(← succeeded) then execute fuel b
    | .negation a => do
      execute fuel a
      setTruth (!(← succeeded))
    | .choice condition yes no => do
      execute fuel condition
      if ← succeeded then execute fuel yes
      else
        setStatus 0
        execute fuel no
    | .select subject branches => do
      let text := (← wholeOf run subject).map Prod.fst
      let chosen ← branches.findM? fun (patterns, _) => do
        let fits ← patterns.mapM fun w => do return isMatch (pattern (← wholeOf run w)) text
        return fits.any id
      setStatus 0
      match chosen with
      | some (_, body) => execute fuel body
      | none => return ()
    | .each name items body => do
      let values ← match items with
        | some ws => textsOf run ws
        | none => do pure (← get).args
      setStatus 0
      let _ ← values.foldlM (fun goes value => do
        if goes then
          modify fun s => { s with bindings := s.bindings.set name value }
          round (execute fuel body)
        else pure false) true
    | .loop condition goal body => do
      execute fuel condition
      if (← succeeded) == goal then
        if ← round (execute fuel body) then execute fuel c
      else setStatus 0
    | .redirected body redirections => redirecting run redirections (execute fuel body)

def depth : Nat := 20000

/-- What a shell that goes on does when it is asked to terminate. -/
def reaction (s : Shell) : Reaction :=
  match s.trap with
  | .standard => .ends
  | .ignored => .ignores
  | .handler source =>
    match parse source with
    | none => .ends
    | some body =>
      let fresh := { s with stdout := [], stderr := [] }
      match (ExceptT.run (execute depth body)).run fresh with
      | (.error (.exits code), after) => .cleansUp after.stdout after.stderr code
      | _ => .ignores

/-- The child that runs a script in a shell. -/
def child (source : List Char) (s : Shell) : Child :=
  match parse source with
  | none => ⟨[], bytesOf (s.name ++ ": Syntax error\n").toList, .exits 2⟩
  | some body =>
    let (outcome, after) := (ExceptT.run (execute depth body)).run s
    let ending : Ending := match outcome with
      | .ok () => .exits after.status
      | .error (.exits code) => .exits code
      | .error .lasts => .lasts (reaction after)
      | .error (.leaves _) => .exits after.status
    ⟨[after.stdout], after.stderr, ending⟩

end DocLedger.Script
