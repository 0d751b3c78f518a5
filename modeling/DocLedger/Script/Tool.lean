import DocLedger.Script.Shell

/-!
# Tools of a script

A script knows the usual built-in commands of a shell and the few tools that
write, copy, count and wait.
-/

namespace DocLedger.Script

open Engine (Bytes Environment)

def signalNumber? (name : String) : Option Nat :=
  let names : List (String × Nat) :=
    [("HUP", 1), ("INT", 2), ("QUIT", 3), ("ABRT", 6), ("KILL", 9), ("USR1", 10), ("SEGV", 11),
      ("USR2", 12), ("PIPE", 13), ("ALRM", 14), ("TERM", 15)]
  match name.toNat? with
  | some n => some n
  | none => names.lookup (if name.startsWith "SIG" then (name.drop 3).toString else name)

/-- The milliseconds of a number of seconds, which may have a fraction. -/
def milliseconds (text : String) : Nat :=
  let (whole, rest) := Number.spanDigits text.toList
  let (fraction, _) := Number.spanDigits (rest.drop 1)
  let thousandths := (fraction ++ ['0', '0', '0']).take 3
  Number.digitsValue whole * 1000 + Number.digitsValue thousandths

def lastPart (path : String) : String :=
  match (Host.parts path).getLast? with
  | some part => part
  | none => if path == "" then "" else "/"

def holds (s : Shell) : List String → Bool
  | "!" :: rest => !holds s rest
  | ["-n", a] => a != ""
  | ["-z", a] => a == ""
  | ["-e", a] => match s.files.find s.directory a with
    | .entry .. => true
    | _ => false
  | ["-f", a] => match s.files.find s.directory a with
    | .entry _ .directory => false
    | .entry .. => true
    | _ => false
  | ["-d", a] => match s.files.find s.directory a with
    | .entry _ .directory => true
    | _ => false
  | [a, "=", b] => a == b
  | [a, "!=", b] => a != b
  | [a, "-eq", b] => integerOf a == integerOf b
  | [a, "-ne", b] => integerOf a != integerOf b
  | [a, "-lt", b] => integerOf a < integerOf b
  | [a, "-le", b] => integerOf a ≤ integerOf b
  | [a, "-gt", b] => integerOf b < integerOf a
  | [a, "-ge", b] => integerOf b ≤ integerOf a
  | [a] => a != ""
  | _ => false

/-- Copy files, or the input when none is named. -/
def copy (paths : List String) : Run Unit := do
  let s ← get
  if paths.isEmpty then write s.input
  else
    setStatus 0
    paths.forM fun path => do
      match s.files.find s.directory path with
      | .entry _ (.file bytes _) => write bytes
      | _ => if path != "/dev/null" then
        writeTo s.errTo (bytesOf ("cat: " ++ path ++ ": No such file or directory\n").toList)
        setStatus 1

/-- Write the first bytes of a file or of the input. -/
def first (args : List String) : Run Unit := do
  let s ← get
  match args with
  | ["-c", n, "/dev/zero"] => write (List.replicate (integerOf n).toNat 0)
  | ["-c", n, path] =>
    match s.files.find s.directory path with
    | .entry _ (.file bytes _) => write (bytes.take (integerOf n).toNat)
    | _ => setStatus 1
  | ["-c", n] => write (s.input.take (integerOf n).toNat)
  | _ => write s.input

/-- The rest of a path after its last slash, and what is before it. -/
def holder (path : String) : String :=
  match (Host.parts path).dropLast with
  | [] => if Host.isAbsolute path then "/" else "."
  | ps => (if Host.isAbsolute path then "/" else "") ++ Text.joined "/" ps

def readLine (names : List String) : Run Unit := do
  let s ← get
  let line := s.input.takeWhile (· != 10)
  let rest := s.input.drop line.length
  let text := Text.trimmed (Text.Utf8.decodeString line)
  let values : Environment := names.map fun name => (name, if name == names.headD "" then text else "")
  set { s with input := rest.drop 1, bindings := s.bindings.overlay values,
               status := if rest.isEmpty then 1 else 0 }

def enter (path : String) : Run Unit := do
  let s ← get
  match s.files.find s.directory path with
  | .entry place .directory => set { s with directory := place, status := 0 }
  | _ => do
    complain ("2: cd: can't cd to " ++ path)
    setStatus 2

/-- Numbers from one to another, a line for each. -/
def numbers (low high : Int) : Bytes :=
  ((List.range (high - low + 1).toNat).map fun (i : Nat) =>
    bytesOf (toString (low + Int.ofNat i) ++ "\n").toList).flatten

/-- Write the ranges of a set of characters out. -/
def withRanges : Bytes → Bytes
  | a :: 45 :: b :: rest =>
    (List.range (b.toNat + 1 - a.toNat)).map (fun i => UInt8.ofNat (a.toNat + i)) ++ withRanges rest
  | a :: rest => a :: withRanges rest
  | [] => []

/-- The characters that a set of characters names: escapes and ranges. -/
def characterSet (text : String) : Bytes :=
  let doubled := text.toList.flatMap fun c => if c == '%' then ['%', '%'] else [c]
  withRanges (printed [String.ofList doubled])

/-- Replace the bytes of one set by those of another, or delete them. -/
def translate (args : List String) (input : Bytes) : Bytes :=
  match args with
  | ["-d", set] => input.filter fun b => !(characterSet set).contains b
  | [source, target] =>
    let olds := characterSet source
    let news := characterSet target
    input.map fun b =>
      match olds.findIdx? (· == b) with
      | some i => (news[i]?).getD (news.getLastD b)
      | none => b
  | _ => input

/-- The exit status of a number: eight bits of it. -/
def exitStatus (n : Int) : Int := n % 256

/-- Ask the shell itself to stop, given how a handler is run. -/
def signalSelf (handle : List Char → Run Unit) (signal : Nat) : Run Unit := do
  let s ← get
  if signal == 0 then setStatus 0
  else if signal == 15 then
    match s.trap with
    | .standard => throw (.exits (-15))
    | .ignored => setStatus 0
    | .handler source => handle source
  else throw (.exits (-Int.ofNat signal))

/-- Say what is done about signals. -/
def setTrap (action : String) (signals : List String) : Run Unit := do
  setStatus 0
  let trap : Trap := if action == "-" then .standard
    else if action == "" then .ignored
    else .handler action.toList
  if signals.any fun name => signalNumber? name == some 15 then
    modify fun s => { s with trap := trap }

/-- Run a built-in command or a tool, given how a handler is run and what is put
in front of the name of a command that there is not. -/
def command (handle : List Char → Run Unit) (caller : String) (name : String) (args : List String) :
    Run Unit := do
  let s ← get
  setStatus 0
  match name with
  | ":" => return ()
  | "true" => return ()
  | "false" => setStatus 1
  | "echo" => write (echoed args)
  | "printf" => write (printed args)
  | "exit" =>
    match args with
    | [] => throw (.exits (exitStatus s.status))
    | code :: _ =>
      if code != "" && code.all Char.isDigit then throw (.exits (exitStatus (integerOf code)))
      complain ("2: exit: Illegal number: " ++ code)
      throw (.exits 2)
  | "test" => setTruth (holds s args)
  | "[" => setTruth (holds s args.dropLast)
  | "shift" => do
    let count := (integerOf (args.headD "1")).toNat
    if s.args.length < count then
      complain "2: shift: can't shift that many"
      throw (.exits 2)
    set { s with args := s.args.drop count, status := 0 }
  | "break" => throw (.leaves true)
  | "continue" => throw (.leaves false)
  | "read" => readLine (args.filter fun a => !a.startsWith "-")
  | "unset" => set { s with bindings := s.bindings.filter fun b => !args.contains b.1, status := 0 }
  | "cd" => enter (args.headD "/")
  | "set" => do
    let args := if args.head? == some "--" then args.drop 1 else args
    set { s with args := args, status := 0 }
  | "export" => return ()
  | "cat" => copy args
  | "head" => first args
  | "sleep" => spend (milliseconds (args.head?.getD ""))
  | "pwd" => write (bytesOf ("/" ++ Text.joined "/" s.directory ++ "\n").toList)
  | "basename" => write (bytesOf (lastPart (args.head?.getD "") ++ "\n").toList)
  | "dirname" => write (bytesOf (holder (args.head?.getD "") ++ "\n").toList)
  | "printenv" =>
    match s.bindings.get? (args.headD "") with
    | some value => write (bytesOf (value ++ "\n").toList)
    | none => setStatus 1
  | "seq" =>
    match args with
    | [high] => write (numbers 1 (integerOf high))
    | [low, high] => write (numbers (integerOf low) (integerOf high))
    | _ => setStatus 1
  | "tr" => write (translate args s.input)
  | "wc" => write (bytesOf (toString s.input.length ++ "\n").toList)
  | "trap" =>
    match args with
    | action :: signals => setTrap action signals
    | [] => return ()
  | "kill" =>
    match args with
    | "-s" :: signal :: _ => signalSelf handle ((signalNumber? signal).getD 15)
    | option :: _ =>
      if option.startsWith "-" then
        signalSelf handle ((signalNumber? (option.drop 1).toString).getD 15)
      else signalSelf handle 15
    | [] => setStatus 1
  | _ => do
    complain ("2: " ++ caller ++ name ++ ": not found")
    setStatus 127

end DocLedger.Script
