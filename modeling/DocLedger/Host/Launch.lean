import DocLedger.Host.Capture
import DocLedger.Script.Run

/-!
# Starting children

A host starts a child from a file that the executable names.  The directory of
the child is entered first, and the executable is looked up from there.  A file
is a script for the shell or no program at all.
-/

namespace DocLedger.Host

open Engine (Bytes Child Environment)

/-- A host: its files, and the environment that children inherit. -/
structure Machine where
  files : Files
  env : Environment
deriving Repr

def shellLine : String := "#!/bin/sh\n"

/-- The name of the variable that lists the directories of programs. -/
def searchVariable : String := "PATH"

/-- The directories of programs where the variable is not set. -/
def standardSearch : String := "/bin:/usr/bin"

def standardDirectories : List (Place × Entry) :=
  [(["bin"], .directory), (["usr", "bin"], .directory), (["usr", "local", "bin"], .directory),
    (["dev"], .directory), (["etc"], .directory), (["tmp"], .directory)]

/-- The files of a host that has nothing but a directory to work in. -/
def Files.bare (home : Place) : Files := ⟨home, standardDirectories⟩

def Files.put (files : Files) (path : String) (e : Entry) : Files :=
  let place := (if isAbsolute path then [] else files.home) ++ parts path
  { files with entries := files.entries.filter (fun entry => entry.1 != place) ++ [(place, e)] }

/-- Whether a text holds the character that ends texts of the system. -/
def hasNul (s : String) : Bool := s.toList.contains (Char.ofNat 0)

/-- What is wrong with a request, if anything. -/
def requestFault (argv : List String) (cwd : Option String) (env : Environment) : Option Fault :=
  if env.any fun (name, _) => name.contains '=' then some .badVariableName
  else if argv.any hasNul || env.any (fun (name, value) => hasNul name || hasNul value) ||
      (cwd.map hasNul).getD false then some .nulByte
  else none

/-- The paths at which an executable is looked for. -/
def candidates (executable : String) (env : Environment) : List String :=
  if executable.contains '/' then [executable]
  else
    ((env.get? searchVariable).getD standardSearch).splitOn ":" |>.map fun directory =>
      if directory == "" then executable else directory ++ "/" ++ executable

def enter (files : Files) (cwd : Option String) : Except OsRefusal Place :=
  match cwd with
  | none => .ok files.home
  | some path =>
    match files.find files.home path with
    | .entry place .directory => .ok place
    | .missing => .error (.notFound path)
    | _ => .error (.notDirectory path)

/-- The script of a file, if it is one for the shell. -/
def scriptOf (bytes : Bytes) : Option (List Char) :=
  let line := Text.Utf8.encode shellLine
  if line.isPrefixOf bytes then some (Text.Utf8.decode (bytes.drop line.length)) else none

namespace Machine

def execute (m : Machine) (place : Place) (path shown : String) (args : List String)
    (env : Environment) : Except OsRefusal Child :=
  match m.files.find place path with
  | .missing => .error (.notFound shown)
  | .blocked => .error (.notDirectory shown)
  | .entry _ (.file bytes true) =>
    match scriptOf bytes with
    | some source => .ok (Script.child source
        { name := path, args := args, bindings := env, directory := place, files := m.files,
          input := [], stdout := [], stderr := [], outTo := .stdout, errTo := .stderr,
          status := 0, trap := .standard, waited := 0 })
    | none =>
      if bytes.take 2 == [35, 33] then .error (.notFound shown) else .error (.notExecutable shown)
  | .entry .. => .error (.denied shown)

/-- Try the candidates for an executable, one after another.  The first refusal
that says more than that nothing was found is the one that is reported. -/
def tryAll (m : Machine) (place : Place) (shown : String) (args : List String)
    (env : Environment) : Option OsRefusal → List String → Except OsRefusal Child
  | refusal, [] => .error (refusal.getD (.notFound shown))
  | refusal, path :: rest =>
    match m.execute place path shown args env with
    | .ok c => .ok c
    | .error r =>
      let telling := r.number != 2 && r.number != 20
      let kept := match refusal with
        | some earlier => some earlier
        | none => if telling then some r else none
      match rest with
      | [] => .error (kept.getD r)
      | _ => m.tryAll place shown args env kept rest

/-- Start a child with an argument vector, the first of which is the
executable. -/
def create (m : Machine) (executable : String) (args : List String) (cwd : Option String)
    (env : Environment) : Except OsRefusal Child := do
  let place ← enter m.files cwd
  m.tryAll place executable args env none (candidates executable env)

end Machine

/-- What can be known of an operating system: the environment that children
inherit, what comes of starting a child, and the reads in which its output
arrives.  No output is lost. -/
structure System where
  env : Environment
  create : String → List String → Option String → Environment → Except OsRefusal Child
  reads : Child → List Read
  reads_stdout : ∀ c, bytesOf .stdout (reads c) = c.stdout.flatten
  reads_stderr : ∀ c, bytesOf .stderr (reads c) = c.stderr

/-- The system of a host.  The standard output arrives before the standard
error. -/
def Machine.system (m : Machine) : System where
  env := m.env
  create := m.create
  reads c := (Engine.reads c.stdout).map (Read.mk .stdout) ++
    (Engine.reads [c.stderr]).map (Read.mk .stderr)
  reads_stdout c := by
    rw [bytesOf_append, bytesOf_map_self, bytesOf_map_of_ne (by decide), Engine.flatten_reads,
      List.append_nil]
  reads_stderr c := by
    rw [bytesOf_append, bytesOf_map_self, bytesOf_map_of_ne (by decide), Engine.flatten_reads,
      List.flatten_singleton, List.nil_append]

/-- The result of starting a child. -/
inductive Launch
  /-- The request makes no sense. -/
  | rejected (f : Fault)
  /-- The operating system refuses it. -/
  | refused (r : OsRefusal)
  | started (c : Child)

def System.launch (s : System) (executable : String) (args : List String) (cwd : Option String)
    (env : Option Environment) : Launch :=
  let env := env.getD s.env
  match requestFault (executable :: args) cwd env with
  | some f => .rejected f
  | none =>
    match s.create executable args cwd env with
    | .error r => .refused r
    | .ok c => .started c

end DocLedger.Host
