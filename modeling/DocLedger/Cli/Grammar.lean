/-!
# Words of a command line

A command line is made of flags and arguments.  A flag has long or short names
and either takes the next word as its value or stands for itself.  Two dashes
end the flags.  The first word of a group that is no flag names a command, to
which all further words belong; elsewhere flags and arguments may be mixed.
-/

namespace DocLedger.Cli

/-- Why a command line is not carried out. -/
inductive Stop
  /-- It is not understood. -/
  | usage
  /-- It asks how it should look. -/
  | help
deriving Repr, DecidableEq

/-- What a flag does. -/
inductive Effect
  | takesValue
  | switches (on : Bool)
  | asksHelp
deriving Repr, DecidableEq

/-- A flag: its names, what it is about, and what it does. -/
structure Flag where
  names : List String
  about : String
  effect : Effect
deriving Repr, DecidableEq

/-- What a flag was set to. -/
inductive Setting
  | value (text : String)
  | switch (on : Bool)
deriving Repr, DecidableEq

/-- How the words of a command are read. -/
structure Grammar where
  flags : List Flag
  /-- Whether the first argument ends the flags. -/
  isGroup : Bool
  /-- Whether unknown flags are arguments. -/
  passesUnknown : Bool
deriving Repr

/-- The words of a command: the settings, in order, the arguments, and whether
help is asked for. -/
structure Line where
  settings : List (String × Setting)
  arguments : List String
  asksHelp : Bool
deriving Repr, DecidableEq

namespace Line

def ofArguments (args : List String) : Line := ⟨[], args, false⟩

def withSetting (about : String) (s : Setting) (l : Line) : Line :=
  { l with settings := (about, s) :: l.settings }

def withArgument (arg : String) (l : Line) : Line := { l with arguments := arg :: l.arguments }

def setting? (l : Line) (about : String) : Option Setting := l.settings.reverse.lookup about

/-- The value of a flag, if it is set. -/
def value? (l : Line) (about : String) : Option String :=
  match l.setting? about with
  | some (.value text) => some text
  | _ => none

/-- Whether a flag is switched on or off, if it is set. -/
def switch? (l : Line) (about : String) : Option Bool :=
  match l.setting? about with
  | some (.switch on) => some on
  | _ => none

end Line

def isFlagLike (word : String) : Bool := word.startsWith "-" && 1 < word.length

/-- A word divided at its first equals sign. -/
def divided (word : String) : String × Option String :=
  let cs := word.toList
  let name := cs.takeWhile (· != '=')
  match cs.drop name.length with
  | [] => (word, none)
  | _ :: value => (String.ofList name, some (String.ofList value))

/-- What a cluster of short flags gives: the settings, the letters that name
none, whether help is asked for, and the flag that still needs a value. -/
structure Cluster where
  settings : List (String × Setting)
  unknown : List Char
  asksHelp : Bool
  open? : Option String
deriving Repr, DecidableEq

namespace Grammar

/-- The flag that asks for help; every command has it. -/
def helpFlag : Flag := ⟨["--help"], "help", .asksHelp⟩

def flag? (g : Grammar) (name : String) : Option Flag :=
  (helpFlag :: g.flags).find? fun f => f.names.contains name

def long? (g : Grammar) (name : String) : Option Flag :=
  if name.startsWith "--" then g.flag? name else none

/-- Read the letters of a word as short flags.  A flag that takes a value takes
the letters after it, or else the next word. -/
def cluster (g : Grammar) : List Char → Cluster
  | [] => ⟨[], [], false, none⟩
  | c :: rest =>
    match g.flag? (String.ofList ['-', c]) with
    | none =>
      let more := g.cluster rest
      { more with unknown := c :: more.unknown }
    | some f =>
      match f.effect with
      | .takesValue =>
        if rest.isEmpty then ⟨[], [], false, some f.about⟩
        else ⟨[(f.about, .value (String.ofList rest))], [], false, none⟩
      | .switches on =>
        let more := g.cluster rest
        { more with settings := (f.about, .switch on) :: more.settings }
      | .asksHelp =>
        let more := g.cluster rest
        { more with asksHelp := true }

/-- Put what a cluster gives in front of a line.  Letters that name no flag are
an argument together, if unknown flags are arguments. -/
def withCluster (g : Grammar) (c : Cluster) (l : Line) : Except Stop Line :=
  if !c.unknown.isEmpty && !g.passesUnknown then .error .usage
  else
    let unknown := if c.unknown.isEmpty then [] else [String.ofList ('-' :: c.unknown)]
    .ok ⟨c.settings ++ l.settings, unknown ++ l.arguments, c.asksHelp || l.asksHelp⟩

def read (g : Grammar) : List String → Except Stop Line
  | [] => .ok (.ofArguments [])
  | word :: rest =>
    if word == "--" then .ok (.ofArguments rest)
    else if isFlagLike word then
      let (name, given) := divided word
      match g.long? name with
      | some f =>
        match f.effect, given with
        | .takesValue, some text => (g.read rest).map (·.withSetting f.about (.value text))
        | .takesValue, none =>
          match rest with
          | [] => .error .usage
          | text :: more => (g.read more).map (·.withSetting f.about (.value text))
        | .switches on, none => (g.read rest).map (·.withSetting f.about (.switch on))
        | .asksHelp, none => (g.read rest).map fun l => { l with asksHelp := true }
        | _, some _ => .error .usage
      | none =>
        if word.startsWith "--" then
          if g.passesUnknown then (g.read rest).map (·.withArgument word) else .error .usage
        else
          let c := g.cluster (word.toList.drop 1)
          match c.open? with
          | none => do g.withCluster c (← g.read rest)
          | some about =>
            match rest with
            | [] => .error .usage
            | text :: more => do
              g.withCluster c ((← g.read more).withSetting about (.value text))
    else if g.isGroup then .ok (.ofArguments (word :: rest))
    else (g.read rest).map (·.withArgument word)

end Grammar

end DocLedger.Cli
