import DocLedger.Proofs.Client.ReadBack
import DocLedger.Proofs.Host.Runs

/-!
# What labels tell

The label of a vector is searched for in the vector itself, past the path of the
repository and past whatever looks like a flag.  For the vectors that a client builds
the search ends at the words of the subcommand, which stand before all that callers
can choose.  So their labels name what the engine is asked for and nothing else, and
this is the name under which a run of the engine is counted.
-/

namespace DocLedger

open Client (bind_eq_ok)
open Engine (Scene)
open Operation (mapError_eq_ok)

/-! ## What the engine is asked for -/

/-- What the engine is asked for, without any argument. -/
inductive Activity
  | get
  | put
  | patch
  | delete
  | log
  | revert
  | push
  | status
  | applyCollection
  | verify
  | gc
  | snapshot
  | index (task : Command.IndexTask)
deriving Repr, DecidableEq

def Activity.words : Activity → List String
  | get => ["doc", "get"]
  | put => ["doc", "put"]
  | patch => ["doc", "patch"]
  | delete => ["doc", "delete"]
  | log => ["doc", "log"]
  | revert => ["doc", "revert"]
  | push => ["push"]
  | status => ["status"]
  | applyCollection => ["collection", "apply"]
  | verify => ["integrity", "verify"]
  | gc => ["maintenance", "gc"]
  | snapshot => ["maintenance", "snapshot"]
  | index .sync => ["index", "sync"]
  | index .watch => ["index", "watch"]

def Activity.name (a : Activity) : String := Text.joined " " a.words

def Operation.activity : Operation → Activity
  | get .. => .get
  | put .. => .put
  | patch .. => .patch
  | delete .. => .delete
  | log .. => .log
  | revert .. => .revert
  | push => .push
  | status => .status
  | applyCollection .. => .applyCollection
  | verify .. => .verify
  | gc .. => .gc
  | snapshot .. => .snapshot

/-- The vectors that a client builds, each with what it asks the engine for. -/
inductive Client.Builds (c : Client) : Activity → Command.Vector → Prop
  | operation {op : Operation} {args : Command.Vector} (hargs : c.operationVector op = .ok args) :
      Builds c op.activity args
  /-- The words of an operation put behind the leading flags that a caller asks for. -/
  | assembled {op : Operation} {room : Nat} {words : Command.Vector}
      (hwords : op.words room = .ok words) (write json : Bool) :
      Builds c op.activity (c.vector words write json)
  | sync {layer : Index.Layer} {config : Index.Config} {args : Command.Vector}
      (hplan : c.syncPlan layer = .ok (config, args)) : Builds c (.index .sync) args
  | watch {layer : Index.Layer} {plan : Client.WatchPlan} (hplan : c.watchPlan layer = .ok plan) :
      Builds c (.index .watch) plan.args

/-! ## The first word of a vector -/

namespace Command

/-- A word that is taken into the label. -/
structure IsPlain (word : String) : Prop where
  noRepo : word ≠ repoFlag
  noFlag : word.startsWith "-" = false

/-- A word that does not name the repository is passed over or found. -/
theorem firstWord?_of_ne_repoFlag {word : String} (h : word ≠ repoFlag) (rest : Vector) :
    firstWord? (.text word :: rest) =
      if word.startsWith "-" then firstWord? rest else .ok (some (word, rest)) := by
  have hsame : Value.same (.text word) (.text repoFlag) = false := by
    simpa [Value.same] using h
  cases rest with
  | nil =>
      simp only [firstWord?, hsame, isFlag_text]
      rfl
  | cons v rest =>
      simp only [firstWord?, hsame, isFlag_text]
      rfl

theorem firstWord?_of_isPlain {word : String} (h : IsPlain word) (rest : Vector) :
    firstWord? (.text word :: rest) = .ok (some (word, rest)) := by
  rw [firstWord?_of_ne_repoFlag h.noRepo, h.noFlag]
  rfl

theorem firstWord?_flagIf {flag : String} (hrepo : flag ≠ repoFlag)
    (hflag : flag.startsWith "-" = true) (given : Bool) (rest : Vector) :
    firstWord? (flagIf given flag ++ rest) = firstWord? rest := by
  cases given with
  | false => rfl
  | true =>
      have hcons : flagIf true flag ++ rest = .text flag :: rest := rfl
      rw [hcons, firstWord?_of_ne_repoFlag hrepo, if_pos hflag]

/-- The search passes the leading flags over, and the repository whatever its path
spells. -/
theorem firstWord?_base (repo : Value) (json write autoSync : Bool) (rest : Vector) :
    firstWord? (base repo json write autoSync ++ rest) = firstWord? rest := by
  have hsame : Value.same (.text repoFlag) (.text repoFlag) = true := by simp [Value.same]
  have hskip (more : Vector) :
      firstWord? (.text repoFlag :: repo :: more) = firstWord? more := by
    rw [firstWord?, if_pos hsame]
  calc firstWord? (base repo json write autoSync ++ rest)
      = firstWord? (.text repoFlag :: repo :: (flagIf json "--json" ++
          (flagIf (write && !autoSync) "--sync=false" ++ rest))) := by simp [base]
    _ = firstWord? (flagIf json "--json" ++
          (flagIf (write && !autoSync) "--sync=false" ++ rest)) := hskip _
    _ = firstWord? (flagIf (write && !autoSync) "--sync=false" ++ rest) :=
          firstWord?_flagIf (by decide) (by decide +kernel) json _
    _ = firstWord? rest := firstWord?_flagIf (by decide) (by decide +kernel) _ rest

/-! ## The label of a vector -/

/-- Words by which a vector is labelled: one that takes no second word, or one that
does and the second. -/
inductive Labels : List String → Prop
  | single {word : String} (hword : IsPlain word) (halone : groups.contains word = false) :
      Labels [word]
  | pair {group word : String} (hgroup : IsPlain group) (hword : IsPlain word)
      (htakes : groups.contains group = true) : Labels [group, word]

/-- The words behind the leading flags make the label, whatever follows them. -/
theorem label_base {ws : List String} (h : Labels ws) (hfilled : Text.joined " " ws ≠ "")
    (repo : Value) (json write autoSync : Bool) (rest : Vector) :
    label (base repo json write autoSync ++ (words ws ++ rest)) = .ok (Text.joined " " ws) := by
  have hwords : labelWords (base repo json write autoSync ++ (words ws ++ rest)) = .ok ws := by
    cases h with
    | @single word hword halone =>
        have hfirst : firstWord? (base repo json write autoSync ++ (words [word] ++ rest)) =
            .ok (some (word, rest)) := by
          rw [firstWord?_base]
          exact firstWord?_of_isPlain hword rest
        simp only [labelWords, hfirst, halone, bind, Except.bind]
        rfl
    | @pair group word hgroup hword htakes =>
        have hfirst : firstWord? (base repo json write autoSync ++ (words [group, word] ++ rest)) =
            .ok (some (group, .text word :: rest)) := by
          rw [firstWord?_base]
          exact firstWord?_of_isPlain hgroup (.text word :: rest)
        simp only [labelWords, hfirst, htakes, firstWord?_of_isPlain hword, bind, Except.bind]
        rfl
  have hnone : (Text.joined " " ws == "") = false := by simpa using hfilled
  simp only [label, hwords, bind, Except.bind, hnone]
  rfl

end Command

/-! ## The words of an activity stand first -/

namespace Activity

theorem labels (a : Activity) : Command.Labels a.words := by
  have hall : a.words.all (fun word =>
      word != Command.repoFlag && !word.startsWith "-") = true := by
    cases a with
    | index task => cases task <;> decide +kernel
    | _ => decide +kernel
  have hplain : ∀ word ∈ a.words, Command.IsPlain word := by
    intro word hword
    have hboth := List.all_eq_true.mp hall word hword
    rw [Bool.and_eq_true] at hboth
    exact ⟨by simpa using hboth.1, by simpa using hboth.2⟩
  cases a with
  | push | status => exact .single (hplain _ (by simp [words])) (by decide)
  | index task =>
      cases task with
      | sync | watch =>
          exact .pair (hplain _ (by simp [words])) (hplain _ (by simp [words])) (by decide)
  | _ => exact .pair (hplain _ (by simp [words])) (hplain _ (by simp [words])) (by decide)

def all : List Activity :=
  [get, put, patch, delete, log, revert, push, status, applyCollection, verify, gc, snapshot,
    index .sync, index .watch]

theorem mem_all (a : Activity) : a ∈ all := by
  cases a with
  | index task => cases task <;> decide
  | _ => decide

theorem name_ne_empty (a : Activity) : a.name ≠ "" := by
  have hall : all.all (fun a => a.name != "") = true := by decide +kernel
  have ha := List.all_eq_true.mp hall a a.mem_all
  simpa using ha

theorem name_injective : Function.Injective name := by
  have hall : all.all (fun a => all.all fun b => a.name != b.name || a == b) = true := by
    decide +kernel
  intro a b hname
  have hb := List.all_eq_true.mp (List.all_eq_true.mp hall a a.mem_all) b b.mem_all
  simpa [hname] using hb

end Activity

/-- The words of an operation begin with those of what it asks for. -/
theorem Operation.exists_words_eq {op : Operation} {room : Nat} {args : Command.Vector}
    (h : op.words room = .ok args) : ∃ rest, args = Command.words op.activity.words ++ rest := by
  cases op with
  | get | delete | log | revert | push | status | verify | gc =>
      cases h
      exact ⟨_, rfl⟩
  | put | patch =>
      obtain ⟨text, -, h⟩ := bind_eq_ok h
      cases h
      exact ⟨_, rfl⟩
  | applyCollection name schema indexes =>
      obtain ⟨-, -, h⟩ := bind_eq_ok h
      have h := mapError_eq_ok h
      rw [Command.applyCollection] at h
      split at h
      · obtain ⟨items, -, h⟩ := bind_eq_ok h
        obtain ⟨names, -, h⟩ := bind_eq_ok h
        cases h
        exact ⟨_, rfl⟩
      · cases h
        exact ⟨_, rfl⟩
  | snapshot threshold most dryRun =>
      obtain ⟨limits, -, h⟩ := bind_eq_ok (mapError_eq_ok h)
      obtain ⟨bounds, -, h⟩ := bind_eq_ok h
      cases h
      exact ⟨_, rfl⟩

namespace Client

/-- A vector asks for an activity: behind the leading flags stand its words, and then
whatever callers have chosen. -/
def Asks (c : Client) (a : Activity) (args : Command.Vector) : Prop :=
  ∃ json write autoSync rest,
    args = Command.base (.text c.repo) json write autoSync ++ (Command.words a.words ++ rest)

theorem asks_vector (c : Client) {op : Operation} {room : Nat} {words : Command.Vector}
    (hwords : op.words room = .ok words) (write json : Bool) :
    c.Asks op.activity (c.vector words write json) := by
  obtain ⟨rest, rfl⟩ := Operation.exists_words_eq hwords
  exact ⟨json, write, c.autoSync.truthy, rest, rfl⟩

theorem asks_indexVector {c : Client} {task : Command.IndexTask} {config : Index.Config}
    {json : Bool} {args : Command.Vector} (h : c.indexVector task config json = .ok args) :
    c.Asks (.index task) args := by
  obtain ⟨rest, rfl⟩ := indexVector_eq_ok h
  refine ⟨json, false, true, .text "--db" :: config.path :: rest, ?_⟩
  cases task with
  | sync | watch => rfl

theorem Builds.asks {c : Client} {a : Activity} {args : Command.Vector} (h : c.Builds a args) :
    c.Asks a args := by
  cases h with
  | operation hargs =>
      obtain ⟨words, hwords, hargs⟩ := bind_eq_ok hargs
      cases hargs
      exact c.asks_vector hwords _ _
  | assembled hwords write json => exact c.asks_vector hwords write json
  | sync hplan =>
      obtain ⟨config, -, hplan⟩ := bind_eq_ok hplan
      obtain ⟨args, hargs, hplan⟩ := bind_eq_ok hplan
      cases hplan
      exact asks_indexVector hargs
  | watch hplan =>
      obtain ⟨options, -, hplan⟩ := bind_eq_ok hplan
      obtain ⟨config, -, hplan⟩ := bind_eq_ok hplan
      obtain ⟨args, hargs, hplan⟩ := bind_eq_ok hplan
      cases hplan
      exact asks_indexVector hargs

theorem Asks.label_eq {c : Client} {a : Activity} {args : Command.Vector} (h : c.Asks a args) :
    Command.label args = .ok a.name := by
  obtain ⟨json, write, autoSync, rest, rfl⟩ := h
  exact Command.label_base a.labels a.name_ne_empty _ _ _ _ rest

/-- The label of a vector that a client builds is the name of what it asks for, whatever
its path of the repository and the arguments spell.  So any two such vectors have one
label just in case they ask for the same, and a run of the engine with such a vector is
counted under that name, if it is counted at all. -/
theorem label_of_builds {c : Client} {a : Activity} {args : Command.Vector}
    (h : c.Builds a args) :
    Command.label args = .ok a.name ∧
    (∀ (c' : Client) (a' : Activity) (args' : Command.Vector), c'.Builds a' args' →
      (Command.label args = Command.label args' ↔ a = a')) ∧
    ∀ (r : Host.Request) (s : Scene), Command.words r.args = args →
      s.journal.metrics.Sound → ∃ status, Host.Request.Counted s.journal.metrics
        (r.run.runIn s).2.journal.metrics a.name status := by
  have hlabel := h.asks.label_eq
  refine ⟨hlabel, ?_, ?_⟩
  · intro c' a' args' h'
    rw [hlabel, h'.asks.label_eq, Except.ok.injEq]
    exact Activity.name_injective.eq_iff
  · rintro r s rfl hsound
    obtain ⟨status, -, hcounted⟩ := r.run_ends hlabel hsound
    exact ⟨status, hcounted⟩

/-- A client of a repository whose path is a flag deletes a document whose collection and
name spell another command: the label is that of the deletion. -/
theorem label_of_builds_spelled_flags :
    let c : Client := ⟨"--repo", .scripted "engine", .bool false, [], ⟨Index.Setting.standard⟩,
      Command.callerRoom⟩
    let args := Command.words
      ["--repo", "--repo", "--json", "--sync=false", "doc", "delete", "--json", "push"]
    c.Builds .delete args ∧ Command.label args = .ok "doc delete" := by
  intro c args
  have hargs : c.operationVector (.delete (.text "--json") (.text "push")) = .ok args := rfl
  have hbuilds : c.Builds .delete args := .operation hargs
  exact ⟨hbuilds, (label_of_builds hbuilds).1⟩

end Client

end DocLedger
