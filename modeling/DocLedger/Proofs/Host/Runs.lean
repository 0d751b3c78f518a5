import DocLedger.Host.Transport
import DocLedger.Proofs.Command.Words
import DocLedger.Proofs.Engine.Calls
import DocLedger.Proofs.Host.Capture
import DocLedger.Proofs.Log.CommandCount

/-!
# How runs end and how they are counted

A run of the engine ends in one of four ways: the engine cannot be started, one of
its streams grows past the limit, it exits with another status than zero, or it has
run to its end.  Each run is counted once, as a failure or as a success, and the
time of a success is observed.
-/

namespace DocLedger.Host

open Engine (Action Child Completed Environment Invocation Scene Transport)

/-- A run that is asked for: of an executable on a system, with a positive limit and
words as arguments. -/
structure Request where
  system : System
  executable : String
  limit : Int
  limit_pos : 0 < limit
  args : List String
  cwd : Option String
  env : Option Environment

namespace Request

def transport (r : Request) : Transport where
  executable := r.executable
  run := Host.run r.system r.executable r.limit
  spawn := Host.spawn r.system r.executable

theorem transport_eq (r : Request) :
    r.system.transport r.executable r.limit = .ok r.transport :=
  if_neg (Int.not_le.mpr r.limit_pos)

def invocation (r : Request) : Invocation := ⟨Command.words r.args, r.cwd, r.env⟩

def run (r : Request) : Action Completed := r.transport.run r.invocation

def launch (r : Request) : Launch := r.system.launch r.executable r.args r.cwd r.env

def line (r : Request) : String := Text.ShellWords.line (r.executable :: r.args)

/-- A child that writes no more to either stream than the limit. -/
def Fits (r : Request) (c : Child) : Prop :=
  ∀ channel, ((written c channel).length : Int) ≤ r.limit

/-- How a run ends by what comes of the start and what the child does, with the
status under which it is counted, if it is counted at all. -/
inductive Ends (r : Request) : Except Failure Completed → Option String → Prop
  | rejected {f : Fault} (hlaunch : r.launch = .rejected f) : r.Ends (.error (.fault f)) none
  | refused {e : OsRefusal} (hlaunch : r.launch = .refused e) :
      r.Ends (.error (.ledger (.spawn r.executable (some e.message)))) (some "failed")
  | overflow {c : Child} {channel : Channel} (hlaunch : r.launch = .started c)
      (hpast : r.limit < ((written c channel).length : Int)) :
      r.Ends (.error (.ledger (.execution
        ("Command failed: " ++ r.line ++ ": " ++ overflowText channel r.limit)
        (r.executable :: r.args) none ""))) (some "failed")
  | failed {c : Child} {code : Int} (hlaunch : r.launch = .started c) (hfits : r.Fits c)
      (hexits : c.ending = .exits code) (hcode : code ≠ 0) :
      r.Ends (.error (.ledger (.execution
        ("Command failed: " ++ r.line ++ " (exit code " ++ toString code ++ ")")
        (r.executable :: r.args) (some code) (Text.Utf8.decodeString c.stderr)))) (some "failed")
  | completed {c : Child} (hlaunch : r.launch = .started c) (hfits : r.Fits c)
      (hexits : c.ending = .exits 0) :
      r.Ends (.ok ⟨Command.words r.args, 0, Text.Utf8.decodeString c.stdout.flatten,
        Text.Utf8.decodeString c.stderr⟩) (some "success")
  | endless {c : Child} {reaction : Engine.Reaction} (hlaunch : r.launch = .started c)
      (hfits : r.Fits c) (hlasts : c.ending = .lasts reaction) :
      r.Ends (.error (.fault .interrupt)) none

namespace Ends

variable {r : Request} {result : Except Failure Completed} {status : Option String} {c : Child}

/-- A child within the limit that exits with zero is a success. -/
theorem of_completed (h : r.Ends result status) (hstarted : r.launch = .started c)
    (hfits : r.Fits c) (hexits : c.ending = .exits 0) :
    result = .ok ⟨Command.words r.args, 0, Text.Utf8.decodeString c.stdout.flatten,
      Text.Utf8.decodeString c.stderr⟩ ∧ status = some "success" := by
  cases h with
  | rejected hlaunch | refused hlaunch =>
      rw [hlaunch] at hstarted
      cases hstarted
  | overflow hlaunch hpast =>
      rw [hlaunch] at hstarted
      cases hstarted
      exact absurd (hfits _) (Int.not_le.mpr hpast)
  | failed hlaunch _ hother hcode =>
      rw [hlaunch] at hstarted
      cases hstarted
      rw [hother] at hexits
      cases hexits
      exact absurd rfl hcode
  | completed hlaunch =>
      rw [hlaunch] at hstarted
      cases hstarted
      exact ⟨rfl, rfl⟩
  | endless hlaunch _ hlasts =>
      rw [hlaunch] at hstarted
      cases hstarted
      rw [hlasts] at hexits
      cases hexits

/-- A child with a stream past the limit is a failure without an exit code. -/
theorem of_overflow (h : r.Ends result status) (hstarted : r.launch = .started c)
    (hpast : ¬ r.Fits c) :
    (∃ message, result = .error (.ledger (.execution message (r.executable :: r.args) none ""))) ∧
      status = some "failed" := by
  cases h with
  | rejected hlaunch | refused hlaunch =>
      rw [hlaunch] at hstarted
      cases hstarted
  | overflow => exact ⟨⟨_, rfl⟩, rfl⟩
  | failed hlaunch hfits | completed hlaunch hfits | endless hlaunch hfits =>
      rw [hlaunch] at hstarted
      cases hstarted
      exact absurd hfits hpast

/-- A run returns just in case the child is started, stays within the limit and
exits with zero. -/
theorem returns_iff (h : r.Ends result status) :
    (∃ done, result = .ok done) ↔
      ∃ c, r.launch = .started c ∧ r.Fits c ∧ c.ending = .exits 0 := by
  constructor
  · rintro ⟨done, rfl⟩
    cases h with
    | completed hlaunch hfits hexits => exact ⟨_, hlaunch, hfits, hexits⟩
  · rintro ⟨c, hstarted, hfits, hexits⟩
    exact ⟨_, (h.of_completed hstarted hfits hexits).1⟩

/-- A run ends in a fault just in case the request is rejected or the child never
ends. -/
theorem faults_iff (h : r.Ends result status) {f : Fault} :
    result = .error (.fault f) ↔ r.launch = .rejected f ∨
      (f = .interrupt ∧ ∃ c reaction, r.launch = .started c ∧ r.Fits c ∧
        c.ending = .lasts reaction) := by
  constructor
  · rintro rfl
    cases h with
    | rejected hlaunch => exact .inl hlaunch
    | endless hlaunch hfits hlasts => exact .inr ⟨rfl, _, _, hlaunch, hfits, hlasts⟩
  · rintro (hrejected | ⟨rfl, c, reaction, hstarted, hfits, hlasts⟩)
    · cases h with
      | rejected hlaunch =>
          rw [hlaunch] at hrejected
          cases hrejected
          rfl
      | refused hlaunch | overflow hlaunch | failed hlaunch | completed hlaunch | endless hlaunch =>
          rw [hlaunch] at hrejected
          cases hrejected
    · cases h with
      | rejected hlaunch | refused hlaunch =>
          rw [hlaunch] at hstarted
          cases hstarted
      | overflow hlaunch hpast =>
          rw [hlaunch] at hstarted
          cases hstarted
          exact absurd (hfits _) (Int.not_le.mpr hpast)
      | failed hlaunch _ hexits | completed hlaunch _ hexits =>
          rw [hlaunch] at hstarted
          cases hstarted
          rw [hlasts] at hexits
          cases hexits
      | endless => rfl

end Ends

/-- The system is not asked for a child just in case the request makes no sense. -/
theorem launch_eq_rejected_iff {r : Request} {f : Fault} :
    r.launch = .rejected f ↔
      requestFault (r.executable :: r.args) r.cwd (r.env.getD r.system.env) = some f := by
  rw [launch, System.launch]
  cases requestFault (r.executable :: r.args) r.cwd (r.env.getD r.system.env) with
  | some g => simp
  | none =>
      cases r.system.create r.executable r.args r.cwd (r.env.getD r.system.env) <;> simp

end Request

/-! ## What is reported -/

section Reports

variable {s : Scene} (hs : s.journal.metrics.Sound) (label : String)

include hs

theorem runIn_fail {α : Type} (text : String) (exitCode : Value) (e : LedgerError) :
    ∃ s', (do
        Action.report transportLogger (.commandFailed (.text label) (.text text) exitCode)
        throw (.ledger e) : Action α).runIn s = (.error (.ledger e), s') ∧
      s.journal.metrics.CountsOne s'.journal.metrics label "failed" := by
  obtain ⟨j, hreport, hone⟩ :=
    Log.Journal.report_commandFailed hs transportLogger label text exitCode
  have hrun : (Action.report transportLogger
      (.commandFailed (.text label) (.text text) exitCode)).runIn s =
        (.ok (), { s with journal := j }) := by
    rw [Action.runIn_report, hreport]
  exact ⟨_, Action.runIn_bind_of_ok hrun, hone⟩

theorem conclude_overflow (executable line : String) (limit : Int) (args : Command.Vector)
    (channel : Channel) :
    ∃ s', (conclude executable label line limit args (.overflow channel)).runIn s =
        (.error (.ledger (.execution
          ("Command failed: " ++ line ++ ": " ++ overflowText channel limit)
          (executable :: args.map Value.plain) none "")), s') ∧
      s.journal.metrics.CountsOne s'.journal.metrics label "failed" :=
  runIn_fail hs label _ _ _

theorem conclude_failed (executable line : String) (limit : Int) (args : Command.Vector)
    {code : Int} (hcode : code ≠ 0) (stdout stderr : Engine.Bytes) :
    ∃ s', (conclude executable label line limit args (.ended code stdout stderr)).runIn s =
        (.error (.ledger (.execution
          ("Command failed: " ++ line ++ " (exit code " ++ toString code ++ ")")
          (executable :: args.map Value.plain) (some code) (Text.Utf8.decodeString stderr))), s') ∧
      s.journal.metrics.CountsOne s'.journal.metrics label "failed" := by
  rw [conclude, if_neg (by simpa using hcode)]
  exact runIn_fail hs label _ _ _

theorem conclude_completed (executable line : String) (limit : Int) (args : Command.Vector)
    (stdout stderr : Engine.Bytes) :
    ∃ s', (conclude executable label line limit args (.ended 0 stdout stderr)).runIn s =
        (.ok ⟨args, 0, Text.Utf8.decodeString stdout, Text.Utf8.decodeString stderr⟩, s') ∧
      s.journal.metrics.CountsOne s'.journal.metrics label "success" := by
  obtain ⟨j, hreport, hone⟩ :=
    Log.Journal.report_commandCompleted hs transportLogger label (.int 0)
  have hrun : (Action.report transportLogger
      (.commandCompleted (.text label) Log.hiddenDuration (.int 0))).runIn s =
        (.ok (), { s with journal := j }) := by
    rw [Action.runIn_report, hreport]
  rw [conclude, if_pos (beq_self_eq_true 0)]
  exact ⟨_, Action.runIn_bind_of_ok hrun, hone⟩

end Reports

/-! ## What a run comes to -/

namespace Request

/-- A run logs its command line, starts a child and concludes. -/
theorem runIn_run (r : Request) {label : String}
    (hlabel : Command.label (Command.words r.args) = .ok label) (s : Scene) :
    ∃ noted : Scene, noted.journal.metrics = s.journal.metrics ∧
      r.run.runIn s = (start r.system r.executable label r.invocation >>= fun c =>
        conclude r.executable label r.line r.limit (Command.words r.args)
          (capture r.limit (r.system.reads c) c.ending)).runIn noted := by
  have hline : Command.shellLine (.text r.executable :: Command.words r.args) = .ok r.line :=
    Command.shellLine_words (r.executable :: r.args)
  refine ⟨{ s with journal := s.journal.log (.note Log.debug transportLogger ("exec " ++ r.line)) },
    rfl, ?_⟩
  change (Host.run r.system r.executable r.limit r.invocation).runIn s = _
  rw [Host.run, fromFault, fromFault, invocation, hlabel, hline]
  rfl

theorem runIn_start (r : Request) (label : String) (s : Scene) :
    (start r.system r.executable label r.invocation).runIn s =
      (match r.launch with
      | .started c => return c
      | .rejected f => throw (.fault f)
      | .refused e => do
        Action.report transportLogger
          (.commandFailed (.text label) (.text ("failed to start: " ++ e.message)) .null)
        throw (.ledger (.spawn r.executable (some e.message))) : Action Child).runIn s := by
  rw [start, fromFault, invocation, Command.texts_words]
  rfl

/-- Between two states a run has been counted under a status, or not at all. -/
def Counted (before after : Log.ClientMetrics) (label : String) : Option String → Prop
  | some status => before.CountsOne after label status
  | none => after = before

theorem run_ends (r : Request) {label : String}
    (hlabel : Command.label (Command.words r.args) = .ok label) {s : Scene}
    (hs : s.journal.metrics.Sound) :
    ∃ status, r.Ends (r.run.runIn s).1 status ∧
      Counted s.journal.metrics (r.run.runIn s).2.journal.metrics label status := by
  obtain ⟨noted, hnoted, hrun⟩ := r.runIn_run hlabel s
  have hsound : noted.journal.metrics.Sound := hnoted ▸ hs
  have hplain : r.executable :: (Command.words r.args).map Value.plain = r.executable :: r.args := by
    simp [Command.words, Value.plain, Function.comp_def]
  have hstart := r.runIn_start label noted
  rw [hrun, ← hnoted]
  cases hlaunch : r.launch with
  | rejected f =>
      rw [hlaunch] at hstart
      rw [Action.runIn_bind_of_error hstart]
      exact ⟨none, .rejected hlaunch, rfl⟩
  | refused e =>
      obtain ⟨s', hfail, hone⟩ := runIn_fail hsound label ("failed to start: " ++ e.message) .null
        (.spawn r.executable (some e.message))
      rw [hlaunch, hfail] at hstart
      rw [Action.runIn_bind_of_error hstart]
      exact ⟨some "failed", .refused hlaunch, hone⟩
  | started c =>
      rw [hlaunch] at hstart
      rw [Action.runIn_bind_of_ok hstart]
      have hlimit : 0 ≤ r.limit := Int.le_of_lt r.limit_pos
      by_cases hfits : r.Fits c
      · rw [r.system.capture_fits hlimit hfits]
        cases hending : c.ending with
        | lasts reaction => exact ⟨none, .endless hlaunch hfits hending, rfl⟩
        | exits code =>
            by_cases hcode : code = 0
            · subst hcode
              obtain ⟨s', hs', hone⟩ := conclude_completed hsound label r.executable r.line r.limit
                (Command.words r.args) c.stdout.flatten c.stderr
              rw [hs']
              exact ⟨some "success", .completed hlaunch hfits hending, hone⟩
            · obtain ⟨s', hs', hone⟩ := conclude_failed hsound label r.executable r.line r.limit
                (Command.words r.args) hcode c.stdout.flatten c.stderr
              rw [hs', hplain]
              exact ⟨some "failed", .failed hlaunch hfits hending hcode, hone⟩
      · obtain ⟨channel, hcapture, hpast⟩ := r.system.capture_overflow hlimit hfits
        obtain ⟨s', hs', hone⟩ := conclude_overflow hsound label r.executable r.line r.limit
          (Command.words r.args) channel
        rw [hcapture, hs', hplain]
        exact ⟨some "failed", .overflow hlaunch hpast, hone⟩

theorem Counted.sound {before after : Log.ClientMetrics} {label : String}
    {status : Option String} (h : Counted before after label status) (hbefore : before.Sound) :
    after.Sound := by
  cases status with
  | none => exact h ▸ hbefore
  | some status =>
      have hone : before.CountsOne after label status := h
      exact hone.sound

/-- The times that are observed are those of the successes. -/
theorem Counted.latency {before after : Log.ClientMetrics} {label : String}
    {status : Option String} (h : Counted before after label status) (l : String) :
    (after.latencyCount l : Int) - before.latencyCount l =
      after.commandCount l "success" - before.commandCount l "success" := by
  cases status with
  | none =>
      obtain rfl : after = before := h
      omega
  | some status =>
      have hone : before.CountsOne after label status := h
      have hlatency := hone.latency l
      have hcommands := hone.commands l "success"
      by_cases hcounts : l = label ∧ status = "success"
      · rw [if_pos hcounts] at hlatency
        rw [if_pos ⟨hcounts.1, hcounts.2.symm⟩] at hcommands
        omega
      · rw [if_neg hcounts] at hlatency
        rw [if_neg fun h => hcounts ⟨h.1, h.2.symm⟩] at hcommands
        omega

end Request

/-- Runs one after another, whatever comes of each. -/
def runAll : List Request → Scene → Scene
  | [], s => s
  | r :: rest, s => runAll rest (r.run.runIn s).2

theorem runAll_latency (rs : List Request) {s : Scene} (hs : s.journal.metrics.Sound)
    (label : String) :
    ((runAll rs s).journal.metrics.latencyCount label : Int) -
        s.journal.metrics.latencyCount label =
      (runAll rs s).journal.metrics.commandCount label "success" -
        s.journal.metrics.commandCount label "success" := by
  induction rs generalizing s with
  | nil => rw [runAll, Int.sub_self, Int.sub_self]
  | cons r rest ih =>
      obtain ⟨l, hlabel⟩ := Command.exists_label_words r.args
      obtain ⟨status, -, hcounted⟩ := r.run_ends hlabel hs
      have hfirst := hcounted.latency label
      have hothers := ih (hcounted.sound hs)
      rw [runAll]
      omega

/-- Each run ends as it should and is counted once under its label; it returns just
in case the child is started, stays within the limit and exits with zero.  However
many runs there are, the times observed of a subcommand are as many as its
successes. -/
theorem runs_accounted {s : Scene} (hs : s.journal.metrics.Sound) :
    (∀ r : Request, ∃ label status,
      Command.label (Command.words r.args) = .ok label ∧
      r.Ends (r.run.runIn s).1 status ∧
      Request.Counted s.journal.metrics (r.run.runIn s).2.journal.metrics label status ∧
      ((∃ done, (r.run.runIn s).1 = .ok done) ↔
        ∃ c, r.launch = .started c ∧ r.Fits c ∧ c.ending = .exits 0)) ∧
    ∀ (rs : List Request) (label : String),
      ((runAll rs s).journal.metrics.latencyCount label : Int) -
          s.journal.metrics.latencyCount label =
        (runAll rs s).journal.metrics.commandCount label "success" -
          s.journal.metrics.commandCount label "success" := by
  refine ⟨fun r => ?_, fun rs label => runAll_latency rs hs label⟩
  obtain ⟨label, hlabel⟩ := Command.exists_label_words r.args
  obtain ⟨status, hends, hcounted⟩ := r.run_ends hlabel hs
  exact ⟨label, status, hlabel, hends, hcounted, hends.returns_iff⟩

/-- A system on which every start gives the same child.  Its standard error can be
read in between the pieces of its standard output. -/
def System.answering (child : Child) : System where
  env := []
  create _ _ _ _ := .ok child
  reads c := match c.stdout with
    | [] => [⟨.stderr, c.stderr⟩]
    | first :: rest => ⟨.stdout, first⟩ :: ⟨.stderr, c.stderr⟩ :: rest.map (Read.mk .stdout)
  reads_stdout c := by
    cases hstdout : c.stdout with
    | nil => rfl
    | cons first rest => simp [bytesOf_cons, bytesOf_map_self]
  reads_stderr c := by
    cases hstdout : c.stdout with
    | nil => exact List.append_nil c.stderr
    | cons first rest => simp [bytesOf_cons, bytesOf_map_of_ne]

/-- A child that writes a character in two pieces, with an ill-formed byte on the
other stream in between, is run under a limit of two bytes, and again under a limit
of one. -/
theorem runs_accounted_two_limits :
    let child : Child := ⟨[[0xc3], [0xa9]], [0xff], .exits 0⟩
    let wide : Request := ⟨.answering child, "engine", 2, by decide, ["push"], none, none⟩
    let narrow : Request := ⟨.answering child, "engine", 1, by decide, ["push"], none, none⟩
    ∃ first second message,
      wide.run.runIn .fresh = (.ok ⟨[.text "push"], 0, "é", "\ufffd"⟩, first) ∧
      narrow.run.runIn first =
        (.error (.ledger (.execution message ["engine", "push"] none "")), second) ∧
      second.journal.metrics.commandCount "push" "success" = 1 ∧
      second.journal.metrics.commandCount "push" "failed" = 1 ∧
      second.journal.metrics.latencyCount "push" = 1 := by
  intro child wide narrow
  have hlabel : Command.label (Command.words ["push"]) = .ok "push" := by decide +kernel
  have hstarts (limit : Int) (hlimit : 0 < limit) :
      Request.launch ⟨.answering child, "engine", limit, hlimit, ["push"], none, none⟩ =
        .started child := by
    have hfault : requestFault ["engine", "push"] none [] = none := by decide +kernel
    simp only [Request.launch, System.launch, System.answering, Option.getD_none, hfault]
  have hfits : wide.Fits child := by
    intro channel
    cases channel <;> decide
  have hpast : ¬ narrow.Fits child := fun h => absurd (h .stdout) (by decide)
  have hstdout : Text.Utf8.decodeString child.stdout.flatten = "é" := by decide +kernel
  have hstderr : Text.Utf8.decodeString child.stderr = "\ufffd" := by decide +kernel
  have hcount (status : String) : Log.ClientMetrics.fresh.commandCount "push" status = 0 := rfl
  have htimes : Log.ClientMetrics.fresh.latencyCount "push" = 0 := rfl
  have hsound : Scene.fresh.journal.metrics.Sound := Log.ClientMetrics.sound_fresh
  obtain ⟨l, status, hl, hends, hcounted, -⟩ := (runs_accounted hsound).1 wide
  obtain rfl : l = "push" := Except.ok.inj (hl.symm.trans hlabel)
  obtain ⟨hfirst, rfl⟩ := hends.of_completed (hstarts 2 (by decide)) hfits rfl
  rw [hstdout, hstderr] at hfirst
  cases hwide : wide.run.runIn .fresh with
  | mk result first =>
  rw [hwide] at hfirst hcounted
  obtain rfl := hfirst
  have hsuccess : Log.ClientMetrics.fresh.CountsOne first.journal.metrics "push" "success" :=
    hcounted
  obtain ⟨l, status, hl, hends, hcounted, -⟩ := (runs_accounted hsuccess.sound).1 narrow
  obtain rfl : l = "push" := Except.ok.inj (hl.symm.trans hlabel)
  obtain ⟨⟨message, hsecond⟩, rfl⟩ := hends.of_overflow (hstarts 1 (by decide)) hpast
  cases hnarrow : narrow.run.runIn first with
  | mk result second =>
  rw [hnarrow] at hsecond hcounted
  obtain rfl := hsecond
  have hfailure : first.journal.metrics.CountsOne second.journal.metrics "push" "failed" :=
    hcounted
  refine ⟨first, second, message, rfl, hnarrow, ?_, ?_, ?_⟩
  · simp [hfailure.commands, hsuccess.commands, hcount]
  · simp [hfailure.commands, hsuccess.commands, hcount]
  · simp [hfailure.latency, hsuccess.latency, htimes]

end DocLedger.Host
