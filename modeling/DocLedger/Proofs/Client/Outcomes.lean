import DocLedger.Proofs.Client.Answers
import DocLedger.Proofs.Client.OnePass
import DocLedger.Proofs.Host.Runs
import DocLedger.Proofs.Text.Utf8

/-!
# What comes of a task

A client that is asked for a task answers as the task declares or fails with an error
of the library, whatever the engine does and whatever it writes.  There are six
exceptions: an integer beyond the limit on digits would have to be spelled, the
containers of a payload have no room, the engine's output has an integer beyond the
limit, the request makes no sense to any system, the engine never ends, or it reports
a pass that has applied less than nothing.
-/

namespace DocLedger

open Engine (Action Completed Scene)
open Host (Request)

namespace Client

open Command (words)

/-! ## Clients of a system -/

/-- A client whose transport starts an executable on a system. -/
structure Hosted (c : Client) where
  system : Host.System
  executable : String
  limit : Int
  transport_eq : system.transport executable limit = .ok c.transport

namespace Hosted

variable {c : Client} (host : c.Hosted)

theorem limit_pos : 0 < host.limit := by
  by_contra hlimit
  have hrefused := host.transport_eq
  rw [Host.System.transport, if_pos (Int.not_lt.mp hlimit)] at hrefused
  cases hrefused

/-- The run that some words ask for. -/
def request (ws : List String) : Request :=
  ⟨host.system, host.executable, host.limit, host.limit_pos, ws, some c.repo, some c.env⟩

theorem transport_run (ws : List String) :
    c.transport.run (c.invocation (words ws)) = (host.request ws).run := by
  have hsame : c.transport = (host.request ws).transport :=
    Except.ok.inj (host.transport_eq.symm.trans (host.request ws).transport_eq)
  rw [hsame]
  rfl

/-- The engine is run for a task, ends well, and leaves a text on its standard
output. -/
inductive Leaves (task : Task) : String → Prop
  | mk {ws : List String} {child : Engine.Child} (hplan : c.plan task = .ok (words ws))
      (hstarted : (host.request ws).launch = .started child)
      (hfits : (host.request ws).Fits child) (hexits : child.ending = .exits 0) :
      Leaves task (Text.Utf8.decodeString child.stdout.flatten)

/-- Why a task ends in a fault, which is no error of the library. -/
inductive Slips (task : Task) : Fault → Prop
  /-- The words, or the error about them, would have to spell the integer. -/
  | unwritable (hlong : c.HoldsLongInteger task) (hroom : c.HasRoom task) :
      Slips task .tooManyDigits
  /-- Without room the first fault is met that keeps the words from being written. -/
  | roomless {f : Fault} (hroom : ¬ c.HasRoom task) (hplan : c.plan task = .error (.fault f)) :
      Slips task f
  /-- A word, the directory or the environment cannot be handed to a system. -/
  | rejected {ws : List String} {f : Fault} (hplan : c.plan task = .ok (words ws))
      (hfault : Host.requestFault (host.executable :: ws) (some c.repo) c.env = some f) :
      Slips task f
  | endless {ws : List String} {child : Engine.Child} {reaction : Engine.Reaction}
      (hplan : c.plan task = .ok (words ws))
      (hstarted : (host.request ws).launch = .started child)
      (hfits : (host.request ws).Fits child) (hlasts : child.ending = .lasts reaction) :
      Slips task .interrupt
  /-- The output is to be decoded and has an integer of too many digits. -/
  | overlong {stdout : String} {model : Report.Model} {count : Nat}
      (hleaves : host.Leaves task stdout) (hmodel : task.model? = some model)
      (hlong : Report.Overlong stdout count) : Slips task (.tooManyDigitsRead count)
  /-- The engine reports a pass that has applied a negative number of transactions. -/
  | decreased {layer : Index.Layer} {stdout : String} {report : Value}
      (htask : task = .sync layer) (hleaves : host.Leaves task stdout)
      (hreads : Report.Reads .indexSync stdout report)
      (hnegative : (Report.SyncPass.ofReport report).txsApplied < 0) :
      Slips task .decreasedCounter

end Hosted

/-! ## From a task to its run -/

/-- An operation with a vector is a run of the engine and an answer to it; a warning
does not count. -/
theorem runIn_perform_of_vector (c : Client) {op : Operation} {args : Command.Vector}
    (hvector : c.operationVector op = .ok args) (s : Scene) :
    ∃ noted : Scene, noted.journal.metrics = s.journal.metrics ∧
      (c.perform op).runIn s = (do
        let run ← c.transport.run (c.invocation args)
        Action.ofExcept (decode op run) : Action Answer).runIn noted := by
  rw [perform, hvector]
  cases op.warning? with
  | none => exact ⟨s, rfl, rfl⟩
  | some warning =>
      exact ⟨{ s with journal := s.journal.log (.note Log.warning logger warning) }, rfl, rfl⟩

/-- A run of the engine for a pass is answered and counted. -/
theorem runIn_settleSync (config : Index.Config) (layer : Index.Layer) (run : Completed)
    {s : Scene} (hs : s.journal.metrics.Sound) :
    ∃ s' : Scene, s'.journal.metrics.Sound ∧
      (do return .report .indexSync (← settleSync config run) : Action Answer).runIn s =
        ((Task.sync layer).answer run, s') := by
  rcases Report.decode_cases .indexSync run.args run.stdout run.stderr with
    ⟨report, hreads, -⟩ | ⟨-, -, reason, hdecode⟩ | ⟨count, -, hdecode⟩
  · obtain ⟨r, -, hsettle⟩ := runIn_settleSync_of_reads config hreads hs.countsPasses
    rw [Task.answer_sync_of_reads hreads]
    by_cases hnegative : (Report.SyncPass.ofReport report).txsApplied < 0
    · rw [if_pos hnegative] at hsettle ⊢
      exact ⟨{ s with journal := s.journal.log r }, hs, Action.runIn_bind_of_error hsettle⟩
    · rw [if_neg hnegative] at hsettle ⊢
      have hcounted := hs.addApplied config.mode (Report.SyncPass.ofReport report).txsApplied
      refine ⟨_, ?_, (Action.runIn_bind_of_ok hsettle).trans (Action.runIn_pure _ _)⟩
      exact hcounted
  all_goals
    refine ⟨s, hs, ?_⟩
    rw [Task.answer_of_decode_error rfl hdecode]
    exact Action.runIn_bind_of_error (runIn_settleSync_of_error config hdecode s)

/-- A task without a vector fails before anything happens. -/
theorem runIn_carryOut_of_error {c : Client} {task : Task} (htask : task.Typed)
    {failure : Failure} (hplan : c.plan task = .error failure) (s : Scene) :
    (c.carryOut task).runIn s = (.error failure, s) := by
  cases htask with
  | @operation op hop =>
      have hrefused {f : Failure} (hquiet : op.warning? = none)
          (hwords : op.words c.room = .error f) :
          (c.perform op).runIn s = (.error failure, s) := by
        rw [plan, operationVector, hwords] at hplan
        rw [runIn_perform_of_error c hquiet hwords, Except.error.inj hplan]
      rcases Operation.words_cases hop c.room with ⟨-, args, hwords⟩ |
        ⟨-, hquiet, _, _, _, hwords⟩ | ⟨hquiet, _, -, hwords⟩
      · rw [plan_operation c hwords] at hplan
        cases hplan
      · exact hrefused hquiet hwords
      · exact hrefused hquiet hwords
  | @sync layer hlayer =>
      rw [carryOut, sync, syncPlan_of_plan_eq_error hplan]
      rfl

/-- A task with a vector is one run of the engine and the answer to it. -/
theorem Hosted.runIn_carryOut_of_words {c : Client} (host : c.Hosted) {task : Task}
    {ws : List String} (hplan : c.plan task = .ok (words ws)) {s : Scene}
    (hs : s.journal.metrics.Sound) :
    ∃ result status s', (host.request ws).Ends result status ∧ s'.journal.metrics.Sound ∧
      (c.carryOut task).runIn s = (result >>= task.answer, s') := by
  obtain ⟨label, hlabel⟩ := Command.exists_label_words ws
  cases task with
  | operation op =>
      obtain ⟨noted, hnoted, hperform⟩ := runIn_perform_of_vector c hplan s
      have hsound : noted.journal.metrics.Sound := hnoted ▸ hs
      obtain ⟨status, hends, hcounted⟩ := (host.request ws).run_ends hlabel hsound
      rw [carryOut, hperform, host.transport_run, Action.runIn_bind]
      cases hrun : (host.request ws).run.runIn noted with
      | mk result s' =>
      rw [hrun] at hends hcounted
      refine ⟨result, status, s', hends, hcounted.sound hsound, ?_⟩
      cases result with
      | error failure => rfl
      | ok run => exact Action.runIn_ofExcept _ _
  | sync layer =>
      obtain ⟨config, hsync⟩ := syncPlan_of_plan_eq_ok hplan
      obtain ⟨status, hends, hcounted⟩ := (host.request ws).run_ends hlabel hs
      have hstarts : (c.sync layer).runIn s = (do
          let run ← (host.request ws).run
          settleSync config run : Action Value).runIn s := by
        rw [← host.transport_run, sync, hsync]
        rfl
      cases hrun : (host.request ws).run.runIn s with
      | mk result s' =>
      rw [hrun] at hends hcounted
      rw [carryOut]
      cases result with
      | error failure =>
          rw [Action.runIn_bind_of_error hrun] at hstarts
          exact ⟨.error failure, status, s', hends, hcounted.sound hs,
            Action.runIn_bind_of_error hstarts⟩
      | ok run =>
          obtain ⟨after, hafter, hanswer⟩ :=
            runIn_settleSync config layer run (hcounted.sound hs)
          rw [Action.runIn_bind_of_ok hrun] at hstarts
          refine ⟨.ok run, status, after, hends, hafter, ?_⟩
          rw [Action.runIn_bind, hstarts, ← Action.runIn_bind]
          exact hanswer

/-! ## What comes of a task -/

namespace Hosted

variable {c : Client} (host : c.Hosted)

/-- What the engine leaves is what a task is answered from. -/
theorem Leaves.runIn_carryOut {host : c.Hosted} {task : Task} {stdout : String}
    (h : host.Leaves task stdout) {s : Scene} (hs : s.journal.metrics.Sound) :
    ∃ run s', run.stdout = stdout ∧ (c.carryOut task).runIn s = (task.answer run, s') := by
  cases h with
  | mk hplan hstarted hfits hexits =>
      obtain ⟨result, status, s', hends, -, hrun⟩ := host.runIn_carryOut_of_words hplan hs
      obtain ⟨rfl, -⟩ := hends.of_completed hstarted hfits hexits
      exact ⟨_, s', rfl, hrun⟩

theorem slips_of_answer {host : c.Hosted} {task : Task} {run : Completed} {stdout : String}
    (hleaves : host.Leaves task stdout) (hstdout : run.stdout = stdout) {f : Fault}
    (h : task.answer run = .error (.fault f)) : host.Slips task f := by
  subst hstdout
  have hanswered := task.answered run
  rw [h] at hanswered
  cases hanswered with
  | overlong hmodel hlong => exact .overlong hleaves hmodel hlong
  | decreased htask hreads hnegative => exact .decreased htask hleaves hreads hnegative

theorem slips_of_fault (hindex : c.index.Made) {task : Task} (htask : task.Typed) {s : Scene}
    (hs : s.journal.metrics.Sound) {f : Fault}
    (h : ((c.carryOut task).runIn s).1 = .error (.fault f)) : host.Slips task f := by
  rcases plan_cases hindex htask with ⟨-, -, ws, hplan⟩ | ⟨-, -, message, field, value, hplan⟩ |
    ⟨hlong, hplan⟩ | ⟨hdeep, fault, hplan⟩
  · obtain ⟨result, status, s', hends, -, hrun⟩ := host.runIn_carryOut_of_words hplan hs
    rw [hrun] at h
    cases result with
    | error failure =>
        obtain rfl : failure = .fault f := Except.error.inj h
        rcases hends.faults_iff.mp rfl with hrejected |
          ⟨rfl, child, reaction, hstarted, hfits, hlasts⟩
        · exact .rejected hplan (Host.Request.launch_eq_rejected_iff.mp hrejected)
        · exact .endless hplan hstarted hfits hlasts
    | ok run =>
        cases hends with
        | completed hstarted hfits hexits =>
            have hleaves := Leaves.mk hplan hstarted hfits hexits
            exact slips_of_answer hleaves rfl h
  · rw [runIn_carryOut_of_error htask hplan] at h
    cases h
  · rw [runIn_carryOut_of_error htask hplan] at h
    cases h
    by_cases hroom : c.HasRoom task
    · exact .unwritable hlong hroom
    · exact .roomless hroom hplan
  · rw [runIn_carryOut_of_error htask hplan] at h
    cases h
    exact .roomless hdeep hplan

theorem Slips.fault {host : c.Hosted} (hindex : c.index.Made) {task : Task}
    (htask : task.Typed) {s : Scene} (hs : s.journal.metrics.Sound) {f : Fault}
    (h : host.Slips task f) : ((c.carryOut task).runIn s).1 = .error (.fault f) := by
  cases h with
  | unwritable hlong hroom =>
      rcases plan_cases hindex htask with ⟨hshort, -⟩ | ⟨hshort, -⟩ | ⟨-, hplan⟩ | ⟨hdeep, -⟩
      · exact absurd hlong hshort
      · exact absurd hlong hshort
      · rw [runIn_carryOut_of_error htask hplan]
      · exact absurd hroom hdeep
  | roomless hroom hplan => rw [runIn_carryOut_of_error htask hplan]
  | rejected hplan hfault =>
      obtain ⟨result, status, s', hends, -, hrun⟩ := host.runIn_carryOut_of_words hplan hs
      obtain rfl := hends.faults_iff.mpr (.inl (Host.Request.launch_eq_rejected_iff.mpr hfault))
      rw [hrun]
      rfl
  | endless hplan hstarted hfits hlasts =>
      obtain ⟨result, status, s', hends, -, hrun⟩ := host.runIn_carryOut_of_words hplan hs
      obtain rfl := hends.faults_iff.mpr (.inr ⟨rfl, _, _, hstarted, hfits, hlasts⟩)
      rw [hrun]
      rfl
  | overlong hleaves hmodel hlong =>
      obtain ⟨run, s', rfl, hrun⟩ := hleaves.runIn_carryOut hs
      rw [hrun]
      exact Task.answer_of_decode_error hmodel (Report.decode_of_overlong hlong _ _ _)
  | decreased htask' hleaves hreads hnegative =>
      subst htask'
      obtain ⟨run, s', rfl, hrun⟩ := hleaves.runIn_carryOut hs
      rw [hrun, Task.answer_sync_of_reads hreads, if_pos hnegative]

end Hosted

/-- A client that starts an executable on a system, whatever the system, carries out a
task of its kinds.  It ends in a fault just in case something slips; otherwise it
gives an answer that the task declares, or fails with an error of the library.  A
payload that cannot be encoded is a configuration error, and output that is no report
of the task is a decode error, unless an integer of too many digits is in the way.  A
payload without room, encodable or not, always ends in a fault.  What was counted
before stays sound, so this holds of one task after another. -/
theorem carryOut_outcome {c : Client} (host : c.Hosted) (hindex : c.index.Made) {task : Task}
    (htask : task.Typed) {s : Scene} (hs : s.journal.metrics.Sound) :
    ∃ result s', (c.carryOut task).runIn s = (result, s') ∧ s'.journal.metrics.Sound ∧
      (∀ f, result = .error (.fault f) ↔ host.Slips task f) ∧
      (∀ answer, result = .ok answer → task.Declares answer) ∧
      (∀ payload, task.payload? = some payload → Unencodable payload →
        payload.overlong = false → c.HasRoom task →
        ∃ message field value, result = .error (.ledger (.configuration message field value))) ∧
      (¬ c.HasRoom task → ∃ f, result = .error (.fault f)) ∧
      (∀ stdout model, host.Leaves task stdout → task.model? = some model →
        (∀ report, ¬ Report.Reads model stdout report) →
        (∀ count, ¬ Report.Overlong stdout count) →
        ∃ reason command stderr, result = .error (.ledger (.decode reason command stderr))) := by
  cases hcarry : (c.carryOut task).runIn s with
  | mk result s' =>
  have hresult : ((c.carryOut task).runIn s).1 = result := congrArg Prod.fst hcarry
  refine ⟨result, s', rfl, ?_, ?_, ?_, ?_, ?_, ?_⟩
  · rcases plan_cases hindex htask with ⟨-, -, ws, hplan⟩ | ⟨-, -, _, _, _, hplan⟩ | ⟨-, hplan⟩ |
      ⟨-, _, hplan⟩
    · obtain ⟨_, _, after, -, hafter, hrun⟩ := host.runIn_carryOut_of_words hplan hs
      rw [hcarry] at hrun
      exact (Prod.mk.inj hrun).2 ▸ hafter
    all_goals
      rw [runIn_carryOut_of_error htask hplan] at hcarry
      exact (Prod.mk.inj hcarry).2 ▸ hs
  · intro f
    rw [← hresult]
    exact ⟨host.slips_of_fault hindex htask hs, fun h => h.fault hindex htask hs⟩
  · rintro answer rfl
    rcases plan_cases hindex htask with ⟨-, -, ws, hplan⟩ | ⟨-, -, _, _, _, hplan⟩ | ⟨-, hplan⟩ |
      ⟨-, _, hplan⟩
    · obtain ⟨ended, _, _, -, -, hrun⟩ := host.runIn_carryOut_of_words hplan hs
      rw [hrun] at hresult
      cases ended with
      | error failure => cases hresult
      | ok run =>
          have hanswered := task.answered run
          rw [show task.answer run = .ok answer from hresult] at hanswered
          cases hanswered with
          | declared hdeclares => exact hdeclares
    all_goals
      rw [runIn_carryOut_of_error htask hplan] at hresult
      cases hresult
  · intro payload hpayload hbad hshort hroom
    obtain ⟨message, field, value, hplan⟩ := plan_of_unencodable c hpayload hbad hshort hroom
    rw [runIn_carryOut_of_error htask hplan] at hresult
    exact ⟨message, field, value, hresult.symm⟩
  · intro hdeep
    rcases plan_cases hindex htask with ⟨-, hroom, -⟩ | ⟨-, hroom, -⟩ | ⟨-, hplan⟩ |
      ⟨-, f, hplan⟩
    · exact absurd hroom hdeep
    · exact absurd hroom hdeep
    · rw [runIn_carryOut_of_error htask hplan] at hresult
      exact ⟨_, hresult.symm⟩
    · rw [runIn_carryOut_of_error htask hplan] at hresult
      exact ⟨f, hresult.symm⟩
  · intro stdout model hleaves hmodel hreads hshort
    obtain ⟨run, _, rfl, hrun⟩ := hleaves.runIn_carryOut hs
    rw [hrun] at hresult
    have hanswered : task.Answered run result := hresult ▸ task.answered run
    cases hanswered with
    | declared _ hread =>
        obtain ⟨report, hreport⟩ := hread model hmodel
        exact absurd hreport (hreads report)
    | undecodable => exact ⟨_, _, _, rfl⟩
    | overlong _ hlong => exact absurd hlong (hshort _)
    | @decreased layer report htask hread =>
        subst htask
        obtain rfl : Report.Model.indexSync = model := Option.some.inj hmodel
        exact absurd hread (hreads report)

/-- The engine writes an integer beyond the limit where its status is asked for, and a
document is asked for by a name that no system takes: neither ends in an error of the
library. -/
theorem carryOut_outcome_long_integer :
    let stdout := Text.Utf8.encode
      (String.ofList (Number.intDigits (Nat.pow 10 Number.digitLimit)))
    let system : Host.System := .answering ⟨[stdout], [], .exits 0⟩
    let limit : Int := stdout.length + 1
    let c : Client := ⟨"/repo",
      ⟨"engine", Host.run system "engine" limit, Host.spawn system "engine"⟩, .bool true, [],
      ⟨fun | .dbPath => .text "/repo/index.db" | s => s.standard⟩, Command.callerRoom⟩
    let status : Task := .operation .status
    let reading : Task := .operation (.get (.text "c") (.text "\x00"))
    Nonempty c.Hosted ∧ c.index.Made ∧ status.Typed ∧ reading.Typed ∧
      Scene.fresh.journal.metrics.Sound ∧
      (∃ count, ((c.carryOut status).runIn .fresh).1 =
        .error (.fault (.tooManyDigitsRead count))) ∧
      ((c.carryOut reading).runIn .fresh).1 = .error (.fault .nulByte) := by
  -- nothing below depends on which integer it is, and none is to be evaluated
  have htooLong := Number.tooLong_ten_pow
  generalize Nat.pow 10 Number.digitLimit = n at htooLong ⊢
  intro stdout system limit c status reading
  have hlimit : 0 < limit := Int.lt_add_one_of_le (Int.natCast_nonneg _)
  let host : c.Hosted := ⟨system, "engine", limit, if_neg (Int.not_le.mpr hlimit)⟩
  have hindex : c.index.Made := Index.Config.made_standard (by decide +kernel)
  have hstatus : status.Typed := .operation .status
  have hreading : reading.Typed := .operation (.get "c" "\x00")
  have hsound : Scene.fresh.journal.metrics.Sound := Log.ClientMetrics.sound_fresh
  refine ⟨⟨host⟩, hindex, hstatus, hreading, hsound, ?_, ?_⟩
  · have hfault : Host.requestFault ["engine", "--repo", "/repo", "--json", "status"]
        (some "/repo") [] = none := by decide +kernel
    have hstarted : (host.request ["--repo", "/repo", "--json", "status"]).launch =
        .started ⟨[stdout], [], .exits 0⟩ := by
      simp only [Request.launch, Host.System.launch, Hosted.request, Option.getD_some, host, c,
        system, Host.System.answering, hfault]
    have hfits : (host.request ["--repo", "/repo", "--json", "status"]).Fits
        ⟨[stdout], [], .exits 0⟩ := by
      intro channel
      cases channel with
      | stdout =>
          change (([stdout].flatten.length : Nat) : Int) ≤ stdout.length + 1
          rw [List.flatten_singleton]
          omega
      | stderr => exact Int.le_of_lt hlimit
    have hplan : c.plan status = .ok (words ["--repo", "/repo", "--json", "status"]) := rfl
    have hleaves := Hosted.Leaves.mk hplan hstarted hfits rfl
    have hoverlong : Report.Overlong (Text.Utf8.decodeString [stdout].flatten)
        (Number.natDigits (n : Int).natAbs).length := by
      rw [List.flatten_singleton, Text.Utf8.decodeString_encode, Report.Overlong,
        String.toList_ofList]
      exact Json.readDocument_intDigits_of_tooLong htooLong
    obtain ⟨result, s', hrun, -, hfaults, -⟩ := carryOut_outcome host hindex hstatus hsound
    rw [hrun]
    exact ⟨_, (hfaults _).mpr (.overlong hleaves rfl hoverlong)⟩
  · have hplan : c.plan reading =
        .ok (words ["--repo", "/repo", "--json", "doc", "get", "c", "\x00"]) := rfl
    have hfault : Host.requestFault
        ["engine", "--repo", "/repo", "--json", "doc", "get", "c", "\x00"] (some "/repo") [] =
          some .nulByte := by decide +kernel
    obtain ⟨result, s', hrun, -, hfaults, -⟩ := carryOut_outcome host hindex hreading hsound
    rw [hrun]
    exact (hfaults _).mpr (.rejected hplan hfault)

end Client

end DocLedger
