import DocLedger.Cli.Run
import DocLedger.Proofs.Cli.Jobs
import DocLedger.Proofs.Client.Outcomes
import DocLedger.Proofs.Console.Shown
import DocLedger.Proofs.Json.RoundTrip

/-!
# The verdict of a check

The command that checks all document streams prints how many there are and how many are
valid.  Whether it exits with zero is decided by the issues alone, whereas the verdict of
the library also compares the two numbers.  The two differ just when the numbers do and no
issue is listed.
-/

namespace DocLedger.Cli

open Engine (Action Completed Scene)

/-! ## What is printed -/

def printedText (lines : List (List Char)) : String :=
  String.join (lines.map fun line => String.ofList line ++ "\n")

/-- The text that is printed for a text without marks. -/
def printedPlain (width : Nat) (text : String) : String :=
  printedText (Console.wrap width .breaks text)

theorem Job.runIn_print_of_render (w : World) {markup text : String}
    (h : Console.render markup = .ok text) (p : Progress) :
    (Job.print w markup).runIn p =
      (.ok (), { p with printed := p.printed ++ printedPlain w.width text }) := by
  have hlines : Job.markedLines w.width markup = .ok (Console.wrap w.width .breaks text) := by
    rw [Job.markedLines, h]
    rfl
  rw [Job.print, hlines]
  rfl

theorem printedPlain_of_printable {width : Nat} {text : String}
    (h : text.toList.all Console.isPrintable = true) (hfits : text.toList.length ≤ width) :
    printedPlain width text = text ++ "\n" := by
  rw [printedPlain, Console.wrap_of_printable h hfits]
  simp [printedText]

/-! ## The two lines of a check -/

theorem toList_toString (n : Int) : (toString n).toList = Number.intDigits n := by
  cases n with
  | ofNat n => exact String.toList_ofList
  | negSucc n =>
      show ("-" ++ toString (n + 1)).toList = _
      rw [String.toList_append]
      exact congrArg _ String.toList_ofList

theorem not_mem_intDigits {c : Char} (hsign : c ≠ '-') (hdigit : c.isDigit = false) (n : Int) :
    c ∉ Number.intDigits n := by
  intro hmem
  rcases Number.mem_intDigits hmem with rfl | hc
  · exact hsign rfl
  · rw [hdigit] at hc
    cases hc

theorem toList_checkSummary (verdict : Report.Integrity) :
    (checkSummary verdict).toList =
      "Streams".toList ++ ':' :: ' ' :: (Number.intDigits verdict.streams ++
        (", valid".toList ++ ':' :: ' ' :: Number.intDigits verdict.valid)) := by
  have hstreams : "Streams: ".toList = "Streams".toList ++ [':', ' '] := by decide
  have hvalid : ", valid: ".toList = ", valid".toList ++ [':', ' '] := by decide
  simp only [checkSummary, String.toList_append, toList_toString, hstreams, hvalid,
    List.append_assoc, List.cons_append, List.nil_append]

/-- The line that sums up a check holds no marks. -/
theorem render_checkSummary (verdict : Report.Integrity) :
    Console.render (checkSummary verdict) = .ok (checkSummary verdict) := by
  have hbracket := not_mem_intDigits (c := '[') (by decide) (by decide)
  have hcolon := not_mem_intDigits (c := ':') (by decide) (by decide)
  have hmarks : '[' ∉ (checkSummary verdict).toList := by
    rw [toList_checkSummary]
    simp [hbracket]
  have hshown : Console.withPictograms (checkSummary verdict).toList =
      (checkSummary verdict).toList := by
    rw [toList_checkSummary, Console.withPictograms,
      Console.replaceCodes_append_of_no_colon (by decide), Console.replaceCodes_colon_blank,
      Console.replaceCodes_append_of_no_colon (hcolon _),
      Console.replaceCodes_append_of_no_colon (by decide), Console.replaceCodes_colon_blank,
      Console.replaceCodes_of_no_colon (hcolon _)]
  rw [Console.render_of_no_bracket hmarks, hshown, String.ofList_toList]

theorem render_integrityOk :
    Console.render "[green]Integrity OK[/green]" = .ok "Integrity OK" := by
  have hpieces : Console.pieces "[green]Integrity OK[/green]".toList =
      [.tag 0 "green".toList, .plain "Integrity OK".toList, .tag 19 ('/' :: "green".toList)] := by
    decide +kernel
  have hshown : String.ofList (Console.shownText "Integrity OK".toList) = "Integrity OK" := by
    decide +kernel
  rw [Console.styleName_green.render_of_pieces (by decide +kernel) hpieces, hshown]

/-! ## The command -/

/-- What the command does with a verdict. -/
def conclude (w : World) (verdict : Report.Integrity) : Job Unit := do
  Job.print w (checkSummary verdict)
  if !verdict.issues.isEmpty then
    Job.printTable w (issueTable verdict.issues)
    Job.exit Job.errorStatus
  Job.print w "[green]Integrity OK[/green]"

theorem verify_eq (w : World) (s : Session) (deep : Bool) :
    verify w s deep = (do
      let answer ← operate w s (.verify deep)
      conclude w (Report.Integrity.ofReport (reportOf answer))) := rfl

section

variable {w : World} {verdict : Report.Integrity} {p : Progress}

theorem runIn_conclude_of_no_issues (h : verdict.issues = []) :
    (conclude w verdict).runIn p =
      (.ok (), { p with
        printed := p.printed ++ printedPlain w.width (checkSummary verdict) ++
          printedPlain w.width "Integrity OK" }) := by
  rw [conclude, Job.runIn_bind_of_ok (Job.runIn_print_of_render w (render_checkSummary verdict) p),
    h]
  exact Job.runIn_print_of_render w render_integrityOk _

theorem runIn_conclude_of_lines (h : verdict.issues ≠ []) {lines : List (List Char)}
    (hlines : (issueTable verdict.issues).lines w.width = .ok lines) :
    (conclude w verdict).runIn p =
      (.error (.exits 1), { p with
        printed := p.printed ++ printedPlain w.width (checkSummary verdict) ++
          printedText lines }) := by
  have hissues : (!verdict.issues.isEmpty) = true := by simpa using h
  rw [conclude, Job.runIn_bind_of_ok (Job.runIn_print_of_render w (render_checkSummary verdict) p),
    if_pos hissues, Job.printTable, hlines]
  rfl

theorem runIn_conclude_of_fault (h : verdict.issues ≠ []) {fault : Fault}
    (hlines : (issueTable verdict.issues).lines w.width = .error fault) :
    (conclude w verdict).runIn p =
      (.error (.fails (.fault fault)), { p with
        printed := p.printed ++ printedPlain w.width (checkSummary verdict) }) := by
  have hissues : (!verdict.issues.isEmpty) = true := by simpa using h
  rw [conclude, Job.runIn_bind_of_ok (Job.runIn_print_of_render w (render_checkSummary verdict) p),
    if_pos hissues, Job.printTable, hlines]
  rfl

end

section

variable {w : World} {s : Session} {c : Client} {args : Command.Vector} {scene ran : Scene}
  {run : Completed}

/-- An operation gives the answer that the engine's run is decoded to. -/
theorem runIn_operate_of_decode {op : Operation} {answer : Answer} (hquiet : op.warning? = none)
    (hclient : s.client w = .ok c) (hvector : c.operationVector op = .ok args)
    (hrun : (c.transport.run (c.invocation args)).runIn scene = (.ok run, ran))
    (hdecode : Client.decode op run = .ok answer) (printed complaints : String) :
    (operate w s op).runIn ⟨scene, printed, complaints⟩ =
      (.ok answer, ⟨ran, printed, complaints⟩) := by
  have hmade : (Job.ofExcept (s.client w)).runIn ⟨scene, printed, complaints⟩ =
      (.ok c, ⟨scene, printed, complaints⟩) := by
    rw [hclient]
    rfl
  have hrest : (c.perform op).runIn scene =
      (do
        let run ← c.transport.run (c.invocation args)
        Action.ofExcept (Client.decode op run) : Action Answer).runIn scene := by
    rw [Client.perform, hquiet, hvector]
    rfl
  have hperform : (c.perform op).runIn scene = (.ok answer, ran) := by
    rw [hrest, Action.runIn_bind_of_ok hrun, hdecode, Action.runIn_ofExcept]
  rw [operate, Job.runIn_bind_of_ok hmade]
  exact Job.runIn_perform_of_ok w (p := ⟨scene, printed, complaints⟩) hperform

theorem runIn_verify_of_reads {deep : Bool} {report : Value} (hclient : s.client w = .ok c)
    (hvector : c.operationVector (.verify deep) = .ok args)
    (hrun : (c.transport.run (c.invocation args)).runIn scene = (.ok run, ran))
    (hreads : Report.Reads .integrity run.stdout report) (printed complaints : String) :
    (verify w s deep).runIn ⟨scene, printed, complaints⟩ =
      (conclude w (Report.Integrity.ofReport report)).runIn ⟨ran, printed, complaints⟩ := by
  have hdecode : Client.decode (.verify deep) run = .ok (.report .integrity report) := by
    simp only [Client.decode, Operation.model?, Report.decode_of_reads hreads]
    rfl
  rw [verify_eq, Job.runIn_bind_of_ok
    (runIn_operate_of_decode rfl hclient hvector hrun hdecode printed complaints)]
  rfl

end

theorem Outcome.ofJob_of_runIn {job : Job Unit} {scene : Scene} {result : Except Leave Unit}
    {progress : Progress} (h : job.runIn ⟨scene, "", ""⟩ = (result, progress))
    (logging : Log.Setup) (time : String) :
    (ofJob logging time scene job).ending = endingOf result ∧
      (ofJob logging time scene job).stdout = progress.printed := by
  have hrun : (ExceptT.run job).run ⟨scene, "", ""⟩ = (result, progress) := h
  constructor <;> simp only [ofJob, hrun]

theorem run_of_request {w : World} {words rest : List String} {s : Session} {command : String}
    {level : Log.Level} {request : Request} (hsession : readSession words = .ok (s, command, rest))
    (hlevel : Log.levelOf (.text s.logLevel) = .ok level)
    (hrequest : readRequest command rest = .ok request) (scene : Scene) :
    run w scene words =
      .ofJob ⟨level, s.jsonLogs, none, w.hostName⟩ w.time scene (request.job w s) := by
  simp only [run, hsession, hlevel, hrequest]

/-! ## The verdict of the command and of the library -/

/-- The command agrees with a verdict: it exits with zero and says that all is well if the
verdict is that, and with one otherwise. -/
def Agrees (width : Nat) (verdict : Report.Integrity) (outcome : Outcome) : Prop :=
  if verdict.ok then
    outcome.ending = .exits 0 ∧
      outcome.stdout =
        printedPlain width (checkSummary verdict) ++ printedPlain width "Integrity OK"
  else outcome.ending = .exits 1

/-- How the command ends, and what it prints, is decided by the issues of the verdict. -/
structure DecidedByIssues (width : Nat) (verdict : Report.Integrity) (outcome : Outcome) :
    Prop where
  passes : verdict.issues = [] →
    outcome.ending = .exits 0 ∧
      outcome.stdout =
        printedPlain width (checkSummary verdict) ++ printedPlain width "Integrity OK"
  fails : verdict.issues ≠ [] → ∀ lines,
    (issueTable verdict.issues).lines width = .ok lines →
      outcome.ending = .exits 1 ∧
        outcome.stdout = printedPlain width (checkSummary verdict) ++ printedText lines
  breaks : verdict.issues ≠ [] → ∀ fault,
    (issueTable verdict.issues).lines width = .error fault →
      outcome.ending = Outcome.endingOf (.error (.fails (.fault fault))) ∧
        outcome.stdout = printedPlain width (checkSummary verdict)

/-- A fault ends a command with no exit status, but for an interrupt. -/
theorem endingOf_fault_ne (fault : Fault) {code : Int} (hcode : code ≠ interruptStatus) :
    Outcome.endingOf (.error (.fails (.fault fault))) ≠ .exits code := by
  intro h
  cases fault with
  | interrupt => exact hcode (Ending.exits.inj h).symm
  | _ => cases h

/-- The command agrees with the verdict unless the numbers differ while no issue is listed, or
the issues cannot be shown. -/
theorem DecidedByIssues.agrees_iff {width : Nat} {verdict : Report.Integrity} {outcome : Outcome}
    (h : DecidedByIssues width verdict outcome) :
    Agrees width verdict outcome ↔
      (verdict.issues = [] → verdict.valid = verdict.streams) ∧
        (verdict.issues ≠ [] → ∃ lines, (issueTable verdict.issues).lines width = .ok lines) := by
  by_cases hissues : verdict.issues = []
  · obtain ⟨hending, hstdout⟩ := h.passes hissues
    by_cases hcounts : verdict.valid = verdict.streams
    · have hok : verdict.ok = true := by simp [Report.Integrity.ok, hissues, hcounts]
      simp [Agrees, hok, hending, hstdout, hissues, hcounts]
    · have hok : verdict.ok = false := by simp [Report.Integrity.ok, hissues, hcounts]
      simp [Agrees, hok, hending, hissues, hcounts]
  · have hok : verdict.ok = false := by simp [Report.Integrity.ok, hissues]
    cases hlines : (issueTable verdict.issues).lines width with
    | ok lines =>
        have hending := (h.fails hissues lines hlines).1
        simp [Agrees, hok, hending, hissues]
    | error fault =>
        have hending := (h.breaks hissues fault hlines).1
        have hne := endingOf_fault_ne fault (show (1 : Int) ≠ interruptStatus by decide)
        simp [Agrees, hok, hending, hissues, hne]

/-- The command that checks all streams ends and prints as the issues of the engine's report
say.  So it agrees with the verdict of the library unless the numbers of the report differ
while no issue is listed, or the issues cannot be shown. -/
theorem verify_outcome {w : World} {words rest : List String} {s : Session} {command : String}
    {level : Log.Level} {deep : Bool} {c : Client} {args : Command.Vector} {scene ran : Scene}
    {run : Completed} {report : Value} {verdict : Report.Integrity} {outcome : Outcome}
    (hsession : readSession words = .ok (s, command, rest))
    (hlevel : Log.levelOf (.text s.logLevel) = .ok level)
    (hrequest : readRequest command rest = .ok (.verify deep)) (hclient : s.client w = .ok c)
    (hvector : c.operationVector (.verify deep) = .ok args)
    (hrun : (c.transport.run (c.invocation args)).runIn scene = (.ok run, ran))
    (hreads : Report.Reads .integrity run.stdout report)
    (hverdict : Report.Integrity.ofReport report = verdict)
    (houtcome : Cli.run w scene words = outcome) :
    DecidedByIssues w.width verdict outcome ∧
      (Agrees w.width verdict outcome ↔
        (verdict.issues = [] → verdict.valid = verdict.streams) ∧
        (verdict.issues ≠ [] →
          ∃ lines, (issueTable verdict.issues).lines w.width = .ok lines)) := by
  have hjob : ((Request.verify deep).job w s).runIn ⟨scene, "", ""⟩ =
      (conclude w verdict).runIn ⟨ran, "", ""⟩ := by
    rw [← hverdict]
    exact runIn_verify_of_reads hclient hvector hrun hreads "" ""
  have hdecided : DecidedByIssues w.width verdict outcome := by
    rw [← houtcome, run_of_request hsession hlevel hrequest]
    have hends {result : Except Leave Unit} {progress : Progress}
        (h : (conclude w verdict).runIn ⟨ran, "", ""⟩ = (result, progress)) :=
      Outcome.ofJob_of_runIn (hjob.trans h) ⟨level, s.jsonLogs, none, w.hostName⟩ w.time
    constructor
    · intro hissues
      obtain ⟨hending, hstdout⟩ := hends (runIn_conclude_of_no_issues hissues)
      exact ⟨hending, by simpa only [String.empty_append] using hstdout⟩
    · intro hissues lines hlines
      obtain ⟨hending, hstdout⟩ := hends (runIn_conclude_of_lines hissues hlines)
      exact ⟨hending, by simpa only [String.empty_append] using hstdout⟩
    · intro hissues fault hlines
      obtain ⟨hending, hstdout⟩ := hends (runIn_conclude_of_fault hissues hlines)
      exact ⟨hending, by simpa only [String.empty_append] using hstdout⟩
  exact ⟨hdecided, hdecided.agrees_iff⟩

/-- A repository of three streams, of which one is valid, and no issue. -/
def countsDiffer : List (Value × Value) :=
  [(.text "streams", .int 3), (.text "valid", .int 1), (.text "issues", .list [])]

def countsDifferText : String := "\x7b\"streams\":3,\"valid\":1,\"issues\":[]\x7d"

theorem reads_countsDifferText :
    Report.Reads .integrity countsDifferText (.mapping countsDiffer) := by
  have hint (n : Int) (hn : n.natAbs < Nat.pow 10 19) : Value.Storable (.int n) :=
    .int (Number.tooLong_of_natAbs_lt hn)
  have hlist : Value.Storable (.list []) := .list (by simp)
  have hstorable : Value.Storable (.mapping countsDiffer) := by
    refine .mapping (by simp [countsDiffer, Value.IsKey.text]) ?_
      (by simp [countsDiffer, Value.keyName])
    simp [countsDiffer, hint, hlist]
  have htext : Json.render .compact (.mapping countsDiffer) = .ok countsDifferText.toList := by
    simp only [countsDiffer, Json.render, Json.renderEntries, Json.renderItems, Json.keyText,
      @Json.integer_of_natAbs_lt 3 (by decide), @Json.integer_of_natAbs_lt 1 (by decide)]
    exact congrArg Except.ok (by decide +kernel)
  have hstored : Value.storedEntries countsDiffer = countsDiffer := by
    simp [countsDiffer, Value.storedEntries, Value.storedItems, Value.stored, Value.keyName]
  have hread : Report.read .integrity (.mapping countsDiffer) = .ok (.mapping countsDiffer) := rfl
  exact ⟨_, Json.readDocument_of_render Json.Style.compact_plain hstorable hstored htext, hread⟩

/-- A terminal on which the engine answers from the scene. -/
def answeringWorld : World where
  machine := ⟨.bare ["home"], []⟩
  package := "/usr/lib/docledger"
  time := ""
  hostName := ""
  width := 80
  connect := fun engine => .ok (.scripted engine)

/-- The session of a command line without settings. -/
def plainSession : Session := ⟨".", none, true, "WARNING", false⟩

theorem client_plainSession : ∃ c, plainSession.client answeringWorld = .ok c ∧
    c.transport = .scripted (plainSession.engine answeringWorld) := by
  have hjoin : Index.joinPath "." Index.dbName = "./index.db" := by decide +kernel
  obtain ⟨config, hconfig⟩ : ∃ config,
      Index.Config.ofSession "." (.value .null) = .ok config := by
    simp only [Index.Config.ofSession, hjoin]
    exact ⟨_, rfl⟩
  have hrepo : Client.repoPath (.text ".") = .ok "." := rfl
  simp only [Session.client, Client.make, plainSession, hrepo, Except.bind, bind, hconfig]
  exact ⟨_, rfl, rfl⟩

def countsDifferScene : Scene := { Scene.fresh with replies := [.output countsDifferText ""] }

/-- Of three streams one is valid, and yet the command exits with zero and says that all is
well. -/
theorem verify_outcome_countsDiffer : ∃ verdict outcome,
    Report.Integrity.ofReport (.mapping countsDiffer) = verdict ∧
    run answeringWorld countsDifferScene ["verify"] = outcome ∧
    verdict.ok = false ∧ outcome.ending = .exits 0 ∧
    outcome.stdout = "Streams: 3, valid: 1\nIntegrity OK\n" ∧
    ¬ Agrees answeringWorld.width verdict outcome := by
  have hsession : readSession ["verify"] = .ok (plainSession, "verify", []) := by
    have hread : (readSession ["verify"]).toOption = some (plainSession, "verify", []) := by
      decide +kernel
    cases h : readSession ["verify"] with
    | error stop => simp [h, Except.toOption] at hread
    | ok read =>
        rw [h] at hread
        exact congrArg Except.ok (Option.some.inj hread)
  have hrequest : readRequest "verify" [] = .ok (.verify false) := rfl
  obtain ⟨level, hlevel⟩ : ∃ level, Log.levelOf (.text plainSession.logLevel) = .ok level :=
    ⟨_, rfl⟩
  obtain ⟨c, hclient, htransport⟩ := client_plainSession
  obtain ⟨args, hvector⟩ : ∃ args, c.operationVector (.verify false) = .ok args := ⟨_, rfl⟩
  obtain ⟨ran, hrun⟩ : ∃ ran, (c.transport.run (c.invocation args)).runIn countsDifferScene =
      (.ok ⟨args, 0, countsDifferText, ""⟩, ran) := by
    rw [htransport]
    exact ⟨_, rfl⟩
  have hverdict : Report.Integrity.ofReport (.mapping countsDiffer) = ⟨3, 1, []⟩ := rfl
  -- the run is not evaluated, which would search the table of colours
  obtain ⟨outcome, houtcome⟩ : ∃ outcome,
      run answeringWorld countsDifferScene ["verify"] = outcome := ⟨_, rfl⟩
  obtain ⟨hdecided, hagrees⟩ := verify_outcome hsession hlevel hrequest hclient hvector hrun
    reads_countsDifferText hverdict houtcome
  obtain ⟨hending, hstdout⟩ := hdecided.passes rfl
  have hsummary : checkSummary ⟨3, 1, []⟩ = "Streams: 3, valid: 1" := by decide +kernel
  have hwidth : answeringWorld.width = 80 := rfl
  rw [hsummary, hwidth, printedPlain_of_printable (by decide) (by decide),
    printedPlain_of_printable (by decide) (by decide)] at hstdout
  refine ⟨_, outcome, hverdict, houtcome, rfl, hending, hstdout, ?_⟩
  rw [hagrees]
  intro h
  have hcounts := h.1 rfl
  cases hcounts

end DocLedger.Cli
