import DocLedger.Proofs.Cli.Follow
import DocLedger.Proofs.Cli.Handled

/-!
# Errors of the library in commands

A command reads its input, makes its client, does its work with the client, and shows what has
come of it.  Only its work is handled.  So an error of the library that the work raises is
printed and ends the command with status one, wherever it is raised, and the one error that
gets out of a command is that of a client which cannot be made.
-/

namespace DocLedger.Cli

open Engine (Scene)
open Watch (Handle)

/-! ## Commands in parts -/

/-- A command in parts: what it reads before it makes its client, what it does with its client,
errors being raised, and how it shows what has come of that. -/
structure Procedure where
  Input : Type
  Result : Type
  input : Job Input
  work : Client → Input → Job Result
  present : Result → Job Unit

namespace Procedure

/-- Do what a procedure says: its work is handled. -/
def job (w : World) (s : Session) (d : Procedure) : Job Unit := do
  let input ← d.input
  let client ← Job.ofExcept (s.client w)
  let result ← Job.handled w (d.work client input)
  d.present result

/-- The procedure whose work is an operation. -/
def ofOperation {Input : Type} (input : Job Input) (op : Input → Operation)
    (present : Answer → Job Unit) : Procedure :=
  ⟨Input, Answer, input, fun client given => Job.raise (client.perform (op given)), present⟩

theorem job_ofOperation (w : World) (s : Session) {Input : Type} (input : Job Input)
    (op : Input → Operation) (present : Answer → Job Unit) :
    (ofOperation input op present).job w s = (do
      let given ← input
      let answer ← operate w s (op given)
      present answer) := by
  simp only [job, ofOperation, Job.handled_raise, operate, bind_assoc]

end Procedure

/-! ## The work of a command that follows a watch -/

/-- Stop a watch; what goes wrong is raised. -/
def unwatch (h : Handle) : Job Handle := do
  return (← Job.raise (h.terminate Watch.standardPatience)).2

/-- What a command does in the block that a watch is opened for. -/
def inBlock (w : World) (h : Handle) (taken : Watch.Taken Value) : Job (Int × Handle) := do
  printReports w taken.items
  match taken.failure with
  | some f => throw (.fails f)
  | none => Job.raise h.wait

/-- Do what is to be done in the block of a watch, and stop the watch in any case. -/
def leaveBlock (w : World) (h : Handle) (taken : Watch.Taken Value) : Job (Int × Handle) := do
  match ← Job.attempt (inBlock w h taken) with
  | .error leave => do
    let _ ← unwatch h
    throw leave
  | .ok (code, h) => return (code, ← unwatch h)

/-- Start a watch and follow it to its end. -/
def watching (w : World) (entries : List (Value × Value)) (client : Client) : Job Unit := do
  let options ← Job.ofExcept (Index.Options.build .watch
    (entries ++ [(.text "json", .bool true), (.text "stdio", .text "pipe")]))
  let h ← Job.raise (client.startWatch (.options options))
  Job.print w ("[bold green]Index watch started (pid " ++ h.child.pid.text ++ ")[/bold green]")
  Job.print w "[dim]Press Ctrl+C to stop[/dim]"
  let (code, _) ← leaveBlock w (h.results none).2 (h.results none).1
  if code != 0 then
    Job.complain w (Job.inRed ("Index watch exited with code " ++ toString code))
    Job.exit Job.errorStatus

theorem handled_unwatch (w : World) (h : Handle) : Job.handled w (unwatch h) = stopWatch w h := by
  rw [unwatch, Job.handled_bind, Job.handled_raise]
  rfl

theorem contained_printReports (w : World) (reports : List Value) :
    Job.Contained (printReports w reports) :=
  .forM (fun _ => Job.contained_printTable w _) reports

theorem handled_leaveBlock (w : World) (h : Handle) (taken : Watch.Taken Value) :
    Job.handled w (leaveBlock w h taken) = Course.printAndStop w h taken := by
  have hattempt : Job.Contained (Job.attempt (inBlock w h taken)) :=
    Job.contained_of_ok fun p => ⟨_, _, Job.runIn_attempt _ p⟩
  -- an error of the library that ends the block is handled once the watch has been stopped
  have hleaves (f : Failure) (p : Progress) :
      (Job.handled w (unwatch h >>= fun _ => throw (.fails f))).runIn p =
        (stopWatch w h >>= fun _ => (Job.fail w f : Job (Int × Handle))).runIn p := by
    rw [Job.handled_bind, handled_unwatch]
    simp only [Job.handled_throw]
  rw [leaveBlock, Job.handled_bind, Job.handled_of_contained w hattempt]
  apply Job.ext
  intro p
  have hcontained := contained_printReports w taken.items p
  rw [Job.runIn_bind_of_ok (Job.runIn_attempt _ p), Course.printAndStop,
    Job.runIn_bind_of_ok (Job.runIn_attempt _ p), inBlock, Job.runIn_bind]
  rcases hprint : (printReports w taken.items).runIn p with ⟨leave | _, printed⟩
  · rw [hprint] at hcontained
    have hthrow : Job.Contained (throw leave : Job (Int × Handle)) :=
      Job.contained_throw fun e heq => hcontained e (congrArg Except.error heq)
    show (Job.handled w (unwatch h >>= fun _ => throw leave)).runIn printed =
      (stopWatch w h >>= fun _ => throw leave).runIn printed
    rw [Job.handled_bind, handled_unwatch, Job.handled_of_contained w hthrow]
  · cases hfailure : taken.failure with
    | some f => exact hleaves f printed
    | none =>
        have houtcome := Job.runIn_outcome h.wait printed
        rcases hwait : h.wait.runIn printed.scene with ⟨f | ⟨code, ended⟩, scene⟩
        · rw [hwait] at houtcome
          rw [Course.waitAndStop, Job.runIn_bind_of_ok houtcome]
          simp only [Job.runIn_raise_of_error hwait]
          exact hleaves f _
        · rw [hwait] at houtcome
          rw [Course.waitAndStop, Job.runIn_bind_of_ok houtcome]
          simp only [Job.runIn_raise_of_ok hwait, Job.handled_bind, handled_unwatch]
          rfl

/-- The options that a command makes are never refused by the library. -/
theorem build_overrides_ne (entries : List (Value × Value)) (e : LedgerError) :
    Index.Options.build .overrides entries ≠ .error (.ledger e) := by
  rw [Index.Options.build]
  cases (Index.OptionsKind.overrides.signature.check entries) <;> nofun

theorem build_watch_ne {entries : List (Value × Value)}
    (h : Value.lookup "stdio" entries = some (.text "pipe")) (e : LedgerError) :
    Index.Options.build .watch entries ≠ .error (.ledger e) := by
  have hpipe : Index.checkStdio (.text "pipe") = .ok () := rfl
  have hmade : ∃ options, Index.Options.ofEntries .watch entries = .ok options := by
    simp only [Index.Options.ofEntries, h, Option.getD_some, hpipe]
    exact ⟨_, rfl⟩
  obtain ⟨options, hoptions⟩ := hmade
  rw [Index.Options.build, hoptions]
  cases (Index.OptionsKind.watch.signature.check entries) <;> nofun

theorem handled_watching (w : World) (entries : List (Value × Value))
    (h : Value.lookup "stdio"
      (entries ++ [(.text "json", .bool true), (.text "stdio", .text "pipe")]) =
        some (.text "pipe")) (s : Session) :
    (do
      let client ← Job.ofExcept (s.client w)
      Job.handled w (watching w entries client)) = watchIndex w s entries := by
  have hoptions := Job.contained_ofExcept (build_watch_ne h)
  have hend (code : Int) : Job.Contained (if code != 0 then do
      Job.complain w (Job.inRed ("Index watch exited with code " ++ toString code))
      Job.exit Job.errorStatus
    else pure ()) := by
    split
    · exact (Job.contained_complain w _).bind fun _ => Job.contained_exit _
    · exact Job.contained_pure ()
  simp only [watching, Job.handled_bind, Job.handled_of_contained w hoptions, Job.handled_raise,
    Job.handled_of_contained w (Job.contained_print w _), handled_leaveBlock]
  simp only [Job.handled_of_contained w (hend _)]
  rfl

/-! ## The procedures of the requests -/

def reading (w : World) (collection docId : String) (client : Client) : Job Value := do
  let reader ← Job.ofExcept (client.openIndex w.machine.files .null)
  let (found, records) := reader.get (.text collection) (.text docId)
  Job.raise (do
    records.forM Engine.Action.log
    Engine.Action.ofExcept found)

def showEntries (w : World) (collection docId : String) : Answer → Job Unit
  | .entries (first :: rest) => Job.printTable w (history collection docId (first :: rest))
  | _ => Job.print w "[yellow]No transactions.[/yellow]"

/-- Show what the engine says about a push. -/
def showPush (w : World) (answer : Answer) : Job Unit := do
  match answer with
  | .output text => if !Text.allBlank text then Job.print w (Text.trimmedEnd text)
  | _ => pure ()
  Job.print w "[green]Push completed[/green]"

def showCommitted (w : World) (answer : Answer) : Job Unit :=
  Job.printTable w (committed (reportOf answer))

/-- The procedure of a request; the one that passes its arguments through to the engine makes
no client and has none. -/
def Request.procedure? (w : World) : Request → Option Procedure
  | docGet collection docId =>
    some (.ofOperation (pure ()) (fun _ => .get (.text collection) (.text docId)) fun answer =>
      Job.printDocument (reportOf answer))
  | docPut collection docId payload file =>
    some (.ofOperation (readInput w "payload" payload file)
      (fun text => .put (.text collection) (.text docId) (.text text)) (showCommitted w))
  | docPatch collection docId ops file =>
    some (.ofOperation (readInput w "ops" ops file)
      (fun text => .patch (.text collection) (.text docId) (.text text)) (showCommitted w))
  | docDelete collection docId =>
    some (.ofOperation (pure ()) (fun _ => .delete (.text collection) (.text docId))
      (showCommitted w))
  | docLog collection docId =>
    some (.ofOperation (pure ()) (fun _ => .log (.text collection) (.text docId))
      (showEntries w collection docId))
  | docRevert collection docId txId txHash =>
    some (.ofOperation (pure ())
      (fun _ => .revert (.text collection) (.text docId) (Log.optionalText txId)
        (Log.optionalText txHash)) (showCommitted w))
  | indexSync db mode batchCommits fetch =>
    some ⟨Index.Options, Value,
      Job.ofExcept (Index.Options.build .overrides (optionEntries [("db_path", db), ("mode", mode)]
        [("batch_commits", batchCommits)] [("fetch", fetch)])),
      fun client options => Job.raise (client.sync (.options options)),
      fun report => Job.printTable w (syncPass (Report.SyncPass.ofReport report))⟩
  | indexWatch db mode interval jitter batchCommits onlyChanges =>
    some ⟨Unit, Unit, pure (),
      fun client _ => watching w (optionEntries [("db_path", db), ("mode", mode)]
        [("interval_ms", interval), ("jitter_ms", jitter), ("batch_commits", batchCommits)]
        [("only_changes", onlyChanges)]) client,
      pure⟩
  | indexGet collection docId =>
    some ⟨Unit, Value, pure (), fun client _ => reading w collection docId client,
      Job.printDocument⟩
  | push => some (.ofOperation (pure ()) (fun _ => .push) (showPush w))
  | status =>
    some (.ofOperation (pure ()) (fun _ => .status) fun answer =>
      Job.printTable w (repositoryStatus (reportOf answer)))
  | verify deep =>
    some (.ofOperation (pure ()) (fun _ => .verify deep) fun answer =>
      conclude w (Report.Integrity.ofReport (reportOf answer)))
  | exec _ => none

theorem handled_reading (w : World) (s : Session) (collection docId : String) :
    (do
      let client ← Job.ofExcept (s.client w)
      let document ← Job.handled w (reading w collection docId client)
      Job.printDocument document) = readIndexed w s collection docId := by
  simp only [reading, Job.handled_bind, Job.handled_ofExcept, Job.handled_raise, bind_assoc]
  rfl

/-- What a command that follows a watch does when it is interrupted. -/
def afterInterrupt (w : World) : Leave → Job Unit
  | .fails (.fault .interrupt) => Job.print w "\n[yellow]Index watch stopped.[/yellow]"
  | leave => throw leave

theorem afterInterrupt_of_ne (w : World) {leave : Leave} (h : leave ≠ .fails (.fault .interrupt)) :
    afterInterrupt w leave = throw leave := by
  unfold afterInterrupt
  split
  · exact absurd rfl h
  · rfl

/-- The job of a request is that of its procedure, which may be guarded against interrupts. -/
theorem Request.job_eq {w : World} (s : Session) {request : Request} {d : Procedure}
    (h : request.procedure? w = some d) :
    request.job w s = d.job w s ∨
      request.job w s = tryCatch (d.job w s) (afterInterrupt w) := by
  cases request with
  | exec args => cases h
  | docPut collection docId payload file =>
      cases h
      exact .inl (Procedure.job_ofOperation w s _ _ _).symm
  | docPatch collection docId ops file =>
      cases h
      exact .inl (Procedure.job_ofOperation w s _ _ _).symm
  | indexSync db mode batchCommits fetch =>
      cases h
      left
      simp only [Procedure.job, Job.handled_raise]
      rfl
  | indexWatch db mode interval jitter batchCommits onlyChanges =>
      cases h
      right
      have hwatch := handled_watching w (optionEntries [("db_path", db), ("mode", mode)]
        [("interval_ms", interval), ("jitter_ms", jitter), ("batch_commits", batchCommits)]
        [("only_changes", onlyChanges)]) rfl s
      simp only [Procedure.job, pure_bind, bind_pure, hwatch]
      rfl
  | indexGet collection docId =>
      cases h
      exact .inl (handled_reading w s collection docId).symm
  | _ =>
      cases h
      left
      rw [Procedure.job_ofOperation, pure_bind]
      rfl

/-! ## Where errors of the library get to -/

namespace Procedure

/-- No error of the library comes from the parts that are not handled, but for the client. -/
structure Contains (d : Procedure) : Prop where
  input : Job.Contained d.input
  present : ∀ result, Job.Contained (d.present result)

/-- The input is read, and then an error of the library keeps the client from being made. -/
def Refused (w : World) (s : Session) (d : Procedure) (p : Progress) (e : LedgerError) : Prop :=
  (∃ input read, d.input.runIn p = (.ok input, read)) ∧ s.client w = .error (.ledger e)

/-- With its input and its client, the work raises an error of the library and leaves some
progress. -/
def Raises (w : World) (s : Session) (d : Procedure) (p : Progress) (e : LedgerError)
    (raised : Progress) : Prop :=
  ∃ input read client, d.input.runIn p = (.ok input, read) ∧ s.client w = .ok client ∧
    (d.work client input).runIn read = (.error (.fails (.ledger e)), raised)

variable {w : World} {s : Session} {d : Procedure} {p raised : Progress} {e : LedgerError}

/-- An error of the library gets out of a procedure just when it is that of its client. -/
theorem escapes_iff (h : d.Contains) :
    ((d.job w s).runIn p).1 = .error (.fails (.ledger e)) ↔ d.Refused w s p e := by
  constructor
  · intro hescapes
    rw [job, Job.runIn_bind] at hescapes
    rcases hinput : d.input.runIn p with ⟨leave | input, read⟩
    · rw [hinput] at hescapes
      cases hescapes
      exact absurd (congrArg Prod.fst hinput) (h.input p e)
    · rw [hinput] at hescapes
      refine ⟨⟨input, read, hinput⟩, ?_⟩
      cases hclient : s.client w with
      | error f =>
          simp only [hclient] at hescapes
          cases hescapes
          rfl
      | ok client =>
          simp only [hclient] at hescapes
          have hwork : Job.Contained (do
              let result ← Job.handled w (d.work client input)
              d.present result) := (Job.contained_handled w _).bind h.present
          exact absurd hescapes (hwork read e)
  · rintro ⟨⟨input, read, hinput⟩, hclient⟩
    rw [job, Job.runIn_bind_of_ok hinput, hclient]
    rfl

/-- An error of the library that the work raises is printed, and the status is one. -/
theorem runIn_job_of_raises (h : d.Raises w s p e raised) :
    ∃ text, Console.render (Job.inRed (Console.escape e.text)) = .ok text ∧
      (Console.Verbatim e.text.toList → text = e.text) ∧
      (d.job w s).runIn p = (.error (.exits 1),
        { raised with complaints := raised.complaints ++ printedPlain w.width text }) := by
  obtain ⟨input, read, client, hinput, hclient, hwork⟩ := h
  obtain ⟨text, hrender, hsame, hfail⟩ := Job.runIn_fail_ledger w e raised
  refine ⟨text, hrender, hsame, ?_⟩
  have hmade : (Job.ofExcept (s.client w)).runIn read = (.ok client, read) := by
    rw [hclient]
    rfl
  have hhandled : (Job.handled w (d.work client input)).runIn read = (.error (.exits 1),
      { raised with complaints := raised.complaints ++ printedPlain w.width text }) := by
    rw [Job.runIn_handled, hwork]
    exact hfail
  rw [job, Job.runIn_bind_of_ok hinput, Job.runIn_bind_of_ok hmade,
    Job.runIn_bind_of_error hhandled]

end Procedure

theorem contained_readInput (w : World) (what : String) (inline file : Option String) :
    Job.Contained (readInput w what inline file) := by
  have hrefused (markup : String) : Job.Contained (do
      Job.complain w markup
      Job.exit inputStatus : Job String) :=
    (Job.contained_complain w _).bind fun _ => Job.contained_exit _
  cases inline with
  | none =>
      cases file with
      | none => exact hrefused _
      | some path => exact Job.contained_ofExcept (Job.mapError_fault_ne _)
  | some text =>
      cases file with
      | none => exact Job.contained_pure _
      | some path => exact hrefused _

theorem contained_showEntries (w : World) (collection docId : String) (answer : Answer) :
    Job.Contained (showEntries w collection docId answer) := by
  unfold showEntries
  split
  · exact Job.contained_printTable w _
  · exact Job.contained_print w _

theorem contained_showPush (w : World) (answer : Answer) : Job.Contained (showPush w answer) := by
  have hdone := Job.contained_print w "[green]Push completed[/green]"
  unfold showPush
  split
  · split
    · exact (Job.contained_print w _).bind fun _ => hdone
    · exact hdone
  · exact hdone

theorem contained_conclude (w : World) (verdict : Report.Integrity) :
    Job.Contained (conclude w verdict) := by
  unfold conclude
  refine (Job.contained_print w _).bind fun _ => ?_
  split
  · refine (Job.contained_printTable w _).bind fun _ => ?_
    exact (Job.contained_exit _).bind fun _ => Job.contained_print w _
  · exact Job.contained_print w _

theorem Request.contains {w : World} {request : Request} {d : Procedure}
    (h : request.procedure? w = some d) : d.Contains := by
  have hnone : Job.Contained (pure () : Job Unit) := Job.contained_pure ()
  have htable (t : Answer → Console.Table) (answer : Answer) :
      Job.Contained (Job.printTable w (t answer)) := Job.contained_printTable w _
  cases request with
  | exec args => cases h
  | docPut collection docId payload file =>
      cases h
      exact ⟨contained_readInput w _ _ _, htable fun answer => committed (reportOf answer)⟩
  | docPatch collection docId ops file =>
      cases h
      exact ⟨contained_readInput w _ _ _, htable fun answer => committed (reportOf answer)⟩
  | docLog collection docId =>
      cases h
      exact ⟨hnone, contained_showEntries w _ _⟩
  | indexSync db mode batchCommits fetch =>
      cases h
      exact ⟨Job.contained_ofExcept (build_overrides_ne _),
        fun report => Job.contained_printTable w _⟩
  | indexWatch db mode interval jitter batchCommits onlyChanges =>
      cases h
      exact ⟨hnone, Job.contained_pure⟩
  | push =>
      cases h
      exact ⟨hnone, contained_showPush w⟩
  | verify deep =>
      cases h
      exact ⟨hnone, fun answer => contained_conclude w _⟩
  | docGet collection docId =>
      cases h
      exact ⟨hnone, fun answer => Job.contained_printLines _⟩
  | indexGet collection docId =>
      cases h
      exact ⟨hnone, fun document => Job.contained_printLines _⟩
  | status =>
      cases h
      exact ⟨hnone, htable fun answer => repositoryStatus (reportOf answer)⟩
  | _ =>
      cases h
      exact ⟨hnone, htable fun answer => committed (reportOf answer)⟩

/-- A request does what its procedure does, unless the user interrupts it; and no error of the
library gets out of it then. -/
theorem Request.runIn_job {w : World} (s : Session) {request : Request} {d : Procedure}
    (h : request.procedure? w = some d) (p : Progress) :
    (request.job w s).runIn p = (d.job w s).runIn p ∨
      ((d.job w s).runIn p).1 = .error (.fails (.fault .interrupt)) ∧
        ∀ e, ((request.job w s).runIn p).1 ≠ .error (.fails (.ledger e)) := by
  rcases Request.job_eq s h with hjob | hjob
  · exact .inl (by rw [hjob])
  · rw [hjob, Job.runIn_tryCatch]
    rcases (d.job w s).runIn p with ⟨leave | _, ended⟩
    · by_cases hinterrupt : leave = .fails (.fault .interrupt)
      · subst hinterrupt
        exact .inr ⟨rfl, Job.contained_print w _ ended⟩
      · simp only [afterInterrupt_of_ne w hinterrupt]
        exact .inl rfl
    · exact .inl rfl

/-! ## Commands -/

theorem Outcome.ofJob_eq {job : Job Unit} {scene : Scene} {result : Except Leave Unit}
    {p : Progress} (h : job.runIn ⟨scene, "", ""⟩ = (result, p)) (logging : Log.Setup)
    (time : String) :
    ofJob logging time scene job =
      ⟨endingOf result, p.printed,
        (logging.console time p.scene.journal.records).toOption.getD "" ++ p.complaints,
        p.scene⟩ := by
  have hrun : (ExceptT.run job).run ⟨scene, "", ""⟩ = (result, p) := h
  simp only [ofJob, hrun]

theorem endingOf_eq_ledger_iff {result : Except Leave Unit} {e : LedgerError} :
    Outcome.endingOf result = .fails (.ledger e) ↔ result = .error (.fails (.ledger e)) := by
  constructor
  · intro h
    unfold Outcome.endingOf at h
    split at h <;> cases h
    rfl
  · rintro rfl
    rfl

/-- A command ends on an error of the library that has been raised after some progress: the
error is printed behind what has been logged and complained about, and the status is one. -/
structure EndsOn (w : World) (logging : Log.Setup) (e : LedgerError) (raised : Progress)
    (outcome : Outcome) : Prop where
  ending : outcome.ending = .exits 1
  stdout : outcome.stdout = raised.printed
  scene : outcome.scene = raised.scene
  stderr : ∃ text, Console.render (Job.inRed (Console.escape e.text)) = .ok text ∧
    (Console.Verbatim e.text.toList → text = e.text) ∧
    outcome.stderr = (logging.console w.time raised.scene.journal.records).toOption.getD "" ++
      (raised.complaints ++ printedPlain w.width text)

/-- An error of the library that is raised while a command does its work is printed, and the
command exits with one.  An error of the library gets out of a command just when it keeps the
client from being made. -/
theorem errors_outcome {w : World} {words rest : List String} {s : Session} {command : String}
    {level : Log.Level} {request : Request} {scene : Scene} {outcome : Outcome}
    (hsession : readSession words = .ok (s, command, rest))
    (hlevel : Log.levelOf (.text s.logLevel) = .ok level)
    (hrequest : readRequest command rest = .ok request) (hexec : ∀ args, request ≠ .exec args)
    (houtcome : run w scene words = outcome) :
    ∃ d, request.procedure? w = some d ∧
      (∀ e, outcome.ending = .fails (.ledger e) ↔ d.Refused w s ⟨scene, "", ""⟩ e) ∧
      ∀ e raised, d.Raises w s ⟨scene, "", ""⟩ e raised →
        EndsOn w ⟨level, s.jsonLogs, none, w.hostName⟩ e raised outcome := by
  obtain ⟨d, hd⟩ : ∃ d, request.procedure? w = some d := by
    cases request with
    | exec args => exact absurd rfl (hexec args)
    | _ => exact ⟨_, rfl⟩
  rw [run_of_request hsession hlevel hrequest] at houtcome
  rcases hjob : (request.job w s).runIn ⟨scene, "", ""⟩ with ⟨result, p⟩
  rw [Outcome.ofJob_eq hjob] at houtcome
  subst houtcome
  refine ⟨d, hd, fun e => ?_, fun e raised hraises => ?_⟩
  · rw [endingOf_eq_ledger_iff, ← Procedure.escapes_iff (Request.contains hd)]
    rcases Request.runIn_job s hd ⟨scene, "", ""⟩ with hsame | ⟨hinterrupt, hcontained⟩
    · rw [← hsame, hjob]
    · rw [hjob] at hcontained
      rw [hinterrupt]
      constructor
      · intro hescapes
        exact absurd hescapes (hcontained e)
      · nofun
  · obtain ⟨text, hrender, hsame, hrun⟩ := Procedure.runIn_job_of_raises hraises
    rcases Request.runIn_job s hd ⟨scene, "", ""⟩ with heq | ⟨hinterrupt, -⟩
    · rw [heq, hrun] at hjob
      cases hjob
      exact ⟨rfl, rfl, rfl, text, hrender, hsame, rfl⟩
    · rw [hrun] at hinterrupt
      cases hinterrupt

def engineExit : LedgerError := .execution "ledgerdb status failed" [] (some 3) ""

/-- The text of the failure, whose brackets are no tag once it is escaped. -/
def engineExitText : String := "ledgerdb status failed [exit_code=3]"

def engineExitScene : Scene := { Scene.fresh with replies := [.failure engineExit] }

theorem readSession_of_toOption {words rest : List String} {s : Session} {command : String}
    (h : (readSession words).toOption = some (s, command, rest)) :
    readSession words = .ok (s, command, rest) := by
  cases hread : readSession words with
  | error stop => simp [hread, Except.toOption] at h
  | ok read =>
      rw [hread] at h
      exact congrArg Except.ok (Option.some.inj h)

/-- The command that shows the status of a repository prints that the engine has failed; the
error of a repository without a name gets out of it. -/
theorem errors_outcome_blankRepository : ∃ failed refused,
    run answeringWorld engineExitScene ["status"] = failed ∧ failed.ending = .exits 1 ∧
    failed.stdout = "" ∧ failed.stderr = engineExitText ++ "\n" ∧
    run answeringWorld Scene.fresh ["--repo", "", "status"] = refused ∧
    refused.ending = .fails
      (.ledger (.configuration "repoPath is required" (some "repo_path") (.text ""))) := by
  have hrequest : readRequest "status" [] = .ok .status := rfl
  have hexec (args : List String) : Request.status ≠ .exec args := nofun
  obtain ⟨level, hlevel⟩ : ∃ level, Log.levelOf (.text "WARNING") = .ok level := ⟨_, rfl⟩
  obtain ⟨failed, hfailed⟩ : ∃ failed, run answeringWorld engineExitScene ["status"] = failed :=
    ⟨_, rfl⟩
  obtain ⟨refused, hrefused⟩ :
      ∃ refused, run answeringWorld Scene.fresh ["--repo", "", "status"] = refused := ⟨_, rfl⟩
  have hstatus : readSession ["status"] = .ok (plainSession, "status", []) :=
    readSession_of_toOption (by decide +kernel)
  have hblank : readSession ["--repo", "", "status"] =
      .ok ({ plainSession with repo := "" }, "status", []) :=
    readSession_of_toOption (by decide +kernel)
  obtain ⟨d, hd, -, hends⟩ := errors_outcome hstatus hlevel hrequest hexec hfailed
  obtain ⟨other, hother, hescapes, -⟩ := errors_outcome hblank hlevel hrequest hexec hrefused
  cases hd
  cases hother
  obtain ⟨c, hclient, htransport⟩ := client_plainSession
  obtain ⟨ran, hperform, hquiet⟩ : ∃ ran, (c.perform .status).runIn engineExitScene =
      (.error (.ledger engineExit), ran) ∧ ran.journal = Log.Journal.fresh := by
    obtain ⟨args, hvector⟩ : ∃ args, c.operationVector .status = .ok args := ⟨_, rfl⟩
    rw [Client.perform, hvector, htransport]
    exact ⟨_, rfl, rfl⟩
  have hwork := Job.runIn_raise_of_error (p := ⟨engineExitScene, "", ""⟩) hperform
  obtain ⟨hending, hstdout, -, text, -, hsame, hstderr⟩ :=
    hends engineExit _ ⟨(), _, c, rfl, hclient, hwork⟩
  have htext : engineExit.text = engineExitText := by decide +kernel
  have hverbatim : Console.Verbatim engineExitText.toList := by
    have hcolon : ':' ∉ engineExitText.toList := by decide
    refine ⟨by decide, fun front rest heq => ?_⟩
    rw [heq] at hcolon
    simp at hcolon
  rw [htext] at hsame
  rw [hsame hverbatim, hquiet] at hstderr
  have hprinted : printedPlain answeringWorld.width engineExitText = engineExitText ++ "\n" :=
    printedPlain_of_printable (by decide) (by decide)
  refine ⟨failed, refused, hfailed, hending, hstdout, ?_, hrefused, ?_⟩
  · rw [hstderr, hprinted]
    rfl
  · exact (hescapes _).mpr ⟨⟨(), _, rfl⟩, rfl⟩

end DocLedger.Cli
