import DocLedger.Proofs.Cli.Stopping

/-!
# A command that runs to its end

Where a command follows a watch to its end at once, it takes the turns of one of its
courses: it reads the output piece by piece, waits, leaves, and the stop goes on until
it is complete.  So what is said of all courses holds of it.
-/

namespace DocLedger.Cli

open Engine (Bytes Scene)
open Watch (Handle Lifecycle)

namespace Course

variable {w : World} {c c' : Course} {h : Handle}

/-- Neither how far a command has come nor what it has printed matters. -/
theorem Idle.of_same (hidle : Idle h c) (hhandle : c'.handle = c.handle)
    (hlife : c'.session.life = c.session.life)
    (hscene : c'.progress.scene = c.progress.scene) : Idle h c' := by
  refine ⟨⟨?_, ?_, ?_, ?_, ?_, hidle.short⟩, hidle.phase_eq, hidle.piped, hidle.brief⟩
  · rw [hlife, hidle.life_eq]
  · rw [hhandle, hidle.pid_eq]
  · rw [hhandle, hidle.reporter_eq]
  · rw [hhandle]
    exact hidle.pid_written
  · rw [hscene]
    exact hidle.counts

/-! ## Waiting -/

/-- Wait for the engine to end, then stop the watch. -/
def waitAndStop (w : World) (h : Handle) : Job (Int × Handle) := do
  match ← Job.outcome h.wait with
  | .error f => do
    let _ ← stopWatch w h
    Job.fail w f
  | .ok (code, h) => return (code, ← stopWatch w h)

/-- A child that ends by itself does so, and another one makes the wait endless. -/
theorem Idle.wait_cases (hidle : Idle h c) (w : World) :
    (∃ code life scene h₁, Reaches w c (c.proceed life scene) ∧ Idle h₁ (c.proceed life scene) ∧
      h₁.returncode = some code ∧
      h.wait.runIn c.progress.scene =
        (do return (code, ← h₁.move .notice) : Engine.Action (Int × Handle)).runIn scene) ∨
    h.wait.runIn c.progress.scene = (.error (.fault .interrupt), c.progress.scene) := by
  cases hreturned : h.returncode with
  | some code =>
      -- a child that has ended does not end again
      have hexit (other : Int) : h.life.step (.exit other) = none := by
        have hended : h.life.standing.running = false := by
          rw [Engine.Standing.running, show h.life.standing.returncode = some code from hreturned]
          rfl
        simp [Lifecycle.step, hended]
      have hsame : c.proceed h.life c.progress.scene = c := by
        rw [← hidle.life_eq]
        rfl
      refine .inl ⟨code, h.life, c.progress.scene, h, ?_, ?_, hreturned, ?_⟩
      · rw [hsame]
        exact .refl w c
      · rwa [hsame]
      · rw [Handle.wait]
        cases h.child.ending.code? with
        | none => simp only [pure_bind, hreturned]
        | some other =>
            simp only [Engine.Action.runIn_bind_of_ok (runIn_move_of_none (hexit other) _), hreturned]
  | none =>
      have hrunning : h.life.standing.running = true := by
        rw [Engine.Standing.running, show h.life.standing.returncode = none from hreturned]
        rfl
      cases hending : h.child.ending with
      | exits code =>
          have hshort := hidle.brief code (.inl hending)
          have hstep : h.life.step (.exit code) =
              some ({ h.life with standing := h.life.standing.exit code }, []) := if_pos hrunning
          have hended : h.life.standing.exit code =
              { h.life.standing with returncode := some code } := if_pos hrunning
          obtain ⟨scene, hhappen, hmove, halike⟩ :=
            hidle.toAlike.move (.exit code) (fun _ => rfl) hstep (by
              intro other hother
              rw [hended] at hother
              cases hother
              exact hshort)
          have hcode : (h.withLife { h.life with
              standing := h.life.standing.exit code }).returncode = some code := by
            rw [hended]
            rfl
          refine .inl ⟨code, _, scene, _, .head (.exit code) hhappen (.refl w _),
            ⟨halike, hidle.phase_eq, hidle.piped, hidle.brief⟩, hcode, ?_⟩
          rw [Handle.wait, hending]
          simp only [Engine.Ending.code?, Engine.Action.runIn_bind_of_ok hmove, hcode]
      | lasts reaction =>
          refine .inr ?_
          rw [Handle.wait, hending]
          simp only [Engine.Ending.code?, pure_bind, hreturned]
          rfl

/-- A command that waits goes on and leaves once the child has ended. -/
theorem Idle.goOn (hidle : Idle h c) (w : World) {caller : Nat} (hstage : c.stage = .waits caller)
    (hcaller : c.session.callers[caller]? = some ⟨.wait, true⟩) {code : Int}
    (hcode : h.returncode = some code) :
    ∃ h₁ c₁ scene, c.happen (.resume caller) = some c₁ ∧ Idle h₁ c₁ ∧
      (h.move .notice).runIn c.progress.scene = (.ok h₁, scene) ∧
      c₁.progress = { c.progress with scene } ∧
      c.step w .goOn = c₁.leave (.ended code) := by
  have hended : h.life.standing.running = false := by
    rw [Engine.Standing.running, show h.life.standing.returncode = some code from hcode]
    rfl
  have hnotice : h.life.step .notice = some (h.life.report.1, h.life.report.2) := by
    simp only [Lifecycle.step, hended, Bool.false_eq_true, if_false]
  have hkept : h.life.report.1.standing = h.life.standing := by rw [Lifecycle.report_fst]
  obtain ⟨told, hmake⟩ := hidle.toAlike.make_eq hnotice
  obtain ⟨value, hsession⟩ : ∃ value, c.session.step (.resume caller) =
      some (({ c.session with life := h.life.report.1 } : Watch.Session).release caller,
        told ++ [.returned .wait value]) := by
    simp only [Watch.Session.step, Watch.Session.waiting?, hcaller, Option.bind_eq_bind,
      Option.bind_some, if_true, Watch.Session.resume, hmake]
    exact ⟨_, rfl⟩
  have hnotices (value : Option Int) :
      Watch.notices (told ++ [.returned .wait value]) = Watch.notices told := by
    rw [Watch.notices_append]
    exact List.append_nil _
  obtain ⟨scene, hhappen, hmove, halike⟩ :=
    hidle.toAlike.event hsession hmake rfl (hnotices value) (by
      intro other hother
      rw [hkept] at hother
      exact hidle.short other hother)
  have hphase : (h.withLife h.life.report.1).phase = .idle := by
    rw [← hidle.phase_eq]
    show h.life.report.1.phase = h.life.phase
    rw [Lifecycle.report_fst]
  refine ⟨_, _, scene, hhappen, ⟨halike, hphase, hidle.piped, hidle.brief⟩, hmove, rfl, ?_⟩
  have hreturned : h.life.report.1.standing.returncode = some code := by
    rw [hkept]
    exact hcode
  simp only [step, hstage, hhappen, Option.bind_eq_bind, Option.bind_some]
  show (h.life.report.1.standing.returncode.bind fun code => _) = _
  rw [hreturned]
  rfl

/-- A command that has called the watch to wait for its engine. -/
def waiting (c : Course) : Course :=
  { c with
    session := { c.session with callers := c.session.callers ++ [⟨.wait, true⟩] }
    stage := .waits c.session.callers.length }

theorem call_wait (c : Course) : c.call .wait .waits = some c.waiting := by
  have hstep : c.session.step (.call .wait) = some (c.waiting.session, [.called .wait]) := rfl
  simp only [Course.call, happen_of_silent hstep rfl]
  rfl

theorem waiting_caller (c : Course) :
    c.waiting.session.callers[c.session.callers.length]? = some ⟨.wait, true⟩ :=
  List.getElem?_concat_length

/-- A job does what a course can do from here on. -/
def Does (w : World) (c : Course) (job : Job (Int × Handle)) (p : Progress) : Prop :=
  EndsWith w c ((job.runIn p).1.map Prod.fst) (job.runIn p).2

/-- A command that waits for a child that ends leaves after it. -/
theorem does_waitAndStop_of_ended {code : Int} {life : Lifecycle} {scene : Scene} {h₁ : Handle}
    (hreaches : Reaches w c.waiting (c.waiting.proceed life scene))
    (hidle₁ : Idle h₁ (c.waiting.proceed life scene)) (hcode : h₁.returncode = some code)
    (hwait : h.wait.runIn c.progress.scene =
      (do return (code, ← h₁.move .notice) : Engine.Action (Int × Handle)).runIn scene) :
    Does w c.waiting (waitAndStop w h) c.progress := by
  obtain ⟨h₂, c₂, scene₂, -, hidle₂, hnotice, hprogress, hgoOn⟩ :=
    hidle₁.goOn w rfl c.waiting_caller hcode
  obtain ⟨scene₃, h₃, c₃, hstop, hleave, hends⟩ := hidle₂.runIn_stopWatch w (.ended code)
  have hreturn : h.wait.runIn c.progress.scene = (.ok (code, h₂), scene₂) := by
    rw [hwait]
    exact Engine.Action.runIn_bind_of_ok hnotice
  have houtcome := Job.runIn_outcome h.wait c.progress
  rw [hreturn] at houtcome
  rw [hprogress] at hstop hends
  have hrun : (Cli.Course.waitAndStop w h).runIn c.progress =
      (.ok (code, h₃), { c.progress with scene := scene₃ }) := by
    rw [Cli.Course.waitAndStop, Job.runIn_bind_of_ok houtcome]
    exact Job.runIn_bind_of_ok hstop
  rw [Does, hrun]
  exact .of_reaches hreaches (.head .goOn (hgoOn.trans hleave) hends)

/-- A command whose wait is endless leaves when it is broken off. -/
theorem Idle.does_waitAndStop_of_interrupt (hidle : Idle h c) (w : World)
    (hwait : h.wait.runIn c.progress.scene = (.error (.fault .interrupt), c.progress.scene)) :
    Does w c.waiting (waitAndStop w h) c.progress := by
  let c₂ : Course := { c.waiting with
    session := c.waiting.session.release c.session.callers.length }
  have hcancel : c.waiting.happen (.cancel c.session.callers.length) = some c₂ := by
    have hstep : c.waiting.session.step (.cancel c.session.callers.length) =
        some (c₂.session, [.cancelled .wait]) := by
      simp only [Watch.Session.step, Watch.Session.waiting?, waiting_caller, Option.bind_eq_bind,
        Option.bind_some, if_true]
      rfl
    exact happen_of_silent hstep rfl
  have hidle₂ : Idle h c₂ := hidle.of_same rfl rfl rfl
  obtain ⟨scene, h₃, c₃, hstop, hleave, hends⟩ :=
    hidle₂.runIn_stopWatch w (.broken (.fails (.fault .interrupt)))
  have houtcome := Job.runIn_outcome h.wait c.progress
  rw [hwait] at houtcome
  have hbreak : c.waiting.step w (.breakOff (.fails (.fault .interrupt))) = some c₃ := by
    show (c.waiting.happen (.cancel c.session.callers.length)).bind _ = _
    rw [hcancel]
    exact hleave
  have hrun : (Cli.Course.waitAndStop w h).runIn c.progress =
      (.error (.fails (.fault .interrupt)), { c.progress with scene }) := by
    rw [Cli.Course.waitAndStop, Job.runIn_bind_of_ok houtcome]
    exact Job.runIn_bind_of_ok hstop
  rw [Does, hrun]
  exact .head _ hbreak hends

/-- A command at the end of the output waits for the engine, and leaves when this has
ended or when it is broken off. -/
theorem Idle.does_waitAndStop (hidle : Idle h c) (w : World) :
    Does w c.waiting (waitAndStop w h) c.progress := by
  have hwaiting : Idle h c.waiting := hidle.of_same rfl rfl rfl
  rcases hwaiting.wait_cases w with
    ⟨code, life, scene, h₁, hreaches, hidle₁, hcode, hwait⟩ | hinterrupt
  · exact does_waitAndStop_of_ended hreaches hidle₁ hcode hwait
  · exact hidle.does_waitAndStop_of_interrupt w hinterrupt

/-! ## Reading -/

/-- Print what has been read, then wait for the engine to end unless something is wrong,
and stop the watch. -/
def printAndStop (w : World) (h : Handle) (taken : Watch.Taken Value) : Job (Int × Handle) := do
  let printed ← Job.attempt (printReports w taken.items)
  match printed, taken.failure with
  | .error leave, _ => do
    let _ ← stopWatch w h
    throw leave
  | .ok (), some f => do
    let _ ← stopWatch w h
    Job.fail w f
  | .ok (), none => waitAndStop w h

theorem followWatch_eq (w : World) (h : Handle) :
    followWatch w h = printAndStop w (h.results none).2 (h.results none).1 := rfl

/-- Leaving after printing has failed. -/
theorem Idle.does_broken (hidle : Idle h c) (w : World) (leave : Leave) :
    ∃ c₁, c.leave (.broken leave) = some c₁ ∧
      Does w c₁ (do
        let _ ← stopWatch w h
        throw leave) c.progress := by
  obtain ⟨scene, h', c₁, hstop, hleave, hends⟩ := hidle.runIn_stopWatch w (.broken leave)
  refine ⟨c₁, hleave, ?_⟩
  rw [Does, Job.runIn_bind_of_ok hstop]
  exact hends

theorem Idle.does_failed (hidle : Idle h c) (w : World) (f : Failure) :
    ∃ c₁, c.leave (.failed f) = some c₁ ∧
      Does w c₁ (do
        let _ ← stopWatch w h
        Job.fail w f) c.progress := by
  obtain ⟨scene, h', c₁, hstop, hleave, hends⟩ := hidle.runIn_stopWatch w (.failed f)
  refine ⟨c₁, hleave, ?_⟩
  obtain ⟨leave, p, hfail⟩ := Job.runIn_fail w f { c.progress with scene }
  rw [Does, Job.runIn_bind_of_ok hstop, hfail]
  rw [Parting.job, hfail] at hends
  exact hends

section

variable {items more : List Value} {failure : Option Failure} {rest : List Bytes}
  {p p' : Progress}

theorem runIn_printReports_append (w : World) :
    (printReports w (items ++ more)).runIn p =
      (do printReports w items; printReports w more : Job Unit).runIn p := by
  show (forM (items ++ more) fun report =>
    Job.printTable w (syncPass (Report.SyncPass.ofReport report))).runIn p = _
  rw [List.forM_append]
  rfl

theorem runIn_printAndStop_of_ok (w : World) (h : Handle)
    (hprint : (printReports w items).runIn p = (.ok (), p')) :
    (printAndStop w h ⟨items ++ more, failure, rest⟩).runIn p =
      (printAndStop w h ⟨more, failure, rest⟩).runIn p' := by
  have hmore : (printReports w (items ++ more)).runIn p = (printReports w more).runIn p' := by
    rw [runIn_printReports_append]
    exact Job.runIn_bind_of_ok hprint
  rw [printAndStop, printAndStop, Job.runIn_bind_of_ok (Job.runIn_attempt _ _),
    Job.runIn_bind_of_ok (Job.runIn_attempt _ _), hmore]

theorem runIn_printAndStop_of_error (w : World) (h : Handle) {leave : Leave}
    (hprint : (printReports w items).runIn p = (.error leave, p')) :
    (printAndStop w h ⟨items ++ more, failure, rest⟩).runIn p =
      (do
        let _ ← stopWatch w h
        throw leave : Job (Int × Handle)).runIn p' := by
  have hmore : (printReports w (items ++ more)).runIn p = (.error leave, p') := by
    rw [runIn_printReports_append]
    exact Job.runIn_bind_of_error hprint
  rw [printAndStop, Job.runIn_bind_of_ok (Job.runIn_attempt _ _), hmore]

end

/-- Without a limit the count of the reports does not matter, and the reading stops just
in case a document is no report. -/
theorem takeReports_none (count : Nat) (documents : List Value) :
    Watch.takeReports none count documents = Watch.takeReports none 0 documents ∧
    (Watch.takeReports none 0 documents).2.2 =
      (Watch.takeReports none 0 documents).2.1.isSome := by
  induction documents generalizing count with
  | nil => exact ⟨rfl, rfl⟩
  | cons document rest ih =>
      cases hvalid : Report.validate .indexSync [] "" document with
      | error failure => simp [Watch.takeReports, hvalid]
      | ok report =>
          simp only [Watch.takeReports, hvalid, Watch.enough, Bool.false_eq_true, if_false,
            (ih (count + 1)).1, (ih (0 + 1)).1, (ih 0).2, and_self]

section

variable {documents reports : List Value} {p : Progress}

/-- A command that cannot print the reports in some documents leaves, whether or not
more has been read. -/
theorem Idle.display_of_print_error (hidle : Idle h c) (w : World) {failure : Option Failure}
    {stops : Bool} {leave : Leave}
    (htake : Watch.takeReports none 0 documents = (reports, failure, stops))
    (hprint : (printReports w reports).runIn c.progress = (.error leave, p)) :
    ∃ c₁, c.display w documents = some c₁ ∧ ∀ more failure rest,
      Does w c₁ (printAndStop w h ⟨reports ++ more, failure, rest⟩) c.progress := by
  have hquiet := quiet_printReports w reports c.progress
  rw [hprint] at hquiet
  have hprinted : Idle h { c with progress := p } := hidle.of_same rfl rfl hquiet
  obtain ⟨c₁, hleave, hdoes⟩ := hprinted.does_broken w leave
  refine ⟨c₁, ?_, ?_⟩
  · rw [display]
    simp only [htake, hprint]
    exact hleave
  · intro more failure rest
    rw [Does, runIn_printAndStop_of_error w h hprint]
    exact hdoes

/-- A command leaves at a document that is no report, after printing those before it. -/
theorem Idle.display_of_failure (hidle : Idle h c) (w : World) {f : Failure} {stops : Bool}
    (htake : Watch.takeReports none 0 documents = (reports, some f, stops))
    (hprint : (printReports w reports).runIn c.progress = (.ok (), p)) (rest : List Bytes) :
    ∃ c₁, c.display w documents = some c₁ ∧
      Does w c₁ (printAndStop w h ⟨reports, some f, rest⟩) c.progress := by
  have hquiet := quiet_printReports w reports c.progress
  rw [hprint] at hquiet
  have hprinted : Idle h { c with progress := p } := hidle.of_same rfl rfl hquiet
  obtain ⟨c₁, hleave, hdoes⟩ := hprinted.does_failed w f
  have hjob : (printAndStop w h ⟨reports, some f, rest⟩).runIn c.progress =
      (printAndStop w h ⟨[], some f, rest⟩).runIn p := by
    rw [← runIn_printAndStop_of_ok w h hprint, List.append_nil]
  refine ⟨c₁, ?_, ?_⟩
  · rw [display]
    simp only [htake, hprint]
    exact hleave
  · rw [Does, hjob]
    exact hdoes

end

/-- A command that reads piece by piece does what one does that first reads all the
output and then prints. -/
theorem Idle.does_printAndStop (hidle : Idle h c) (w : World) {decoder : Stream.Decoder}
    (hstage : c.stage = .reads decoder) {pieces : List Bytes} (hpieces : [] ∉ pieces)
    (count : Nat) :
    Does w c (printAndStop w h (Watch.takePieces none count decoder pieces)) c.progress := by
  induction pieces generalizing c decoder count with
  | nil =>
      have hread : c.step w (.read []) = c.read w decoder [] := by rw [step, hstage]
      rw [Watch.takePieces]
      cases hclose : decoder.close.1 with
      | ok =>
          refine .head (.read []) ?_ (hidle.does_waitAndStop w)
          rw [hread, read, hclose]
          exact c.call_wait
      | error fault =>
          obtain ⟨c₁, hleave, hdoes⟩ := hidle.does_failed w fault.toFailure
          refine .head (.read []) ?_ hdoes
          rw [hread, read, hclose]
          exact hleave
  | cons piece rest ih =>
      rw [List.mem_cons, not_or] at hpieces
      have hsome : piece.isEmpty = false := by simpa using Ne.symm hpieces.1
      have hread : c.step w (.read piece) = c.read w decoder piece := by rw [step, hstage]
      rw [Watch.takePieces]
      rcases hfeed : decoder.feedBytes piece with ⟨fault | documents, next⟩
      · obtain ⟨c₁, hleave, hdoes⟩ := hidle.does_failed w fault.toFailure
        refine .head (.read piece) ?_ hdoes
        rw [hread, read, hsome, hfeed]
        exact hleave
      · obtain ⟨hcount, hstops⟩ := takeReports_none count documents
        have hstep : c.step w (.read piece) =
            ({ c with stage := .reads next } : Course).display w documents := by
          rw [hread, read, hsome, hfeed]
          rfl
        have hnext : Idle h { c with stage := .reads next } := hidle.of_same rfl rfl rfl
        rcases htake : Watch.takeReports none 0 documents with ⟨reports, failure, stops⟩
        rw [htake] at hcount hstops
        simp only [hcount]
        rcases hprint : (printReports w reports).runIn c.progress with ⟨leave | _, p⟩
        · obtain ⟨c₁, hdisplay, hdoes⟩ := hnext.display_of_print_error w htake hprint
          refine .head (.read piece) (hstep.trans hdisplay) ?_
          cases stops with
          | true =>
              have hnow := hdoes [] failure rest
              rw [List.append_nil] at hnow
              exact hnow
          | false => exact hdoes _ _ _
        · cases failure with
          | some f =>
              obtain rfl : stops = true := hstops
              obtain ⟨c₁, hdisplay, hdoes⟩ := hnext.display_of_failure w htake hprint rest
              exact .head (.read piece) (hstep.trans hdisplay) hdoes
          | none =>
              obtain rfl : stops = false := hstops
              have hturn : c.step w (.read piece) =
                  some { c with stage := .reads next, progress := p } := by
                rw [hstep, display]
                simp only [htake, hprint]
              have hquiet := quiet_printReports w reports c.progress
              rw [hprint] at hquiet
              have hprinted : Idle h { c with stage := .reads next, progress := p } :=
                hidle.of_same rfl rfl hquiet
              refine .head (.read piece) hturn ?_
              rw [if_neg Bool.false_ne_true, runIn_printAndStop_of_ok w h hprint]
              exact ih hprinted rfl hpieces.2 _

theorem ne_nil_of_mem_reads {pieces : List Bytes} : [] ∉ Engine.reads pieces := by
  have hcut (limit fuel : Nat) (bytes : Bytes) (hlimit : 0 < limit) :
      [] ∉ Engine.cut limit fuel bytes := by
    induction fuel generalizing bytes with
    | zero => exact List.not_mem_nil
    | succ fuel ih =>
        rw [Engine.cut]
        split
        · exact List.not_mem_nil
        · next hsome =>
          rw [List.mem_cons, not_or]
          refine ⟨?_, ih _⟩
          intro hnil
          rw [eq_comm, List.take_eq_nil_iff] at hnil
          rcases hnil with hzero | hempty
          · omega
          · simp [hempty] at hsome
  intro hmem
  obtain ⟨piece, -, hpiece⟩ := List.mem_flatMap.mp hmem
  exact hcut _ _ _ (by decide) hpiece

/-! ## Commands that follow a started watch -/

/-- Nothing of a watch is left behind that was started when a journal counted so many
watches. -/
structure Cleared (before : Log.Journal) (n : Int) (c : Course) : Prop where
  ended : c.running = false
  gauge : c.progress.scene.journal.Counts n
  stopped_once : ∃ new, c.progress.scene.journal.records = before.records ++ new ∧
    Log.mentions "watch_stopped" new = 1

theorem Kept.cleared {origin : Log.Journal} {n : Int} (hcounts : origin.Counts n)
    (h : c.Kept origin) {result : Except Leave Int} (hstage : c.stage = .finished result) :
    c.Cleared origin n := by
  have hreported := h.finished result hstage
  have htells := h.tells
  rw [hreported] at htells
  obtain ⟨new, hrecords, -, hstopped⟩ := htells.records_eq
  have hgauge := htells.counts hcounts
  have hsum : n + (1 : Nat) - (true.toNat : Nat) = n := Int.add_sub_cancel n 1
  exact ⟨h.ended hreported, hsum ▸ hgauge, new, hrecords, hstopped⟩

/-- The course of a command that has not read anything yet. -/
def fresh (h : Handle) (p : Progress) : Course :=
  ⟨h, ⟨h.life, none, []⟩, .reads (Stream.Decoder.fresh Stream.standardLimit), p⟩

theorem keeps_enter {origin : Log.Journal} {n : Int} (hcounts : origin.Counts n) {p : Progress}
    (henter : enter h p = some c) : Keeps origin (fresh h p) c := by
  rw [enter] at henter
  split at henter
  · obtain rfl := Option.some.inj henter
    exact fun hwritten => ⟨hwritten, id⟩
  · exact keeps_leave hcounts henter

theorem does_followWatch {p : Progress} (hidle : Idle h (fresh h p)) (w : World) :
    ∃ c, enter h p = some c ∧ Does w c (followWatch w h) p := by
  rw [followWatch_eq, Handle.results]
  cases houtput : h.reportOutput with
  | ok pieces =>
      refine ⟨fresh h p, by rw [enter, houtput]; rfl, ?_⟩
      have hread : Idle { h with child := { h.child with
          output := some (Watch.readReports none pieces).rest } } (fresh h p) :=
        ⟨⟨hidle.life_eq, hidle.pid_eq, hidle.reporter_eq, hidle.pid_written, hidle.counts,
          hidle.short⟩, hidle.phase_eq, rfl, hidle.brief⟩
      exact hread.does_printAndStop w rfl ne_nil_of_mem_reads 0
  | error f =>
      obtain ⟨c, hleave, hdoes⟩ := hidle.does_failed w f
      exact ⟨c, by rw [enter, houtput]; exact hleave, hdoes⟩

/-- Once a watch has been started and the block in which it is followed has been entered,
a command comes to its end only after the child has ended, with the gauge of watches
back at its value and the end logged once, whatever it reads, whatever the child does
and whatever makes it leave.  A command that runs to its end at once does come to it. -/
theorem follow_clears {client : Client} (hspares : client.transport.SparesWatches)
    {layer : Index.Layer} {scene : Scene} {n : Int} (hcounts : scene.journal.Counts n)
    {p : Progress} (hstart : (client.startWatch layer).runIn scene = (.ok h, p.scene))
    (w : World) :
    (∀ entered turns c result, enter h p = some entered → entered.run w turns = some c →
      c.stage = .finished result → c.watched.Written → c.Cleared scene.journal n) ∧
    (h.child.output.isSome = true → Brief h →
      (∀ code, h.returncode = some code → Number.tooLong code = false) →
      ∃ entered turns c, enter h p = some entered ∧ entered.run w turns = some c ∧
        c.stage = .finished (((followWatch w h).runIn p).1.map Prod.fst) ∧
        c.progress = ((followWatch w h).runIn p).2 ∧ c.Cleared scene.journal n) := by
  have hstarted : (fresh h p).Kept scene.journal ∧ h.phase = .idle := by
    rcases Client.runIn_startWatch_cases hspares layer hcounts with
      ⟨failure, later, hrun, -⟩ | ⟨handle, later, text, hrun, htells, hpid, hphase, hreported⟩
    · rw [hstart] at hrun
      cases hrun
    · obtain ⟨hhandle, rfl⟩ := Prod.mk.inj (hstart.symm.trans hrun)
      obtain rfl := Except.ok.inj hhandle
      have hlife : (fresh h p).session.life.reported = false := hreported
      have houtcome : (fresh h p).session.life.outcome? = none := by
        show h.life.outcome? = none
        rw [Lifecycle.outcome?, show h.life.phase = .idle from hphase]
      refine ⟨⟨⟨text, hpid⟩, ?_, ?_, ?_, ?_⟩, hphase⟩
      · rw [hlife]
        exact htells
      · simp [hlife]
      · simp [houtcome]
      · intro result hstage
        cases hstage
  obtain ⟨hkept, hphase⟩ := hstarted
  have hcleared {entered : Course} {turns : List Turn} {c : Course} {result : Except Leave Int}
      (henter : enter h p = some entered) (hrun : entered.run w turns = some c)
      (hstage : c.stage = .finished result) (hwritten : c.watched.Written) :
      c.Cleared scene.journal n := by
    have hkeeps := (keeps_enter hcounts henter).trans (keeps_run hcounts hrun)
    exact ((hkeeps hwritten).2 hkept).cleared hcounts hstage
  refine ⟨fun entered turns c result => hcleared, ?_⟩
  intro hpiped hbrief hshort
  have hidle : Idle h (fresh h p) :=
    ⟨⟨rfl, rfl, rfl, hkept.pid_written, ⟨_, hkept.tells.counts hcounts⟩, hshort⟩, hphase,
      by simpa using hpiped, hbrief⟩
  obtain ⟨entered, henter, c, ⟨turns, hrun⟩, hstage, hprogress, hwritten⟩ := does_followWatch hidle w
  exact ⟨entered, turns, c, henter, hrun, hstage, hprogress,
    hcleared henter hrun hstage hwritten⟩

/-- A client of an engine that writes the beginning of a report and does not end when
it is asked to terminate. -/
def stubbornClient : Client :=
  ⟨"repo", .scripted "engine", .bool true, [], ⟨fun
    | .dbPath => .text "repo/index.db"
    | setting => setting.standard⟩, Command.callerRoom⟩

@[inherit_doc stubbornClient]
def stubbornScene : Scene :=
  { Scene.fresh with start := .child ⟨[[0x7b]], [], .lasts .ignores⟩ }

/-- Options of a watch that reports in JSON through a pipe. -/
def pipedLayer : Index.Layer :=
  .value (.mapping [(.text "json", .bool true), (.text "stdio", .text "pipe")])

/-- A terminal of the usual width. -/
def plainWorld : World where
  machine := ⟨.bare ["home"], []⟩
  package := "/usr/lib/ledger"
  time := ""
  hostName := ""
  width := 80
  connect := fun engine => .ok (.scripted engine)

/-- The command is broken off after it has read the beginning of a report, and the
engine is killed. -/
def brokenOffTurns : List Turn :=
  [.read [0x7b], .breakOff (.fails (.fault .interrupt)), .begin, .expire, .exit (-9), .finish, .goOn]

theorem follow_clears_brokenOff :
    ∃ h p entered c result,
      (stubbornClient.startWatch pipedLayer).runIn stubbornScene = (.ok h, p.scene) ∧
      enter h p = some entered ∧ entered.run plainWorld brokenOffTurns = some c ∧
      c.stage = .finished result ∧ c.session.life.standing.sent = [.terminate, .kill] ∧
      c.Cleared .fresh 0 ∧
      ((followWatch plainWorld h).runIn p).2.scene.journal.Counts 0 := by
  have hview : (match (stubbornClient.startWatch pipedLayer).runIn stubbornScene with
      | (.ok h, _) => some (h.child.output.isSome, h.child.ending, h.returncode)
      | _ => none) = some (true, .lasts .ignores, none) := by decide +kernel
  have hcourse : (match (stubbornClient.startWatch pipedLayer).runIn stubbornScene with
      | (.ok h, started) =>
        ((enter h ⟨started, "", ""⟩).bind (·.run plainWorld brokenOffTurns)).map fun c =>
          (match c.stage with | .finished _ => true | _ => false, c.session.life.standing.sent,
            c.session.life.standing.returncode)
      | _ => none) = some (true, [.terminate, .kill], some (-9)) := by decide +kernel
  rcases hstart : (stubbornClient.startWatch pipedLayer).runIn stubbornScene with
    ⟨failure | h, started⟩
  · rw [hstart] at hview
    cases hview
  · rw [hstart] at hview hcourse
    simp only [Option.some.injEq, Prod.mk.injEq] at hview
    obtain ⟨hpiped, hending, hreturncode⟩ := hview
    rw [Option.map_eq_some_iff] at hcourse
    obtain ⟨c, hc, hcourse⟩ := hcourse
    rw [Option.bind_eq_some_iff] at hc
    obtain ⟨entered, henter, hrun⟩ := hc
    simp only [Prod.mk.injEq] at hcourse
    obtain ⟨hfinished, hsent, hcode⟩ := hcourse
    obtain ⟨result, hstage⟩ : ∃ result, c.stage = .finished result := by
      cases hstage : c.stage with
      | finished result => exact ⟨result, rfl⟩
      | _ =>
          rw [hstage] at hfinished
          cases hfinished
    have hclears := follow_clears (p := ⟨started, "", ""⟩)
      (Engine.sparesWatches_scripted "engine") Log.Journal.counts_fresh hstart plainWorld
    have hwritten : c.watched.Written := by
      intro code heq
      obtain rfl : (-9 : Int) = code := Option.some.inj (hcode.symm.trans heq)
      exact Number.tooLong_of_natAbs_lt (by decide)
    have hbrief : Brief h := by
      intro code hcode
      simp [hending] at hcode
    obtain ⟨_, _, last, -, -, -, hprogress, hlast⟩ :=
      hclears.2 hpiped hbrief (by simp [hreturncode])
    exact ⟨h, ⟨started, "", ""⟩, entered, c, result, rfl, henter, hrun, hstage, hsent,
      hclears.1 entered _ c result henter hrun hstage hwritten, hprogress ▸ hlast.gauge⟩

end Course

end DocLedger.Cli
