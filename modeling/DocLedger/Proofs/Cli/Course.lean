import DocLedger.Cli.Course
import DocLedger.Proofs.Cli.Jobs
import DocLedger.Proofs.Client.WatchAccount

/-!
# Nothing is left behind

A command that follows a watch comes to its end only through the stop of the watch,
whatever makes it leave.  By then the child has ended, its end has been logged once,
and the gauge of watches is back at the value from before the start.

The induction is on the turns of the command, the child and the stop.  It carries that
the gauge went down and the end was logged just in case the end has been reported,
which is so once the stop is complete.
-/

namespace DocLedger.Cli

open Engine (Bytes Scene)
open Log (Journal)

theorem quiet_printReports (w : World) (reports : List Value) :
    Job.Quiet (printReports w reports) :=
  .forM (fun _ => Job.quiet_printTable w _) reports

theorem Parting.quiet_job (w : World) (parting : Parting) : Job.Quiet (parting.job w) := by
  cases parting with
  | ended code => exact Job.quiet_pure code
  | failed f => exact Job.quiet_fail w f
  | broken leave => exact Job.quiet_throw leave

namespace Course

def watched (c : Course) : Client.Watched := ⟨c.handle, c.session, []⟩

/-- What holds of a command that follows a watch started since a journal: the start
has been made known, and the end just in case it has been reported, which needs the
child to have ended and is needed for the stop to be complete. -/
structure Kept (origin : Journal) (c : Course) : Prop where
  pid_written : ∃ text, c.handle.child.pid.spelled = .ok text
  tells : origin.Tells c.progress.scene.journal 1 c.session.life.reported.toNat
  ended : c.session.life.reported = true → c.running = false
  stopped : c.session.life.outcome?.isSome = true → c.session.life.reported = true
  finished : ∀ result, c.stage = .finished result → c.session.life.reported = true

variable {origin : Journal} {n : Int} {c c' : Course}

/-! ## Events of the watch -/

theorem happen_eq_some {event : Watch.Event} (h : c.happen event = some c') :
    ∃ session new, c.session.step event = some (session, new) ∧
      c' = { c with
        session
        progress := { c.progress with
          scene := ((c.handle.announce new).runIn c.progress.scene).2 } } := by
  simp only [happen, Option.bind_eq_bind, Option.bind_eq_some_iff, Option.pure_def] at h
  obtain ⟨⟨session, new⟩, hstep, heq⟩ := h
  exact ⟨session, new, hstep, (Option.some.inj heq).symm⟩

/-- Whatever happens to a watch, an end that has been reported stays so. -/
theorem reported_of_step {s next : Watch.Session} {new : List Watch.Occurrence}
    {event : Watch.Event} (h : s.step event = some (next, new))
    (hreported : s.life.reported = true) : next.life.reported = true := by
  rcases Watch.Session.step_cases h with hpasses | hsees
  · rw [hpasses.life.reported_eq, hreported]
  · exact hsees.life.reported

/-- The end of a stop is reported before it is complete. -/
theorem stopped_of_step {s next : Watch.Session} {new : List Watch.Occurrence}
    {event : Watch.Event} (h : s.step event = some (next, new))
    (hstopped : s.life.outcome?.isSome = true → s.life.reported = true)
    (houtcome : next.life.outcome?.isSome = true) : next.life.reported = true := by
  rcases Watch.Session.step_cases h with hpasses | hsees
  · rw [hpasses.life.outcome_eq] at houtcome
    rw [hpasses.life.reported_eq, hstopped houtcome]
  · exact hsees.life.reported

/-- A caller goes on only when the end has been reported. -/
theorem reported_of_resume {s next : Watch.Session} {new : List Watch.Occurrence} {caller : Nat}
    (h : s.step (.resume caller) = some (next, new))
    (hstopped : s.life.outcome?.isSome = true → s.life.reported = true) :
    next.life.reported = true := by
  rcases Watch.Session.step_cases h with hpasses | hsees
  · simp only [Watch.Session.step, Option.bind_eq_bind, Option.bind_eq_some_iff] at h
    obtain ⟨call, -, hresume⟩ := h
    have hstop (hcall : (do
        let outcome ← s.life.outcome?
        return (s.release caller, [Watch.Occurrence.returned call (call.result outcome)])) =
          some (next, new)) : next.life.reported = true := by
      simp only [Option.bind_eq_bind, Option.bind_eq_some_iff] at hcall
      obtain ⟨outcome, houtcome, -⟩ := hcall
      rw [hpasses.life.reported_eq]
      exact hstopped (by rw [houtcome]; rfl)
    cases call with
    | stop patience => exact hstop hresume
    | leave => exact hstop hresume
    | wait =>
        -- a caller who waited for the child sees its end
        have hawaited : Watch.awaited new = true := by
          simp only [Watch.Session.resume, Option.bind_eq_bind, Option.bind_eq_some_iff,
            Option.pure_def] at hresume
          obtain ⟨⟨mid, made⟩, -, heq⟩ := hresume
          cases heq
          simp [Watch.awaited, Watch.Occurrence.awaited]
        rw [hpasses.unawaited] at hawaited
        cases hawaited
  · exact hsees.life.reported

/-- What a step of a command keeps, provided that the exit status of the child, if it
has ended by then, can be written. -/
def Keeps (origin : Journal) (c c' : Course) : Prop :=
  c'.watched.Written → c.watched.Written ∧ (c.Kept origin → c'.Kept origin)

theorem Keeps.trans {c'' : Course} (h : Keeps origin c c') (h' : Keeps origin c' c'') :
    Keeps origin c c'' := by
  intro hwritten
  obtain ⟨hmiddle, hlater⟩ := h' hwritten
  obtain ⟨hfirst, hearlier⟩ := h hmiddle
  exact ⟨hfirst, fun hkept => hlater (hearlier hkept)⟩

/-- Going on to another stage that is not the last, without a word about watches. -/
theorem keeps_turn (c : Course) {stage : Stage} {progress : Progress}
    (hscene : progress.scene = c.progress.scene)
    (hstage : ∀ result, stage ≠ .finished result) :
    Keeps origin c { c with stage, progress } := by
  refine fun hwritten => ⟨hwritten, fun hkept => ⟨hkept.pid_written, ?_, hkept.ended,
    hkept.stopped, fun result hresult => absurd hresult (hstage result)⟩⟩
  rw [hscene]
  exact hkept.tells

theorem keeps_happen (hcounts : origin.Counts n) {event : Watch.Event}
    (h : c.happen event = some c') : Keeps origin c c' := by
  obtain ⟨session, new, hstep, rfl⟩ := happen_eq_some h
  intro hwritten
  have hnext : (c.watched.next session new).Written := hwritten
  refine ⟨Client.Watched.written_of_step hstep hnext, ?_⟩
  intro hkept
  obtain ⟨text, hpid⟩ := hkept.pid_written
  obtain ⟨scene, hrun, htells⟩ := Watch.Handle.runIn_tell_all hpid
    (Client.Watched.canTell_of_step hstep hnext) (hkept.tells.counts hcounts)
  have hannounce : (c.handle.announce new).runIn c.progress.scene = (.ok ⟨⟩, scene) := hrun
  have hsum : c.session.life.reported.toNat + Watch.ends new = session.life.reported.toNat := by
    rw [Nat.add_comm]
    exact Watch.Session.step_ends hstep
  refine ⟨⟨text, hpid⟩, ?_, Watch.Session.step_reported hstep hkept.ended,
    stopped_of_step hstep hkept.stopped, ?_⟩
  · rw [hannounce, ← hsum]
    exact hkept.tells.trans htells
  · intro result hresult
    exact reported_of_step hstep (hkept.finished result hresult)

theorem keeps_call (hcounts : origin.Counts n) {call : Watch.Call} {stage : Nat → Stage}
    (hstage : ∀ caller result, stage caller ≠ .finished result)
    (h : c.call call stage = some c') : Keeps origin c c' := by
  simp only [Course.call, Option.bind_eq_bind, Option.bind_eq_some_iff, Option.pure_def] at h
  obtain ⟨next, hhappen, heq⟩ := h
  rw [← Option.some.inj heq]
  exact (keeps_happen hcounts hhappen).trans (keeps_turn next rfl (hstage _))

theorem keeps_leave (hcounts : origin.Counts n) {parting : Parting}
    (h : c.leave parting = some c') : Keeps origin c c' :=
  keeps_call hcounts (by simp) h

/-! ## Turns of the command -/

theorem keeps_display (hcounts : origin.Counts n) {w : World} {documents : List Value}
    (hstage : ∀ result, c.stage ≠ .finished result) (h : c.display w documents = some c') :
    Keeps origin c c' := by
  have hturn : Keeps origin c { c with
      progress := ((printReports w (Watch.takeReports none 0 documents).1).runIn c.progress).2 } :=
    keeps_turn c (quiet_printReports w _ c.progress) hstage
  simp only [display] at h
  split at h
  · exact hturn.trans (keeps_leave hcounts h)
  · exact hturn.trans (keeps_leave hcounts h)
  · exact Option.some.inj h ▸ hturn

theorem keeps_read (hcounts : origin.Counts n) {w : World} {decoder : Stream.Decoder}
    {piece : Bytes} (h : c.read w decoder piece = some c') : Keeps origin c c' := by
  rw [read] at h
  split at h
  · split at h
    · exact keeps_call hcounts (by simp) h
    · exact keeps_leave hcounts h
  · split at h
    · next next _ =>
      have hturn : Keeps origin c { c with stage := .reads next } := keeps_turn c rfl nofun
      exact hturn.trans (keeps_display hcounts nofun h)
    · exact keeps_leave hcounts h

theorem keeps_finish {w : World} (hcounts : origin.Counts n) {caller : Nat} {next : Course}
    (h : c.happen (.resume caller) = some next) (parting : Parting) :
    Keeps origin c { next with
      progress := ((parting.job w).runIn next.progress).2
      stage := .finished ((parting.job w).runIn next.progress).1 } := by
  intro hwritten
  obtain ⟨hbefore, hkeeps⟩ := keeps_happen hcounts h hwritten
  refine ⟨hbefore, fun hkept => ?_⟩
  have hnext := hkeeps hkept
  obtain ⟨session, new, hstep, rfl⟩ := happen_eq_some h
  refine ⟨hnext.pid_written, ?_, hnext.ended, hnext.stopped,
    fun _ _ => reported_of_resume hstep hkept.stopped⟩
  rw [Parting.quiet_job]
  exact hnext.tells

theorem keeps_step (hcounts : origin.Counts n) {w : World} {turn : Turn}
    (h : c.step w turn = some c') : Keeps origin c c' := by
  cases turn with
  | read piece =>
      rw [step] at h
      split at h
      · exact keeps_read hcounts h
      · cases h
  | breakOff leave =>
      rw [step] at h
      split at h
      · exact keeps_leave hcounts h
      · simp only [Option.bind_eq_bind, Option.bind_eq_some_iff] at h
        obtain ⟨next, hcancel, hleave⟩ := h
        exact (keeps_happen hcounts hcancel).trans (keeps_leave hcounts hleave)
      · cases h
  | goOn =>
      rw [step] at h
      split at h
      · simp only [Option.bind_eq_bind, Option.bind_eq_some_iff] at h
        obtain ⟨next, hresume, code, -, hleave⟩ := h
        exact (keeps_happen hcounts hresume).trans (keeps_leave hcounts hleave)
      · simp only [Option.bind_eq_bind, Option.bind_eq_some_iff, Option.pure_def] at h
        obtain ⟨next, hresume, heq⟩ := h
        rw [← Option.some.inj heq]
        exact keeps_finish hcounts hresume _
      · cases h
  | begin => exact keeps_happen hcounts h
  | exit code => exact keeps_happen hcounts h
  | expire => exact keeps_happen hcounts h
  | finish => exact keeps_happen hcounts h

theorem keeps_run (hcounts : origin.Counts n) {w : World} {turns : List Turn}
    (h : c.run w turns = some c') : Keeps origin c c' := by
  induction turns generalizing c with
  | nil =>
      obtain rfl := Option.some.inj h
      exact fun hwritten => ⟨hwritten, id⟩
  | cons turn turns ih =>
      simp only [run, Option.bind_eq_bind, Option.bind_eq_some_iff] at h
      obtain ⟨next, hstep, hrest⟩ := h
      exact (keeps_step hcounts hstep).trans (ih hrest)

end Course

end DocLedger.Cli
