import DocLedger.Proofs.Cli.Course
import Mathlib.Tactic.ByContra

/-!
# Stopping a watch at once

The stop of a handle makes its moves one after another without a break: the child is
asked to terminate, it is killed if it does not end, and then the stop completes.  Each
move is an event of a course, so where the handle is left the course can come to, and
what the command does after it is how the course ends.
-/

namespace DocLedger.Cli

open Engine (Bytes Scene)
open Watch (Handle Lifecycle Move)

namespace Course

variable {w : World} {c c' : Course} {h : Handle}

/-! ## Moves of a handle -/

/-- The course with another life of its watch in another scene. -/
def proceed (c : Course) (life : Lifecycle) (scene : Scene) : Course :=
  { c with session := { c.session with life }, progress := { c.progress with scene } }

/-- One course leads to another. -/
def Reaches (w : World) (c c' : Course) : Prop := ∃ turns, c.run w turns = some c'

theorem Reaches.refl (w : World) (c : Course) : Reaches w c c := ⟨[], rfl⟩

theorem Reaches.head {mid : Course} (turn : Turn) (hstep : c.step w turn = some mid)
    (h : Reaches w mid c') : Reaches w c c' := by
  obtain ⟨turns, hrun⟩ := h
  exact ⟨turn :: turns, by rw [run, hstep]; exact hrun⟩

/-- A handle is at the same point of its life as the watch of a course, and what it
makes known can be written. -/
structure Alike (h : Handle) (c : Course) : Prop where
  life_eq : c.session.life = h.life
  pid_eq : h.child.pid = c.handle.child.pid
  reporter_eq : h.reporter = c.handle.reporter
  pid_written : ∃ text, c.handle.child.pid.spelled = .ok text
  counts : ∃ n, c.progress.scene.journal.Counts n
  short : ∀ code, h.returncode = some code → Number.tooLong code = false

theorem Alike.announce_eq (ha : Alike h c) (new : List Watch.Occurrence) :
    h.announce new = c.handle.announce new := by
  have htell : h.tell = c.handle.tell := by
    funext notice
    cases notice <;> simp only [Handle.tell, ha.pid_eq, ha.reporter_eq]
  rw [Handle.announce, Handle.announce, htell]

/-- An event that makes a move of the handle does to the course what the move does to
the handle. -/
theorem Alike.event (ha : Alike h c) {event : Watch.Event} {session made : Watch.Session}
    {new told : List Watch.Occurrence} (hsession : c.session.step event = some (session, new))
    {m : Move} (hmake : c.session.make m = some (made, told)) (hlife : session.life = made.life)
    (hnotices : Watch.notices new = Watch.notices told)
    (hshort : ∀ code, made.life.standing.returncode = some code → Number.tooLong code = false) :
    ∃ scene,
      c.happen event = some { c with session, progress := { c.progress with scene } } ∧
      (h.move m).runIn c.progress.scene = (.ok (h.withLife made.life), scene) ∧
      Alike (h.withLife made.life)
        { c with session, progress := { c.progress with scene } } := by
  obtain ⟨text, hpid⟩ := ha.pid_written
  obtain ⟨n, hn⟩ := ha.counts
  have hwritten : (c.watched.next session new).Written := by
    intro code hcode
    apply hshort code
    rw [← hlife]
    exact hcode
  obtain ⟨scene, hrun, htells⟩ := Handle.runIn_tell_all hpid
    (Client.Watched.canTell_of_step (w := c.watched) hsession hwritten) hn
  have hannounce : (c.handle.announce new).runIn c.progress.scene = (.ok ⟨⟩, scene) := hrun
  have htold : (c.handle.announce told).runIn c.progress.scene = (.ok ⟨⟩, scene) := by
    show ((Watch.notices told).forM c.handle.tell).runIn c.progress.scene = _
    rw [← hnotices]
    exact hrun
  refine ⟨scene, ?_, ?_, hlife, ha.pid_eq, ha.reporter_eq, ⟨text, hpid⟩, ⟨_, htells.counts hn⟩,
    hshort⟩
  · simp only [happen, hsession, Option.bind_eq_bind, Option.bind_some, hannounce]
    rfl
  · rw [Handle.move_eq_announce ha.life_eq hmake, ha.announce_eq]
    exact Engine.Action.runIn_bind_of_ok htold

theorem Alike.make_eq (ha : Alike h c) {m : Move} {life : Lifecycle} {notices : List Watch.Notice}
    (hstep : h.life.step m = some (life, notices)) :
    ∃ told, c.session.make m = some ({ c.session with life }, told) := by
  rw [Watch.Session.make, ha.life_eq, hstep]
  exact ⟨_, rfl⟩

/-- A move of a handle is an event of the course. -/
theorem Alike.move (ha : Alike h c) (event : Watch.Event) {m : Move}
    (hevent : ∀ s : Watch.Session, s.step event = s.make m) {life : Lifecycle}
    {notices : List Watch.Notice} (hstep : h.life.step m = some (life, notices))
    (hshort : ∀ code, life.standing.returncode = some code → Number.tooLong code = false) :
    ∃ scene, c.happen event = some (c.proceed life scene) ∧
      (h.move m).runIn c.progress.scene = (.ok (h.withLife life), scene) ∧
      Alike (h.withLife life) (c.proceed life scene) := by
  obtain ⟨told, hmake⟩ := ha.make_eq hstep
  exact ha.event ((hevent c.session).trans hmake) hmake rfl rfl hshort

theorem runIn_move_of_none {m : Move} (hstep : h.life.step m = none) (s : Scene) :
    (h.move m).runIn s = (.ok h, s) := by
  rw [Handle.move, hstep]
  rfl

/-! ## The stop -/

/-- The exit status that a child chooses by itself can be written. -/
def Brief (h : Handle) : Prop :=
  ∀ code, (h.child.ending = .exits code ∨
    ∃ stdout stderr, h.child.ending = .lasts (.cleansUp stdout stderr code)) →
    Number.tooLong code = false

theorem Brief.answer (hbrief : Brief h) {sent : Engine.Signal} {code : Int} {written : Bytes}
    (hanswer : h.child.answer sent = some (code, written)) : Number.tooLong code = false := by
  have hstatus : Number.tooLong sent.status = false := by
    cases sent <;> exact Number.tooLong_of_natAbs_lt (by decide)
  unfold Engine.Attached.answer at hanswer
  split at hanswer
  · split at hanswer
    · cases hanswer
    · next stdout stderr other hreaction =>
      cases hending : h.child.ending with
      | exits status =>
          rw [hending] at hreaction
          cases hreaction
      | lasts reaction =>
          rw [hending, Engine.Ending.reaction] at hreaction
          cases hanswer
          exact hbrief code (.inr ⟨_, _, by rw [hending, hreaction]⟩)
    · cases hanswer
      exact hstatus
  · cases hanswer

/-- A child that is killed has no say in it. -/
theorem answer_kill {child : Engine.Attached} (hrunning : child.running = true) :
    child.answer .kill = some (Engine.Signal.kill.status, []) := by
  unfold Engine.Attached.answer
  rw [if_pos hrunning]

theorem runIn_respond_of_none {sent : Engine.Signal} (hanswer : h.child.answer sent = none)
    (s : Scene) : (h.respond sent).runIn s = (.ok h, s) := by
  rw [Handle.respond, hanswer]
  rfl

theorem Alike.respond (ha : Alike h c) (hpiped : h.child.output.isNone = false)
    (hbrief : Brief h) {sent : Engine.Signal} {code : Int} {written : Bytes}
    (hanswer : h.child.answer sent = some (code, written)) :
    ∃ life scene h', c.happen (.exit code) = some (c.proceed life scene) ∧
      (h.respond sent).runIn c.progress.scene = (.ok h', scene) ∧
      Alike h' (c.proceed life scene) ∧ h'.running = false ∧ h'.phase = h.phase := by
  have hrunning : h.life.standing.running = true := by
    by_contra hended
    have hnone : h.child.answer sent = none := if_neg hended
    rw [hnone] at hanswer
    cases hanswer
  have hstep : ({ h with child := h.child.write written }).life.step (.exit code) =
      some ({ h.life with standing := h.life.standing.exit code }, []) := if_pos hrunning
  have hended : h.life.standing.exit code = { h.life.standing with returncode := some code } :=
    if_pos hrunning
  have hwrite : Alike { h with child := h.child.write written } c :=
    ⟨ha.life_eq, ha.pid_eq, ha.reporter_eq, ha.pid_written, ha.counts, ha.short⟩
  have hmove : h.respond sent = ({ h with child := h.child.write written }).move (.exit code) := by
    rw [Handle.respond, hanswer]
    simp only [hpiped]
    rfl
  obtain ⟨scene, hhappen, hrun, halike⟩ := hwrite.move (.exit code) (fun _ => rfl) hstep (by
    intro other hother
    rw [hended] at hother
    cases hother
    exact hbrief.answer hanswer)
  refine ⟨_, scene, _, hhappen, ?_, halike, ?_, rfl⟩
  · rw [hmove]
    exact hrun
  · show (h.life.standing.exit code).running = false
    rw [hended]
    rfl

theorem Alike.finish (ha : Alike h c) (hended : h.running = false)
    (hphase : h.phase = .terminating ∨ h.phase = .killing) :
    ∃ life scene h', c.happen .finish = some (c.proceed life scene) ∧
      (h.move .finish).runIn c.progress.scene = (.ok h', scene) ∧
      Alike h' (c.proceed life scene) ∧ life.outcome?.isSome = true := by
  have hlife : h.life.phase = .terminating ∨ h.life.phase = .killing := hphase
  have hstanding : h.life.standing.running = false := hended
  have hstep : h.life.step .finish = some (h.life.complete.1, h.life.complete.2) := by
    simp only [Lifecycle.step, hstanding, Bool.false_eq_true, if_false, if_pos hlife]
  have hkept : h.life.complete.1.standing = h.life.standing := by rw [Lifecycle.complete_fst]
  obtain ⟨scene, hhappen, hrun, halike⟩ := ha.move .finish (fun _ => rfl) hstep (by
    rw [hkept]
    exact ha.short)
  exact ⟨_, scene, _, hhappen, hrun, halike, rfl⟩

section

variable {patience : Int} {h₁ h₂ h₃ h₄ : Handle} {s s₁ s₂ s₃ s₄ : Scene}
  (hbegin : (h.move .begin).runIn s = (.ok h₁, s₁))
  (hrespond : (h₁.respond .terminate).runIn s₁ = (.ok h₂, s₂))

include hbegin hrespond

theorem runIn_stop_of_ended (hpatience : 0 < patience) (hended : h₂.running = false) :
    (h.stop patience).runIn s = (h₂.move .finish).runIn s₂ := by
  have hnot : ¬ (decide (patience ≤ 0) || h₂.running) = true := by
    rw [hended, Bool.or_false, decide_eq_true_eq]
    exact Int.not_le.mpr hpatience
  rw [Handle.stop, Engine.Action.runIn_bind_of_ok hbegin, Engine.Action.runIn_bind_of_ok hrespond]
  simp only [if_neg hnot]
  rfl

theorem runIn_stop_of_running (hrunning : h₂.running = true)
    (hexpire : (h₂.move .expire).runIn s₂ = (.ok h₃, s₃))
    (hkill : (h₃.respond .kill).runIn s₃ = (.ok h₄, s₄)) :
    (h.stop patience).runIn s = (h₄.move .finish).runIn s₄ := by
  have hstill : (decide (patience ≤ 0) || h₂.running) = true := by rw [hrunning, Bool.or_true]
  rw [Handle.stop, Engine.Action.runIn_bind_of_ok hbegin, Engine.Action.runIn_bind_of_ok hrespond]
  simp only [if_pos hstill]
  rw [Engine.Action.runIn_bind_of_ok hexpire, Engine.Action.runIn_bind_of_ok hkill]

end

/-- A course can go on until a stop of its watch is complete, and the stop of a handle at
once comes out alike. -/
def Stops (w : World) (c : Course) (h : Handle) (patience : Int) : Prop :=
  ∃ life scene h', Reaches w c (c.proceed life scene) ∧
    (h.stop patience).runIn c.progress.scene = (.ok h', scene) ∧
    Alike h' (c.proceed life scene) ∧ life.outcome?.isSome = true

section

variable {patience : Int}

/-- A stop is complete as soon as it begins if the child has ended. -/
theorem Alike.stop_of_ended (w : World) (ha : Alike h c) (hphase : h.phase = .requested)
    (hended : h.running = false) (hpatience : 0 < patience) : Stops w c h patience := by
  have hlife : h.life.phase = .requested := hphase
  have hstanding : h.life.standing.running = false := hended
  have hstep : h.life.step .begin = some (h.life.complete.1, h.life.complete.2) := by
    simp only [Lifecycle.step, hlife, hstanding, Bool.false_eq_true, if_true, if_false]
  have hkept : h.life.complete.1.standing = h.life.standing := by rw [Lifecycle.complete_fst]
  obtain ⟨scene, hhappen, hbegin, halike⟩ := ha.move .begin (fun _ => rfl) hstep (by
    rw [hkept]
    exact ha.short)
  have hstill : (h.withLife h.life.complete.1).running = false := by
    show h.life.complete.1.standing.running = false
    rw [hkept, hstanding]
  have hanswer : (h.withLife h.life.complete.1).child.answer .terminate = none :=
    if_neg (Bool.eq_false_iff.mp hstill)
  have hdone : (h.withLife h.life.complete.1).life.step .finish = none := by
    show h.life.complete.1.step .finish = none
    simp [Lifecycle.complete_fst, Lifecycle.step]
  refine ⟨_, scene, _, .head .begin hhappen (.refl w _), ?_, halike, rfl⟩
  rw [runIn_stop_of_ended hbegin (runIn_respond_of_none hanswer scene) hpatience hstill]
  exact runIn_move_of_none hdone scene

/-- A child that runs ends when it is asked to terminate, or else it is killed. -/
theorem Alike.stop_of_running (w : World) (ha : Alike h c) (hphase : h.phase = .requested)
    (hrunning : h.running = true) (hpiped : h.child.output.isNone = false) (hbrief : Brief h)
    (hpatience : 0 < patience) : Stops w c h patience := by
  have hlife : h.life.phase = .requested := hphase
  have hstanding : h.life.standing.running = true := hrunning
  let asked : Lifecycle :=
    { h.life with standing := h.life.standing.signal .terminate, phase := .terminating }
  have hstep : h.life.step .begin = some (asked, [.terminating]) := by
    simp only [Lifecycle.step, hlife, hstanding, if_true]
    rfl
  obtain ⟨scene₁, hhappen₁, hbegin, halike₁⟩ := ha.move .begin (fun _ => rfl) hstep ha.short
  cases hanswer : (h.withLife asked).child.answer .terminate with
  | some answer =>
      obtain ⟨code, written⟩ := answer
      obtain ⟨life₂, scene₂, h₂, hhappen₂, hrespond, halike₂, hended, hphase₂⟩ :=
        halike₁.respond hpiped hbrief hanswer
      obtain ⟨life₃, scene₃, h₃, hhappen₃, hfinish, halike₃, houtcome⟩ :=
        halike₂.finish hended (.inl hphase₂)
      refine ⟨life₃, scene₃, h₃, ?_, ?_, halike₃, houtcome⟩
      · exact .head .begin hhappen₁ (.head (.exit code) hhappen₂
          (.head .finish hhappen₃ (.refl w _)))
      · rw [runIn_stop_of_ended hbegin hrespond hpatience hended]
        exact hfinish
  | none =>
      let killed : Lifecycle :=
        { asked with standing := asked.standing.signal .kill, phase := .killing }
      have hstep₂ : (h.withLife asked).life.step .expire = some (killed, [.ignored]) := by
        show asked.step .expire = _
        simp only [Lifecycle.step, asked, if_true]
        rfl
      obtain ⟨scene₂, hhappen₂, hexpire, halike₂⟩ :=
        halike₁.move .expire (fun _ => rfl) hstep₂ ha.short
      have hkill : ((h.withLife asked).withLife killed).child.answer .kill =
          some (Engine.Signal.kill.status, []) := answer_kill hstanding
      obtain ⟨life₃, scene₃, h₃, hhappen₃, hrespond, halike₃, hended, hphase₃⟩ :=
        halike₂.respond hpiped hbrief hkill
      obtain ⟨life₄, scene₄, h₄, hhappen₄, hfinish, halike₄, houtcome⟩ :=
        halike₃.finish hended (.inr hphase₃)
      refine ⟨life₄, scene₄, h₄, ?_, ?_, halike₄, houtcome⟩
      · exact .head .begin hhappen₁ (.head .expire hhappen₂
          (.head (.exit _) hhappen₃ (.head .finish hhappen₄ (.refl w _))))
      · rw [runIn_stop_of_running hbegin (runIn_respond_of_none hanswer scene₁) hstanding
          hexpire hrespond]
        exact hfinish

/-- A stop that has been asked for goes on until it is complete. -/
theorem Alike.stop (w : World) (ha : Alike h c) (hphase : h.phase = .requested)
    (hpiped : h.child.output.isNone = false) (hbrief : Brief h) (hpatience : 0 < patience) :
    Stops w c h patience := by
  cases hrunning : h.running with
  | false => exact ha.stop_of_ended w hphase hrunning hpatience
  | true => exact ha.stop_of_running w hphase hrunning hpiped hbrief hpatience

end

/-! ## Leaving -/

theorem happen_of_silent {event : Watch.Event} {session : Watch.Session}
    {new : List Watch.Occurrence} (hstep : c.session.step event = some (session, new))
    (hsilent : Watch.notices new = []) : c.happen event = some { c with session } := by
  have hannounce : (c.handle.announce new).runIn c.progress.scene = (.ok ⟨⟩, c.progress.scene) := by
    show ((Watch.notices new).forM c.handle.tell).runIn c.progress.scene = _
    rw [hsilent]
    rfl
  simp only [happen, hstep, Option.bind_eq_bind, Option.bind_some, hannounce]
  rfl

/-- The life of a watch that has been asked to stop. -/
def asked (life : Lifecycle) : Lifecycle := { life with phase := .requested }

/-- Leaving a watch that nobody has asked to stop asks it to. -/
theorem leave_eq (hphase : c.session.life.phase = .idle) (parting : Parting) :
    c.leave parting = some { c with
      session := ⟨asked c.session.life, some Watch.standardPatience,
        c.session.callers ++ [⟨.leave, true⟩]⟩
      stage := .leaves c.session.callers.length parting } := by
  obtain ⟨new, hstep, hsilent⟩ : ∃ new, c.session.step (.call .leave) =
      some (⟨asked c.session.life, some Watch.standardPatience,
        c.session.callers ++ [⟨.leave, true⟩]⟩, new) ∧ Watch.notices new = [] := by
    simp only [Watch.Session.step, Watch.Session.take, Watch.Call.patience?,
      Watch.Session.make_request, hphase, if_true]
    exact ⟨_, rfl, rfl⟩
  simp only [leave, Course.call, happen_of_silent hstep hsilent]
  rfl

/-- A command that leaves goes on once the stop is complete. -/
theorem goOn_of_leaves (w : World) {caller : Nat} {parting : Parting}
    (hstage : c.stage = .leaves caller parting)
    (hcaller : c.session.callers[caller]? = some ⟨.leave, true⟩)
    (houtcome : c.session.life.outcome?.isSome = true) :
    c.step w .goOn = some { c with
      session := c.session.release caller
      progress := ((parting.job w).runIn c.progress).2
      stage := .finished ((parting.job w).runIn c.progress).1 } := by
  obtain ⟨outcome, houtcome⟩ := Option.isSome_iff_exists.mp houtcome
  have hstep : c.session.step (.resume caller) =
      some (c.session.release caller, [.returned .leave none]) := by
    simp only [Watch.Session.step, Watch.Session.waiting?, hcaller, Option.bind_eq_bind,
      Option.bind_some, if_true, Watch.Session.resume, houtcome]
    rfl
  simp only [step, hstage, happen_of_silent hstep rfl]
  rfl

/-- A course that can come to an end with a result and some progress. -/
def EndsWith (w : World) (c : Course) (result : Except Leave Int) (progress : Progress) : Prop :=
  ∃ c', Reaches w c c' ∧ c'.stage = .finished result ∧ c'.progress = progress ∧ c'.watched.Written

theorem EndsWith.head {mid : Course} {result : Except Leave Int} {progress : Progress}
    (turn : Turn) (hstep : c.step w turn = some mid) (h : EndsWith w mid result progress) :
    EndsWith w c result progress := by
  obtain ⟨c', hreaches, hrest⟩ := h
  exact ⟨c', hreaches.head turn hstep, hrest⟩

theorem EndsWith.of_reaches {mid : Course} {result : Except Leave Int} {progress : Progress}
    (hreaches : Reaches w c mid) (h : EndsWith w mid result progress) :
    EndsWith w c result progress := by
  obtain ⟨turns, hrun⟩ := hreaches
  induction turns generalizing c with
  | nil => exact Option.some.inj hrun ▸ h
  | cons turn turns ih =>
      simp only [run, Option.bind_eq_bind, Option.bind_eq_some_iff] at hrun
      obtain ⟨next, hstep, hrest⟩ := hrun
      exact (ih hrest).head turn hstep

/-- A handle of a watch that nobody has asked to stop, whose output is piped. -/
structure Idle (h : Handle) (c : Course) : Prop extends Alike h c where
  phase_eq : h.phase = .idle
  piped : h.child.output.isNone = false
  brief : Brief h

theorem Idle.runIn_stopWatch (hidle : Idle h c) (w : World) (parting : Parting) :
    ∃ scene h' c₁, (stopWatch w h).runIn c.progress = (.ok h', { c.progress with scene }) ∧
      c.leave parting = some c₁ ∧
      EndsWith w c₁ ((parting.job w).runIn { c.progress with scene }).1
        ((parting.job w).runIn { c.progress with scene }).2 := by
  have hphase : c.session.life.phase = .idle := by
    rw [hidle.life_eq]
    exact hidle.phase_eq
  have hlife : h.life.phase = .idle := hidle.phase_eq
  have hrequest : h.move .request = pure (h.withLife (asked h.life)) := by
    rw [Handle.move, Lifecycle.step, if_pos hlife]
    rfl
  have hsame : asked c.session.life = asked h.life := by rw [hidle.life_eq]
  have hasked : Alike (h.withLife (asked h.life)) { c with
      session := ⟨asked c.session.life, some Watch.standardPatience,
        c.session.callers ++ [⟨.leave, true⟩]⟩
      stage := .leaves c.session.callers.length parting } :=
    ⟨hsame, hidle.pid_eq, hidle.reporter_eq, hidle.pid_written, hidle.counts,
      hidle.short⟩
  obtain ⟨life, scene, h', hreaches, hstop, halike, houtcome⟩ :=
    hasked.stop w rfl hidle.piped hidle.brief (show 0 < Watch.standardPatience by decide)
  have hterminate : (h.terminate Watch.standardPatience).runIn c.progress.scene =
      (.ok (h'.returncode, h'), scene) := by
    rw [Handle.terminate, hrequest]
    exact Engine.Action.runIn_bind_of_ok hstop
  refine ⟨scene, h', _, ?_, leave_eq hphase parting, .of_reaches hreaches ?_⟩
  · exact Job.runIn_bind_of_ok (Job.runIn_perform_of_ok w hterminate)
  · refine ⟨_, .head .goOn (goOn_of_leaves w rfl ?_ houtcome) (.refl w _), rfl, rfl, ?_⟩
    · exact List.getElem?_concat_length
    · intro code hcode
      apply halike.short code
      rw [Handle.returncode, ← hcode]
      exact congrArg (fun l : Lifecycle => l.standing.returncode) halike.life_eq.symm

end Course

end DocLedger.Cli
