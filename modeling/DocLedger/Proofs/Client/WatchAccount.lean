import DocLedger.Client.Fleet
import DocLedger.Proofs.Client.StartWatch
import DocLedger.Proofs.Engine.Spares
import DocLedger.Proofs.Watch.Ends

/-!
# The account of live watches

The gauge of watches says how many more watches are live than before: those handed
over for which neither the stop nor a caller who waits has completed.  Each watch is
logged as started once and as stopped at most once, after its child has ended.

The induction is on the happenings of a run.  It carries that a watch is settled just
in case its end has been reported, which is when the gauge went down for it.
-/

namespace DocLedger

open Engine (Action Scene)
open Log (Journal)

namespace Watch.Handle

/-! ## What a watch makes known -/

def CanTell : Notice → Prop
  | .stopped returncode => ∃ text, (Log.optionalInt returncode).spelled = .ok text
  | _ => True

variable {h : Handle} {text : String}

/-- A move of a handle makes known what the move makes known in a session. -/
theorem move_eq_announce {s next : Session} {new : List Occurrence} (hlife : s.life = h.life)
    {m : Move} (hmake : s.make m = some (next, new)) :
    h.move m = (do
      h.announce new
      return h.withLife next.life) := by
  obtain ⟨life, told, hstep, rfl, rfl⟩ := Session.make_eq_some hmake
  have hannounce : h.announce (m.cause s.patience ++ told.map .told ++
      (Session.sentBetween s.life life).map .sent) = told.forM h.tell :=
    congrArg (·.forM h.tell) (Session.notices_make told)
  rw [hannounce, move, ← hlife, hstep]

theorem canTell_of_silent {notice : Notice} (hsilent : notice.isEnd = false) :
    CanTell notice := by
  cases notice with
  | stopped returncode => cases hsilent
  | _ => trivial

theorem runIn_tell (hpid : h.child.pid.spelled = .ok text) {notice : Notice}
    (hnotice : CanTell notice) {s : Scene} {n : Int} (hn : s.journal.Counts n) :
    ∃ s', (h.tell notice).runIn s = (.ok ⟨⟩, s') ∧
      s.journal.Tells s'.journal 0 notice.isEnd.toNat := by
  cases notice with
  | terminating => exact ⟨_, Action.runIn_log _ s, s.journal.spares_log _ _ _⟩
  | ignored => exact ⟨_, Action.runIn_log _ s, s.journal.spares_log _ _ _⟩
  | stopped returncode =>
      obtain ⟨code, hcode⟩ := hnotice
      obtain ⟨j', hreport, htells⟩ := Journal.report_watchStopped hn h.reporter hpid hcode
      exact ⟨{ s with journal := j' }, by rw [tell, Action.runIn_report, hreport], htells⟩

/-- What can be written is made known, and the ends among it are counted. -/
theorem runIn_tell_all (hpid : h.child.pid.spelled = .ok text) {notices : List Notice}
    (hnotices : ∀ notice ∈ notices, CanTell notice) {s : Scene} {n : Int}
    (hn : s.journal.Counts n) :
    ∃ s', (notices.forM h.tell).runIn s = (.ok ⟨⟩, s') ∧
      s.journal.Tells s'.journal 0 (notices.countP Notice.isEnd) := by
  induction notices generalizing s n with
  | nil => exact ⟨s, rfl, s.journal.spares_refl⟩
  | cons notice rest ih =>
      rw [List.forall_mem_cons] at hnotices
      -- the journal still counts after the first notice, so that the others are counted too
      obtain ⟨s₁, hfirst, htells⟩ := runIn_tell hpid hnotices.1 hn
      obtain ⟨s₂, hrest, hmore⟩ := ih hnotices.2 (htells.counts hn)
      refine ⟨s₂, ?_, ?_⟩
      · exact (Action.runIn_bind_of_ok hfirst).trans hrest
      · have hcount : (notice :: rest).countP Notice.isEnd =
            notice.isEnd.toNat + rest.countP Notice.isEnd := by
          rw [List.countP_cons, Nat.add_comm]
          cases notice.isEnd <;> rfl
        rw [hcount]
        exact htells.trans hmore

end Watch.Handle

namespace Client

/-! ## A watch that is started -/

/-- A start of a watch that fails says nothing about watches; one that does not is
made known once, and hands over a watch that nobody has called. -/
theorem runIn_startWatch_cases {c : Client} (hspares : c.transport.SparesWatches)
    (layer : Index.Layer) {s : Scene} {n : Int} (hn : s.journal.Counts n) :
    (∃ failure s', (c.startWatch layer).runIn s = (.error failure, s') ∧
      s.journal.Spares s'.journal) ∨
    ∃ handle s' text, (c.startWatch layer).runIn s = (.ok handle, s') ∧
      s.journal.Tells s'.journal 1 0 ∧ handle.child.pid.spelled = .ok text ∧
      handle.phase = .idle ∧ handle.reported = false := by
  cases hplan : c.watchPlan layer with
  | error failure =>
      exact .inl ⟨failure, s, runIn_startWatch_of_error hplan s, s.journal.spares_refl⟩
  | ok plan =>
      have hspared := hspares (c.invocation plan.args) plan.stdio s
      rcases hspawn : (c.transport.spawn (c.invocation plan.args) plan.stdio).runIn s with
        ⟨failure | child, s'⟩
      · rw [hspawn] at hspared
        exact .inl ⟨failure, s', runIn_startWatch_of_no_spawn hplan hspawn, hspared⟩
      · rw [hspawn] at hspared
        have hrun := runIn_startWatch_of_spawn hplan hspawn
        -- a child whose number cannot be written is not handed over
        rcases Journal.report_watchStarted (hspared.counts hn) indexLogger child.pid _ _ with
          ⟨fault, hreport⟩ | ⟨j', hreport, htells, text, hpid⟩
        · rw [WatchPlan.event, hreport] at hrun
          exact .inl ⟨.fault fault, s', hrun, hspared⟩
        · rw [WatchPlan.event, hreport] at hrun
          exact .inr ⟨_, _, text, hrun, hspared.trans htells, hpid, rfl, rfl⟩

/-! ## One watch -/

namespace Watched

/-- The records about a watch are in order: it is logged as started once, and as
stopped just in case its end has been reported, by which it is settled. -/
structure Accounted (w : Watched) (records : List Log.Record) : Prop where
  pid_written : ∃ text, w.handle.child.pid.spelled = .ok text
  settled_eq : w.settled = w.session.life.reported
  ended : w.session.life.reported = true → w.running = false
  started : Log.mentions "watch_started" records = 1
  stopped : Log.mentions "watch_stopped" records = w.session.life.reported.toNat

/-- The exit status of the child, if it has ended, is short enough to be written. -/
def Written (w : Watched) : Prop := ∀ code, w.returncode = some code → Number.tooLong code = false

/-- An exit status that fits a machine word can be written. -/
theorem written_of_word {w : Watched}
    (h : ∀ code, w.returncode = some code → code.natAbs ≤ Nat.pow 2 63) : w.Written :=
  fun code hcode => Number.tooLong_of_natAbs_lt (Nat.lt_of_le_of_lt (h code hcode) (by decide))

variable {w : Watched} {event : Watch.Event} {session : Watch.Session}
  {new : List Watch.Occurrence}

theorem accounted_fresh {handle : Watch.Handle} {text : String}
    (hpid : handle.child.pid.spelled = .ok text) (hphase : handle.phase = .idle)
    (hreported : handle.reported = false) {records : List Log.Record}
    (hstarted : Log.mentions "watch_started" records = 1)
    (hstopped : Log.mentions "watch_stopped" records = 0) :
    (fresh handle).Accounted records ∧ (fresh handle).settled = false := by
  have hsettled : (fresh handle).settled = false := by
    simp [settled, fresh, Watch.Handle.life, Watch.Lifecycle.outcome?, hphase]
  have hlife : (fresh handle).session.life.reported = false := hreported
  refine ⟨⟨⟨text, hpid⟩, ?_, ?_, hstarted, ?_⟩, hsettled⟩
  · rw [hsettled, hlife]
  · simp [hlife]
  · rw [hstopped, hlife]
    rfl

/-- An event of a watch keeps its records in order when each end that it makes known
is recorded. -/
theorem Accounted.step {records more : List Log.Record} (h : w.Accounted records)
    (hstep : w.session.step event = some (session, new))
    (hstarted : Log.mentions "watch_started" more = 0)
    (hstopped : Log.mentions "watch_stopped" more = Watch.ends new) :
    (w.next session new).Accounted (records ++ more) where
  pid_written := h.pid_written
  settled_eq := Watch.Session.step_settled hstep h.settled_eq
  ended := Watch.Session.step_reported hstep h.ended
  started := by rw [Log.mentions_append, h.started, hstarted]
  stopped := by
    rw [Log.mentions_append, h.stopped, hstopped, Nat.add_comm]
    exact Watch.Session.step_ends hstep

/-- What an event makes known can be written when the exit status can. -/
theorem canTell_of_step (hstep : w.session.step event = some (session, new))
    (hwritten : (w.next session new).Written) :
    ∀ notice ∈ Watch.notices new, Watch.Handle.CanTell notice := by
  intro notice hmem
  cases notice with
  | terminating => trivial
  | ignored => trivial
  | stopped returncode =>
      obtain ⟨-, rfl⟩ := Watch.Session.stopped_of_mem hstep hmem
      cases hcode : session.life.standing.returncode with
      | none => exact ⟨_, rfl⟩
      | some code =>
          have hshort : (Value.int code).overlong = false := hwritten code hcode
          exact ⟨_, by rw [Log.optionalInt, Value.spelled, hshort]; rfl⟩

/-- An exit status that can be written later can be written now. -/
theorem written_of_step (hstep : w.session.step event = some (session, new))
    (hwritten : (w.next session new).Written) : w.Written :=
  fun code hcode => hwritten code (Watch.Session.step_returncode hstep hcode)

end Watched

/-! ## A fleet -/

namespace Fleet

variable {f f' : Fleet} {origin : Journal} {n : Int}

/-- A fleet that started with a journal that counts `n` watches keeps the account:
the gauge has gone up by the watches that are live, the journal has grown by what has
been logged about the watches, and the records about each of them are in order. -/
structure Kept (origin : Journal) (n : Int) (f : Fleet) : Prop where
  gauge : f.scene.journal.Counts (n + f.live)
  records_eq : f.scene.journal.records = origin.records ++ f.log.map Prod.snd
  watches : ∀ (i : Nat) (w : Watched), f.watches[i]? = some w → w.Accounted (f.about i)
  /-- Nothing is logged about a watch that has not been handed over. -/
  later : ∀ i, f.watches.length ≤ i → f.about i = []

theorem kept_fresh {scene : Scene} (hn : scene.journal.Counts n) :
    (fresh scene).Kept scene.journal n where
  gauge := by
    have hlive : (fresh scene).live = 0 := List.countP_nil
    rwa [hlive, Int.ofNat_zero, Int.add_zero]
  records_eq := (List.append_nil _).symm
  watches := by
    intro i w hw
    cases hw
  later := fun _ _ => rfl

section Pass

variable {source : Option Nat} {scene : Scene} {new : List Log.Record} {i : Nat}

/-- What is about another watch or about none is not about this one. -/
theorem about_pass_of_ne (hsource : source ≠ some i) :
    (f.pass source scene).about i = f.about i := by
  have hnone : ((scene.journal.records.drop f.scene.journal.records.length).map (source, ·)).filter
      (fun entry => entry.1 == some i) = [] := by
    rw [List.filter_eq_nil_iff]
    intro entry hentry
    obtain ⟨r, -, rfl⟩ := List.mem_map.mp hentry
    simpa using hsource
  rw [about, pass, List.filter_append, hnone, List.append_nil, about]

theorem about_pass_self (hnew : scene.journal.records = f.scene.journal.records ++ new) :
    (f.pass (some i) scene).about i = f.about i ++ new := by
  rw [about, pass, List.filter_append, List.map_append, ← about, hnew, List.drop_left]
  simp [List.filter_map, Function.comp_def]

theorem records_pass (hrecords : f.scene.journal.records = origin.records ++ f.log.map Prod.snd)
    (hnew : scene.journal.records = f.scene.journal.records ++ new) :
    scene.journal.records = origin.records ++ (f.pass source scene).log.map Prod.snd := by
  rw [pass, hnew, List.drop_left, hrecords, List.map_append, List.map_map, List.append_assoc]
  congr 2
  exact (List.map_id new).symm

end Pass

/-- Going on without a word about watches keeps the account. -/
theorem Kept.pass_spared (h : f.Kept origin n) {scene : Scene}
    (hspares : f.scene.journal.Spares scene.journal) : (f.pass none scene).Kept origin n := by
  obtain ⟨new, hnew, -, -⟩ := hspares.records_eq
  have habout (i : Nat) : (f.pass none scene).about i = f.about i :=
    about_pass_of_ne (by simp)
  have hgauge := hspares.counts h.gauge
  refine ⟨?_, records_pass h.records_eq hnew, ?_, ?_⟩
  · rwa [Int.ofNat_zero, Int.add_zero, Int.sub_zero] at hgauge
  · intro i w hw
    rw [habout]
    exact h.watches i w hw
  · intro i hi
    rw [habout]
    exact h.later i hi

/-- A start keeps the account: the gauge goes up just in case a watch is handed
over. -/
theorem Kept.start (h : f.Kept origin n) {c : Client} (hspares : c.transport.SparesWatches)
    (layer : Index.Layer) : (f.start c layer).Kept origin n := by
  rcases runIn_startWatch_cases hspares layer h.gauge with ⟨failure, scene, hrun, hspared⟩ |
    ⟨handle, scene, text, hrun, htells, hpid, hphase, hreported⟩
  · rw [Fleet.start, hrun]
    exact h.pass_spared hspared
  · obtain ⟨new, hnew, hstarted, hstopped⟩ := htells.records_eq
    rw [Fleet.start, hrun]
    obtain ⟨haccounted, hsettled⟩ :=
      Watched.accounted_fresh hpid hphase hreported hstarted hstopped
    have hgauge := htells.counts h.gauge
    refine ⟨?_, records_pass h.records_eq hnew, ?_, ?_⟩
    · have hlive : (f.watches ++ [Watched.fresh handle]).countP (fun w => !w.settled) =
          f.live + 1 := by
        simp [live, List.countP_append, hsettled]
      have hsum : n + f.live + (1 : Nat) - (0 : Nat) = n + (f.live + 1 : Nat) := by omega
      rw [live, hlive, ← hsum]
      exact hgauge
    · intro i w hw
      show w.Accounted ((f.pass _ scene).about i)
      obtain hi | rfl | hi := Nat.lt_trichotomy i f.watches.length
      · rw [List.getElem?_append_left hi] at hw
        rw [about_pass_of_ne (mt Option.some.inj (Nat.ne_of_gt hi))]
        exact h.watches i w hw
      · rw [List.getElem?_concat_length] at hw
        obtain rfl := Option.some.inj hw
        rw [about_pass_self hnew, h.later _ (Nat.le_refl _), List.nil_append]
        exact haccounted
      · rw [List.getElem?_eq_none (by rw [List.length_append, List.length_singleton]; omega)] at hw
        cases hw
    · intro i hi
      show (f.pass _ scene).about i = []
      rw [List.length_append, List.length_singleton] at hi
      have hother : f.watches.length ≠ i := by omega
      rw [about_pass_of_ne (mt Option.some.inj hother)]
      exact h.later i (by omega)

/-- An event of a watch is a step of its session, and what it makes known is passed
on. -/
theorem proceed_eq_some {i : Nat} {event : Watch.Event} (h : f.proceed i event = some f') :
    ∃ w session new, f.watches[i]? = some w ∧ w.session.step event = some (session, new) ∧
      f' = { f.pass (some i) ((w.handle.announce new).runIn f.scene).2 with
        watches := f.watches.set i (w.next session new) } := by
  simp only [proceed, Option.bind_eq_bind, Option.bind_eq_some_iff, Option.pure_def] at h
  obtain ⟨w, hw, ⟨session, new⟩, hstep, heq⟩ := h
  exact ⟨w, session, new, hw, hstep, (Option.some.inj heq).symm⟩

/-- A watch that is not settled before and settled after an event is live no
longer. -/
theorem live_set {i : Nat} {w w' : Watched} (hw : f.watches[i]? = some w) {ends : Nat}
    (hends : ends + w.settled.toNat = w'.settled.toNat) :
    (f.watches.set i w').countP (fun w => !w.settled) + ends = f.live := by
  obtain ⟨hi, hget⟩ := List.getElem?_eq_some_iff.mp hw
  rw [List.countP_set hi, hget, ← live]
  have hlive : w.settled = false → 0 < f.live := fun hsettled =>
    List.countP_pos_iff.mpr ⟨w, List.mem_of_getElem? hw, by simp [hsettled]⟩
  cases hbefore : w.settled with
  | false =>
      have hpositive := hlive hbefore
      cases hafter : w'.settled with
      | false =>
          obtain rfl : ends = 0 := by simpa [hbefore, hafter] using hends
          simpa using Nat.sub_add_cancel hpositive
      | true =>
          obtain rfl : ends = 1 := by simpa [hbefore, hafter] using hends
          simpa using Nat.sub_add_cancel hpositive
  | true =>
      cases hafter : w'.settled with
      | false => simp [hbefore, hafter] at hends
      | true =>
          obtain rfl : ends = 0 := by simpa [hbefore, hafter] using hends
          simp

/-- An event of a watch keeps the account: the gauge goes down just in case the watch
is settled by it. -/
theorem Kept.proceed (h : f.Kept origin n) {i : Nat} {event : Watch.Event}
    (hproceed : f.proceed i event = some f') (hwritten : ∀ w ∈ f'.watches, w.Written) :
    f'.Kept origin n := by
  obtain ⟨w, session, new, hw, hstep, rfl⟩ := proceed_eq_some hproceed
  obtain ⟨hi, -⟩ := List.getElem?_eq_some_iff.mp hw
  have haccounted := h.watches i w hw
  obtain ⟨text, hpid⟩ := haccounted.pid_written
  obtain ⟨scene, hrun, htells⟩ := Watch.Handle.runIn_tell_all hpid
    (Watched.canTell_of_step hstep (hwritten _ (List.mem_set hi _))) h.gauge
  have hannounce : (w.handle.announce new).runIn f.scene = (.ok ⟨⟩, scene) := hrun
  rw [hannounce]
  obtain ⟨more, hmore, hstarted, hstopped⟩ := htells.records_eq
  have hnext := haccounted.step hstep hstarted hstopped
  refine ⟨?_, records_pass h.records_eq hmore, ?_, ?_⟩
  · have hends : Watch.ends new + w.settled.toNat = (w.next session new).settled.toNat := by
      rw [haccounted.settled_eq, hnext.settled_eq]
      exact Watch.Session.step_ends hstep
    have hlive := live_set hw hends
    have hgauge := htells.counts h.gauge
    have hsum : n + f.live + (0 : Nat) - (Watch.ends new : Nat) =
        n + ((f.watches.set i (w.next session new)).countP fun w => !w.settled : Nat) := by
      omega
    exact hsum ▸ hgauge
  · intro k v hv
    show v.Accounted ((f.pass _ scene).about k)
    by_cases hik : i = k
    · subst hik
      rw [List.getElem?_set_self hi] at hv
      obtain rfl := Option.some.inj hv
      rw [about_pass_self hmore]
      exact hnext
    · rw [List.getElem?_set_ne hik] at hv
      rw [about_pass_of_ne (mt Option.some.inj hik)]
      exact h.watches k v hv
  · intro k hk
    show (f.pass _ scene).about k = []
    rw [List.length_set] at hk
    have hik : i ≠ k := by omega
    rw [about_pass_of_ne (mt Option.some.inj hik)]
    exact h.later k hk

theorem Kept.step (h : f.Kept origin n) {happening : Happening}
    (hspares : ∀ c layer, happening = .start c layer → c.transport.SparesWatches)
    (hstep : f.step happening = some f') (hwritten : ∀ w ∈ f'.watches, w.Written) :
    f'.Kept origin n := by
  cases happening with
  | start c layer =>
      obtain rfl := Option.some.inj hstep
      exact h.start (hspares c layer rfl) layer
  | event i event => exact h.proceed hstep hwritten

/-- Exit statuses that can be written after a happening can be written before it. -/
theorem written_of_step {happening : Happening} (hstep : f.step happening = some f')
    (hwritten : ∀ w ∈ f'.watches, w.Written) : ∀ w ∈ f.watches, w.Written := by
  intro w hw
  cases happening with
  | start c layer =>
      obtain rfl := Option.some.inj hstep
      refine hwritten w ?_
      rw [Fleet.start]
      split
      · exact List.mem_append_left _ hw
      · exact hw
  | event i event =>
      obtain ⟨v, session, new, hv, hsession, rfl⟩ := proceed_eq_some hstep
      obtain ⟨hi, hget⟩ := List.getElem?_eq_some_iff.mp hv
      obtain ⟨k, hk⟩ := List.mem_iff_getElem?.mp hw
      by_cases hik : i = k
      · subst hik
        obtain rfl := Option.some.inj (hv.symm.trans hk)
        exact Watched.written_of_step hsession (hwritten _ (List.mem_set hi _))
      · refine hwritten w (List.mem_of_getElem? (i := k) ?_)
        rw [List.getElem?_set_ne hik, hk]

/-- Exit statuses stay, so those that can be written at the end of a run could be
written all along. -/
theorem written_of_run {happenings : List Happening} (hrun : f.run happenings = some f')
    (hwritten : ∀ w ∈ f'.watches, w.Written) : ∀ w ∈ f.watches, w.Written := by
  induction happenings generalizing f with
  | nil =>
      obtain rfl := Option.some.inj hrun
      exact hwritten
  | cons happening happenings ih =>
      simp only [run, Option.bind_eq_bind, Option.bind_eq_some_iff] at hrun
      obtain ⟨next, hstep, hrest⟩ := hrun
      exact written_of_step hstep (ih hrest)

theorem Kept.run (h : f.Kept origin n) {happenings : List Happening}
    (hspares : ∀ c layer, .start c layer ∈ happenings → c.transport.SparesWatches)
    (hrun : f.run happenings = some f') (hwritten : ∀ w ∈ f'.watches, w.Written) :
    f'.Kept origin n := by
  induction happenings generalizing f with
  | nil =>
      obtain rfl := Option.some.inj hrun
      exact h
  | cons happening happenings ih =>
      simp only [Fleet.run, Option.bind_eq_bind, Option.bind_eq_some_iff] at hrun
      obtain ⟨next, hstep, hrest⟩ := hrun
      have hnext := h.step (fun c layer heq => hspares c layer (heq ▸ List.mem_cons_self)) hstep
        (written_of_run hrest hwritten)
      exact ih hnext (fun c layer hmem => hspares c layer (List.mem_cons_of_mem _ hmem)) hrest

/-- The end of a watch is logged only after its child has ended. -/
theorem Kept.ended_of_logged (h : f.Kept origin n) {happening : Happening}
    (hstep : f.step happening = some f') {i : Nat} {w : Watched} (hw : f.watches[i]? = some w)
    (hlogged : Log.mentions "watch_stopped" (f'.about i) ≠
      Log.mentions "watch_stopped" (f.about i)) : w.running = false := by
  cases happening with
  | start c layer =>
      obtain rfl := Option.some.inj hstep
      obtain ⟨hi, -⟩ := List.getElem?_eq_some_iff.mp hw
      refine absurd (congrArg _ ?_) hlogged
      rw [Fleet.start]
      split
      · exact about_pass_of_ne (mt Option.some.inj (by omega))
      · exact about_pass_of_ne (by simp)
  | event k event =>
      obtain ⟨v, session, new, hv, hsession, rfl⟩ := proceed_eq_some hstep
      by_cases hki : k = i
      · subst hki
        obtain rfl := Option.some.inj (hv.symm.trans hw)
        rcases Watch.Session.step_cases hsession with hpasses | hsees
        · -- what passes the end by can be written, whatever the exit status is
          obtain ⟨text, hpid⟩ := (h.watches k v hw).pid_written
          have hcan (notice : Watch.Notice) (hmem : notice ∈ Watch.notices new) :=
            Watch.Handle.canTell_of_silent (hpasses.life.silent notice hmem)
          obtain ⟨scene, hrun, htells⟩ := Watch.Handle.runIn_tell_all hpid hcan h.gauge
          have hannounce : (v.handle.announce new).runIn f.scene = (.ok ⟨⟩, scene) := hrun
          obtain ⟨more, hmore, -, hstopped⟩ := htells.records_eq
          refine absurd ?_ hlogged
          show Log.mentions _ ((f.pass _ _).about k) = _
          rw [hannounce, about_pass_self hmore, Log.mentions_append, hstopped]
          exact congrArg _ hpasses.ends_eq_zero
        · exact hsees.life.ended
      · exact absurd (congrArg _ (about_pass_of_ne (mt Option.some.inj hki))) hlogged

/-- The watches of a fleet are accounted for: the gauge that counted `n` watches has
gone up by those that are live, and what is logged about each of them is logged once
and in time. -/
structure Balanced (origin : Journal) (n : Int) (f : Fleet) : Prop where
  gauge : f.scene.journal.Counts (n + f.live)
  never_below : ∀ m, f.scene.journal.Counts m → n ≤ m
  back : (∀ w ∈ f.watches, w.settled = true) → f.scene.journal.Counts n
  /-- Every record is either about one watch that has been handed over or about none. -/
  records_eq : f.scene.journal.records = origin.records ++ f.log.map Prod.snd
  later : ∀ i, f.watches.length ≤ i → f.about i = []
  started_once : ∀ i < f.watches.length, Log.mentions "watch_started" (f.about i) = 1
  stopped_once : ∀ i < f.watches.length, Log.mentions "watch_stopped" (f.about i) ≤ 1
  /-- The end of a watch is logged only after its child has ended. -/
  stopped_late : ∀ happening f', f.step happening = some f' →
    ∀ (i : Nat) (w : Watched), f.watches[i]? = some w →
      Log.mentions "watch_stopped" (f'.about i) ≠ Log.mentions "watch_stopped" (f.about i) →
        w.running = false
  ended : ∀ (i : Nat) (w : Watched), f.watches[i]? = some w →
    Log.mentions "watch_stopped" (f.about i) ≠ 0 → w.running = false

theorem Kept.balanced (h : f.Kept origin n) : f.Balanced origin n where
  gauge := h.gauge
  never_below := by
    intro m hm
    have heq := hm.eq h.gauge
    omega
  back := by
    intro hsettled
    have hlive : f.live = 0 := List.countP_eq_zero.mpr fun w hw => by simp [hsettled w hw]
    have hgauge := h.gauge
    rwa [hlive, Int.ofNat_zero, Int.add_zero] at hgauge
  records_eq := h.records_eq
  later := h.later
  started_once := fun i hi => (h.watches i _ (List.getElem?_eq_getElem hi)).started
  stopped_once := by
    intro i hi
    rw [(h.watches i _ (List.getElem?_eq_getElem hi)).stopped]
    exact Bool.toNat_le _
  stopped_late := fun _ _ hstep _ _ hw hlogged => h.ended_of_logged hstep hw hlogged
  ended := by
    intro i w hw hlogged
    have haccounted := h.watches i w hw
    rw [haccounted.stopped] at hlogged
    exact haccounted.ended (by simpa using hlogged)

end Fleet

/-- Whatever is started and whatever happens to the watches, in any order, every watch
is accounted for: the gauge is its starting value and the number of watches for which
neither the stop nor a caller who waits has completed, and each watch is logged as
started once and as stopped at most once, after its child has ended. -/
theorem run_balanced {scene : Scene} {n : Int} (hcounts : scene.journal.Counts n)
    {happenings : List Happening}
    (hspares : ∀ c layer, .start c layer ∈ happenings → c.transport.SparesWatches) {f : Fleet}
    (hrun : (Fleet.fresh scene).run happenings = some f) (hwritten : ∀ w ∈ f.watches, w.Written) :
    f.Balanced scene.journal n :=
  ((Fleet.kept_fresh hcounts).run hspares hrun hwritten).balanced

/-- Two watches are started, and two starts fail, one because of its options and one
because the engine cannot be started.  The first watch is stopped by a caller who is
given up, and the second goes on. -/
theorem run_balanced_two :
    let config : Index.Config := ⟨fun
      | .dbPath => .text "repo/index.db"
      | setting => setting.standard⟩
    let broken : Engine.Transport :=
      { Engine.Transport.scripted "engine" with
        spawn := fun _ _ => throw (.ledger (.spawn "engine" none)) }
    let c (transport : Engine.Transport) : Client := ⟨"repo", transport, .bool true, [], config,
      Command.callerRoom⟩
    let layer (interval : Int) : Index.Layer :=
      .value (.mapping [(.text "interval_ms", .int interval)])
    let happenings : List Happening :=
      [.start (c (.scripted "engine")) (layer 250), .start (c (.scripted "engine")) (layer 0),
        .event 0 (.call (.stop 20)), .event 0 .begin, .start (c broken) (layer 250),
        .event 0 (.cancel 0), .start (c (.scripted "engine")) (layer 500),
        .event 0 (.exit (-15)), .event 1 (.call .wait), .event 0 .finish]
    ∃ f, (Fleet.fresh .fresh).run happenings = some f ∧ f.watches.length = 2 ∧ f.live = 1 ∧
      f.Balanced .fresh 0 := by
  intro config broken c layer happenings
  have hrun : ((Fleet.fresh .fresh).run happenings).map (fun f => (f.watches.length, f.live,
      f.watches.map Watched.returncode)) = some (2, 1, [some (-15), none]) := by decide +kernel
  obtain ⟨f, hf, heq⟩ := Option.map_eq_some_iff.mp hrun
  simp only [Prod.mk.injEq] at heq
  obtain ⟨hlength, hlive, hcodes⟩ := heq
  have hscripted : (Engine.Transport.scripted "engine").SparesWatches :=
    Engine.sparesWatches_scripted "engine"
  have hbroken : broken.SparesWatches := fun _ _ => Action.spares_throw _
  refine ⟨f, hf, hlength, hlive, run_balanced Journal.counts_fresh ?_ hf ?_⟩
  · intro client options hmem
    simp only [happenings, List.mem_cons, Happening.start.injEq, reduceCtorEq, List.not_mem_nil,
      or_false, false_or] at hmem
    rcases hmem with ⟨rfl, -⟩ | ⟨rfl, -⟩ | ⟨rfl, -⟩ | ⟨rfl, -⟩
    · exact hscripted
    · exact hscripted
    · exact hbroken
    · exact hscripted
  · intro w hw
    refine Watched.written_of_word fun code hcode => ?_
    have hmem : w.returncode ∈ [some (-15), none] := hcodes ▸ List.mem_map_of_mem hw
    rw [hcode] at hmem
    obtain rfl : code = -15 := by simpa using hmem
    decide

end Client

end DocLedger
