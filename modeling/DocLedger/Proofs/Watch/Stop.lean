import DocLedger.Proofs.Watch.Lifecycle
import DocLedger.Watch.Session

/-!
# A stop that is safe to ask for

Whatever the order of calls, of what happens to the child and of the clock, an
occurrence is permitted by the history before it: a signal goes only to a child
that has not ended, the second signal only after the first and after the
patience of the call that began the stop, and no call returns before the child
has ended.

The induction is on the events of a run.  It carries that the session agrees
with the history so far.
-/

namespace DocLedger.Watch

open Engine (Signal Standing)

namespace Occurrence

def signal? : Occurrence → Option Signal
  | .sent signal => some signal
  | _ => none

def code? : Occurrence → Option Int
  | .ended code => some code
  | _ => none

/-- The patience of a call that may begin the stop. -/
def patience? : Occurrence → Option Int
  | .called call => call.patience?
  | _ => none

end Occurrence

/-- The signals of a history, in order. -/
def signals (past : List Occurrence) : List Signal := past.filterMap Occurrence.signal?

/-- The exit statuses of a history, in order. -/
def endings (past : List Occurrence) : List Int := past.filterMap Occurrence.code?

/-- The patience of the first call that stops the watch. -/
def firstPatience (past : List Occurrence) : Option Int :=
  past.findSome? Occurrence.patience?

def Permitted (past : List Occurrence) : Occurrence → Prop
  | .sent .terminate => endings past = [] ∧ signals past = []
  | .sent .kill => endings past = [] ∧ signals past = [.terminate] ∧
      ∃ patience, firstPatience past = some patience ∧ .expired patience ∈ past
  | .ended _ => endings past = []
  | .returned call value => ∃ code, endings past = [code] ∧ value = call.result (some code)
  | _ => True

/-- Everything that happens after a history is permitted by what came before. -/
def Lawful : (past later : List Occurrence) → Prop
  | _, [] => True
  | past, x :: later => Permitted past x ∧ Lawful (past ++ [x]) later

theorem lawful_append {past xs ys : List Occurrence} :
    Lawful past (xs ++ ys) ↔ Lawful past xs ∧ Lawful (past ++ xs) ys := by
  induction xs generalizing past with
  | nil => simp [Lawful]
  | cons x xs ih => simp [Lawful, ih, and_assoc]

theorem Lawful.permitted {history past future : List Occurrence} {x : Occurrence}
    (h : Lawful [] history) (hx : history = past ++ x :: future) : Permitted past x := by
  rw [hx, lawful_append] at h
  exact h.2.1

theorem lawful_told (past : List Occurrence) (notices : List Notice) :
    Lawful past (notices.map .told) := by
  induction notices generalizing past with
  | nil => trivial
  | cons notice notices ih => exact ⟨trivial, ih _⟩

/-! ## What is told leaves no trace -/

section Views

variable (past more : List Occurrence)

theorem signals_append : signals (past ++ more) = signals past ++ signals more :=
  List.filterMap_append

theorem endings_append : endings (past ++ more) = endings past ++ endings more :=
  List.filterMap_append

theorem firstPatience_append :
    firstPatience (past ++ more) = (firstPatience past).or (firstPatience more) :=
  List.findSome?_append

end Views

theorem signals_told (notices : List Notice) : signals (notices.map .told) = [] := by
  induction notices with
  | nil => rfl
  | cons notice notices ih => exact ih

theorem endings_told (notices : List Notice) : endings (notices.map .told) = [] := by
  induction notices with
  | nil => rfl
  | cons notice notices ih => exact ih

theorem firstPatience_told (notices : List Notice) : firstPatience (notices.map .told) = none := by
  induction notices with
  | nil => rfl
  | cons notice notices ih => exact ih

/-! ## A session and its history -/

/-- A session agrees with a history. -/
structure Follows (s : Session) (past : List Occurrence) : Prop where
  sound : s.life.Sound
  sent : signals past = s.life.standing.sent
  ended : endings past = s.life.standing.returncode.toList
  patience : firstPatience past = s.patience
  begun : s.life.phase = .idle ↔ s.patience = none

theorem follows_fresh : Follows .fresh [] where
  sound := Lifecycle.fresh_sound
  sent := rfl
  ended := rfl
  patience := rfl
  begun := by simp [Session.fresh, Lifecycle.fresh]

namespace Follows

variable {s : Session} {past : List Occurrence}

theorem endings_eq_nil (h : Follows s past) (hrunning : s.life.standing.running = true) :
    endings past = [] := by
  rw [h.ended, Option.toList_eq_nil_iff]
  exact Option.isNone_iff_eq_none.mp hrunning

theorem endings_eq_singleton (h : Follows s past)
    (hended : s.life.standing.running = false) :
    ∃ code, endings past = [code] ∧ s.life.standing.returncode = some code := by
  cases hcode : s.life.standing.returncode with
  | none => simp [Standing.running, hcode] at hended
  | some code => exact ⟨code, by rw [h.ended, hcode]; rfl, rfl⟩

theorem extend (h : Follows s past) {next : Session} {new : List Occurrence}
    (hsound : next.life.Sound)
    (hsent : next.life.standing.sent = s.life.standing.sent ++ signals new)
    (hended : next.life.standing.returncode.toList =
      s.life.standing.returncode.toList ++ endings new)
    (hpatience : next.patience = s.patience.or (firstPatience new))
    (hbegun : next.life.phase = .idle ↔ next.patience = none) :
    Follows next (past ++ new) where
  sound := hsound
  sent := by rw [signals_append, h.sent, hsent]
  ended := by rw [endings_append, h.ended, hended]
  patience := by rw [firstPatience_append, h.patience, hpatience]
  begun := hbegun

/-- An occurrence of the callers alone is no news about the child. -/
theorem quiet (h : Follows s past) {x : Occurrence} (hsignal : x.signal? = none)
    (hcode : x.code? = none) (hpatience : x.patience? = none) : Follows s (past ++ [x]) := by
  refine h.extend h.sound ?_ ?_ ?_ h.begun
  · simp [signals, hsignal]
  · simp [endings, hcode]
  · simp [firstPatience, hpatience]

theorem release (h : Follows s past) (caller : Nat) : Follows (s.release caller) past :=
  ⟨h.sound, h.sent, h.ended, h.patience, h.begun⟩

/-- A call may return once the child has ended. -/
theorem returned (h : Follows s past) (hended : s.life.standing.running = false)
    (call : Call) :
    Lawful past [.returned call (call.result s.life.standing.returncode)] ∧
      Follows s (past ++ [.returned call (call.result s.life.standing.returncode)]) := by
  obtain ⟨code, hendings, hcode⟩ := h.endings_eq_singleton hended
  exact ⟨⟨⟨code, hendings, by rw [hcode]⟩, trivial⟩, h.quiet rfl rfl rfl⟩

end Follows

namespace Session

variable {s next : Session} {past new : List Occurrence}

theorem make_eq_some {move : Move} (h : s.make move = some (next, new)) :
    ∃ life notices, s.life.step move = some (life, notices) ∧ next = { s with life } ∧
      new = move.cause s.patience ++ notices.map .told ++
        (sentBetween s.life life).map .sent := by
  simp only [make, Option.bind_eq_bind, Option.bind_eq_some_iff, Option.pure_def] at h
  obtain ⟨⟨life, notices⟩, hstep, heq⟩ := h
  cases heq
  exact ⟨life, notices, hstep, rfl, rfl⟩

/-! ## What a move leaves in the history -/

theorem cause_lawful {life : Lifecycle} {move : Move} (h : Follows s past)
    (hmade : s.life.Made move life) : Lawful past (move.cause s.patience) := by
  cases hmade with
  | ended hrunning => exact ⟨h.endings_eq_nil hrunning, trivial⟩
  | expired hphase =>
      cases hpatience : s.patience with
      | none => trivial
      | some patience => exact ⟨trivial, trivial⟩
  | _ => trivial

theorem signals_cause (patience : Option Int) (move : Move) :
    signals (move.cause patience) = [] := by
  cases move with
  | expire => cases patience <;> rfl
  | _ => rfl

theorem firstPatience_cause (patience : Option Int) (move : Move) :
    firstPatience (move.cause patience) = none := by
  cases move with
  | expire => cases patience <;> rfl
  | _ => rfl

theorem endings_expire (patience : Option Int) :
    endings (Move.expire.cause patience) = [] := by
  cases patience <;> rfl

theorem signals_sent (sent : List Signal) : signals (sent.map .sent) = sent := by
  rw [signals, List.filterMap_map]
  exact List.filterMap_some

theorem endings_sent (sent : List Signal) : endings (sent.map .sent) = [] := by
  induction sent with
  | nil => rfl
  | cons signal sent ih => exact ih

theorem firstPatience_sent (sent : List Signal) : firstPatience (sent.map .sent) = none := by
  induction sent with
  | nil => rfl
  | cons signal sent ih => exact ih

theorem sentBetween_signal (l : Lifecycle) (signal : Signal) (phase : Phase) :
    sentBetween l { l with standing := l.standing.signal signal, phase } =
      if l.standing.running then [signal] else [] := by
  simp only [sentBetween, Standing.signal]
  split
  · exact List.drop_left
  · exact List.drop_length

theorem sent_lawful {life : Lifecycle} {move : Move} (notices : List Notice)
    (h : Follows s past) (hmade : s.life.Made move life) :
    Lawful (past ++ move.cause s.patience ++ notices.map .told)
      ((sentBetween s.life life).map .sent) := by
  have hsignals : signals (past ++ move.cause s.patience ++ notices.map .told) =
      s.life.standing.sent := by
    simp only [signals_append, signals_cause, signals_told, List.append_nil, h.sent]
  cases hmade with
  | terminating hphase hrunning =>
      rw [sentBetween_signal, if_pos hrunning]
      refine ⟨⟨?_, ?_⟩, trivial⟩
      · simp only [endings_append, endings_told, Move.cause, List.append_nil]
        exact h.endings_eq_nil hrunning
      · rw [hsignals]
        exact h.sound.waiting (Or.inr hphase)
  | expired hphase =>
      rw [sentBetween_signal]
      split
      · next hrunning =>
          obtain ⟨patience, hpatience⟩ : ∃ patience, s.patience = some patience := by
            rw [← Option.ne_none_iff_exists', ne_eq, ← h.begun, hphase]
            simp
          refine ⟨⟨?_, ?_, patience, ?_, ?_⟩, trivial⟩
          · simp only [endings_append, endings_told, endings_expire, List.append_nil]
            exact h.endings_eq_nil hrunning
          · rw [hsignals]
            exact h.sound.terminating hphase
          · simp only [firstPatience_append, firstPatience_cause, firstPatience_told,
              Option.or_none, h.patience, hpatience]
          · simp [Move.cause, hpatience]
      · trivial
  | ended hrunning => simp [sentBetween, Standing.exit, hrunning, Lawful]
  | _ => simp [sentBetween, Lawful]

theorem make_spec {move : Move} (hmake : s.make move = some (next, new))
    (hmove : move ≠ .request) (h : Follows s past) :
    Lawful past new ∧ Follows next (past ++ new) := by
  obtain ⟨life, notices, hstep, rfl, rfl⟩ := make_eq_some hmake
  have hmade := Lifecycle.made_of_step hstep
  constructor
  · rw [lawful_append, lawful_append, ← List.append_assoc]
    exact ⟨⟨cause_lawful h hmade, lawful_told _ notices⟩, sent_lawful notices h hmade⟩
  · refine h.extend (hmade.sound h.sound) ?_ ?_ ?_ ((hmade.idle_iff hmove).trans h.begun)
    · rw [signals_append, signals_append, signals_cause, signals_told, signals_sent]
      exact (List.prefix_iff_eq_append.mp hmade.sent_prefix).symm
    · rw [endings_append, endings_append, endings_told, endings_sent, List.append_nil,
        List.append_nil]
      cases hmade with
      | @ended code hrunning =>
          have hnone : s.life.standing.returncode = none := Option.isNone_iff_eq_none.mp hrunning
          simp [Standing.exit, hrunning, hnone, Move.cause, endings, Occurrence.code?]
      | expired hphase => rw [endings_expire, List.append_nil]; rfl
      | _ => exact (List.append_nil _).symm
    · rw [firstPatience_append, firstPatience_append, firstPatience_cause, firstPatience_told,
        firstPatience_sent]
      simp

/-! ## What an event leaves in the history -/

theorem make_request (s : Session) :
    s.make .request =
      some ({ s with life := { s.life with
        phase := if s.life.phase = .idle then .requested else s.life.phase } }, []) := by
  simp only [make, Lifecycle.step]
  by_cases hidle : s.life.phase = .idle
  · simp [hidle, Move.cause, sentBetween]
  · simp [hidle, Move.cause, sentBetween]

theorem take_spec {call : Call} (htake : s.take call = some (next, new))
    (h : Follows s past) : Lawful past new ∧ Follows next (past ++ new) := by
  unfold take at htake
  cases hpatience : call.patience? with
  | none =>
      simp only [hpatience] at htake
      cases htake
      have hquiet : Follows s (past ++ [.called call]) := h.quiet rfl rfl hpatience
      exact ⟨⟨trivial, trivial⟩, hquiet.sound, hquiet.sent, hquiet.ended, hquiet.patience,
        hquiet.begun⟩
  | some patience =>
      simp only [hpatience, make_request] at htake
      have hcalled : firstPatience [.called call] = some patience := by
        simp [firstPatience, Occurrence.patience?, hpatience]
      by_cases hidle : s.life.phase = .idle
      · simp only [hidle, if_true] at htake
        cases htake
        refine ⟨⟨trivial, trivial⟩, h.extend ?_ ?_ ?_ ?_ ?_⟩
        · exact (Lifecycle.Made.asked hidle).sound h.sound
        · exact (List.append_nil _).symm
        · exact (List.append_nil _).symm
        · rw [hcalled, h.begun.mp hidle]
          rfl
        · simp
      · simp only [hidle, if_false] at htake
        cases htake
        refine ⟨⟨trivial, trivial⟩, h.extend h.sound ?_ ?_ ?_ h.begun⟩
        · exact (List.append_nil _).symm
        · exact (List.append_nil _).symm
        · obtain ⟨first, hfirst⟩ := Option.ne_none_iff_exists'.mp (mt h.begun.mpr hidle)
          rw [hfirst]
          rfl

/-- A caller of the stop goes on with the exit status that the stop has found. -/
theorem resume_stop_spec {caller : Nat} {call : Call} (h : Follows s past)
    (hresume : (do
      let outcome ← s.life.outcome?
      return (s.release caller, [Occurrence.returned call (call.result outcome)])) =
        some (next, new)) :
    Lawful past new ∧ Follows next (past ++ new) := by
  simp only [Option.bind_eq_bind, Option.bind_eq_some_iff, Option.pure_def] at hresume
  obtain ⟨outcome, houtcome, heq⟩ := hresume
  cases heq
  have hphase : s.life.phase = .done outcome := by
    unfold Lifecycle.outcome? at houtcome
    split at houtcome
    · next hdone =>
        cases houtcome
        exact hdone
    · cases houtcome
  obtain ⟨hended, rfl⟩ := h.sound.done outcome hphase
  obtain ⟨hlawful, hfollows⟩ := h.returned hended call
  exact ⟨hlawful, hfollows.release caller⟩

theorem resume_spec {caller : Nat} {call : Call}
    (hresume : s.resume caller call = some (next, new)) (h : Follows s past) :
    Lawful past new ∧ Follows next (past ++ new) := by
  cases call with
  | stop patience => exact resume_stop_spec h hresume
  | leave => exact resume_stop_spec h hresume
  | wait =>
      simp only [resume, Option.bind_eq_bind, Option.bind_eq_some_iff, Option.pure_def] at hresume
      obtain ⟨⟨mid, made⟩, hmake, heq⟩ := hresume
      cases heq
      obtain ⟨hlawful, hmid⟩ := make_spec hmake (by simp) h
      obtain ⟨life, notices, hstep, rfl, -⟩ := make_eq_some hmake
      cases Lifecycle.made_of_step hstep with
      | noticed hended =>
          obtain ⟨hreturned, hfollows⟩ := hmid.returned hended .wait
          rw [lawful_append, ← List.append_assoc]
          exact ⟨⟨hlawful, hreturned⟩, hfollows.release caller⟩

theorem step_spec {event : Event} (hstep : s.step event = some (next, new))
    (h : Follows s past) : Lawful past new ∧ Follows next (past ++ new) := by
  cases event with
  | call call => exact take_spec hstep h
  | cancel caller =>
      simp only [step, Option.bind_eq_bind, Option.bind_eq_some_iff, Option.pure_def] at hstep
      obtain ⟨call, -, heq⟩ := hstep
      cases heq
      have hquiet : Follows s (past ++ [.cancelled call]) := h.quiet rfl rfl rfl
      exact ⟨⟨trivial, trivial⟩, hquiet.release caller⟩
  | resume caller =>
      simp only [step, Option.bind_eq_bind, Option.bind_eq_some_iff] at hstep
      obtain ⟨call, -, hresume⟩ := hstep
      exact resume_spec hresume h
  | begin => exact make_spec hstep (by simp) h
  | exit code => exact make_spec hstep (by simp) h
  | expire => exact make_spec hstep (by simp) h
  | finish => exact make_spec hstep (by simp) h

theorem run_spec {events : List Event} (hrun : s.run events = some (next, new))
    (h : Follows s past) : Lawful past new ∧ Follows next (past ++ new) := by
  induction events generalizing s past new with
  | nil =>
      cases hrun
      exact ⟨trivial, by rwa [List.append_nil]⟩
  | cons event events ih =>
      simp only [run, Option.bind_eq_bind, Option.bind_eq_some_iff, Option.pure_def] at hrun
      obtain ⟨⟨mid, first⟩, hstep, ⟨last, later⟩, hlater, heq⟩ := hrun
      cases heq
      obtain ⟨hfirst, hmid⟩ := step_spec hstep h
      obtain ⟨hlawful, hlast⟩ := ih hlater hmid
      rw [lawful_append, ← List.append_assoc]
      exact ⟨⟨hfirst, hlawful⟩, hlast⟩

end Session

/-! ## Every run -/

theorem ended_mem_iff {past : List Occurrence} {code : Int} :
    .ended code ∈ past ↔ code ∈ endings past := by
  rw [endings, List.mem_filterMap]
  constructor
  · intro hmem
    exact ⟨_, hmem, rfl⟩
  · rintro ⟨x, hx, hcode⟩
    cases x <;> cases hcode
    exact hx

theorem sent_mem_iff {past : List Occurrence} {signal : Signal} :
    .sent signal ∈ past ↔ signal ∈ signals past := by
  rw [signals, List.mem_filterMap]
  constructor
  · intro hmem
    exact ⟨_, hmem, rfl⟩
  · rintro ⟨x, hx, hsignal⟩
    cases x <;> cases hsignal
    exact hx

theorem count_sent (signal : Signal) (history : List Occurrence) :
    history.count (.sent signal) = (signals history).count signal := by
  rw [signals, List.count_filterMap, List.count]
  apply List.countP_congr
  intro x _
  cases x with
  | sent other => simp [Occurrence.signal?]
  | _ => simp [Occurrence.signal?]

theorem Follows.count_le_one {s : Session} {history : List Occurrence} (h : Follows s history)
    (signal : Signal) : history.count (.sent signal) ≤ 1 := by
  rw [count_sent, h.sent]
  have hcount := h.sound.sent.sublist.count_le signal
  refine Nat.le_trans hcount ?_
  cases signal <;> decide

/-- A child ends once, so all calls see the same exit status. -/
theorem Follows.ended_unique {s : Session} {history : List Occurrence} (h : Follows s history)
    {code code' : Int} (hcode : .ended code ∈ history) (hcode' : .ended code' ∈ history) :
    code = code' := by
  rw [ended_mem_iff, h.ended, Option.mem_toList] at hcode hcode'
  exact Option.some.inj (hcode.symm.trans hcode')

/-- A history in which the watch is stopped safely. -/
structure StopsSafely (history : List Occurrence) : Prop where
  terminate_once : history.count (.sent .terminate) ≤ 1
  kill_once : history.count (.sent .kill) ≤ 1
  /-- The second signal comes after the first, and after the patience of the first
  call that stops the watch. -/
  kill_late : ∀ past future, history = past ++ .sent .kill :: future →
    .sent .terminate ∈ past ∧
      ∃ patience, firstPatience past = some patience ∧ .expired patience ∈ past
  sent_to_living : ∀ past signal future, history = past ++ .sent signal :: future →
    ∀ code, .ended code ∉ past
  /-- A call returns only after the child has ended, with its exit status. -/
  returned_late : ∀ past call value future, history = past ++ .returned call value :: future →
    ∃ code, .ended code ∈ past ∧ value = call.result (some code)
  /-- All calls that ask for the stop return the same. -/
  returned_same : ∀ patience patience' value value',
    .returned (.stop patience) value ∈ history →
      .returned (.stop patience') value' ∈ history → value = value'

/-- Any number of callers stop a watch safely, in whatever order they call, are
given up and go on, whenever the child ends and whether or not the patience
runs out. -/
theorem run_stopsSafely {events : List Event} {s : Session} {history : List Occurrence}
    (hrun : Session.fresh.run events = some (s, history)) : StopsSafely history := by
  obtain ⟨hlawful, hfollows⟩ := Session.run_spec hrun follows_fresh
  rw [List.nil_append] at hfollows
  have hreturned : ∀ past call value future, history = past ++ .returned call value :: future →
      ∃ code, .ended code ∈ past ∧ value = call.result (some code) := by
    intro past call value future heq
    obtain ⟨code, hendings, hvalue⟩ := hlawful.permitted heq
    exact ⟨code, ended_mem_iff.mpr (by simp [hendings]), hvalue⟩
  refine ⟨hfollows.count_le_one .terminate, hfollows.count_le_one .kill, ?_, ?_, hreturned, ?_⟩
  · intro past future heq
    obtain ⟨-, hsignals, hexpired⟩ := hlawful.permitted heq
    exact ⟨sent_mem_iff.mpr (by simp [hsignals]), hexpired⟩
  · intro past signal future heq code hcode
    have hpermitted := hlawful.permitted heq
    have hendings : endings past = [] := by
      cases signal with
      | terminate => exact hpermitted.1
      | kill => exact hpermitted.1
    rw [ended_mem_iff, hendings] at hcode
    cases hcode
  · intro patience patience' value value' hvalue hvalue'
    obtain ⟨past, future, heq⟩ := List.append_of_mem hvalue
    obtain ⟨past', future', heq'⟩ := List.append_of_mem hvalue'
    obtain ⟨code, hcode, rfl⟩ := hreturned past (.stop patience) value future heq
    obtain ⟨code', hcode', rfl⟩ := hreturned past' (.stop patience') value' future' heq'
    have hin : .ended code ∈ history := heq ▸ List.mem_append_left _ hcode
    have hin' : .ended code' ∈ history := heq' ▸ List.mem_append_left _ hcode'
    rw [hfollows.ended_unique hin hin']
    rfl

/-- Two callers stop a child that ignores the first signal, with different
patience; the first is given up, and a third leaves. -/
theorem run_stopsSafely_killed :
    let events : List Event :=
      [.call (.stop 20), .call .wait, .begin, .call (.stop 900), .cancel 0, .expire,
        .call .leave, .exit (-9), .resume 1, .finish, .resume 2, .resume 3]
    let history : List Occurrence :=
      [.called (.stop 20), .called .wait, .told .terminating, .sent .terminate,
        .called (.stop 900), .cancelled (.stop 20), .expired 20, .told .ignored, .sent .kill,
        .called .leave, .ended (-9), .told (.stopped (some (-9))), .returned .wait (some (-9)),
        .returned (.stop 900) (some (-9)), .returned .leave none]
    let last : Session :=
      { life := ⟨⟨some (-9), [.terminate, .kill], [.terminate, .kill]⟩, .done (some (-9)), true⟩
        patience := some 20
        callers := [⟨.stop 20, false⟩, ⟨.wait, false⟩, ⟨.stop 900, false⟩, ⟨.leave, false⟩] }
    Session.fresh.run events = some (last, history) ∧ StopsSafely history := by
  intro events history last
  have hrun : Session.fresh.run events = some (last, history) := by decide
  exact ⟨hrun, run_stopsSafely hrun⟩

end DocLedger.Watch
