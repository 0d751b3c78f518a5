import DocLedger.Watch.Lifecycle

/-!
# The moves of a watch

What each move can do is said once, by `Made`.  From it follows how far the stop
has come: the signals sent are those that its phase needs, and it is complete
only after the child has ended.
-/

namespace DocLedger.Watch

open Engine (Signal Standing)

/-- A move takes a watch from one life to the next. -/
inductive Lifecycle.Made (l : Lifecycle) : Move → Lifecycle → Prop
  | asked (hidle : l.phase = .idle) : Made l .request { l with phase := .requested }
  | askedAgain (hidle : l.phase ≠ .idle) : Made l .request l
  | terminating (hphase : l.phase = .requested) (hrunning : l.standing.running = true) :
      Made l .begin { l with standing := l.standing.signal .terminate, phase := .terminating }
  | needless (hphase : l.phase = .requested) (hended : l.standing.running = false) :
      Made l .begin { l with phase := .done l.standing.returncode, reported := true }
  | ended {code : Int} (hrunning : l.standing.running = true) :
      Made l (.exit code) { l with standing := l.standing.exit code }
  | expired (hphase : l.phase = .terminating) :
      Made l .expire { l with standing := l.standing.signal .kill, phase := .killing }
  | finished (hphase : l.phase = .terminating ∨ l.phase = .killing)
      (hended : l.standing.running = false) :
      Made l .finish { l with phase := .done l.standing.returncode, reported := true }
  | noticed (hended : l.standing.running = false) :
      Made l .notice { l with reported := true }

namespace Lifecycle

theorem report_fst (l : Lifecycle) : l.report.1 = { l with reported := true } := by
  unfold report
  split
  · next hreported => rw [← hreported]
  · rfl

theorem complete_fst (l : Lifecycle) :
    l.complete.1 = { l with phase := .done l.standing.returncode, reported := true } := by
  simp [complete, report_fst]

theorem made_of_step {l next : Lifecycle} {move : Move} {notices : List Notice}
    (h : l.step move = some (next, notices)) : l.Made move next := by
  cases move with
  | request =>
      simp only [step] at h
      split at h
      · next hidle =>
          cases h
          exact .asked hidle
      · next hidle =>
          cases h
          exact .askedAgain hidle
  | begin =>
      simp only [step] at h
      split at h
      · next hphase =>
          split at h
          · next hrunning =>
              cases h
              exact .terminating hphase hrunning
          · next hended =>
              have hnext : l.complete.1 = next := congrArg Prod.fst (Option.some.inj h)
              rw [← hnext, complete_fst]
              exact .needless hphase (Bool.not_eq_true _ ▸ hended)
      · cases h
  | exit code =>
      simp only [step] at h
      split at h
      · next hrunning =>
          cases h
          exact .ended hrunning
      · cases h
  | expire =>
      simp only [step] at h
      split at h
      · next hphase =>
          cases h
          exact .expired hphase
      · cases h
  | finish =>
      simp only [step] at h
      split at h
      · cases h
      · next hended =>
          split at h
          · next hphase =>
              have hnext : l.complete.1 = next := congrArg Prod.fst (Option.some.inj h)
              rw [← hnext, complete_fst]
              exact .finished hphase (Bool.not_eq_true _ ▸ hended)
          · cases h
  | notice =>
      simp only [step] at h
      split at h
      · cases h
      · next hended =>
          have hnext : l.report.1 = next := congrArg Prod.fst (Option.some.inj h)
          rw [← hnext, report_fst]
          exact .noticed (Bool.not_eq_true _ ▸ hended)

/-- How far the stop has come agrees with what has happened to the child: the
signals sent are those that the phase needs, and a stop that is complete has the
exit status. -/
structure Sound (l : Lifecycle) : Prop where
  waiting : l.phase = .idle ∨ l.phase = .requested → l.standing.sent = []
  terminating : l.phase = .terminating → l.standing.sent = [.terminate]
  sent : l.standing.sent <+: [.terminate, .kill]
  done : ∀ returncode, l.phase = .done returncode →
    l.standing.running = false ∧ returncode = l.standing.returncode

theorem fresh_sound : (fresh .fresh).Sound where
  waiting := fun _ => rfl
  terminating := nofun
  sent := List.nil_prefix
  done := nofun

theorem Sound.complete {l : Lifecycle} (h : l.Sound) (hended : l.standing.running = false) :
    Sound { l with phase := .done l.standing.returncode, reported := true } where
  waiting := by simp
  terminating := by simp
  sent := h.sent
  done := by
    intro returncode hphase
    cases hphase
    exact ⟨hended, rfl⟩

/-- Every move keeps the stop sound. -/
theorem Made.sound {l next : Lifecycle} {move : Move} (h : l.Made move next)
    (hsound : l.Sound) : next.Sound := by
  cases h with
  | asked hidle =>
      have hsent := hsound.waiting (Or.inl hidle)
      exact ⟨fun _ => hsent, by simp, hsound.sent, by simp⟩
  | askedAgain hidle => exact hsound
  | terminating hphase hrunning =>
      have hsent := hsound.waiting (Or.inr hphase)
      have hnow : (l.standing.signal .terminate).sent = [.terminate] := by
        simp [Standing.signal, hrunning, hsent]
      exact ⟨by simp, fun _ => hnow, by simp [hnow], by simp⟩
  | needless hphase hended => exact hsound.complete hended
  | @ended code hrunning =>
      have hstanding : l.standing.exit code = { l.standing with returncode := some code } :=
        if_pos hrunning
      rw [hstanding]
      refine ⟨hsound.waiting, hsound.terminating, hsound.sent, ?_⟩
      intro returncode hphase
      have hended := (hsound.done returncode hphase).1
      rw [hrunning] at hended
      cases hended
  | expired hphase =>
      have hsent := hsound.terminating hphase
      refine ⟨by simp, by simp, ?_, by simp⟩
      by_cases hrunning : l.standing.running = true
      · simp [Standing.signal, hrunning, hsent]
      · simp [Standing.signal, hrunning, hsent]
  | finished hphase hended => exact hsound.complete hended
  | noticed hended => exact ⟨hsound.waiting, hsound.terminating, hsound.sent, hsound.done⟩

theorem Made.sent_prefix {l next : Lifecycle} {move : Move} (h : l.Made move next) :
    l.standing.sent <+: next.standing.sent := by
  have hsignal (signal : Signal) : l.standing.sent <+: (l.standing.signal signal).sent := by
    simp only [Standing.signal]
    split
    · exact List.prefix_append _ _
    · exact List.prefix_refl _
  cases h with
  | terminating hphase hrunning => exact hsignal .terminate
  | expired hphase => exact hsignal .kill
  | @ended code hrunning =>
      simp only [Standing.exit, hrunning, if_true]
      exact List.prefix_refl _
  | _ => exact List.prefix_refl _

/-- Only a call begins the stop. -/
theorem Made.idle_iff {l next : Lifecycle} {move : Move} (h : l.Made move next)
    (hmove : move ≠ .request) : next.phase = .idle ↔ l.phase = .idle := by
  cases h with
  | asked hidle => exact absurd rfl hmove
  | askedAgain hidle => exact absurd rfl hmove
  | terminating hphase hrunning => simp [hphase]
  | needless hphase hended => simp [hphase]
  | expired hphase => simp [hphase]
  | finished hphase hended =>
      rcases hphase with hphase | hphase
      · simp [hphase]
      · simp [hphase]
  | ended hrunning => exact Iff.rfl
  | noticed hended => exact Iff.rfl

end Lifecycle

end DocLedger.Watch
