import DocLedger.Proofs.Cli.Jobs
import DocLedger.Proofs.Cli.Verdict
import DocLedger.Proofs.Console.Escaped

/-!
# Jobs whose errors are handled

A job that fails with an error of the library can be handled: the error is printed in red and
the status is one.  No error of the library gets out of a handled job, and to handle a job is
to handle each of its parts.
-/

namespace DocLedger.Cli.Job

open Engine (Action Scene)

variable {α β : Type}

/-- Carry out an action and go on with its result; its failure is not handled. -/
def raise (a : Action α) : Job α := do ofExcept (← outcome a)

/-- Do a job, and end with its failure if it fails: an error of the library is printed. -/
def handled (w : World) (j : Job α) : Job α := do
  match ← attempt j with
  | .ok a => pure a
  | .error (.fails f) => fail w f
  | .error leave => throw leave

/-- Jobs that come to the same from everywhere are the same. -/
theorem ext {j k : Job α} (h : ∀ p, j.runIn p = k.runIn p) : j = k := funext h

theorem runIn_handled (w : World) (j : Job α) (p : Progress) :
    (handled w j).runIn p =
      match j.runIn p with
      | (.ok a, p') => (.ok a, p')
      | (.error (.fails f), p') => (fail w f).runIn p'
      | (.error (.exits code), p') => (.error (.exits code), p') := by
  rw [handled, runIn_bind_of_ok (runIn_attempt j p)]
  rcases j.runIn p with ⟨(_ | _) | _, p'⟩ <;> rfl

theorem runIn_raise_of_ok {act : Action α} {p : Progress} {a : α} {scene : Scene}
    (h : act.runIn p.scene = (.ok a, scene)) :
    (raise act).runIn p = (.ok a, { p with scene }) := by
  have houtcome := runIn_outcome act p
  rw [h] at houtcome
  exact runIn_bind_of_ok houtcome

theorem runIn_raise_of_error {act : Action α} {p : Progress} {f : Failure} {scene : Scene}
    (h : act.runIn p.scene = (.error f, scene)) :
    (raise act).runIn p = (.error (.fails f), { p with scene }) := by
  have houtcome := runIn_outcome act p
  rw [h] at houtcome
  exact runIn_bind_of_ok houtcome

/-! ## What is printed of an error -/

/-- An error of the library is always printed, and it is the end of the job.  A text without
backslashes and shortcodes is printed as it is. -/
theorem runIn_fail_ledger (w : World) (e : LedgerError) (p : Progress) :
    ∃ text, Console.render (inRed (Console.escape e.text)) = .ok text ∧
      (Console.Verbatim e.text.toList → text = e.text) ∧
      (fail w (.ledger e) : Job α).runIn p =
        (.error (.exits errorStatus),
          { p with complaints := p.complaints ++ printedPlain w.width text }) := by
  have hmarkup : (inRed (Console.escape e.text)).toList =
      Console.slashedTag 0 "red".toList ++ ((Console.escape e.text).toList ++
        Console.slashedTag 0 ('/' :: "red".toList)) := by
    have hopen : "[red]".toList = Console.slashedTag 0 "red".toList := by decide
    have hclose : "[/red]".toList = Console.slashedTag 0 ('/' :: "red".toList) := by decide
    rw [inRed, String.toList_append, String.toList_append, hopen, hclose, List.append_assoc]
  obtain ⟨text, hrender, hsame⟩ := Console.styleName_red.render_escape
    (.of_all (by decide) (by decide)) (.of_all (by decide) (by decide)) e.text hmarkup
  refine ⟨text, hrender, hsame, ?_⟩
  have hlines : markedLines w.width (inRed (Console.escape e.text)) =
      .ok (Console.wrap w.width .breaks text) := by
    rw [markedLines, hrender]
    rfl
  rw [fail, complain, hlines]
  rfl

/-! ## Jobs without errors of the library -/

/-- Whatever comes of a job, no error of the library gets out of it. -/
def Contained (j : Job α) : Prop := ∀ p e, (j.runIn p).1 ≠ .error (.fails (.ledger e))

theorem contained_of_ok {j : Job α} (h : ∀ p, ∃ a p', j.runIn p = (.ok a, p')) :
    Contained j := by
  intro p e hfails
  obtain ⟨a, p', hrun⟩ := h p
  rw [hrun] at hfails
  cases hfails

theorem contained_throw {leave : Leave} (h : ∀ e, leave ≠ .fails (.ledger e)) :
    Contained (throw leave : Job α) := by
  intro p e hfails
  rw [runIn_throw] at hfails
  exact h e (Except.error.inj hfails)

theorem contained_pure (a : α) : Contained (pure a) := contained_of_ok fun p => ⟨a, p, rfl⟩

theorem contained_exit (code : Int) : Contained (exit code : Job α) := contained_throw nofun

theorem contained_fault (f : Fault) : Contained (throw (.fails (.fault f)) : Job α) :=
  contained_throw nofun

theorem contained_ofExcept {x : Except Failure α} (h : ∀ e, x ≠ .error (.ledger e)) :
    Contained (ofExcept x) := by
  cases x with
  | ok a => exact contained_pure a
  | error f =>
      cases f with
      | ledger e => exact absurd rfl (h e)
      | fault f => exact contained_fault f

theorem mapError_fault_ne (x : Except Fault α) (e : LedgerError) :
    x.mapError Failure.fault ≠ .error (.ledger e) := by
  cases x <;> nofun

theorem Contained.bind {j : Job α} {f : α → Job β} (hj : Contained j)
    (hf : ∀ a, Contained (f a)) : Contained (j >>= f) := by
  intro p e
  have hfirst := hj p e
  rw [runIn_bind]
  rcases hrun : j.runIn p with ⟨leave | a, p'⟩
  · rw [hrun] at hfirst
    intro heq
    cases heq
    exact hfirst rfl
  · exact hf a p' e

theorem Contained.forM {f : α → Job Unit} (hf : ∀ a, Contained (f a)) (items : List α) :
    Contained (items.forM f) := by
  induction items with
  | nil => exact contained_pure _
  | cons item rest ih => exact (hf item).bind fun _ => ih

theorem contained_printLines (lines : List (List Char)) : Contained (printLines lines) :=
  contained_of_ok fun _ => ⟨(), _, rfl⟩

theorem contained_print (w : World) (markup : String) : Contained (print w markup) :=
  (contained_ofExcept (mapError_fault_ne _)).bind contained_printLines

theorem contained_printTable (w : World) (t : Console.Table) : Contained (printTable w t) :=
  (contained_ofExcept (mapError_fault_ne _)).bind contained_printLines

theorem contained_complain (w : World) (markup : String) : Contained (complain w markup) :=
  (contained_ofExcept (mapError_fault_ne _)).bind fun _ => contained_of_ok fun _ => ⟨(), _, rfl⟩

theorem contained_fail (w : World) (f : Failure) : Contained (fail w f : Job α) := by
  cases f with
  | ledger e => exact (contained_complain w _).bind fun _ => contained_exit _
  | fault f => exact contained_fault f

/-- No error of the library gets out of a job that is handled. -/
theorem contained_handled (w : World) (j : Job α) : Contained (handled w j) := by
  intro p e
  rw [runIn_handled]
  rcases j.runIn p with ⟨(_ | f) | _, p'⟩
  · nofun
  · exact contained_fail w f p' e
  · nofun

/-! ## Handling a job part by part -/

section

variable (w : World)

theorem handled_of_contained {j : Job α} (h : Contained j) : handled w j = j := by
  apply ext
  intro p
  have hp := h p
  rw [runIn_handled]
  rcases hrun : j.runIn p with ⟨(_ | f) | _, p'⟩
  · rfl
  · cases f with
    | ledger e =>
        rw [hrun] at hp
        exact absurd rfl (hp e)
    | fault f => rfl
  · rfl

theorem handled_bind (j : Job α) (f : α → Job β) :
    handled w (j >>= f) = handled w j >>= fun a => handled w (f a) := by
  apply ext
  intro p
  rw [runIn_handled, runIn_bind, runIn_bind, runIn_handled]
  rcases j.runIn p with ⟨(_ | failure) | a, p'⟩
  · rfl
  · obtain ⟨leave, after, hfail⟩ := runIn_fail w failure p'
    simp only [hfail]
  · exact (runIn_handled w (f a) p').symm

theorem handled_throw (f : Failure) : handled w (throw (.fails f)) = (fail w f : Job α) := by
  apply ext
  intro p
  rw [runIn_handled]
  rfl

theorem handled_ofExcept (x : Except Failure α) : handled w (ofExcept x) = orFail w x := by
  cases x with
  | ok a => exact handled_of_contained w (contained_pure a)
  | error f => exact handled_throw w f

theorem handled_raise (a : Action α) : handled w (raise a) = perform w a := by
  have houtcome : Contained (outcome a) :=
    contained_of_ok fun p => ⟨_, _, runIn_outcome a p⟩
  rw [raise, handled_bind, handled_of_contained w houtcome]
  exact congrArg (outcome a >>= ·) (funext fun x => handled_ofExcept w x)

end

end DocLedger.Cli.Job
