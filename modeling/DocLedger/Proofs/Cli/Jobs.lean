import DocLedger.Cli.Job

/-!
# Jobs part by part

A job is done one part after another, and a part that leaves ends it.  What prints or
complains leaves the scene as it is.
-/

namespace DocLedger.Cli.Job

open Engine (Action Scene)

section

variable {α β : Type}

theorem runIn_pure (a : α) (p : Progress) : (pure a : Job α).runIn p = (.ok a, p) := rfl

theorem runIn_throw (leave : Leave) (p : Progress) :
    (throw leave : Job α).runIn p = (.error leave, p) := rfl

theorem runIn_bind (j : Job α) (f : α → Job β) (p : Progress) :
    (j >>= f).runIn p =
      match j.runIn p with
      | (.ok a, p') => (f a).runIn p'
      | (.error leave, p') => (.error leave, p') := by
  unfold runIn ExceptT.run StateT.run
  simp only [bind, ExceptT.bind, ExceptT.mk, StateT.bind, ExceptT.bindCont]
  rcases j p with ⟨_ | _, p'⟩ <;> rfl

theorem runIn_bind_of_ok {j : Job α} {f : α → Job β} {p p' : Progress} {a : α}
    (h : j.runIn p = (.ok a, p')) : (j >>= f).runIn p = (f a).runIn p' := by
  rw [runIn_bind, h]

theorem runIn_bind_of_error {j : Job α} {f : α → Job β} {p p' : Progress} {leave : Leave}
    (h : j.runIn p = (.error leave, p')) : (j >>= f).runIn p = (.error leave, p') := by
  rw [runIn_bind, h]

theorem runIn_tryCatch (j : Job α) (handler : Leave → Job α) (p : Progress) :
    (tryCatch j handler).runIn p =
      match j.runIn p with
      | (.ok a, p') => (.ok a, p')
      | (.error leave, p') => (handler leave).runIn p' := by
  unfold runIn ExceptT.run StateT.run
  simp only [tryCatch, tryCatchThe, MonadExceptOf.tryCatch, ExceptT.tryCatch, ExceptT.mk, bind,
    StateT.bind]
  rcases j p with ⟨_ | _, p'⟩ <;> rfl

theorem runIn_attempt (j : Job α) (p : Progress) :
    (attempt j).runIn p = (.ok (j.runIn p).1, (j.runIn p).2) := by
  have hmap : (Except.ok <$> j : Job (Except Leave α)).runIn p =
      ((j.runIn p).1.map Except.ok, (j.runIn p).2) := by
    rw [← bind_pure_comp, runIn_bind]
    rcases j.runIn p with ⟨_ | _, p'⟩ <;> rfl
  rw [attempt, runIn_tryCatch, hmap]
  rcases j.runIn p with ⟨_ | _, p'⟩ <;> rfl

theorem runIn_outcome (a : Action α) (p : Progress) :
    (outcome a).runIn p = (.ok (a.runIn p.scene).1, { p with scene := (a.runIn p.scene).2 }) :=
  rfl

theorem runIn_perform_of_ok (w : World) {a : Action α} {p : Progress} {x : α} {scene : Scene}
    (h : a.runIn p.scene = (.ok x, scene)) :
    (perform w a).runIn p = (.ok x, { p with scene }) := by
  have houtcome := runIn_outcome a p
  rw [h] at houtcome
  exact runIn_bind_of_ok houtcome

theorem runIn_fail (w : World) (f : Failure) (p : Progress) :
    ∃ leave p', ∀ {γ : Type}, (fail w f : Job γ).runIn p = (.error leave, p') := by
  cases f with
  | ledger e =>
      rcases hcomplain : (complain w (inRed (Console.escape e.text))).runIn p with ⟨leave | _, p'⟩
      · exact ⟨leave, p', runIn_bind_of_error hcomplain⟩
      · exact ⟨.exits errorStatus, p', runIn_bind_of_ok hcomplain⟩
  | fault f => exact ⟨.fails (.fault f), p, rfl⟩

end

/-! ## Jobs that leave the scene as it is -/

/-- Whatever comes of a job, it leaves the scene as it is. -/
def Quiet {α : Type} (j : Job α) : Prop := ∀ p, (j.runIn p).2.scene = p.scene

section

variable {α β : Type}

theorem quiet_pure (a : α) : Quiet (pure a) := fun _ => rfl

theorem quiet_throw (leave : Leave) : Quiet (throw leave : Job α) := fun _ => rfl

theorem quiet_ofExcept (x : Except Failure α) : Quiet (ofExcept x) := by
  cases x with
  | ok a => exact quiet_pure a
  | error f => exact quiet_throw _

theorem Quiet.bind {j : Job α} {f : α → Job β} (hj : Quiet j) (hf : ∀ a, Quiet (f a)) :
    Quiet (j >>= f) := by
  intro p
  rw [runIn_bind]
  have hfirst := hj p
  rcases hrun : j.runIn p with ⟨leave | a, p'⟩
  · rwa [hrun] at hfirst
  · rw [hrun] at hfirst
    exact (hf a p').trans hfirst

theorem Quiet.forM {f : α → Job Unit} (hf : ∀ a, Quiet (f a)) (items : List α) :
    Quiet (items.forM f) := by
  induction items with
  | nil => exact quiet_pure _
  | cons item rest ih => exact (hf item).bind fun _ => ih

theorem quiet_printLines (lines : List (List Char)) : Quiet (printLines lines) := fun _ => rfl

theorem quiet_printTable (w : World) (t : Console.Table) : Quiet (printTable w t) :=
  (quiet_ofExcept _).bind quiet_printLines

theorem quiet_complain (w : World) (markup : String) : Quiet (complain w markup) :=
  (quiet_ofExcept _).bind fun _ _ => rfl

theorem quiet_fail (w : World) (f : Failure) : Quiet (fail w f : Job α) := by
  cases f with
  | ledger e => exact (quiet_complain w _).bind fun _ => quiet_throw _
  | fault f => exact quiet_throw _

end

end DocLedger.Cli.Job
