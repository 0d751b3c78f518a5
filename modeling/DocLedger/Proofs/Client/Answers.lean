import DocLedger.Proofs.Client.Tasks
import DocLedger.Proofs.Report.Fits

/-!
# Answers to a task

A run of the engine that has come to its end is answered as the task declares, unless
its output is no report of the task.  Then the answer is a decode error, with two
exceptions: an integer of too many digits, and a pass that has applied less than
nothing.
-/

namespace DocLedger

open Engine (Completed)

namespace Task

/-- The answers that a task declares: a report in the normal form of its model, the
entries of a report, or the engine's own text. -/
inductive Declares : Task → Answer → Prop
  | report {task : Task} {model : Report.Model} {report : Value}
      (hmodel : task.model? = some model) (hother : model ≠ .log)
      (hfits : model.shape.Fits report) : Declares task (.report model report)
  | entries {collection docId : Value} {entries : List Value}
      (hfits : ∀ entry ∈ entries, Report.Model.logEntry.shape.Fits entry) :
      Declares (.operation (.log collection docId)) (.entries entries)
  | output {task : Task} (text : String) (hmodel : task.model? = none) :
      Declares task (.output text)

/-- What a task makes of a run of the engine. -/
def answer : Task → Completed → Except Failure Answer
  | operation op, run => Client.decode op run
  | sync _, run => do
    let report ← Report.decode .indexSync run.args run.stdout run.stderr
    if (Report.SyncPass.ofReport report).txsApplied < 0 then throw (.fault .decreasedCounter)
    return .report .indexSync report

/-- How a run of the engine is answered, by what its standard output is read as. -/
inductive Answered (task : Task) (run : Completed) : Except Failure Answer → Prop
  | declared {answer : Answer} (hdeclares : task.Declares answer)
      (hreads : ∀ model, task.model? = some model →
        ∃ report, Report.Reads model run.stdout report) : Answered task run (.ok answer)
  | undecodable {model : Report.Model} {reason : String} (hmodel : task.model? = some model)
      (hreads : ∀ report, ¬ Report.Reads model run.stdout report) :
      Answered task run (.error (.ledger (.decode reason run.args run.stderr)))
  | overlong {model : Report.Model} {count : Nat} (hmodel : task.model? = some model)
      (hlong : Report.Overlong run.stdout count) :
      Answered task run (.error (.fault (.tooManyDigitsRead count)))
  | decreased {layer : Index.Layer} {report : Value} (htask : task = .sync layer)
      (hreads : Report.Reads .indexSync run.stdout report)
      (hnegative : (Report.SyncPass.ofReport report).txsApplied < 0) :
      Answered task run (.error (.fault .decreasedCounter))

/-! ## How a run is answered -/

theorem answer_of_decode_error {task : Task} {model : Report.Model} {run : Completed}
    {failure : Failure} (hmodel : task.model? = some model)
    (h : Report.decode model run.args run.stdout run.stderr = .error failure) :
    task.answer run = .error failure := by
  cases task with
  | operation op =>
      have hmodel : op.model? = some model := hmodel
      rw [answer, Client.decode, hmodel]
      simp only [h]
      rfl
  | sync layer =>
      obtain rfl : Report.Model.indexSync = model := Option.some.inj hmodel
      rw [answer, h]
      rfl

theorem answer_sync_of_reads {layer : Index.Layer} {run : Completed} {report : Value}
    (h : Report.Reads .indexSync run.stdout report) :
    (Task.sync layer).answer run =
      if (Report.SyncPass.ofReport report).txsApplied < 0 then .error (.fault .decreasedCounter)
      else .ok (.report .indexSync report) := by
  rw [answer, Report.decode_of_reads h]
  by_cases hnegative : (Report.SyncPass.ofReport report).txsApplied < 0
  · simp only [bind, Except.bind, if_pos hnegative]
    rfl
  · simp only [bind, Except.bind, if_neg hnegative]
    rfl

/-- Output that is read as a report is answered with it, unless it is the report of a
pass with a negative number of transactions. -/
theorem answered_of_reads {task : Task} {model : Report.Model} {run : Completed}
    {report : Value} (hmodel : task.model? = some model)
    (h : Report.Reads model run.stdout report) : task.Answered run (task.answer run) := by
  have hreads (other : Report.Model) (hother : task.model? = some other) :
      ∃ report, Report.Reads other run.stdout report := by
    obtain rfl : model = other := Option.some.inj (hmodel.symm.trans hother)
    exact ⟨report, h⟩
  cases task with
  | operation op =>
      have hop : op.model? = some model := hmodel
      rw [answer, Client.decode, hop]
      simp only [Report.decode_of_reads h]
      cases op with
      | log collection docId =>
          obtain rfl : Report.Model.log = model := Option.some.inj hop
          exact .declared (.entries (Report.forall_of_fits_log h.fits)) hreads
      | push | applyCollection => cases hop
      | _ =>
          cases hop
          exact .declared (.report rfl (by decide) h.fits) hreads
  | sync layer =>
      obtain rfl : Report.Model.indexSync = model := Option.some.inj hmodel
      rw [answer_sync_of_reads h]
      split
      · next hnegative => exact .decreased rfl h hnegative
      · exact .declared (.report rfl (by decide) h.fits) hreads

/-- Every run is answered in one of these ways. -/
theorem answered (task : Task) (run : Completed) : task.Answered run (task.answer run) := by
  cases hmodel : task.model? with
  | none =>
      cases task with
      | sync layer => cases hmodel
      | operation op =>
          have hnone : op.model? = none := hmodel
          rw [answer, Client.decode, hnone]
          refine .declared (.output run.stdout hmodel) ?_
          rintro model hother
          rw [hmodel] at hother
          cases hother
  | some model =>
      rcases Report.decode_cases model run.args run.stdout run.stderr with
        ⟨report, hreads, -⟩ | ⟨hreads, -, reason, hdecode⟩ | ⟨count, hlong, hdecode⟩
      · exact answered_of_reads hmodel hreads
      · rw [answer_of_decode_error hmodel hdecode]
        exact .undecodable hmodel hreads
      · rw [answer_of_decode_error hmodel hdecode]
        exact .overlong hmodel hlong

end Task

end DocLedger
