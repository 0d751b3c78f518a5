import DocLedger.Engine.Transport
import DocLedger.Index.Options

/-!
# Calls of the engine

An action runs in a scene one part after another, and a part that fails ends it.
A transport that keeps account of its calls adds one call to the scene whenever it
is used, whatever comes of the call.
-/

namespace DocLedger.Engine

namespace Action

variable {α β : Type}

@[simp]
theorem runIn_pure (a : α) (s : Scene) : (pure a : Action α).runIn s = (.ok a, s) := rfl

@[simp]
theorem runIn_throw (f : Failure) (s : Scene) :
    (throw f : Action α).runIn s = (.error f, s) := rfl

@[simp]
theorem runIn_get (s : Scene) : (get : Action Scene).runIn s = (.ok s, s) := rfl

@[simp]
theorem runIn_set (s s' : Scene) : (set s' : Action PUnit).runIn s = (.ok ⟨⟩, s') := rfl

@[simp]
theorem runIn_ofExcept (x : Except Failure α) (s : Scene) : (ofExcept x).runIn s = (x, s) := by
  cases x <;> rfl

@[simp]
theorem runIn_log (r : Log.Record) (s : Scene) :
    (log r).runIn s = (.ok (), { s with journal := s.journal.log r }) := rfl

@[simp]
theorem runIn_recordCall (call : Call) (s : Scene) :
    (recordCall call).runIn s = (.ok (), { s with calls := s.calls ++ [call] }) := rfl

theorem runIn_bind (a : Action α) (f : α → Action β) (s : Scene) :
    (a >>= f).runIn s =
      match a.runIn s with
      | (.ok x, s') => (f x).runIn s'
      | (.error e, s') => (.error e, s') := by
  unfold runIn ExceptT.run StateT.run
  simp only [bind, ExceptT.bind, ExceptT.mk, StateT.bind, ExceptT.bindCont]
  rcases a s with ⟨_ | _, s'⟩ <;> rfl

theorem runIn_bind_of_ok {a : Action α} {f : α → Action β} {s s' : Scene} {x : α}
    (h : a.runIn s = (.ok x, s')) : (a >>= f).runIn s = (f x).runIn s' := by
  rw [runIn_bind, h]

theorem runIn_bind_of_error {a : Action α} {f : α → Action β} {s s' : Scene} {e : Failure}
    (h : a.runIn s = (.error e, s')) : (a >>= f).runIn s = (.error e, s') := by
  rw [runIn_bind, h]

/-- Reporting an event changes the journal alone and fails with a fault, if it
fails. -/
theorem runIn_report (logger : String) (e : Log.Event) (s : Scene) :
    (report logger e).runIn s = (match (s.journal.report logger e).1 with
        | none => .ok ()
        | some fault => .error (.fault fault),
      { s with journal := (s.journal.report logger e).2 }) := by
  rw [report, runIn_bind_of_ok (runIn_get s)]
  rcases s.journal.report logger e with ⟨_ | fault, journal⟩ <;> rfl

end Action

/-- A transport that keeps account of its calls in the scene. -/
structure Transport.Records (t : Transport) : Prop where
  run_calls (inv : Invocation) (s : Scene) :
    ((t.run inv).runIn s).2.calls = s.calls ++ [⟨inv, none⟩]
  spawn_calls (inv : Invocation) (stdio : Value) (s : Scene) :
    ((t.spawn inv stdio).runIn s).2.calls = s.calls ++ [⟨inv, some stdio⟩]

/-- A transport that has nothing against a known way to attach the output: what it
complains about is not the configuration. -/
def Transport.Attaches (t : Transport) : Prop :=
  ∀ (inv : Invocation) (s : Scene) (word : String), word ∈ Index.stdioModes →
    ∀ message field value,
      ((t.spawn inv (.text word)).runIn s).1 ≠ .error (.ledger (.configuration message field value))

theorem runIn_nextReply (s : Scene) :
    ∃ reply s', nextReply.runIn s = (.ok reply, s') ∧ s'.calls = s.calls := by
  rw [nextReply, Action.runIn_bind_of_ok (Action.runIn_get s)]
  cases s.replies with
  | nil => exact ⟨.output "" "", s, rfl, rfl⟩
  | cons reply rest => exact ⟨reply, { s with replies := rest }, rfl, rfl⟩

/-- The scripted transport keeps account of its calls. -/
theorem records_scripted (executable : String) : (Transport.scripted executable).Records where
  run_calls inv s := by
    obtain ⟨reply, s', hreply, hcalls⟩ :=
      runIn_nextReply { s with calls := s.calls ++ [⟨inv, none⟩] }
    rw [Transport.scripted, Action.runIn_bind_of_ok (Action.runIn_recordCall _ s),
      Action.runIn_bind_of_ok hreply]
    cases reply <;> exact hcalls
  spawn_calls inv stdio s := by
    rw [Transport.scripted, Action.runIn_bind_of_ok (Action.runIn_recordCall _ s),
      Action.runIn_bind_of_ok (Action.runIn_get _)]
    cases s.start <;> rfl

theorem attaches_scripted (executable : String) : (Transport.scripted executable).Attaches := by
  intro inv s word hword message field value
  rw [Transport.scripted, Action.runIn_bind_of_ok (Action.runIn_recordCall _ s),
    Action.runIn_bind_of_ok (Action.runIn_get _)]
  cases s.start <;> nofun

end DocLedger.Engine
