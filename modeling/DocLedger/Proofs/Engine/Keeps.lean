import DocLedger.Host.Transport
import DocLedger.Proofs.Engine.Calls

/-!
# What a transport leaves alone

A transport may log notes and report how commands have ended, under a logger of its
own, and it changes the journal in no other way.  So a relation between journals that
permits this holds between the journals before and after every call, whatever comes
of the call.
-/

namespace DocLedger.Engine

open Log (Event Journal)

variable {α β : Type} {R : Journal → Journal → Prop} {logger : String}

/-- An action whose journals before and after are related, whatever comes of it. -/
def Action.Keeps (R : Journal → Journal → Prop) (a : Action α) : Prop :=
  ∀ s : Scene, R s.journal (a.runIn s).2.journal

/-- The events of commands. -/
inductive EndsCommand : Event → Prop
  | completed (subcommand : Value) (duration : Log.Reading) (exitCode : Value) :
      EndsCommand (.commandCompleted subcommand duration exitCode)
  | failed (subcommand error exitCode : Value) :
      EndsCommand (.commandFailed subcommand error exitCode)

theorem EndsCommand.name_ne {e : Event} (he : EndsCommand e) {title : String}
    (hcompleted : "command_completed" ≠ title) (hfailed : "command_failed" ≠ title) :
    e.name ≠ title := by
  cases he with
  | completed => exact hcompleted
  | failed => exact hfailed

/-- A relation that holds between journals while nothing happens, while something is
noted or the end of a command is reported under a logger, and over several such steps. -/
structure Permits (logger : String) (R : Journal → Journal → Prop) : Prop where
  refl : ∀ j, R j j
  trans : ∀ {j k l}, R j k → R k l → R j l
  note : ∀ j level message, R j (j.log (.note level logger message))
  report : ∀ j {e}, EndsCommand e → R j (j.report logger e).2

namespace Permits

section Actions

variable (hR : Permits logger R)

include hR

theorem of_same {a : Action α} (h : ∀ s : Scene, (a.runIn s).2.journal = s.journal) :
    a.Keeps R := by
  intro s
  rw [h s]
  exact hR.refl s.journal

theorem keeps_pure (x : α) : (pure x : Action α).Keeps R := hR.of_same fun _ => rfl

theorem keeps_throw (f : Failure) : (throw f : Action α).Keeps R := hR.of_same fun _ => rfl

theorem keeps_ofExcept (x : Except Failure α) : (Action.ofExcept x).Keeps R :=
  hR.of_same fun s => by rw [Action.runIn_ofExcept]

theorem keeps_recordCall (call : Call) : (Action.recordCall call).Keeps R :=
  hR.of_same fun _ => rfl

theorem keeps_share (bytes : Bytes) : (Action.share bytes).Keeps R := hR.of_same fun _ => rfl

theorem keeps_note (level : Log.Level) (message : String) :
    (Action.log (.note level logger message)).Keeps R :=
  fun s => hR.note s.journal level message

theorem keeps_report {e : Event} (he : EndsCommand e) : (Action.report logger e).Keeps R := by
  intro s
  rw [Action.runIn_report]
  exact hR.report s.journal he

theorem keeps_bind {a : Action α} {f : α → Action β} (ha : a.Keeps R) (hf : ∀ x, (f x).Keeps R) :
    (a >>= f).Keeps R := by
  intro s
  have hfirst := ha s
  rw [Action.runIn_bind]
  cases hrun : a.runIn s with
  | mk result s' =>
  rw [hrun] at hfirst
  cases result with
  | error failure => exact hfirst
  | ok x => exact hR.trans hfirst (hf x s')

/-! ## The scripted transport -/

theorem keeps_nextReply : nextReply.Keeps R := by
  intro s
  rw [nextReply, Action.runIn_bind_of_ok (Action.runIn_get s)]
  cases s.replies <;> exact hR.refl s.journal

theorem keeps_scripted_run (executable : String) (inv : Invocation) :
    ((Transport.scripted executable).run inv).Keeps R := by
  apply hR.keeps_bind (hR.keeps_recordCall _)
  intro _
  apply hR.keeps_bind hR.keeps_nextReply
  intro reply
  cases reply with
  | output stdout stderr => exact hR.keeps_pure _
  | failure e => exact hR.keeps_throw _
  | interrupt => exact hR.keeps_throw _

theorem keeps_scripted_spawn (executable : String) (inv : Invocation) (stdio : Value) :
    ((Transport.scripted executable).spawn inv stdio).Keeps R := by
  apply hR.keeps_bind (hR.keeps_recordCall _)
  intro _
  apply hR.keeps_bind (hR.of_same fun _ => rfl)
  intro s
  cases s.start with
  | child c => exact hR.keeps_pure _
  | refusal cause => exact hR.keeps_throw _
  | interrupt => exact hR.keeps_throw _

end Actions

/-! ## The transport of a host -/

section Host

open DocLedger.Host

variable (hR : Permits transportLogger R)

include hR

theorem keeps_start (s : System) (executable label : String) (inv : Invocation) :
    (start s executable label inv).Keeps R := by
  apply hR.keeps_bind (hR.keeps_ofExcept _)
  intro args
  cases s.launch executable args inv.cwd inv.env with
  | started c => exact hR.keeps_pure c
  | rejected f => exact hR.keeps_throw _
  | refused r => exact hR.keeps_bind (hR.keeps_report (.failed _ _ _)) fun _ => hR.keeps_throw _

theorem keeps_conclude (executable label line : String) (limit : Int) (args : Command.Vector)
    (outcome : Outcome) : (conclude executable label line limit args outcome).Keeps R := by
  cases outcome with
  | endless => exact hR.keeps_throw _
  | overflow channel =>
      exact hR.keeps_bind (hR.keeps_report (.failed _ _ _)) fun _ => hR.keeps_throw _
  | ended code stdout stderr =>
      rw [conclude]
      by_cases hcode : (code == 0) = true
      · rw [if_pos hcode]
        exact hR.keeps_bind (hR.keeps_report (.completed _ _ _)) fun _ => hR.keeps_pure _
      · rw [if_neg hcode]
        exact hR.keeps_bind (hR.keeps_report (.failed _ _ _)) fun _ => hR.keeps_throw _

theorem keeps_run (s : System) (executable : String) (limit : Int) (inv : Invocation) :
    (run s executable limit inv).Keeps R := by
  apply hR.keeps_bind (hR.keeps_ofExcept _)
  intro label
  apply hR.keeps_bind (hR.keeps_ofExcept _)
  intro line
  apply hR.keeps_bind (hR.keeps_note _ _)
  intro _
  exact hR.keeps_bind (hR.keeps_start s executable label inv) fun c => hR.keeps_conclude _ _ _ _ _ _

theorem keeps_spawn (s : System) (executable : String) (inv : Invocation) (stdio : Value) :
    (spawn s executable inv stdio).Keeps R := by
  apply hR.keeps_bind (hR.keeps_ofExcept _)
  intro _
  apply hR.keeps_bind (hR.keeps_ofExcept _)
  intro line
  apply hR.keeps_bind (hR.keeps_note _ _)
  intro _
  apply hR.keeps_bind (hR.keeps_ofExcept _)
  intro label
  apply hR.keeps_bind (hR.keeps_start s executable label inv)
  intro c
  cases hpiped : Engine.pipes stdio with
  | false => exact hR.keeps_bind (hR.keeps_share _) fun _ => hR.keeps_pure _
  | true => exact hR.keeps_pure _

end Host

end Permits

end DocLedger.Engine
