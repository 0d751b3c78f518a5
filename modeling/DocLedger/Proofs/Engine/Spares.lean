import DocLedger.Proofs.Engine.Keeps
import DocLedger.Proofs.Log.WatchCount

/-!
# Starts that leave the count of watches alone

A transport that starts a child may log and count what it does, but it does not say
that a watch has started or stopped.  The scripted transport and that of a host are
such transports.
-/

namespace DocLedger.Engine

open Log (Journal)

variable {α : Type}

/-- An action that says nothing about watches. -/
def Action.Spares (a : Action α) : Prop :=
  ∀ s : Scene, s.journal.Spares (a.runIn s).2.journal

/-- Notes and the ends of commands are not about watches. -/
theorem permits_spares (logger : String) : Permits logger Journal.Spares where
  refl j := j.spares_refl
  trans hjk hkl := hjk.trans hkl
  note j level message := j.spares_log level logger message
  report j _ he := by
    apply j.spares_report logger
    · exact he.name_ne (by decide) (by decide)
    · exact he.name_ne (by decide) (by decide)

theorem Action.spares_throw (f : Failure) : (throw f : Action α).Spares :=
  (permits_spares Host.transportLogger).keeps_throw f

/-- A transport whose starts say nothing about watches. -/
def Transport.SparesWatches (t : Transport) : Prop :=
  ∀ (inv : Invocation) (stdio : Value), (t.spawn inv stdio).Spares

theorem sparesWatches_scripted (executable : String) :
    (Transport.scripted executable).SparesWatches :=
  (permits_spares Host.transportLogger).keeps_scripted_spawn executable

end DocLedger.Engine

namespace DocLedger.Host

open Engine (Transport)

/-- The transport of a system reports a start that is refused, which is not about a
watch. -/
theorem sparesWatches_transport {s : System} {executable : String} {limit : Int}
    {t : Transport} (h : s.transport executable limit = .ok t) : t.SparesWatches := by
  rw [System.transport] at h
  split at h
  · cases h
  · cases h
    exact (Engine.permits_spares transportLogger).keeps_spawn s executable

end DocLedger.Host
