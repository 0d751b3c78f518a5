import DocLedger.Proofs.Log.CommandCount

/-!
# The count of transactions

The transactions that a pass over the index has applied are counted by its mode.  A
pass that is reported adds its number to one series and leaves the others alone,
unless the number is negative: such a pass is logged, and then it is not counted.
-/

namespace DocLedger.Log

open Metrics

namespace ClientMetrics

/-- How many transactions have been counted for a mode. -/
def appliedCount (m : ClientMetrics) (mode : String) : Int :=
  match m.txsApplied.get [("mode", .text mode)] with
  | .ok amount => wholeOf amount
  | .error _ => 0

/-- So many transactions more have been counted for a mode than before, and no more for
any other mode. -/
def Adds (after before : ClientMetrics) (mode : String) (n : Int) : Prop :=
  ∀ other, after.appliedCount other = before.appliedCount other + if other = mode then n else 0

theorem adds_zero {after before : ClientMetrics} (h : after.txsApplied = before.txsApplied)
    (mode : String) : after.Adds before mode 0 := by
  intro other
  rw [appliedCount, appliedCount, h, ite_self, Int.add_zero]

theorem Adds.of_same {after middle before : ClientMetrics} {mode : String} {n : Int}
    (h : after.Adds middle mode n) (hsame : middle.txsApplied = before.txsApplied) :
    after.Adds before mode n := by
  intro other
  rw [h other, appliedCount, hsame, ← appliedCount]

/-- The counter of transactions is as it was made, and holds whole numbers. -/
structure CountsPasses (m : ClientMetrics) : Prop where
  about : m.txsApplied.about = fresh.txsApplied.about
  whole : ∀ key, IsWhole (m.txsApplied.sums.amount key)

theorem Sound.countsPasses {m : ClientMetrics} (h : m.Sound) : m.CountsPasses :=
  ⟨h.applied_about, h.applied_whole⟩

/-- The state in which so many more transactions have been counted for a mode. -/
def addApplied (m : ClientMetrics) (mode : String) (n : Int) : ClientMetrics :=
  { m with txsApplied := { m.txsApplied with
      sums := m.txsApplied.sums.set [mode]
        (.whole (wholeOf (m.txsApplied.sums.amount [mode]) + n)) } }

namespace CountsPasses

variable {m : ClientMetrics} (h : m.CountsPasses)

include h

theorem key (mode : String) : m.txsApplied.about.key [("mode", .text mode)] = .ok [mode] := by
  rw [h.about]
  rfl

theorem of_same {after : ClientMetrics} (hsame : after.txsApplied = m.txsApplied) :
    after.CountsPasses := by
  constructor
  · rw [hsame]
    exact h.about
  · rw [hsame]
    exact h.whole

theorem appliedCount_eq (mode : String) :
    m.appliedCount mode = wholeOf (m.txsApplied.sums.amount [mode]) := by
  rw [appliedCount, Counter.get, h.key]
  rfl

theorem addApplied (mode : String) (n : Int) : (m.addApplied mode n).CountsPasses where
  about := h.about
  whole key := by
    rw [ClientMetrics.addApplied, Sums.amount_set]
    split
    · exact ⟨_, rfl⟩
    · exact h.whole key

theorem adds_addApplied (mode : String) (n : Int) : (m.addApplied mode n).Adds m mode n := by
  intro other
  rw [(h.addApplied mode n).appliedCount_eq, h.appliedCount_eq, ClientMetrics.addApplied,
    Sums.amount_set]
  by_cases hmode : other = mode
  · simp [hmode, wholeOf]
  · simp [hmode]

/-- The transactions of a pass are counted for its mode, unless their number is negative. -/
theorem count_indexSynced (mode : String) (n : Int) (upserted deleted reset lastCommit : Value) :
    m.count (.indexSynced (.text mode) (.int n) upserted deleted reset lastCommit) =
      if n < 0 then (some .decreasedCounter, m) else (none, m.addApplied mode n) := by
  by_cases hnegative : n < 0
  · have hinc : m.txsApplied.inc (.int n) [("mode", .text mode)] = .error .decreasedCounter := by
      rw [Counter.inc, Value.compareZero_int]
      simp [hnegative, bind, Except.bind, throw, throwThe, MonadExceptOf.throw]
    rw [if_pos hnegative, count, hinc]
  · have hinc := Counter.inc_of_whole h.whole (h.key mode) (Int.not_lt.mp hnegative)
    rw [if_neg hnegative, count, hinc]
    rfl

end CountsPasses

theorem Sound.addApplied {m : ClientMetrics} (h : m.Sound) (mode : String) (n : Int) :
    (m.addApplied mode n).Sound :=
  { h with
    applied_about := h.applied_about
    applied_whole := (h.countsPasses.addApplied mode n).whole }

end ClientMetrics

/-- A pass whose counts are within the limit on digits has a record. -/
theorem Event.exists_record_indexSynced (logger mode : String) {applied upserted deleted : Int}
    (happlied : Number.tooLong applied = false) (hupserted : Number.tooLong upserted = false)
    (hdeleted : Number.tooLong deleted = false) (reset lastCommit : Value) :
    ∃ r, (Event.indexSynced (.text mode) (.int applied) (.int upserted) (.int deleted) reset
      lastCommit).record logger = .ok r := by
  have hspelled {n : Int} (hn : Number.tooLong n = false) :
      (Value.int n).spelled = .ok (Value.int n).plain := by
    rw [Value.spelled, Value.overlong, hn]
    rfl
  rw [Event.record, Event.message, hspelled happlied, hspelled hupserted, hspelled hdeleted]
  exact ⟨_, rfl⟩

theorem Event.logger_of_record {logger : String} {e : Event} {r : Record}
    (h : e.record logger = .ok r) : r.logger = logger := by
  rw [record] at h
  cases hmessage : e.message with
  | error fault =>
      rw [hmessage] at h
      cases h
  | ok message =>
      rw [hmessage] at h
      cases h
      rfl

def under (logger : String) (records : List Record) : List Record :=
  records.filter fun r => r.logger == logger

theorem under_append (logger : String) (xs ys : List Record) :
    under logger (xs ++ ys) = under logger xs ++ under logger ys :=
  List.filter_append xs ys

namespace Journal

/-- The report of a pass whose counts are within the limit on digits is logged; then
its transactions are counted, unless their number is negative. -/
theorem report_indexSynced {j : Journal} (h : j.metrics.CountsPasses) (logger mode : String)
    {applied upserted deleted : Int} (happlied : Number.tooLong applied = false)
    (hupserted : Number.tooLong upserted = false) (hdeleted : Number.tooLong deleted = false)
    (reset lastCommit : Value) :
    ∃ r, (Event.indexSynced (.text mode) (.int applied) (.int upserted) (.int deleted) reset
        lastCommit).record logger = .ok r ∧
      j.report logger (.indexSynced (.text mode) (.int applied) (.int upserted) (.int deleted)
        reset lastCommit) =
        if applied < 0 then (some .decreasedCounter, j.log r)
        else (none, { j.log r with metrics := j.metrics.addApplied mode applied }) := by
  obtain ⟨r, hrecord⟩ := Event.exists_record_indexSynced logger mode happlied hupserted hdeleted
    reset lastCommit
  refine ⟨r, hrecord, ?_⟩
  simp only [report, hrecord, h.count_indexSynced]
  split <;> rfl

/-- Between two journals nothing is said about passes over the index, and nothing at all
under a logger. -/
structure SparesPasses (logger : String) (before after : Journal) : Prop where
  applied : after.metrics.txsApplied = before.metrics.txsApplied
  records_eq : ∃ new, after.records = before.records ++ new ∧
    ∀ r ∈ new, r.logger ≠ logger ∧ r.event? ≠ some "index_synced"

variable {logger : String}

theorem SparesPasses.exists_new {j k : Journal} (h : j.SparesPasses logger k) :
    ∃ new, k.records = j.records ++ new ∧ mentions "index_synced" new = 0 ∧ under logger new = [] := by
  obtain ⟨new, hrecords, hnone⟩ := h.records_eq
  refine ⟨new, hrecords, ?_, ?_⟩
  · rw [mentions, List.countP_eq_zero]
    intro r hr
    simpa using (hnone r hr).2
  · rw [under, List.filter_eq_nil_iff]
    intro r hr
    simpa using (hnone r hr).1

theorem sparesPasses_refl (j : Journal) : j.SparesPasses logger j :=
  ⟨rfl, [], (List.append_nil _).symm, List.forall_mem_nil _⟩

theorem SparesPasses.trans {j k l : Journal} (hjk : j.SparesPasses logger k)
    (hkl : k.SparesPasses logger l) : j.SparesPasses logger l := by
  obtain ⟨first, hfirst, hnone⟩ := hjk.records_eq
  obtain ⟨second, hsecond, hnoneSecond⟩ := hkl.records_eq
  refine ⟨hkl.applied.trans hjk.applied, first ++ second, ?_, ?_⟩
  · rw [hsecond, hfirst, List.append_assoc]
  · rw [List.forall_mem_append]
    exact ⟨hnone, hnoneSecond⟩

/-- A note under another logger is not about a pass. -/
theorem sparesPasses_log (j : Journal) {other : String} (hother : other ≠ logger) (level : Level)
    (message : String) : j.SparesPasses logger (j.log (.note level other message)) :=
  ⟨rfl, [_], rfl, List.forall_mem_singleton.mpr ⟨hother, nofun⟩⟩

/-- Another event under another logger is not about a pass. -/
theorem sparesPasses_report (j : Journal) {other : String} (hother : other ≠ logger) {e : Event}
    (he : e.name ≠ "index_synced") : j.SparesPasses logger (j.report other e).2 := by
  rw [report]
  cases hrecord : e.record other with
  | error fault => exact j.sparesPasses_refl
  | ok r =>
      have hname := Event.record_eq_ok hrecord
      refine ⟨(j.metrics.count_leaves e).txsApplied he, [r], rfl,
        List.forall_mem_singleton.mpr ⟨?_, ?_⟩⟩
      · rw [Event.logger_of_record hrecord]
        exact hother
      · rw [hname]
        exact fun h => he (Option.some.inj h)

end Journal

end DocLedger.Log
