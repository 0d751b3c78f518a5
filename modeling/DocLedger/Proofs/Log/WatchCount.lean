import DocLedger.Log.Event
import DocLedger.Proofs.Metrics.Series

/-!
# The count of watches

The gauge of watches goes up with each watch that is reported as started and down
with each that is reported as stopped.  No other event touches it.
-/

namespace DocLedger.Metrics

namespace Gauge

theorem inc_of_get {g : Gauge} {given : Given} {n : Int}
    (hget : g.get given = .ok (.whole n)) (amount : Int) :
    ∃ g', g.inc (.int amount) given = .ok g' ∧ g'.get given = .ok (.whole (n + amount)) := by
  rw [get] at hget
  cases hkey : g.about.key given with
  | error fault => rw [hkey] at hget; cases hget
  | ok key =>
      rw [hkey] at hget
      have hamount : g.sums.amount key = .whole n := Except.ok.inj hget
      refine ⟨{ g with sums := g.sums.set key (.whole (n + amount)) }, ?_, ?_⟩
      · have hsum : g.sums.add key (.int amount) = .ok (g.sums.set key (.whole (n + amount))) := by
          rw [Sums.add, hamount]
          rfl
        rw [inc, hkey]
        simp only [bind, Except.bind, hsum]
        rfl
      · simp [get, hkey, Except.map, Sums.amount, Table.get?_set_self]

theorem dec_of_get {g : Gauge} {given : Given} {n : Int}
    (hget : g.get given = .ok (.whole n)) (amount : Int) :
    ∃ g', g.dec (.int amount) given = .ok g' ∧ g'.get given = .ok (.whole (n - amount)) :=
  inc_of_get hget (-amount)

end Gauge

end DocLedger.Metrics

namespace DocLedger.Log

open Metrics

def Record.event? (r : Record) : Option String :=
  match r.extra.lookup "event" with
  | some (.text name) => some name
  | _ => none

/-- How many records are about an event of a name. -/
def mentions (name : String) (records : List Record) : Nat :=
  records.countP fun r => r.event? == some name

theorem mentions_append (name : String) (xs ys : List Record) :
    mentions name (xs ++ ys) = mentions name xs + mentions name ys :=
  List.countP_append

theorem mentions_singleton {r : Record} {title : String} (h : r.event? = some title)
    (name : String) : mentions name [r] = if title = name then 1 else 0 := by
  simp [mentions, List.countP_cons, h]

namespace Event

theorem record_eq_ok {logger : String} {e : Event} {r : Record} (h : e.record logger = .ok r) :
    r.event? = some e.name := by
  rw [record] at h
  cases hmessage : e.message with
  | error fault => rw [hmessage] at h; cases h
  | ok message =>
      rw [hmessage] at h
      cases h
      rfl

/-- The end of a watch has a record where the process number and the exit status
can be written. -/
theorem watchStopped_record {pid : Reading} {text : String} (hpid : pid.spelled = .ok text)
    {returncode : Value} {code : String} (hcode : returncode.spelled = .ok code)
    (logger : String) : ∃ r, (watchStopped pid returncode).record logger = .ok r := by
  rw [record, message, hpid, hcode]
  exact ⟨_, rfl⟩

/-- The start of a watch has a record only where the process number can be
written. -/
theorem pid_spelled_of_record {pid : Reading} {interval jitter : Value} {logger : String}
    {r : Record} (h : (watchStarted pid interval jitter).record logger = .ok r) :
    ∃ text, pid.spelled = .ok text := by
  cases hpid : pid.spelled with
  | error fault => rw [record, message, hpid] at h; cases h
  | ok text => exact ⟨text, rfl⟩

end Event

namespace ClientMetrics

/-- Each metric is left alone by the events of other names than its own. -/
structure Leaves (name : String) (before after : ClientMetrics) : Prop where
  commands : name ≠ "command_completed" → name ≠ "command_failed" →
    after.commands = before.commands
  latency : name ≠ "command_completed" → after.latency = before.latency
  txsApplied : name ≠ "index_synced" → after.txsApplied = before.txsApplied
  watches : name ≠ "watch_started" → name ≠ "watch_stopped" → after.watches = before.watches

theorem leaves_refl (name : String) (m : ClientMetrics) : Leaves name m m :=
  ⟨fun _ _ => rfl, fun _ => rfl, fun _ => rfl, fun _ _ => rfl⟩

theorem count_leaves (m : ClientMetrics) (e : Event) : Leaves e.name m (m.count e).2 := by
  cases e with
  | commandCompleted subcommand duration exitCode =>
      simp only [count]
      split
      · exact leaves_refl _ m
      · split <;> exact ⟨fun h => absurd rfl h, fun h => absurd rfl h, fun _ => rfl, fun _ _ => rfl⟩
  | commandFailed subcommand error exitCode =>
      simp only [count]
      split
      · exact leaves_refl _ m
      · exact ⟨fun _ h => absurd rfl h, fun _ => rfl, fun _ => rfl, fun _ _ => rfl⟩
  | indexSynced mode applied upserted deleted reset lastCommit =>
      simp only [count]
      split
      · exact leaves_refl _ m
      · exact ⟨fun _ _ => rfl, fun _ => rfl, fun h => absurd rfl h, fun _ _ => rfl⟩
  | watchStarted pid interval jitter =>
      simp only [count]
      split
      · exact leaves_refl _ m
      · exact ⟨fun _ _ => rfl, fun _ => rfl, fun _ => rfl, fun h => absurd rfl h⟩
  | watchStopped pid returncode =>
      simp only [count]
      split
      · exact leaves_refl _ m
      · exact ⟨fun _ _ => rfl, fun _ => rfl, fun _ => rfl, fun _ h => absurd rfl h⟩

end ClientMetrics

namespace Journal

/-- A journal counts so many watches. -/
def Counts (j : Journal) (n : Int) : Prop := j.metrics.watches.get [] = .ok (.whole n)

theorem counts_fresh : fresh.Counts 0 := rfl

/-- A journal counts one number of watches. -/
theorem Counts.eq {j : Journal} {m n : Int} (hm : j.Counts m) (hn : j.Counts n) : m = n :=
  Number.Amount.whole.inj (Except.ok.inj (hm.symm.trans hn))

/-- Between two journals so many watches have started and so many have ended: that
is what the records say, and the count follows. -/
structure Tells (before after : Journal) (starts ends : Nat) : Prop where
  counts : ∀ {n}, before.Counts n → after.Counts (n + starts - ends)
  records_eq : ∃ new, after.records = before.records ++ new ∧
    mentions "watch_started" new = starts ∧ mentions "watch_stopped" new = ends

/-- Between two journals nothing is said about watches. -/
abbrev Spares (before after : Journal) : Prop := before.Tells after 0 0

theorem spares_of_records {j k : Journal} (hwatches : k.metrics.watches = j.metrics.watches)
    {new : List Record} (hrecords : k.records = j.records ++ new)
    (hstarted : mentions "watch_started" new = 0) (hstopped : mentions "watch_stopped" new = 0) :
    j.Spares k where
  counts := by
    intro n hn
    have hsum : n + (0 : Nat) - (0 : Nat) = n := by omega
    rw [hsum, Counts, hwatches]
    exact hn
  records_eq := ⟨new, hrecords, hstarted, hstopped⟩

theorem spares_refl (j : Journal) : j.Spares j :=
  spares_of_records rfl (List.append_nil _).symm rfl rfl

theorem Tells.trans {j k l : Journal} {starts ends starts' ends' : Nat}
    (hjk : j.Tells k starts ends) (hkl : k.Tells l starts' ends') :
    j.Tells l (starts + starts') (ends + ends') := by
  obtain ⟨first, hfirst, hstarts, hends⟩ := hjk.records_eq
  obtain ⟨second, hsecond, hstarts', hends'⟩ := hkl.records_eq
  refine ⟨fun {n} hn => ?_, first ++ second, ?_, ?_, ?_⟩
  · have hsum : n + (starts + starts' : Nat) - (ends + ends' : Nat) =
        n + starts - ends + starts' - ends' := by omega
    rw [hsum]
    exact hkl.counts (hjk.counts hn)
  · rw [hsecond, hfirst, List.append_assoc]
  · rw [mentions_append, hstarts, hstarts']
  · rw [mentions_append, hends, hends']

/-- A note is not about a watch. -/
theorem spares_log (j : Journal) (level : Level) (logger message : String) :
    j.Spares (j.log (.note level logger message)) :=
  spares_of_records rfl rfl rfl rfl

/-- Another event than the start or the end of a watch is not taken for one. -/
theorem spares_report (j : Journal) (logger : String) {e : Event}
    (hstarted : e.name ≠ "watch_started") (hstopped : e.name ≠ "watch_stopped") :
    j.Spares (j.report logger e).2 := by
  rw [report]
  split
  · exact spares_refl j
  · next r hrecord =>
      have hname := Event.record_eq_ok hrecord
      have hrecords : (j.log r).records = j.records ++ [r] := rfl
      refine spares_of_records ((j.metrics.count_leaves e).watches hstarted hstopped) hrecords ?_ ?_
      · rw [mentions_singleton hname, if_neg hstarted]
      · rw [mentions_singleton hname, if_neg hstopped]

/-- A record of an event, which is counted: so many starts and so many ends are
made known by it. -/
theorem tells_of_record {j k : Journal} {r : Record} {e : Event} {logger : String}
    (hrecord : e.record logger = .ok r) (hrecords : k.records = j.records ++ [r]) {n : Int}
    (hj : j.Counts n) {starts ends : Nat} (hk : k.Counts (n + starts - ends))
    (hstarts : (if e.name = "watch_started" then 1 else 0) = starts)
    (hends : (if e.name = "watch_stopped" then 1 else 0) = ends) : j.Tells k starts ends where
  counts := by
    intro m hm
    rwa [hm.eq hj]
  records_eq := by
    have hname := Event.record_eq_ok hrecord
    refine ⟨[r], hrecords, ?_, ?_⟩
    · rw [mentions_singleton hname, hstarts]
    · rw [mentions_singleton hname, hends]

/-- The start of a watch that has a record is counted; one that has none is passed
over. -/
theorem report_watchStarted {j : Journal} {n : Int} (hn : j.Counts n) (logger : String)
    (pid : Reading) (interval jitter : Value) :
    (∃ fault, j.report logger (.watchStarted pid interval jitter) = (some fault, j)) ∨
    ∃ j', j.report logger (.watchStarted pid interval jitter) = (none, j') ∧ j.Tells j' 1 0 ∧
      ∃ text, pid.spelled = .ok text := by
  cases hrecord : (Event.watchStarted pid interval jitter).record logger with
  | error fault => exact .inl ⟨fault, by rw [report, hrecord]⟩
  | ok r =>
      obtain ⟨watches, hinc, hget⟩ := Gauge.inc_of_get hn 1
      have hsum : n + (1 : Nat) - (0 : Nat) = n + 1 := by omega
      refine .inr ⟨{ j.log r with metrics := { j.metrics with watches } }, ?_,
        tells_of_record hrecord rfl hn (by rw [hsum]; exact hget) rfl rfl,
        Event.pid_spelled_of_record hrecord⟩
      simp [report, hrecord, ClientMetrics.count, hinc]

/-- The end of a watch is counted where it can be written. -/
theorem report_watchStopped {j : Journal} {n : Int} (hn : j.Counts n) (logger : String)
    {pid : Reading} {text : String} (hpid : pid.spelled = .ok text) {returncode : Value}
    {code : String} (hcode : returncode.spelled = .ok code) :
    ∃ j', j.report logger (.watchStopped pid returncode) = (none, j') ∧ j.Tells j' 0 1 := by
  obtain ⟨r, hrecord⟩ := Event.watchStopped_record hpid hcode logger
  obtain ⟨watches, hdec, hget⟩ := Gauge.dec_of_get hn 1
  have hsum : n + (0 : Nat) - (1 : Nat) = n - 1 := by omega
  refine ⟨{ j.log r with metrics := { j.metrics with watches } }, ?_,
    tells_of_record hrecord rfl hn (by rw [hsum]; exact hget) rfl rfl⟩
  simp [report, hrecord, ClientMetrics.count, hdec]

end Journal

end DocLedger.Log
