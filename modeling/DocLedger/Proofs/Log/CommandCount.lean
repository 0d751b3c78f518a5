import DocLedger.Proofs.Log.WatchCount
import Mathlib.Algebra.Ring.Int.Defs

/-!
# The count of commands

Commands are counted by subcommand and status, and the time of those that succeed
is observed.  As long as the counter holds whole numbers, which it does from the
start, an event of a command adds one to one series and leaves the others alone.
-/

namespace DocLedger.Metrics

open Number (Amount)

def wholeOf : Amount → Int
  | .whole n => n
  | _ => 0

def IsWhole (a : Amount) : Prop := ∃ n, a = .whole n

/-! ## Series -/

namespace Sums

theorem amount_set (t : Sums) (key other : Key) (a : Amount) :
    Sums.amount (t.set key a) other = if other = key then a else t.amount other := by
  split
  · next h =>
      subst h
      rw [amount, Table.get?_set_self, Option.getD_some]
  · next h => rw [amount, Table.get?_set_of_ne t h, amount]

def total (t : Sums) : Int := (t.map fun entry => wholeOf entry.2).sum

/-- Putting a number into a series changes the sum of all by the difference. -/
theorem total_set (t : Sums) (key : Key) (n : Int) :
    total (t.set key (.whole n)) = t.total + n - wholeOf (t.amount key) := by
  induction t with
  | nil => simp [total, Table.set, amount, Table.get?, wholeOf]
  | cons entry rest ih =>
      obtain ⟨k, a⟩ := entry
      rw [Table.set]
      split
      · next hkey =>
          have hamount : amount ((k, a) :: rest) key = a := by simp [amount, Table.get?, hkey]
          rw [hamount]
          simp only [total, List.map_cons, List.sum_cons, wholeOf]
          omega
      · next hkey =>
          have hamount : amount ((k, a) :: rest) key = amount rest key := by
            rw [amount, amount, Table.get?, Table.get?,
              List.find?_cons_of_neg (by simpa using hkey)]
          rw [hamount]
          simp only [total, List.map_cons, List.sum_cons] at ih ⊢
          omega

end Sums

/-! ## Counters and histograms -/

/-- Adding a whole number to a counter all of whose amounts are whole. -/
theorem Counter.inc_of_whole {c : Counter} (hwhole : ∀ key, IsWhole (c.sums.amount key))
    {given : Given} {key : Key} (hkey : c.about.key given = .ok key) {n : Int} (hn : 0 ≤ n) :
    c.inc (.int n) given =
      .ok { c with sums := c.sums.set key (.whole (wholeOf (c.sums.amount key) + n)) } := by
  obtain ⟨m, hm⟩ := hwhole key
  have hless : Value.compareZero .less (.int n) = .ok false := by
    rw [Value.compareZero_int]
    simp [hn]
  have hsum : c.sums.add key (.int n) = .ok (c.sums.set key (.whole (m + n))) := by
    rw [Sums.add, hm]
    rfl
  rw [inc, hless, hkey, hm]
  simp only [bind, Except.bind, hsum]
  rfl

def AllDoubles (values : List Value) : Prop := ∀ v ∈ values, ∃ x, v = .float x

theorem itemFault?_of_allDoubles {bounds : List Value} (h : AllDoubles bounds) :
    Value.itemFault? bounds = none := by
  induction bounds with
  | nil => rfl
  | cons bound rest ih =>
      obtain ⟨x, rfl⟩ := h bound List.mem_cons_self
      have hkey : Value.keyFault? (.float x) = none := rfl
      rw [Value.itemFault?, hkey]
      exact ih fun v hv => h v (List.mem_cons_of_mem _ hv)

theorem countBelow_of_allDoubles (x : Float) {bounds : List Value} (h : AllDoubles bounds)
    (buckets : Buckets) : (countBelow (.float x) bounds buckets).1 = none := by
  induction bounds generalizing buckets with
  | nil => rfl
  | cons bound rest ih =>
      obtain ⟨y, rfl⟩ := h bound List.mem_cons_self
      have hcompare : Value.compare .atMost (.float x) (.float y) =
          .ok ((Number.exact x).le (Number.exact y)) := rfl
      rw [countBelow, hcompare]
      exact ih (fun v hv => h v (List.mem_cons_of_mem _ hv)) _

/-- A double that is observed is counted, if the sums so far are doubles. -/
theorem Histogram.observe_of_doubles {h : Histogram} (hbounds : AllDoubles h.bounds)
    {given : Given} {key : Key} (hkey : h.about.key given = .ok key)
    (hsum : ∃ x, (h.observations key).sum = .double x) (x : Float) :
    ∃ o, h.observe (.float x) given = (none, h.put key o) ∧
      o.count = (h.observations key).count + 1 ∧ ∃ y, o.sum = .double y := by
  obtain ⟨before, hbefore⟩ := hsum
  have hadd : addValue "+=" (.double before) (.float x) = .ok (.double (before + x)) := rfl
  have hbelow := countBelow_of_allDoubles x hbounds (h.observations key).buckets
  cases hbuckets : countBelow (.float x) h.bounds (h.observations key).buckets with
  | mk fault buckets =>
  rw [hbuckets] at hbelow
  obtain rfl : fault = none := hbelow
  refine ⟨⟨(h.observations key).count + 1, .double (before + x), buckets⟩, ?_, rfl, _, rfl⟩
  rw [observe, hkey, itemFault?_of_allDoubles hbounds]
  simp only [hbefore, hadd, hbuckets]

theorem Histogram.observations_put (h : Histogram) (key other : Key) (o : Observations) :
    (h.put key o).observations other = if other = key then o else h.observations other := by
  split
  · next heq =>
      subst heq
      rw [observations, put, Table.get?_set_self, Option.getD_some]
  · next hne => rw [observations, put, Table.get?_set_of_ne h.series hne, observations]

end DocLedger.Metrics

namespace DocLedger.Log

open Metrics

namespace ClientMetrics

/-- The counters hold whole numbers and the sums of the times are doubles, as they
are when nothing but events of a client is counted. -/
structure Sound (m : ClientMetrics) : Prop where
  commands_about : m.commands.about = fresh.commands.about
  commands_whole : ∀ key, IsWhole (m.commands.sums.amount key)
  applied_about : m.txsApplied.about = fresh.txsApplied.about
  applied_whole : ∀ key, IsWhole (m.txsApplied.sums.amount key)
  latency_about : m.latency.about = fresh.latency.about
  latency_bounds : m.latency.bounds = standardBounds
  latency_sums : ∀ key, ∃ x, (m.latency.observations key).sum = .double x

theorem sound_fresh : fresh.Sound where
  commands_about := rfl
  commands_whole _ := ⟨0, rfl⟩
  applied_about := rfl
  applied_whole _ := ⟨0, rfl⟩
  latency_about := rfl
  latency_bounds := rfl
  latency_sums _ := ⟨_, rfl⟩

/-- How often a subcommand has ended with a status. -/
def commandCount (m : ClientMetrics) (label status : String) : Int :=
  match m.commands.get [("subcommand", .text label), ("status", .text status)] with
  | .ok amount => wholeOf amount
  | .error _ => 0

/-- How many commands have been counted altogether. -/
def commandTotal (m : ClientMetrics) : Int :=
  (m.commands.collect.map fun sample => wholeOf sample.value).sum

/-- How many times of a subcommand have been observed. -/
def latencyCount (m : ClientMetrics) (label : String) : Nat :=
  match m.latency.count [("subcommand", .text label)] with
  | .ok n => n
  | .error _ => 0

/-! ## What the counts are in terms of the series -/

theorem commandTotal_eq (m : ClientMetrics) : m.commandTotal = m.commands.sums.total := by
  simp [commandTotal, Counter.collect, Sums.samples, Sums.total, Function.comp_def]

theorem Sound.commands_key {m : ClientMetrics} (h : m.Sound) (label status : String) :
    m.commands.about.key [("subcommand", .text label), ("status", .text status)] =
      .ok [label, status] := by
  rw [h.commands_about]
  rfl

theorem Sound.latency_key {m : ClientMetrics} (h : m.Sound) (label : String) :
    m.latency.about.key [("subcommand", .text label)] = .ok [label] := by
  rw [h.latency_about]
  rfl

theorem Sound.commandCount_eq {m : ClientMetrics} (h : m.Sound) (label status : String) :
    m.commandCount label status = wholeOf (m.commands.sums.amount [label, status]) := by
  rw [commandCount, Counter.get, h.commands_key]
  rfl

theorem Sound.latencyCount_eq {m : ClientMetrics} (h : m.Sound) (label : String) :
    m.latencyCount label = (m.latency.observations [label]).count := by
  rw [latencyCount, Histogram.count, h.latency_key, Histogram.observations]
  cases hget : m.latency.series.get? [label] <;> simp [bind, Except.bind, hget, pure, Except.pure,
    Observations.none]

/-! ## What is counted -/

/-- Between two states one command has been counted, and its time where it has
succeeded. -/
structure CountsOne (before after : ClientMetrics) (label status : String) : Prop where
  total : after.commandTotal = before.commandTotal + 1
  commands : ∀ l s, after.commandCount l s =
    before.commandCount l s + if l = label ∧ s = status then 1 else 0
  latency : ∀ l, after.latencyCount l =
    before.latencyCount l + if l = label ∧ status = "success" then 1 else 0
  sound : after.Sound

/-- The bounds of the times are doubles. -/
theorem allDoubles_standardBounds : AllDoubles standardBounds := by
  simp [AllDoubles, standardBounds]

/-- One more command of a subcommand and a status is counted, while what is observed
of the times may change as well. -/
theorem Sound.inc_commands {m : ClientMetrics} (h : m.Sound) (label status : String) :
    ∃ commands, m.commands.inc (.int 1)
        [("subcommand", .text label), ("status", .text status)] = .ok commands ∧
      ∀ latency : Histogram,
        latency.about = m.latency.about → latency.bounds = m.latency.bounds →
        (∀ key, ∃ x, (latency.observations key).sum = .double x) →
        (∀ l, (latency.observations [l]).count = (m.latency.observations [l]).count +
          if l = label ∧ status = "success" then 1 else 0) →
        CountsOne m { m with commands := commands, latency := latency } label status := by
  refine ⟨_, Counter.inc_of_whole h.commands_whole (h.commands_key label status) (by decide), ?_⟩
  intro latency habout hbounds hsums hcount
  have hsound : Sound ⟨⟨m.commands.about, m.commands.sums.set [label, status]
      (.whole (wholeOf (m.commands.sums.amount [label, status]) + 1))⟩, latency, m.txsApplied,
      m.watches⟩ :=
    { commands_about := h.commands_about
      commands_whole := by
        intro key
        rw [Sums.amount_set]
        split
        · exact ⟨_, rfl⟩
        · exact h.commands_whole key
      applied_about := h.applied_about
      applied_whole := h.applied_whole
      latency_about := habout.trans h.latency_about
      latency_bounds := hbounds.trans h.latency_bounds
      latency_sums := hsums }
  refine ⟨?_, ?_, ?_, hsound⟩
  · rw [commandTotal_eq, commandTotal_eq, Sums.total_set]
    omega
  · intro l s
    rw [hsound.commandCount_eq, h.commandCount_eq, Sums.amount_set]
    simp only [List.cons.injEq, and_true]
    split
    · next heq => rw [heq.1, heq.2, wholeOf]
    · rw [Int.add_zero]
  · intro l
    rw [hsound.latencyCount_eq, h.latencyCount_eq]
    exact hcount l

theorem Sound.count_commandFailed {m : ClientMetrics} (h : m.Sound) (label : String)
    (error exitCode : Value) :
    ∃ m', m.count (.commandFailed (.text label) error exitCode) = (none, m') ∧
      CountsOne m m' label "failed" := by
  obtain ⟨commands, hinc, hcounts⟩ := h.inc_commands label "failed"
  refine ⟨{ m with commands := commands }, by simp [count, hinc], ?_⟩
  exact hcounts m.latency rfl rfl h.latency_sums fun l => by simp

theorem Sound.count_commandCompleted {m : ClientMetrics} (h : m.Sound) (label : String)
    (exitCode : Value) :
    ∃ m', m.count (.commandCompleted (.text label) hiddenDuration exitCode) = (none, m') ∧
      CountsOne m m' label "success" := by
  obtain ⟨commands, hinc, hcounts⟩ := h.inc_commands label "success"
  have hbounds : AllDoubles m.latency.bounds := h.latency_bounds ▸ allDoubles_standardBounds
  obtain ⟨o, hobserve, hcount, hsum⟩ :=
    Histogram.observe_of_doubles hbounds (h.latency_key label) (h.latency_sums [label]) 0.0
  have hseconds : durationSeconds hiddenDuration = .ok (.float 0.0) := rfl
  refine ⟨{ m with commands := commands, latency := m.latency.put [label] o },
    by simp [count, hinc, hseconds, hobserve], ?_⟩
  refine hcounts (m.latency.put [label] o) rfl rfl ?_ ?_
  · intro key
    rw [Histogram.observations_put]
    split
    · exact hsum
    · exact h.latency_sums key
  · intro l
    rw [Histogram.observations_put]
    by_cases hl : l = label
    · simp [hl, hcount]
    · simp [hl]

end ClientMetrics

namespace Journal

theorem report_commandFailed {j : Journal} (h : j.metrics.Sound) (logger label : String)
    (error : String) (exitCode : Value) :
    ∃ j', j.report logger (.commandFailed (.text label) (.text error) exitCode) = (none, j') ∧
      j.metrics.CountsOne j'.metrics label "failed" := by
  obtain ⟨m, hcount, hone⟩ := h.count_commandFailed label (.text error) exitCode
  obtain ⟨r, hrecord⟩ : ∃ r, (Event.commandFailed (.text label) (.text error) exitCode).record
      logger = .ok r := ⟨_, rfl⟩
  exact ⟨{ j.log r with metrics := m }, by simp [report, hrecord, hcount], hone⟩

theorem report_commandCompleted {j : Journal} (h : j.metrics.Sound) (logger label : String)
    (exitCode : Value) :
    ∃ j', j.report logger (.commandCompleted (.text label) hiddenDuration exitCode) = (none, j') ∧
      j.metrics.CountsOne j'.metrics label "success" := by
  obtain ⟨m, hcount, hone⟩ := h.count_commandCompleted label exitCode
  obtain ⟨r, hrecord⟩ : ∃ r, (Event.commandCompleted (.text label) hiddenDuration exitCode).record
      logger = .ok r := ⟨_, rfl⟩
  exact ⟨{ j.log r with metrics := m }, by simp [report, hrecord, hcount], hone⟩

end Journal

end DocLedger.Log
