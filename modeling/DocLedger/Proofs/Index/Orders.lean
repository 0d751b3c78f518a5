import DocLedger.Proofs.Client.ReadBack
import DocLedger.Proofs.Index.WatchWords

/-!
# What the words of an index task say

The words of a sync or a watch are an order to the engine.  An order is read back
from its words, for each flag can only stand in one place and the path of the
database has a place of its own, whatever it spells.  So two tasks have the same
words just in case they give the same order.
-/

namespace DocLedger.Command

open Index (Config)
open Operation (NotFlagged takeFlag takeFlag_of_notFlagged)
open Client (bind_eq_ok)

/-! ## Orders and their words -/

/-- What the engine is told of a watch and not of a sync: the milliseconds between
two passes, those by which they vary, and whether passes without changes are left
out of the reports. -/
structure Pace where
  interval : Nat
  jitter : Nat
  onlyChanges : Bool
deriving DecidableEq

/-- What the engine is told of an index task.  A sync has no pace; where the
commits of a transaction are not bounded, the bound is zero. -/
structure IndexOrder where
  path : Value
  mode : String
  fast : Bool
  fetch : Bool
  batch : Nat
  pace : Option Pace

/-- A flag with a number in a unit, left out when the number is zero. -/
def numberFlag (flag unit : String) (n : Nat) : Vector :=
  if n = 0 then [] else words [flag, String.ofList (Number.natDigits n) ++ unit]

def Pace.words (p : Pace) : Vector :=
  numberFlag "--interval" "ms" p.interval ++
    (numberFlag "--jitter" "ms" p.jitter ++ flagIf p.onlyChanges "--only-changes")

def IndexOrder.task (o : IndexOrder) : IndexTask := if o.pace.isSome then .watch else .sync

def Pace.none : Pace := ⟨0, 0, false⟩

def IndexOrder.words (o : IndexOrder) : Vector :=
  Command.words ["index", o.task.word, "--db"] ++ o.path :: Command.words ["--mode", o.mode] ++
    ((o.pace.getD .none).words ++ (numberFlag "--batch-commits" "" o.batch ++
      (flagIf o.fast "--fast" ++ flagIf (!o.fetch) "--fetch=false")))

/-! ## Reading an order -/

/-- Whether a flag stands in front of some words, and the words behind it. -/
def takeMark (flag : String) : Vector → Bool × Vector
  | .text word :: rest => if word == flag then (true, rest) else (false, .text word :: rest)
  | words => (false, words)

/-- The number that a word writes before its unit; no word writes zero. -/
def numberOf : Value → Nat
  | .text s => Number.digitsValue (Number.spanDigits s.toList).1
  | _ => 0

/-- The pace that stands in front of some words, and the words behind it. -/
def takePace (words : Vector) : Pace × Vector :=
  let (interval, rest) := takeFlag "--interval" words
  let (jitter, rest) := takeFlag "--jitter" rest
  let (onlyChanges, rest) := takeMark "--only-changes" rest
  (⟨numberOf interval, numberOf jitter, onlyChanges⟩, rest)

def readOrder? : Vector → Option IndexOrder
  | .text "index" :: .text task :: .text "--db" :: path :: .text "--mode" :: .text mode :: rest =>
    let (pace, rest) := takePace rest
    let (batch, rest) := takeFlag "--batch-commits" rest
    let (fast, rest) := takeMark "--fast" rest
    some ⟨path, mode, fast, rest.isEmpty, numberOf batch,
      if task == "watch" then some pace else none⟩
  | _ => none

/-- Words that begin with one of some flags, unless there are none. -/
def BeginsWith (flags : List String) (words : Vector) : Prop :=
  ∀ first rest, words = first :: rest → ∃ flag ∈ flags, first = .text flag

section Flags

variable {flag : String} {flags : List String} {rest : Vector}

theorem BeginsWith.notFlagged (h : BeginsWith flags rest) (flag : String) (hflag : flag ∉ flags) :
    NotFlagged flag rest := by
  intro tail heq
  obtain ⟨other, hmem, hother⟩ := h _ _ heq
  exact hflag (Value.text.inj hother ▸ hmem)

theorem beginsWith_flagIf (given : Bool) (flag : String) :
    BeginsWith [flag] (flagIf given flag) := by
  intro first rest heq
  cases given with
  | false => cases heq
  | true => exact ⟨flag, List.mem_singleton_self flag, (List.cons.inj heq).1.symm⟩

theorem BeginsWith.flagIf_append (h : BeginsWith flags rest) (given : Bool) (flag : String) :
    BeginsWith (flag :: flags) (flagIf given flag ++ rest) := by
  intro first tail heq
  cases given with
  | false =>
      obtain ⟨other, hmem, hother⟩ := h first tail heq
      exact ⟨other, List.mem_cons_of_mem _ hmem, hother⟩
  | true => exact ⟨flag, List.mem_cons_self, (List.cons.inj heq).1.symm⟩

theorem BeginsWith.numberFlag_append (h : BeginsWith flags rest) (flag unit : String) (n : Nat) :
    BeginsWith (flag :: flags) (numberFlag flag unit n ++ rest) := by
  intro first tail heq
  rw [numberFlag] at heq
  by_cases hn : n = 0
  · rw [if_pos hn] at heq
    obtain ⟨other, hmem, hother⟩ := h first tail heq
    exact ⟨other, List.mem_cons_of_mem _ hmem, hother⟩
  · rw [if_neg hn] at heq
    exact ⟨flag, List.mem_cons_self, (List.cons.inj heq).1.symm⟩

/-- A flag is read back, whether it is there or not. -/
theorem takeMark_flagIf (h : NotFlagged flag rest) (given : Bool) :
    takeMark flag (flagIf given flag ++ rest) = (given, rest) := by
  cases given with
  | true => simp [takeMark, flagIf, words]
  | false =>
      change takeMark flag rest = (false, rest)
      rw [takeMark.eq_def]
      split
      · next word tail =>
          have hother : word ≠ flag := fun heq => h tail (by rw [heq])
          simp [hother]
      · rfl

theorem numberOf_digits (n : Nat) {unit : String} (hunit : Number.NoDigit unit.toList) :
    numberOf (.text (String.ofList (Number.natDigits n) ++ unit)) = n := by
  rw [numberOf, String.toList_append, String.toList_ofList,
    Number.spanDigits_natDigits_append n hunit]
  exact Number.digitsValue_natDigits n

/-- A number is read back from its flag; one that is left out is zero. -/
theorem takeFlag_numberFlag (h : NotFlagged flag rest) (n : Nat) (unit : String)
    (hunit : Number.NoDigit unit.toList) :
    ∃ word, takeFlag flag (numberFlag flag unit n ++ rest) = (word, rest) ∧ numberOf word = n := by
  rw [numberFlag]
  by_cases hn : n = 0
  · rw [if_pos hn]
    exact ⟨.null, takeFlag_of_notFlagged h, hn.symm⟩
  · rw [if_neg hn]
    refine ⟨.text (String.ofList (Number.natDigits n) ++ unit), ?_, numberOf_digits n hunit⟩
    simp [takeFlag, words]

theorem takePace_words (p : Pace) {flags : List String} {rest : Vector}
    (hrest : BeginsWith flags rest)
    (hflags : ∀ flag ∈ ["--interval", "--jitter", "--only-changes"], flag ∉ flags) :
    takePace (p.words ++ rest) = (p, rest) := by
  have hms : Number.NoDigit "ms".toList := by
    rintro c tail heq
    obtain rfl := (List.cons.inj heq).1
    decide
  have hinterval : "--interval" ∉ flags := hflags _ (by decide)
  have hjitter : "--jitter" ∉ flags := hflags _ (by decide)
  have hchanges : NotFlagged "--only-changes" rest := hrest.notFlagged _ (hflags _ (by decide))
  have hmarked := hrest.flagIf_append p.onlyChanges "--only-changes"
  have hvaried := hmarked.numberFlag_append "--jitter" "ms" p.jitter
  obtain ⟨interval, htake, hint⟩ := takeFlag_numberFlag
    (hvaried.notFlagged "--interval" (by simp [hinterval])) p.interval "ms" hms
  obtain ⟨jitter, htake', hjit⟩ := takeFlag_numberFlag
    (hmarked.notFlagged "--jitter" (by simp [hjitter])) p.jitter "ms" hms
  simp only [takePace, Pace.words, List.append_assoc, htake, htake',
    takeMark_flagIf hchanges p.onlyChanges, hint, hjit]

end Flags

theorem readOrder?_words (o : IndexOrder) : readOrder? o.words = some o := by
  have hlast := beginsWith_flagIf (!o.fetch) "--fetch=false"
  have hmarked := hlast.flagIf_append o.fast "--fast"
  have hbound := hmarked.numberFlag_append "--batch-commits" "" o.batch
  have hpace := takePace_words (o.pace.getD .none) hbound (by decide)
  obtain ⟨batch, hbatch, hcount⟩ := takeFlag_numberFlag
    (hmarked.notFlagged "--batch-commits" (by decide)) o.batch "" nofun
  have hfast := takeMark_flagIf (hlast.notFlagged "--fast" (by decide)) o.fast
  have hfetch : (flagIf (!o.fetch) "--fetch=false").isEmpty = o.fetch := by
    cases o.fetch <;> rfl
  simp only [IndexOrder.words, words, List.map_cons, List.map_nil, List.cons_append,
    List.nil_append, readOrder?, hpace, hbatch, hfast, hfetch, hcount, IndexOrder.task]
  obtain ⟨path, mode, fast, fetch, batch, pace⟩ := o
  cases pace with
  | none => rfl
  | some p => rfl

theorem words_injective : Function.Injective IndexOrder.words := by
  intro o o' h
  have hread := readOrder?_words o
  rw [h, readOrder?_words o'] at hread
  exact (Option.some.inj hread).symm

/-! ## The order that a configuration gives -/

/-- A setting as a count.  What is negative counts as nothing. -/
def countOf : Value → Nat
  | .int n => n.toNat
  | _ => 0

/-- What the engine is told of a task with a configuration. -/
def IndexTask.order (task : IndexTask) (config : Config) : IndexOrder where
  path := config.path
  mode := config.mode
  fast := (config.settings .fast).truthy
  fetch := (config.settings .fetch).truthy
  batch := countOf (config.settings .batchCommits)
  pace :=
    match task with
    | .sync => none
    | .watch => some ⟨countOf (config.settings .intervalMs), countOf (config.settings .jitterMs),
        (config.settings .onlyChanges).truthy⟩

/-- A configuration the counts of which are integers. -/
structure Counts (config : Config) (interval jitter batch : Int) : Prop where
  interval_eq : config.settings .intervalMs = .int interval
  jitter_eq : config.settings .jitterMs = .int jitter
  batch_eq : config.settings .batchCommits = .int batch

theorem eq_digits_of_spelled {n : Int} {text : String} (hn : 0 ≤ n)
    (h : (Value.int n).spelled = .ok text) :
    text = String.ofList (Number.natDigits n.toNat) := by
  rw [spelled_int] at h
  split at h
  · cases h
  · obtain ⟨k, rfl⟩ := Int.eq_ofNat_of_zero_le hn
    exact (Except.ok.inj h).symm

theorem numberFlag_of_pos {flag unit : String} {n : Int} (hn : 0 < n) :
    numberFlag flag unit n.toNat =
      words [flag, String.ofList (Number.natDigits n.toNat) ++ unit] := by
  rw [numberFlag, if_neg (by omega)]

theorem numberFlag_of_nonpos {flag unit : String} {n : Int} (hn : n ≤ 0) :
    numberFlag flag unit n.toNat = [] := by
  rw [numberFlag, if_pos (by omega)]

section Configuration

variable {config : Config} {n m b : Int}

theorem batchWords_eq (hcounts : Counts config n m b) {batch : Vector}
    (h : batchWords config = .ok batch) : batch = numberFlag "--batch-commits" "" b.toNat := by
  rw [batchWords, hcounts.batch_eq, Config.comparedWithZero_int] at h
  generalize hspelled : (Value.int b).spelled = spelled at h
  by_cases hb : 0 < b
  · have hsome : (Value.int b).truthy = true := by
      rw [Value.truthy, bne_iff_ne]
      omega
    rw [hsome, decide_eq_true hb] at h
    change (spelled.mapError Failure.fault >>= fun count =>
      .ok (words ["--batch-commits", count])) = .ok batch at h
    obtain ⟨count, hcount, h⟩ := bind_eq_ok h
    have hdigits := eq_digits_of_spelled (by omega)
      (hspelled.trans (Operation.mapError_eq_ok hcount))
    rw [numberFlag_of_pos hb, String.append_empty, ← hdigits]
    exact (Except.ok.inj h).symm
  · rw [decide_eq_false hb] at h
    rw [numberFlag_of_nonpos (by omega)]
    split at h
    · exact (Except.ok.inj h).symm
    · exact (Except.ok.inj h).symm

/-- The words of a watch are those of its pace: the interval is positive and the
jitter not negative, or there would be none. -/
theorem watchWords_eq (hcounts : Counts config n m b) {watching : Vector}
    (h : watchWords config = .ok watching) :
    0 < n ∧ 0 ≤ m ∧
      watching = Pace.words ⟨n.toNat, m.toNat, (config.settings .onlyChanges).truthy⟩ := by
  obtain ⟨checked, hcheck, h⟩ := bind_eq_ok h
  rw [Config.checkWatch_eq hcounts.interval_eq hcounts.jitter_eq] at hcheck
  by_cases hn : n ≤ 0
  · rw [if_pos hn] at hcheck
    cases hcheck
  by_cases hm : m < 0
  · rw [if_neg hn, if_pos hm] at hcheck
    cases hcheck
  refine ⟨by omega, by omega, ?_⟩
  obtain ⟨interval, hinterval, h⟩ := bind_eq_ok h
  rw [hcounts.interval_eq] at hinterval
  have hdigits := eq_digits_of_spelled (by omega) (Operation.mapError_eq_ok hinterval)
  rw [hcounts.jitter_eq, Config.comparedWithZero_int] at h
  generalize hspelled : (Value.int m).spelled = spelled at h
  rw [Pace.words, numberFlag_of_pos (by omega), ← hdigits]
  by_cases hpositive : 0 < m
  · rw [decide_eq_true hpositive] at h
    change (spelled.mapError Failure.fault >>= fun ms => .ok (words
      ["--interval", interval ++ "ms"] ++ words ["--jitter", ms ++ "ms"] ++
        flagIf (config.settings .onlyChanges).truthy "--only-changes")) = .ok watching at h
    obtain ⟨ms, hms, h⟩ := bind_eq_ok h
    have hvaried := eq_digits_of_spelled (by omega)
      (hspelled.trans (Operation.mapError_eq_ok hms))
    obtain rfl := Except.ok.inj h
    rw [numberFlag_of_pos hpositive, ← hvaried, List.append_assoc]
  · rw [decide_eq_false hpositive] at h
    obtain rfl := Except.ok.inj h
    rw [numberFlag_of_nonpos (by omega), List.append_nil, List.nil_append]

/-- A task with a configuration has the words of the order that it gives. -/
theorem index_eq_words (hcounts : Counts config n m b) {task : IndexTask} {args : Vector}
    (h : index task config = .ok args) : args = (task.order config).words := by
  cases task with
  | sync =>
      obtain ⟨watching, hwatching, h⟩ := bind_eq_ok h
      obtain ⟨batch, hbatch, h⟩ := bind_eq_ok h
      obtain rfl := Except.ok.inj hwatching
      obtain rfl := batchWords_eq hcounts hbatch
      obtain rfl := Except.ok.inj h
      simp only [IndexOrder.words, IndexOrder.task, IndexTask.order, hcounts.batch_eq, countOf]
      simp [words, Pace.words, Pace.none, numberFlag, flagIf]
  | watch =>
      obtain ⟨watching, hwatching, h⟩ := bind_eq_ok h
      obtain ⟨batch, hbatch, h⟩ := bind_eq_ok h
      obtain ⟨-, -, rfl⟩ := watchWords_eq hcounts hwatching
      obtain rfl := batchWords_eq hcounts hbatch
      obtain rfl := Except.ok.inj h
      simp only [IndexOrder.words, IndexOrder.task, IndexTask.order, hcounts.interval_eq,
        hcounts.jitter_eq, hcounts.batch_eq, countOf]
      simp [words]

/-- A watch that has words is made at a positive interval, with a jitter that is
not negative. -/
theorem positive_of_index_eq (hcounts : Counts config n m b) {args : Vector}
    (h : index .watch config = .ok args) : 0 < n ∧ 0 ≤ m := by
  obtain ⟨watching, hwatching, -⟩ := bind_eq_ok h
  obtain ⟨hn, hm, -⟩ := watchWords_eq hcounts hwatching
  exact ⟨hn, hm⟩

/-- A watch that may be made has words when its counts can be written. -/
theorem exists_index_watch (hcounts : Counts config n m b) (hn : 0 < n) (hm : 0 ≤ m)
    (hshort : ∀ k ∈ [n, m, b], Number.tooLong k = false) :
    ∃ args, index .watch config = .ok args := by
  simp only [List.forall_mem_cons] at hshort
  obtain ⟨hinterval, hjitter, hbatch, -⟩ := hshort
  have hcheck := Config.checkWatch_eq hcounts.interval_eq hcounts.jitter_eq
  rw [if_neg (by omega), if_neg (by omega)] at hcheck
  rcases watchWords_cases hcheck hcounts.interval_eq hcounts.jitter_eq with
    ⟨hlong, -⟩ | ⟨-, rest, hwords⟩
  · simp [hinterval, hjitter] at hlong
  · rcases batchWords_cases hcounts.batch_eq with ⟨⟨-, hlong⟩, -⟩ | ⟨-, batch, hbound⟩
    · simp [hbatch] at hlong
    · exact ⟨_, by rw [index, hwords, hbound]; rfl⟩

end Configuration

/-- Two index tasks that have words have the same ones just in case they are the
same task and tell the engine the same: the path, the mode, the bound on commits
where it is positive, how to apply and whether to fetch, and for a watch also the
interval, the jitter and whether only changes are reported.  Of the switches only
the truth counts. -/
theorem index_words_eq_iff {task task' : IndexTask} {config config' : Config}
    {n m b n' m' b' : Int} (hcounts : Counts config n m b) (hcounts' : Counts config' n' m' b')
    {args args' : Vector} (hargs : index task config = .ok args)
    (hargs' : index task' config' = .ok args') :
    args = args' ↔
      task = task' ∧ config.path = config'.path ∧ config.mode = config'.mode ∧
      (config.settings .fast).truthy = (config'.settings .fast).truthy ∧
      (config.settings .fetch).truthy = (config'.settings .fetch).truthy ∧
      max b 0 = max b' 0 ∧
      (task = .watch → n = n' ∧ m = m' ∧
        (config.settings .onlyChanges).truthy = (config'.settings .onlyChanges).truthy) := by
  have hbound : b.toNat = b'.toNat ↔ max b 0 = max b' 0 := by omega
  rw [index_eq_words hcounts hargs, index_eq_words hcounts' hargs', words_injective.eq_iff]
  cases task with
  | sync =>
      cases task' with
      | sync =>
          simp only [IndexTask.order, IndexOrder.mk.injEq, hcounts.batch_eq, hcounts'.batch_eq,
            countOf, hbound]
          simp
      | watch => simp [IndexTask.order]
  | watch =>
      cases task' with
      | sync => simp [IndexTask.order]
      | watch =>
          obtain ⟨hn, hm⟩ := positive_of_index_eq hcounts hargs
          obtain ⟨hn', hm'⟩ := positive_of_index_eq hcounts' hargs'
          have hinterval : n.toNat = n'.toNat ↔ n = n' := by omega
          have hjitter : m.toNat = m'.toNat ↔ m = m' := by omega
          simp only [IndexTask.order, IndexOrder.mk.injEq, Option.some.injEq, Pace.mk.injEq,
            hcounts.batch_eq, hcounts'.batch_eq, hcounts.interval_eq, hcounts'.interval_eq,
            hcounts.jitter_eq, hcounts'.jitter_eq, countOf, hbound, hinterval, hjitter]
          simp

/-- Configurations whose path spells a flag: what only a watch is told makes no
difference to a sync, and neither does a bound on commits that is not positive; the
flag itself makes one. -/
theorem index_words_eq_iff_spelled_flag :
    let config (fast : Bool) (interval batch : Int) : Config := ⟨fun
      | .dbPath => .text "--fast"
      | .intervalMs => .int interval
      | .batchCommits => .int batch
      | .fast => .bool fast
      | s => s.standard⟩
    (∀ fast interval batch, Counts (config fast interval batch) interval 0 batch) ∧
    (∃ args args', index .sync (config false 1000 (-3)) = .ok args ∧
      index .sync (config false 5 0) = .ok args' ∧ args = args') ∧
    (∃ args args', index .sync (config false 5 0) = .ok args ∧
      index .sync (config true 5 0) = .ok args' ∧ args ≠ args') ∧
    ∃ args args', index .watch (config false 1000 (-3)) = .ok args ∧
      index .watch (config false 5 0) = .ok args' ∧ args ≠ args' := by
  intro config
  have hcounts (fast : Bool) (interval batch : Int) :
      Counts (config fast interval batch) interval 0 batch := ⟨rfl, rfl, rfl⟩
  have hwatch (interval batch : Int) (hpositive : 0 < interval)
      (hsmall : interval.natAbs < Nat.pow 10 19 ∧ batch.natAbs < Nat.pow 10 19) :
      ∃ args, index .watch (config false interval batch) = .ok args := by
    refine exists_index_watch (hcounts false interval batch) hpositive (by decide) ?_
    simp only [List.forall_mem_cons]
    exact ⟨Number.tooLong_of_natAbs_lt hsmall.1, Number.tooLong_of_natAbs_lt (by decide),
      Number.tooLong_of_natAbs_lt hsmall.2, nofun⟩
  have hsync (fast : Bool) : ∃ args, index .sync (config fast 5 0) = .ok args := ⟨_, rfl⟩
  have hbounded : ∃ args, index .sync (config false 1000 (-3)) = .ok args := ⟨_, rfl⟩
  obtain ⟨slow, hslow⟩ := hsync false
  refine ⟨hcounts, ?_, ?_, ?_⟩
  · obtain ⟨args, hargs⟩ := hbounded
    refine ⟨args, slow, hargs, hslow, ?_⟩
    exact (index_words_eq_iff (hcounts false 1000 (-3)) (hcounts false 5 0) hargs hslow).mpr
      ⟨rfl, rfl, rfl, rfl, rfl, rfl, nofun⟩
  · obtain ⟨args, hargs⟩ := hsync true
    refine ⟨slow, args, hslow, hargs, ?_⟩
    intro heq
    obtain ⟨-, -, -, hfast, -⟩ :=
      (index_words_eq_iff (hcounts false 5 0) (hcounts true 5 0) hslow hargs).mp heq
    cases hfast
  · obtain ⟨args, hargs⟩ := hwatch 1000 (-3) (by decide) (by decide)
    obtain ⟨args', hargs'⟩ := hwatch 5 0 (by decide) (by decide)
    refine ⟨args, args', hargs, hargs', ?_⟩
    intro heq
    obtain ⟨-, -, -, -, -, -, hpace⟩ :=
      (index_words_eq_iff (hcounts false 1000 (-3)) (hcounts false 5 0) hargs hargs').mp heq
    exact absurd (hpace rfl).1 (by decide)

end DocLedger.Command
