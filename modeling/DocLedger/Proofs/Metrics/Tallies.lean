import DocLedger.Proofs.Metrics.Changes
import Mathlib.Algebra.BigOperators.Group.List.Basic
import Mathlib.Algebra.Order.BigOperators.Group.List
import Mathlib.Algebra.Ring.Int.Defs

/-!
# Sums by series

Counters and gauges hold one amount for each series.  After any changes by whole amounts the
amount of a series is the sum of its own accepted changes, whatever else has been changed in
between, and a metric lists the series in the order of their first accepted change.
-/

namespace DocLedger.Metrics

open Number (Amount)
open Signature (namesFit)

/-! ## Whole amounts -/

theorem addValue_whole {v : Value} {n : Int} (h : v.amount? = some (.whole n)) (sign : String)
    (m : Int) : addValue sign (.whole m) v = .ok (.whole (m + n)) := by
  rw [addValue, h]
  rfl

theorem negated_whole {v : Value} {n : Int} (h : v.amount? = some (.whole n)) :
    negated v = .ok (.int (-n)) := by
  rw [negated, h]
  rfl

theorem compareZero_whole {v : Value} {n : Int} (h : v.amount? = some (.whole n)) :
    Value.compareZero .less v = .ok (decide (n < 0)) := by
  cases v with
  | int m =>
      obtain rfl : m = n := by simpa [Value.amount?] using h
      exact Value.compareZero_int .less m
  | bool b =>
      obtain rfl : (if b then 1 else 0) = n := by simpa [Value.amount?] using h
      cases b with
      | true => decide
      | false => decide
  | null | float | text | bytes | list | tuple | set | mapping | decimal | moment | record | loop =>
      simp [Value.amount?] at h

namespace Table

/-- Whole numbers by series as amounts. -/
def wholes (t : Table Int) : Sums := t.map fun (key, n) => (key, .whole n)

theorem amount_wholes (t : Table Int) (key : Key) :
    (wholes t).amount key = .whole ((t.get? key).getD 0) := by
  induction t with
  | nil => rfl
  | cons entry rest ih =>
      obtain ⟨k, n⟩ := entry
      by_cases hk : k = key
      · simp [wholes, Sums.amount, get?, hk]
      · rw [get?, List.find?_cons_of_neg (by simpa using hk), wholes, List.map_cons, Sums.amount,
          get?, List.find?_cons_of_neg (by simpa using hk)]
        exact ih

theorem set_wholes (t : Table Int) (key : Key) (n : Int) :
    (wholes t).set key (.whole n) = wholes (t.set key n) := by
  induction t with
  | nil => rfl
  | cons entry rest ih =>
      obtain ⟨k, m⟩ := entry
      by_cases hk : k = key
      · simp [wholes, set, hk]
      · have hset : wholes ((k, m) :: rest) = (k, .whole m) :: wholes rest := rfl
        have hother : ((k == key) = true) = False := by simpa using hk
        rw [hset, set, set, if_neg (by simpa using hk), if_neg (by simpa using hk), ih]
        rfl

theorem add_wholes {v : Value} {n : Int} (h : v.amount? = some (.whole n)) (t : Table Int)
    (key : Key) :
    (wholes t).add key v = .ok (wholes (t.set key ((t.get? key).getD 0 + n))) := by
  rw [Sums.add, amount_wholes, addValue_whole h, ← set_wholes]
  rfl

end Table

/-! ## Changes by whole amounts -/

/-- The metrics that hold one amount for each series. -/
inductive Kind
  | counter
  | gauge
deriving Repr, DecidableEq

namespace Kind

def metric : Kind → Description → Sums → Metric
  | counter, about, sums => .counter ⟨about, sums⟩
  | gauge, about, sums => .gauge ⟨about, sums⟩

def has : Kind → Update → Bool
  | _, .inc => true
  | gauge, .dec => true
  | _, _ => false

theorem eq_inc_of_counter_has {u : Update} (h : counter.has u = true) : u = .inc := by
  cases u with
  | inc => rfl
  | dec => cases h
  | observe => cases h

theorem eq_of_gauge_has {u : Update} (h : gauge.has u = true) : u = .inc ∨ u = .dec := by
  cases u with
  | inc => exact Or.inl rfl
  | dec => exact Or.inr rfl
  | observe => cases h

variable (k : Kind) (about : Description) (sums : Sums)

theorem fits_metric (u : Update) : u.fits (k.metric about sums) = k.has u := by
  cases k with
  | counter => cases u with | inc => rfl | dec => rfl | observe => rfl
  | gauge => cases u with | inc => rfl | dec => rfl | observe => rfl

theorem collect_metric : (k.metric about sums).collect = sums.samples about := by
  cases k with
  | counter => rfl
  | gauge => rfl

def readKey (arguments : Arguments) : Except Fault Key := do
  about.key (← readArguments (k.metric about []) "get" arguments)

/-- What is read of a metric is the amount of a series that its amounts do not decide. -/
theorem getCall_metric (arguments : Arguments) :
    getCall (k.metric about sums) arguments = (k.readKey about arguments).map sums.amount := by
  have hget : getCall (k.metric about sums) arguments =
      readArguments (k.metric about []) "get" arguments >>= fun given =>
        (about.key given).map sums.amount := by
    cases k with
    | counter => rfl
    | gauge => rfl
  rw [hget, readKey]
  cases readArguments (k.metric about []) "get" arguments with
  | error fault => rfl
  | ok given => rfl

theorem readKey_of_fits {arguments : Arguments} (hnames : namesFit ["self"] arguments = true)
    (hspells : about.spells (labelsOf arguments) = true) :
    k.readKey about arguments = .ok (about.series (labelsOf arguments)) := by
  rw [readKey, readArguments_of_fits _ _ hnames]
  simp only [bind, Except.bind]
  rw [about.key_eq, if_pos hspells]

end Kind

namespace Change

def IsWhole (c : Change) : Prop := ∃ n, c.amount.amount? = some (.whole n)

/-- The whole amount of a change that is by one. -/
def number (c : Change) : Int :=
  match c.amount.amount? with
  | some (.whole n) => n
  | _ => 0

/-- What a change adds to its series. -/
def signed (c : Change) : Int := if c.update = .dec then -c.number else c.number

/-- Whether a metric accepts a change: it has the update, the arguments fit, the labels have a
text, and a counter is not made less. -/
def accepted (k : Kind) (about : Description) (c : Change) : Bool :=
  k.has c.update && c.fits && about.spells c.given && (k == .gauge || decide (0 ≤ c.number))

theorem IsWhole.amount?_eq {c : Change} (h : c.IsWhole) :
    c.amount.amount? = some (.whole c.number) := by
  obtain ⟨n, hn⟩ := h
  rw [number, hn]

/-- Add a change to its series. -/
def tally (about : Description) : Table Int → Change → Table Int :=
  Table.use 0 (fun c n => n + c.signed) fun c => about.series c.given

/-- An accepted change adds its amount to its series. -/
theorem make_of_accepted {k : Kind} {about : Description} {c : Change} (hwhole : c.IsWhole)
    (h : c.accepted k about = true) (t : Table Int) :
    c.make (k.metric about t.wholes) = (none, k.metric about (tally about t c).wholes) := by
  simp only [accepted, Bool.and_eq_true] at h
  obtain ⟨⟨⟨hhas, hfits⟩, hspells⟩, hsign⟩ := h
  have hkey := about.key_eq c.given
  rw [if_pos hspells] at hkey
  have hadd := Table.add_wholes hwhole.amount?_eq t (about.series c.given)
  rw [make_of_fits (by rwa [Kind.fits_metric]) hfits]
  cases k with
  | counter =>
      have hnonneg : decide (c.number < 0) = false := by
        have : 0 ≤ c.number := by simpa using hsign
        simpa using this
      have hinc := Kind.eq_inc_of_counter_has hhas
      simp [Update.apply, Kind.metric, Metric.inc, Counter.inc,
        compareZero_whole hwhole.amount?_eq, hnonneg, hkey, hadd, bind, Except.bind, pure,
        Except.pure, tally, Table.use, signed, hinc]
  | gauge =>
      rcases Kind.eq_of_gauge_has hhas with hinc | hdec
      · simp [Update.apply, Kind.metric, Metric.inc, Gauge.inc, hkey, hadd, bind, Except.bind,
          pure, Except.pure, tally, Table.use, signed, hinc]
      · have hless := @Table.add_wholes (.int (-c.number)) _ rfl t (about.series c.given)
        simp [Update.apply, Kind.metric, Metric.dec, Gauge.dec, Gauge.inc,
          negated_whole hwhole.amount?_eq, hkey, hless, bind, Except.bind, pure, Except.pure,
          tally, Table.use, signed, hdec]

theorem make_of_negative (about : Description) {c : Change} (hwhole : c.IsWhole)
    (hinc : c.update = .inc) (hfits : c.fits = true) (hnegative : c.number < 0) (sums : Sums) :
    c.make (Kind.counter.metric about sums) =
      (some .decreasedCounter, Kind.counter.metric about sums) := by
  rw [make_of_fits (by rw [Kind.fits_metric, hinc]; rfl) hfits, hinc]
  simp [Update.apply, Kind.metric, Metric.inc, Counter.inc, compareZero_whole hwhole.amount?_eq,
    hnegative, bind, Except.bind, throw, throwThe, MonadExceptOf.throw]

theorem make_of_unspelled {k : Kind} {about : Description} {c : Change} (hwhole : c.IsWhole)
    (hhas : k.has c.update = true) (hfits : c.fits = true) (hspells : about.spells c.given = false)
    (sums : Sums) : ∃ fault, c.make (k.metric about sums) = (some fault, k.metric about sums) := by
  have hkey := about.key_eq c.given
  rw [hspells, if_neg Bool.false_ne_true] at hkey
  by_cases hdecreased : k = .counter ∧ c.number < 0
  · obtain ⟨rfl, hnegative⟩ := hdecreased
    have hinc := Kind.eq_inc_of_counter_has hhas
    exact ⟨_, make_of_negative about hwhole hinc hfits hnegative sums⟩
  · refine ⟨.tooManyDigits, ?_⟩
    rw [make_of_fits (by rwa [Kind.fits_metric]) hfits]
    cases k with
    | counter =>
        have hnonneg : ¬c.number < 0 := fun hnegative => hdecreased ⟨rfl, hnegative⟩
        rw [Kind.eq_inc_of_counter_has hhas]
        simp [Update.apply, Kind.metric, Metric.inc, Counter.inc,
          compareZero_whole hwhole.amount?_eq, hnonneg, hkey, bind, Except.bind]
    | gauge =>
        rcases Kind.eq_of_gauge_has hhas with hinc | hdec
        · rw [hinc]
          simp [Update.apply, Kind.metric, Metric.inc, Gauge.inc, hkey, bind, Except.bind]
        · rw [hdec]
          simp [Update.apply, Kind.metric, Metric.dec, Gauge.dec, Gauge.inc,
            negated_whole hwhole.amount?_eq, hkey, bind, Except.bind]

/-- A change that is not accepted is at fault and leaves the metric as it was. -/
theorem make_of_refused {k : Kind} {about : Description} {c : Change} (hwhole : c.IsWhole)
    (h : c.accepted k about = false) (sums : Sums) :
    ∃ fault, c.make (k.metric about sums) = (some fault, k.metric about sums) := by
  by_cases hmade : (k.has c.update && c.fits) = true
  · obtain ⟨hhas, hfits⟩ := Bool.and_eq_true_iff.mp hmade
    cases hspells : about.spells c.given with
    | false => exact make_of_unspelled hwhole hhas hfits hspells sums
    | true =>
        rw [accepted, hmade, hspells] at h
        cases k with
        | gauge => cases h
        | counter =>
            have hnegative : c.number < 0 := by simpa using h
            exact ⟨_, make_of_negative about hwhole (Kind.eq_inc_of_counter_has hhas) hfits
              hnegative sums⟩
  · apply make_of_misfit
    rw [Kind.fits_metric]
    exact Bool.eq_false_iff.mpr hmade

end Change

/-! ## Runs of changes -/

section Runs

variable (k : Kind) (about : Description) (changes : List Change)

/-- The sum of the accepted changes of a series. -/
def total (key : Key) : Int :=
  ((acceptedIn (Change.accepted k about) about changes key).map Change.signed).sum

/-- The series of the accepted changes, each at the place of its first. -/
def touched : List Key := usedSeries (Change.accepted k about) about changes

/-- A metric holds the sums of some changes: each series can be read, and stands once among
the samples, which come in the order in which the series were first changed. -/
structure Tallied (m : Metric) : Prop where
  reads : ∀ arguments, namesFit ["self"] arguments = true →
    about.spells (labelsOf arguments) = true →
    getCall m arguments = .ok (.whole (total k about changes (about.series (labelsOf arguments))))
  lists : m.collect = (touched k about changes).map fun key =>
    ⟨about.name, .whole (total k about changes key), about.labels.zip key⟩
  once : (m.collect.map Sample.labels).Nodup

end Runs

theorem foldl_signed (changes : List Change) (n : Int) :
    changes.foldl (fun n c => n + c.signed) n = n + (changes.map Change.signed).sum := by
  induction changes generalizing n with
  | nil => simp
  | cons c rest ih =>
      rw [List.foldl_cons, ih, List.map_cons, List.sum_cons]
      omega

/-- A change is a step of the sums, if it is accepted. -/
theorem make_snd (k : Kind) (about : Description) {c : Change} (hwhole : c.IsWhole)
    (t : Table Int) : (c.make (k.metric about t.wholes)).2 =
      k.metric about (if c.accepted k about then Change.tally about t c else t).wholes := by
  cases haccepted : c.accepted k about with
  | true =>
      rw [Change.make_of_accepted hwhole haccepted]
      rfl
  | false =>
      obtain ⟨fault, hrefused⟩ := Change.make_of_refused hwhole haccepted t.wholes
      rw [hrefused]
      rfl

/-- A metric that starts without series has the touched ones with their sums. -/
theorem makeAll_fresh {k : Kind} {about : Description} {changes : List Change}
    (hwhole : ∀ c ∈ changes, c.IsWhole) :
    makeAll changes (k.metric about []) = k.metric about
      (Table.ofKeys (touched k about changes) (total k about changes)).wholes := by
  have hrun := makeAll_eq_foldl (fun t : Table Int => k.metric about t.wholes)
    (Change.accepted k about) (Change.tally about)
    (fun c hc t => make_snd k about (hwhole c hc) t) []
  have hsums : (fun key => (acceptedIn (Change.accepted k about) about changes key).foldl
      (fun n c => n + c.signed) 0) = total k about changes := by
    funext key
    rw [foldl_signed, Int.zero_add, total]
  have hfold := foldl_use_accepted (Change.accepted k about) about changes 0
    fun c n => n + c.signed
  rw [hsums] at hfold
  rw [touched, ← hfold]
  exact hrun

theorem total_of_notMem {k : Kind} {about : Description} {changes : List Change} {key : Key}
    (h : key ∉ touched k about changes) : total k about changes key = 0 := by
  rw [total, acceptedIn_of_notMem _ _ _ h]
  rfl

theorem amount_fresh (k : Kind) (about : Description) (changes : List Change) (key : Key) :
    (Table.ofKeys (touched k about changes) (total k about changes)).wholes.amount key =
      .whole (total k about changes key) := by
  rw [Table.amount_wholes, Table.get?_ofKeys]
  split
  · rfl
  · next hkey => rw [total_of_notMem hkey, Option.getD_none]

/-- A series has a text for each of its labels, so that its labels tell it apart. -/
theorem zip_injective {labels : List String} {key other : Key} (hkey : key.length = labels.length)
    (hother : other.length = labels.length) (h : labels.zip key = labels.zip other) :
    key = other := by
  calc key = (labels.zip key).map Prod.snd := (List.map_snd_zip (by omega)).symm
    _ = (labels.zip other).map Prod.snd := by rw [h]
    _ = other := List.map_snd_zip (by omega)

theorem length_of_mem_touched {k : Kind} {about : Description} {changes : List Change} {key : Key}
    (h : key ∈ touched k about changes) : key.length = about.labels.length := by
  rw [touched, usedSeries, List.mem_eraseDups, List.mem_map] at h
  obtain ⟨c, -, rfl⟩ := h
  exact List.length_map _

theorem collect_fresh {k : Kind} {about : Description} (hlabels : about.labels.Nodup)
    {changes : List Change} (hwhole : ∀ c ∈ changes, c.IsWhole) :
    (makeAll changes (k.metric about [])).collect = (touched k about changes).map fun key =>
      ⟨about.name, .whole (total k about changes key), about.labels.zip key⟩ := by
  rw [makeAll_fresh hwhole, Kind.collect_metric, Sums.samples, Table.wholes, Table.ofKeys,
    List.map_map, List.map_map]
  apply List.map_congr_left
  intro key _
  simp only [Function.comp_apply, Description.labelled_eq_zip hlabels]

theorem tallied_fresh {k : Kind} {about : Description} (hlabels : about.labels.Nodup)
    {changes : List Change} (hwhole : ∀ c ∈ changes, c.IsWhole) :
    Tallied k about changes (makeAll changes (k.metric about [])) where
  reads arguments hnames hspells := by
    rw [makeAll_fresh hwhole, Kind.getCall_metric, Kind.readKey_of_fits k about hnames hspells]
    exact congrArg Except.ok (amount_fresh k about changes _)
  lists := collect_fresh hlabels hwhole
  once := by
    rw [collect_fresh hlabels hwhole, List.map_map]
    apply List.Nodup.map_on
    · intro key hkey other hother hsame
      exact zip_injective (length_of_mem_touched hkey) (length_of_mem_touched hother) hsame
    · exact nodup_eraseDups _

/-- Later changes do not make a series of a counter less. -/
theorem total_le_append (about : Description) (changes later : List Change) (key : Key) :
    total .counter about changes key ≤ total .counter about (changes ++ later) key := by
  have hlater : 0 ≤ total .counter about later key := by
    apply List.sum_nonneg
    intro n hn
    obtain ⟨c, hc, rfl⟩ := List.mem_map.mp hn
    have haccepted := (List.mem_filter.mp hc).2
    simp only [Change.accepted, Bool.and_eq_true] at haccepted
    rw [Change.signed, Kind.eq_inc_of_counter_has haccepted.1.1.1.1]
    simpa using haccepted.1.2
  have hsplit : total .counter about (changes ++ later) key =
      total .counter about changes key + total .counter about later key := by
    simp only [total, acceptedIn, List.filter_append, List.map_append, List.sum_append]
  omega

/-- The order of changes does not decide the sums. -/
theorem total_of_perm {changes other : List Change} (h : other.Perm changes) (k : Kind)
    (about : Description) : total k about other = total k about changes := by
  funext key
  exact ((h.filter _).map Change.signed).sum_eq

theorem touched_perm {changes other : List Change} (h : other.Perm changes) (k : Kind)
    (about : Description) : (touched k about other).Perm (touched k about changes) := by
  apply (List.perm_ext_iff_of_nodup (nodup_eraseDups _) (nodup_eraseDups _)).mpr
  intro key
  simp only [List.mem_eraseDups]
  exact ((h.filter _).map _).mem_iff

/-- A metric feels nothing of a change that is not accepted, which is at fault.  A counter
says that it was to be made less. -/
def Refuses (k : Kind) (about : Description) (m : Metric) : Prop :=
  ∀ c : Change, c.IsWhole →
    (c.accepted k about = true → (c.make m).1 = none) ∧
    (c.accepted k about = false → ∃ fault, c.make m = (some fault, m)) ∧
    (k = .counter → c.update = .inc → c.fits = true → c.number < 0 →
      c.make m = (some .decreasedCounter, m))

theorem refuses_wholes (k : Kind) (about : Description) (t : Table Int) :
    Refuses k about (k.metric about t.wholes) := by
  intro c hwhole
  refine ⟨?_, ?_, ?_⟩
  · intro haccepted
    rw [Change.make_of_accepted hwhole haccepted]
  · intro hrefused
    exact Change.make_of_refused hwhole hrefused t.wholes
  · rintro rfl hinc hfits hnegative
    exact Change.make_of_negative about hwhole hinc hfits hnegative t.wholes

/-- Counters and gauges sum their accepted changes by series.  A change that is not accepted
is at fault and touches nothing, a series of a counter is never made less, and changes can be
made in another order without making another sum of any series. -/
theorem sums_by_series (k : Kind) (about : Description) (hlabels : about.labels.Nodup)
    (changes : List Change) (hwhole : ∀ c ∈ changes, c.IsWhole) :
    Tallied k about changes (makeAll changes (k.metric about [])) ∧
    Refuses k about (makeAll changes (k.metric about [])) ∧
    (k = .counter → ∀ later : List Change, (∀ c ∈ later, c.IsWhole) → ∀ arguments n,
      getCall (makeAll changes (k.metric about [])) arguments = .ok (.whole n) →
      ∃ n', n ≤ n' ∧
        getCall (makeAll (changes ++ later) (k.metric about [])) arguments = .ok (.whole n')) ∧
    ∀ other : List Change, other.Perm changes →
      (∀ arguments, getCall (makeAll other (k.metric about [])) arguments =
        getCall (makeAll changes (k.metric about [])) arguments) ∧
      (makeAll other (k.metric about [])).collect.Perm
        (makeAll changes (k.metric about [])).collect := by
  refine ⟨tallied_fresh hlabels hwhole, ?_, ?_, ?_⟩
  · rw [makeAll_fresh hwhole]
    exact refuses_wholes k about _
  · rintro rfl later hlater arguments n hread
    have hall : ∀ c ∈ changes ++ later, c.IsWhole := by
      intro c hc
      exact (List.mem_append.mp hc).elim (hwhole c) (hlater c)
    rw [makeAll_fresh hwhole, Kind.getCall_metric] at hread
    rw [makeAll_fresh hall, Kind.getCall_metric]
    cases hkey : Kind.counter.readKey about arguments with
    | error fault =>
        rw [hkey] at hread
        cases hread
    | ok key =>
        rw [hkey, Except.map, amount_fresh] at hread
        cases hread
        refine ⟨_, total_le_append about changes later key, ?_⟩
        rw [Except.map, amount_fresh]
  · intro other hperm
    have hother : ∀ c ∈ other, c.IsWhole := fun c hc => hwhole c (hperm.mem_iff.mp hc)
    constructor
    · intro arguments
      have hsame : (Table.ofKeys (touched k about other) (total k about other)).wholes.amount =
          (Table.ofKeys (touched k about changes) (total k about changes)).wholes.amount := by
        funext key
        rw [amount_fresh, amount_fresh, total_of_perm hperm]
      rw [makeAll_fresh hother, makeAll_fresh hwhole, Kind.getCall_metric, Kind.getCall_metric,
        hsame]
    · rw [collect_fresh hlabels hother, collect_fresh hlabels hwhole, total_of_perm hperm]
      exact (touched_perm hperm k about).map _

/-- Two increments of one series, one of which leaves the label out and one of which names it
by an empty text, one of another, and a decrement that a counter refuses. -/
def mixedChanges : List Change :=
  [⟨.inc, none, []⟩, ⟨.inc, some (.int 2), [(.text "kind", .int 1)]⟩,
    ⟨.inc, none, [(.text "value", .int 4), (.text "kind", .text "")]⟩,
    ⟨.inc, some (.bool true), [(.text "other", .null), (.text "kind", .text "1")]⟩,
    ⟨.inc, some (.int (-5)), [(.text "kind", .text "2")]⟩]

/-- Reading the changed counter by a number gives the sum of the increments whose label has the
same text, and reversing the changes gives the same. -/
theorem sums_by_series_mixed :
    ["kind"].Nodup ∧ (∀ c ∈ mixedChanges, c.IsWhole) ∧
    getCall (makeAll mixedChanges (newCounter "calls" "Calls." ["kind"]))
      [(.text "kind", .int 1)] = .ok (.whole 3) ∧
    (makeAll mixedChanges (newCounter "calls" "Calls." ["kind"])).collect =
      [⟨"calls", .whole 5, [("kind", "")]⟩, ⟨"calls", .whole 3, [("kind", "1")]⟩] ∧
    mixedChanges.reverse.Perm mixedChanges ∧
    getCall (makeAll mixedChanges.reverse (newCounter "calls" "Calls." ["kind"]))
      [(.text "kind", .int 1)] = .ok (.whole 3) := by
  have hlabels : ["kind"].Nodup := by decide
  have hwhole : ∀ c ∈ mixedChanges, c.IsWhole := by
    intro c hc
    simp only [mixedChanges, List.mem_cons, List.not_mem_nil, or_false] at hc
    obtain rfl | rfl | rfl | rfl | rfl := hc
    · exact ⟨1, rfl⟩
    · exact ⟨2, rfl⟩
    · exact ⟨4, rfl⟩
    · exact ⟨1, rfl⟩
    · exact ⟨-5, rfl⟩
  have hperm : mixedChanges.reverse.Perm mixedChanges := mixedChanges.reverse_perm
  have hsums := sums_by_series .counter ⟨"calls", "Calls.", ["kind"]⟩ hlabels mixedChanges hwhole
  have hone : total .counter ⟨"calls", "Calls.", ["kind"]⟩ mixedChanges ["1"] = 3 := by
    decide +kernel
  have hread : getCall (makeAll mixedChanges (newCounter "calls" "Calls." ["kind"]))
      [(.text "kind", .int 1)] = .ok (.whole 3) := by
    rw [← hone]
    exact hsums.1.reads [(.text "kind", .int 1)] (by decide) (by decide +kernel)
  refine ⟨hlabels, hwhole, hread, ?_, hperm, ?_⟩
  · have htouched : touched .counter ⟨"calls", "Calls.", ["kind"]⟩ mixedChanges = [[""], ["1"]] := by
      decide +kernel
    have hempty : total .counter ⟨"calls", "Calls.", ["kind"]⟩ mixedChanges [""] = 5 := by
      decide +kernel
    have hlists := hsums.1.lists
    rw [htouched, List.map_cons, List.map_singleton, hempty, hone] at hlists
    exact hlists
  · rw [← hread]
    exact (hsums.2.2.2 mixedChanges.reverse hperm).1 _

end DocLedger.Metrics
