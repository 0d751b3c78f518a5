import DocLedger.Proofs.Metrics.Changes
import DocLedger.Proofs.Number.Order

/-!
# Distributions by series

A histogram keeps for each series how many numbers it has observed, and for each bound how many
of them are at most as large.  An observation is counted before it is added to the sum: one
that cannot be added, which a double takes neither from a decimal nor from a whole number beyond
its range, breaks off there and is missing in the buckets.  The buckets are cumulative counts
just in case no such observation belongs into one of them.
-/

namespace DocLedger

namespace Value

def atMost (v w : Value) : Bool :=
  match v.place?, w.place? with
  | some p, some q => decide (p ≤ q)
  | _, _ => false

/-- Whether a number can be added to a double. -/
def summable (v : Value) : Bool :=
  match v.amount? with
  | some (.whole n) => (Number.ofInt? n).isSome
  | some (.double _) => true
  | _ => false

def Numbers (values : List Value) : Prop := ∀ v ∈ values, ∃ p, v.place? = some p

theorem compare_eq_atMost {v w : Value} {p q : Number.Line} (hv : v.place? = some p)
    (hw : w.place? = some q) : compare .atMost v w = .ok (v.atMost w) := by
  rw [compare_atMost hv hw, atMost, hv, hw]

theorem atMost_trans {u v w : Value} (h : u.atMost v = true) (h' : v.atMost w = true) :
    u.atMost w = true := by
  rw [atMost] at h h' ⊢
  cases hu : u.place? with
  | none => simp [hu] at h
  | some p =>
      cases hv : v.place? with
      | none => simp [hu, hv] at h
      | some q =>
          cases hw : w.place? with
          | none => simp [hv, hw] at h'
          | some r =>
              simp only [hu, hv, hw, decide_eq_true_eq] at h h' ⊢
              exact h.trans h'

end Value

namespace Metrics

open Number (Amount)
open Signature (namesFit)

/-! ## Sums of observations -/

theorem addValue_of_summable {v : Value} (h : v.summable = true) (s : Float) :
    ∃ x, addValue "+=" (.double s) v = .ok (.double x) := by
  rw [Value.summable] at h
  rw [addValue]
  cases hv : v.amount? with
  | none =>
      rw [hv] at h
      cases h
  | some a =>
      rw [hv] at h
      cases a with
      | double x => exact ⟨s + x, rfl⟩
      | decimal d => cases h
      | whole n =>
          obtain ⟨x, hx⟩ := Option.isSome_iff_exists.mp h
          refine ⟨s + x, ?_⟩
          simp [Amount.add, Amount.toDouble?, hx, Except.mapError]

theorem addValue_of_not_summable {v : Value} (h : v.summable = false) (s : Float) :
    ∃ fault, addValue "+=" (.double s) v = .error fault := by
  rw [Value.summable] at h
  rw [addValue]
  cases hv : v.amount? with
  | none => exact ⟨_, rfl⟩
  | some a =>
      rw [hv] at h
      cases a with
      | double x => cases h
      | decimal d => exact ⟨_, rfl⟩
      | whole n =>
          have hx : Number.ofInt? n = none := by simpa using h
          refine ⟨.doubleOverflow, ?_⟩
          simp [Amount.add, Amount.toDouble?, hx, Except.mapError, sumFault]

/-- Add an observation to a sum, if that can be done. -/
def addTo (sum : Amount) (v : Value) : Amount := (addValue "+=" sum v).toOption.getD sum

theorem exists_double_sum (values : List Value) :
    ∃ x, values.foldl addTo (.double 0.0) = .double x := by
  induction values using List.reverseRecOn with
  | nil => exact ⟨0.0, rfl⟩
  | append_singleton values v ih =>
      obtain ⟨x, hx⟩ := ih
      rw [List.foldl_append, hx, List.foldl_cons, List.foldl_nil, addTo]
      cases hv : v.summable with
      | true =>
          obtain ⟨y, hy⟩ := addValue_of_summable hv x
          rw [hy]
          exact ⟨y, rfl⟩
      | false =>
          obtain ⟨fault, hfault⟩ := addValue_of_not_summable hv x
          rw [hfault]
          exact ⟨x, rfl⟩

/-! ## Bounds and buckets -/

/-- Numbers of which no two are equal. -/
structure AreBounds (bounds : List Value) : Prop where
  numbers : Value.Numbers bounds
  distinct : bounds.Pairwise fun a b => a.same b = false

theorem AreBounds.tail {bound : Value} {rest : List Value} (h : AreBounds (bound :: rest)) :
    AreBounds rest :=
  ⟨fun b hb => h.numbers b (List.mem_cons_of_mem bound hb), (List.pairwise_cons.mp h.distinct).2⟩

theorem AreBounds.itemFault? {bounds : List Value} (h : AreBounds bounds) :
    Value.itemFault? bounds = none := by
  induction bounds with
  | nil => rfl
  | cons bound rest ih =>
      obtain ⟨p, hp⟩ := h.numbers bound List.mem_cons_self
      rw [Value.itemFault?, Value.keyFault?_of_place hp]
      exact ih h.tail

/-- The standard bounds are numbers of which no two are equal. -/
theorem areBounds_standardBounds : AreBounds standardBounds := by
  refine ⟨?_, by decide +kernel⟩
  intro b hb
  have hnumber : ∀ b ∈ standardBounds, b.place?.isSome = true := by decide +kernel
  exact Option.isSome_iff_exists.mp (hnumber b hb)

theorem foldl_distinct {done later : List Value}
    (h : (done ++ later).Pairwise fun a b => a.same b = false) :
    later.foldl (fun done b => if done.any (·.same b) then done else done ++ [b]) done =
      done ++ later := by
  induction later generalizing done with
  | nil => exact (List.append_nil done).symm
  | cons b later ih =>
      have hfresh : done.any (·.same b) = false := by
        rw [List.any_eq_false]
        intro a ha
        rw [(List.pairwise_append.mp h).2.2 a ha b List.mem_cons_self]
        exact Bool.false_ne_true
      have hthen := @ih (done ++ [b]) (by simpa using h)
      rw [List.foldl_cons, hfresh, if_neg Bool.false_ne_true, hthen, List.append_assoc,
        List.singleton_append]

theorem AreBounds.distinctBounds_eq {bounds : List Value} (h : AreBounds bounds) :
    distinctBounds bounds = bounds :=
  @foldl_distinct [] bounds h.distinct

/-- Counting goes to the bucket of the bound, past those of others. -/
theorem countIn_append {bound : Value} {done : Buckets}
    (h : ∀ entry ∈ done, entry.1.same bound = false) (hself : bound.same bound = true) (n : Nat)
    (later : Buckets) :
    countIn bound (done ++ (bound, n) :: later) = done ++ (bound, n + 1) :: later := by
  induction done with
  | nil => rw [List.nil_append, List.nil_append, countIn, if_pos hself]
  | cons entry done ih =>
      obtain ⟨b, k⟩ := entry
      have hother : b.same bound = false := h (b, k) List.mem_cons_self
      rw [List.cons_append, countIn, hother, if_neg Bool.false_ne_true,
        ih fun e he => h e (List.mem_cons_of_mem _ he)]
      rfl

/-- An observation is counted in the bucket of each bound that it does not exceed.  Those of
the bounds before have been seen to already. -/
theorem countBelow_append {v : Value} {p : Number.Line} (hv : v.place? = some p)
    {bounds : List Value} (hbounds : AreBounds bounds) {done : Buckets}
    (hdone : ∀ entry ∈ done, ∀ b ∈ bounds, entry.1.same b = false) (counts : Value → Nat) :
    countBelow v bounds (done ++ bounds.map fun b => (b, counts b)) =
      (none, done ++ bounds.map fun b => (b, if v.atMost b then counts b + 1 else counts b)) := by
  induction bounds generalizing done with
  | nil => rfl
  | cons bound rest ih =>
      obtain ⟨q, hq⟩ := hbounds.numbers bound List.mem_cons_self
      have hself : bound.same bound = true := (Value.same_iff hq hq).mpr rfl
      have hothers : ∀ entry ∈ done, entry.1.same bound = false :=
        fun entry hentry => hdone entry hentry bound List.mem_cons_self
      have hcounted : (if v.atMost bound then
          countIn bound (done ++ (bound, counts bound) :: rest.map fun b => (b, counts b))
          else done ++ (bound, counts bound) :: rest.map fun b => (b, counts b)) =
          (done ++ [(bound, if v.atMost bound then counts bound + 1 else counts bound)]) ++
            rest.map fun b => (b, counts b) := by
        cases v.atMost bound with
        | false => simp
        | true => simp [countIn_append hothers hself]
      have hdone' : ∀ entry ∈ done ++
          [(bound, if v.atMost bound then counts bound + 1 else counts bound)],
          ∀ b ∈ rest, entry.1.same b = false := by
        intro entry hentry b hb
        rcases List.mem_append.mp hentry with hentry | hentry
        · exact hdone entry hentry b (List.mem_cons_of_mem _ hb)
        · obtain rfl := List.mem_singleton.mp hentry
          exact (List.pairwise_cons.mp hbounds.distinct).1 b hb
      rw [List.map_cons, countBelow, Value.compare_eq_atMost hv hq]
      simp only [hcounted]
      rw [ih hbounds.tail hdone', List.map_cons, List.append_assoc, List.singleton_append]

/-- An observation can be compared with all bounds, and adds one to the buckets of those that
it does not exceed. -/
theorem countBelow_counts {v : Value} {p : Number.Line} (hv : v.place? = some p)
    {bounds : List Value} (hbounds : AreBounds bounds) (counts : Value → Nat) :
    countBelow v bounds (bounds.map fun b => (b, counts b)) =
      (none, bounds.map fun b => (b, if v.atMost b then counts b + 1 else counts b)) :=
  @countBelow_append v p hv bounds hbounds [] (by simp) counts

/-! ## Observations -/

namespace Observations

def observe (bounds : List Value) (v : Value) (o : Observations) : Observations :=
  match addValue "+=" o.sum v with
  | .error _ => { o with count := o.count + 1 }
  | .ok sum => ⟨o.count + 1, sum, (countBelow v bounds o.buckets).2⟩

/-- What is kept of some values: all are counted, and those that can be added are in the sum
and in the buckets. -/
def ofValues (bounds values : List Value) : Observations :=
  ⟨values.length, values.foldl addTo (.double 0.0),
    bounds.map fun b => (b, values.countP fun v => v.summable && v.atMost b)⟩

theorem ofValues_nil {bounds : List Value} (h : AreBounds bounds) :
    ofValues bounds [] = Observations.none bounds := by
  rw [Observations.none, h.distinctBounds_eq]
  rfl

/-- Another value is observed behind those before. -/
theorem observe_ofValues {bounds : List Value} (hbounds : AreBounds bounds) (values : List Value)
    {v : Value} {p : Number.Line} (hv : v.place? = some p) :
    (ofValues bounds values).observe bounds v = ofValues bounds (values ++ [v]) := by
  obtain ⟨x, hx⟩ := exists_double_sum values
  rw [observe, ofValues, ofValues, List.length_append, List.foldl_append, hx]
  simp only [List.countP_append, List.countP_singleton, List.foldl_cons, List.foldl_nil,
    List.length_singleton, addTo]
  cases hsum : v.summable with
  | true =>
      obtain ⟨y, hy⟩ := addValue_of_summable hsum x
      have hbelow := countBelow_counts hv hbounds
        fun b => values.countP fun v => v.summable && v.atMost b
      have hcounts : (bounds.map fun b => (b, if v.atMost b
          then (values.countP fun v => v.summable && v.atMost b) + 1
          else values.countP fun v => v.summable && v.atMost b)) =
          bounds.map fun b => (b, (values.countP fun v => v.summable && v.atMost b) +
            if (true && v.atMost b) = true then 1 else 0) := by
        apply List.map_congr_left
        intro b _
        cases v.atMost b with
        | true => rfl
        | false => rfl
      rw [hy, hbelow]
      exact congrArg (Observations.mk (values.length + 1) (.double y)) hcounts
  | false =>
      obtain ⟨fault, hfault⟩ := addValue_of_not_summable hsum x
      rw [hfault]
      simp [Except.toOption]

/-- The buckets hold cumulative counts of some values: the bucket of a bound holds how many are
at most as large, so that it does not exceed the bucket of a larger bound or the count, which
is what the bucket of infinity holds. -/
structure Cumulative (bounds values : List Value) (o : Observations) : Prop where
  count_eq : o.count = values.length
  buckets_eq : o.buckets = bounds.map fun b => (b, values.countP fun v => v.atMost b)
  rises : ∀ lower ∈ o.buckets, ∀ upper ∈ o.buckets, lower.1.atMost upper.1 = true →
    lower.2 ≤ upper.2
  within : ∀ bucket ∈ o.buckets, bucket.2 ≤ o.count
  infinite : ∀ bucket ∈ o.buckets, bucket.1.number? = some (.infinite false) →
    bucket.2 = o.count

/-- The buckets rise with their bounds and are within the count even where observations have
been broken off. -/
theorem ofValues_rises (bounds values : List Value) :
    (∀ lower ∈ (ofValues bounds values).buckets, ∀ upper ∈ (ofValues bounds values).buckets,
      lower.1.atMost upper.1 = true → lower.2 ≤ upper.2) ∧
    ∀ bucket ∈ (ofValues bounds values).buckets, bucket.2 ≤ (ofValues bounds values).count := by
  constructor
  · intro lower hlower upper hupper hle
    obtain ⟨b, -, rfl⟩ := List.mem_map.mp hlower
    obtain ⟨b', -, rfl⟩ := List.mem_map.mp hupper
    apply List.countP_mono_left
    intro v _ hv
    rw [Bool.and_eq_true] at hv ⊢
    exact ⟨hv.1, Value.atMost_trans hv.2 hle⟩
  · intro bucket hbucket
    obtain ⟨b, -, rfl⟩ := List.mem_map.mp hbucket
    exact List.countP_le_length

theorem atMost_infinity {v b : Value} {p : Number.Line} (hv : v.place? = some p)
    (hb : b.number? = some (.infinite false)) : v.atMost b = true := by
  have hplace : b.place? = some ((⊤ : WithTop ℚ) : Number.Line) := by rw [Value.place?, hb]; rfl
  rw [Value.atMost, hv, hplace, decide_eq_true_eq]
  exact le_top

theorem of_countP_and_eq {p q : Value → Bool} {values : List Value}
    (h : (values.countP fun v => p v && q v) = values.countP q) {v : Value} (hv : v ∈ values)
    (hq : q v = true) : p v = true := by
  rw [← List.countP_filter, List.countP_eq_length_filter (p := q), List.countP_eq_length] at h
  exact h v (List.mem_filter.mpr ⟨hv, hq⟩)

/-- The buckets are cumulative counts just in case each value that cannot be added is above all
bounds. -/
theorem cumulative_ofValues_iff {bounds values : List Value} (hvalues : Value.Numbers values) :
    (ofValues bounds values).Cumulative bounds values ↔
      ∀ v ∈ values, v.summable = true ∨ ∀ b ∈ bounds, v.atMost b = false := by
  constructor
  · intro hcumulative v hv
    rw [or_iff_not_imp_left]
    intro hbroken b hb
    have hentry := List.map_inj_left.mp hcumulative.buckets_eq b hb
    have hsame : (values.countP fun v => v.summable && v.atMost b) =
        values.countP fun v => v.atMost b := congrArg Prod.snd hentry
    rw [Bool.eq_false_iff]
    intro hbelow
    exact hbroken (of_countP_and_eq hsame hv hbelow)
  · intro h
    have hsame : ∀ b ∈ bounds, (values.countP fun v => v.summable && v.atMost b) =
        values.countP fun v => v.atMost b := by
      intro b hb
      apply List.countP_congr
      intro v hv
      rcases h v hv with hsum | habove
      · rw [hsum, Bool.true_and]
      · rw [habove b hb, Bool.and_false]
    have hbuckets : (ofValues bounds values).buckets =
        bounds.map fun b => (b, values.countP fun v => v.atMost b) := by
      apply List.map_congr_left
      intro b hb
      rw [hsame b hb]
    refine ⟨rfl, hbuckets, (ofValues_rises bounds values).1, (ofValues_rises bounds values).2, ?_⟩
    intro bucket hbucket hinfinite
    rw [hbuckets] at hbucket
    obtain ⟨b, -, rfl⟩ := List.mem_map.mp hbucket
    rw [List.countP_eq_length.mpr]
    · rfl
    · intro v hv
      obtain ⟨p, hp⟩ := hvalues v hv
      exact atMost_infinity hp hinfinite

end Observations

/-! ## Runs of observations -/

/-- What has been observed of a series, if anything. -/
def Metric.observations? (m : Metric) (key : Key) : Option Observations :=
  match m with
  | .histogram h => h.series.get? key
  | _ => none

namespace Histogram

/-- An observation changes its own series, whether it is broken off or not. -/
theorem observe_snd {h : Histogram} {given : Given} {key : Key} (hkey : h.about.key given = .ok key)
    (hbounds : AreBounds h.bounds) (v : Value) :
    (h.observe v given).2 = h.put key ((h.observations key).observe h.bounds v) := by
  rw [observe, hkey, hbounds.itemFault?, Observations.observe]
  simp only
  cases addValue "+=" (h.observations key).sum v with
  | error fault => rfl
  | ok sum => rfl

end Histogram

namespace Change

/-- Whether a change is counted by a histogram: it observes, its arguments fit, and the labels
have a text. -/
def counted (about : Description) (c : Change) : Bool :=
  c.update == .observe && c.fits && about.spells c.given

/-- Count a change in its series. -/
def record (about : Description) (bounds : List Value) :
    Table Observations → Change → Table Observations :=
  Table.use (Observations.none bounds) (fun c o => o.observe bounds c.amount)
    fun c => about.series c.given

theorem make_of_counted {about : Description} {c : Change} (h : c.counted about = true)
    (bounds : List Value) (t : Table Observations) :
    c.make (.histogram ⟨about, bounds, t⟩) =
      (Metric.histogram ⟨about, bounds, t⟩).observe c.amount c.given := by
  simp only [counted, Bool.and_eq_true, beq_iff_eq] at h
  rw [make_of_fits (by rw [h.1.1]; rfl) h.1.2, h.1.1]
  rfl

/-- A change that is counted is counted in its series. -/
theorem make_snd_of_counted {about : Description} {c : Change} (h : c.counted about = true)
    {bounds : List Value} (hbounds : AreBounds bounds) (t : Table Observations) :
    (c.make (.histogram ⟨about, bounds, t⟩)).2 =
      .histogram ⟨about, bounds, record about bounds t c⟩ := by
  have hkey := about.key_eq c.given
  rw [counted, Bool.and_eq_true] at h
  rw [if_pos h.2] at hkey
  rw [make_of_counted (by rw [counted, h.1, h.2]; rfl)]
  exact congrArg Metric.histogram
    (@Histogram.observe_snd ⟨about, bounds, t⟩ c.given _ hkey hbounds c.amount)

/-- A change that is not counted is at fault and leaves the histogram as it was. -/
theorem make_of_not_counted {about : Description} {c : Change} (h : c.counted about = false)
    (bounds : List Value) (t : Table Observations) :
    ∃ fault, c.make (.histogram ⟨about, bounds, t⟩) =
      (some fault, .histogram ⟨about, bounds, t⟩) := by
  by_cases hmade : (c.update == .observe && c.fits) = true
  · have hspells : about.spells c.given = false := by simpa [counted, hmade] using h
    have hkey := about.key_eq c.given
    rw [hspells, if_neg Bool.false_ne_true] at hkey
    obtain ⟨hobserve, hfits⟩ := Bool.and_eq_true_iff.mp hmade
    rw [beq_iff_eq] at hobserve
    refine ⟨.tooManyDigits, ?_⟩
    rw [make_of_fits (by rw [hobserve]; rfl) hfits, hobserve]
    simp [Update.apply, Metric.observe, Histogram.observe, hkey]
  · apply make_of_misfit
    have hhas : c.update.fits (.histogram ⟨about, bounds, t⟩) = (c.update == .observe) := by
      cases c.update with | inc => rfl | dec => rfl | observe => rfl
    rw [hhas]
    exact Bool.eq_false_iff.mpr hmade

/-- A counted number is at fault just in case it cannot be added to the sum of its series. -/
theorem make_fst_of_counted {about : Description} {c : Change} (h : c.counted about = true)
    {bounds : List Value} (hbounds : AreBounds bounds) {t : Table Observations}
    {values : List Value} (hseries : (t.get? (about.series c.given)).getD
      (Observations.none bounds) = Observations.ofValues bounds values)
    {p : Number.Line} (hnumber : c.amount.place? = some p) :
    (c.make (.histogram ⟨about, bounds, t⟩)).1 = none ↔ c.amount.summable = true := by
  have hkey := about.key_eq c.given
  rw [counted, Bool.and_eq_true] at h
  rw [if_pos h.2] at hkey
  rw [make_of_counted (by rw [counted, h.1, h.2]; rfl)]
  obtain ⟨x, hx⟩ := exists_double_sum values
  have hbelow := countBelow_counts hnumber hbounds
    fun b => values.countP fun v => v.summable && v.atMost b
  cases hsum : c.amount.summable with
  | true =>
      obtain ⟨y, hy⟩ := addValue_of_summable hsum x
      simp [Metric.observe, Histogram.observe, hkey, hbounds.itemFault?, Histogram.observations,
        hseries, Observations.ofValues, hx, hy, hbelow]
  | false =>
      obtain ⟨fault, hfault⟩ := addValue_of_not_summable hsum x
      simp [Metric.observe, Histogram.observe, hkey, hbounds.itemFault?, Histogram.observations,
        hseries, Observations.ofValues, hx, hfault]

end Change

section Runs

variable (about : Description) (changes : List Change)

/-- The values that have been observed of a series. -/
def observedIn (key : Key) : List Value :=
  (acceptedIn (Change.counted about) about changes key).map Change.amount

/-- The series that have been observed, each at the place of its first observation. -/
def seen : List Key := usedSeries (Change.counted about) about changes

end Runs

/-- A change is a step of the table of series, if it is counted. -/
theorem make_histogram_snd (about : Description) {bounds : List Value} (hbounds : AreBounds bounds)
    (c : Change) (t : Table Observations) :
    (c.make (.histogram ⟨about, bounds, t⟩)).2 = .histogram ⟨about, bounds,
      if c.counted about then Change.record about bounds t c else t⟩ := by
  cases hcounted : c.counted about with
  | true =>
      rw [Change.make_snd_of_counted hcounted hbounds]
      rfl
  | false =>
      obtain ⟨fault, hrefused⟩ := Change.make_of_not_counted hcounted bounds t
      rw [hrefused]
      rfl

/-- What is kept after some observations is what is kept of their values. -/
theorem foldl_observe {bounds : List Value} (hbounds : AreBounds bounds) {uses : List Change}
    (huses : ∀ c ∈ uses, ∃ p, c.amount.place? = some p) :
    uses.foldl (fun o c => o.observe bounds c.amount) (Observations.none bounds) =
      Observations.ofValues bounds (uses.map Change.amount) := by
  induction uses using List.reverseRecOn with
  | nil => exact (Observations.ofValues_nil hbounds).symm
  | append_singleton uses c ih =>
      obtain ⟨p, hp⟩ := huses c (List.mem_append_right _ List.mem_cons_self)
      rw [List.foldl_append, ih fun d hd => huses d (List.mem_append_left _ hd), List.map_append]
      exact Observations.observe_ofValues hbounds _ hp

/-- A histogram without series has the observed ones with their own values. -/
theorem makeAll_empty (about : Description) {bounds : List Value} (hbounds : AreBounds bounds)
    {changes : List Change} (hnumbers : ∀ c ∈ changes, ∃ p, c.amount.place? = some p) :
    makeAll changes (.histogram ⟨about, bounds, []⟩) = .histogram ⟨about, bounds,
      Table.ofKeys (seen about changes)
        fun key => Observations.ofValues bounds (observedIn about changes key)⟩ := by
  have hrun := makeAll_eq_foldl (fun t => .histogram ⟨about, bounds, t⟩) (Change.counted about)
    (Change.record about bounds) (fun c (_ : c ∈ changes) t => make_histogram_snd about hbounds c t)
    []
  have hstate : (fun key => (acceptedIn (Change.counted about) about changes key).foldl
      (fun o c => o.observe bounds c.amount) (Observations.none bounds)) =
      fun key => Observations.ofValues bounds (observedIn about changes key) := by
    funext key
    exact foldl_observe hbounds fun c hc => hnumbers c (List.mem_filter.mp hc).1
  have hfold := foldl_use_accepted (Change.counted about) about changes (Observations.none bounds)
    fun c o => o.observe bounds c.amount
  rw [hstate] at hfold
  rw [seen, ← hfold]
  exact hrun

theorem observedIn_of_notMem {about : Description} {changes : List Change} {key : Key}
    (h : key ∉ seen about changes) : observedIn about changes key = [] := by
  rw [observedIn, acceptedIn_of_notMem _ _ _ h]
  rfl

/-- A histogram holds the distributions of the observed values: of each series how many values
have been observed of it, their sum, and for each bound how many of those that could be added
are at most as large. -/
structure Histogram.Distributed (about : Description) (bounds : List Value)
    (changes : List Change) (m : Metric) : Prop where
  counts : ∀ arguments, namesFit ["self"] arguments = true →
    about.spells (labelsOf arguments) = true →
    countCall m arguments =
      .ok (observedIn about changes (about.series (labelsOf arguments))).length
  keeps : ∀ key, m.observations? key = if key ∈ seen about changes
    then some (Observations.ofValues bounds (observedIn about changes key)) else none
  lists : m.collect = (seen about changes).flatMap fun key =>
    let values := observedIn about changes key
    let labels := about.labelled key
    [⟨about.name ++ "_sum", values.foldl addTo (.double 0.0), labels⟩,
      ⟨about.name ++ "_count", .whole values.length, labels⟩] ++
    bounds.map fun b => ⟨about.name ++ "_bucket",
      .whole (values.countP fun v => v.summable && v.atMost b), setLabel "le" b.plain labels⟩

theorem distributed_empty (about : Description) {bounds : List Value} (hbounds : AreBounds bounds)
    {changes : List Change} (hnumbers : ∀ c ∈ changes, ∃ p, c.amount.place? = some p) :
    Histogram.Distributed about bounds changes
      (makeAll changes (.histogram ⟨about, bounds, []⟩)) where
  counts arguments hnames hspells := by
    have hkey := about.key_eq (labelsOf arguments)
    rw [if_pos hspells] at hkey
    rw [makeAll_empty about hbounds hnumbers, countCall, readArguments_of_fits _ _ hnames]
    simp only [bind, Except.bind, Metric.count, Histogram.count, hkey, Table.get?_ofKeys]
    by_cases hseen : about.series (labelsOf arguments) ∈ seen about changes
    · rw [if_pos hseen]
      rfl
    · rw [if_neg hseen, observedIn_of_notMem hseen]
      rfl
  keeps key := by
    rw [makeAll_empty about hbounds hnumbers, Metric.observations?, Table.get?_ofKeys]
  lists := by
    rw [makeAll_empty about hbounds hnumbers, Metric.collect, Histogram.collect, Table.ofKeys,
      List.flatMap_map]
    simp only [Observations.ofValues, List.map_map, Function.comp_def]

/-- An observation leaves the other series alone, and one that is not counted all of them. -/
theorem make_spares {about : Description} {bounds : List Value} (hbounds : AreBounds bounds)
    (t : Table Observations) (c : Change) {key : Key}
    (h : c.counted about = false ∨ key ≠ about.series c.given) :
    (c.make (.histogram ⟨about, bounds, t⟩)).2.observations? key =
      (Metric.histogram ⟨about, bounds, t⟩).observations? key := by
  cases hcounted : c.counted about with
  | false =>
      obtain ⟨fault, hrefused⟩ := Change.make_of_not_counted hcounted bounds t
      rw [hrefused]
  | true =>
      have hother : key ≠ about.series c.given := by
        rcases h with h | h
        · rw [h] at hcounted
          cases hcounted
        · exact h
      rw [Change.make_snd_of_counted hcounted hbounds]
      exact Table.get?_set_of_ne t hother _

theorem areBounds_used {bounds : List Value} (hbounds : AreBounds bounds) :
    AreBounds (if bounds.isEmpty then standardBounds else bounds) := by
  split
  · exact areBounds_standardBounds
  · exact hbounds

/-- A histogram keeps the distributions of what it observes.  The buckets of a series are
cumulative counts just in case each of its values that cannot be added is above all bounds.
An observation is at fault if it cannot be added, and no observation changes another series
than its own. -/
theorem distribution_by_series (name help : String) (labels : List String) {bounds : List Value}
    (hbounds : AreBounds bounds) {changes : List Change}
    (hnumbers : ∀ c ∈ changes, ∃ p, c.amount.place? = some p) :
    let about : Description := ⟨name, help, labels⟩
    let used := if bounds.isEmpty then standardBounds else bounds
    let m := makeAll changes (newHistogram name help labels bounds)
    Histogram.Distributed about used changes m ∧
    (∀ key o, m.observations? key = some o →
      (o.Cumulative used (observedIn about changes key) ↔
        ∀ v ∈ observedIn about changes key,
          v.summable = true ∨ ∀ b ∈ used, v.atMost b = false) ∧
      (∀ lower ∈ o.buckets, ∀ upper ∈ o.buckets, lower.1.atMost upper.1 = true →
        lower.2 ≤ upper.2) ∧
      ∀ bucket ∈ o.buckets, bucket.2 ≤ o.count) ∧
    ∀ c : Change, (∃ p, c.amount.place? = some p) →
      (c.counted about = false → ∃ fault, c.make m = (some fault, m)) ∧
      (c.counted about = true → ((c.make m).1 = none ↔ c.amount.summable = true)) ∧
      ∀ key, (c.counted about = false ∨ key ≠ about.series c.given) →
        (c.make m).2.observations? key = m.observations? key := by
  intro about used m
  have hused : AreBounds used := areBounds_used hbounds
  have hm : m = .histogram ⟨about, used, Table.ofKeys (seen about changes)
      fun key => Observations.ofValues used (observedIn about changes key)⟩ :=
    makeAll_empty about hused hnumbers
  have hdistributed : Histogram.Distributed about used changes m :=
    distributed_empty about hused hnumbers
  refine ⟨hdistributed, ?_, ?_⟩
  · intro key o hkept
    have hvalues : Value.Numbers (observedIn about changes key) := by
      intro v hv
      obtain ⟨c, hc, rfl⟩ := List.mem_map.mp hv
      exact hnumbers c (List.mem_filter.mp hc).1
    rw [hdistributed.keeps key] at hkept
    split at hkept
    · obtain rfl := Option.some.inj hkept
      exact ⟨Observations.cumulative_ofValues_iff hvalues, Observations.ofValues_rises _ _⟩
    · cases hkept
  · rintro c ⟨p, hp⟩
    rw [hm]
    refine ⟨?_, ?_, ?_⟩
    · intro hcounted
      exact Change.make_of_not_counted hcounted used _
    · intro hcounted
      have hseries : ((Table.ofKeys (seen about changes) fun key =>
          Observations.ofValues used (observedIn about changes key)).get?
          (about.series c.given)).getD (Observations.none used) =
          Observations.ofValues used (observedIn about changes (about.series c.given)) := by
        rw [Table.get?_ofKeys]
        split
        · rfl
        · next hkey =>
            rw [observedIn_of_notMem hkey, Observations.ofValues_nil hused]
            rfl
      exact Change.make_fst_of_counted hcounted hused hseries hp
    · intro key hkey
      exact make_spares hused _ c hkey

/-- Two observations, of which the second is a whole number beyond the range of doubles. -/
def brokenOffChanges : List Change :=
  [⟨.observe, some (.int 1), []⟩, ⟨.observe, some (.int (10 ^ 250 * 10 ^ 250)), []⟩]

def oneAndInfinity : List Value := [.int 1, .float (1.0 / 0.0)]

/-- The second observation is counted, and the bucket of infinity has only the first. -/
theorem distribution_by_series_broken_off :
    AreBounds oneAndInfinity ∧ (∀ c ∈ brokenOffChanges, ∃ p, c.amount.place? = some p) ∧
    let m := makeAll brokenOffChanges (newHistogram "seconds" "Seconds." [] oneAndInfinity)
    countCall m [] = .ok 2 ∧
    ∃ o, m.observations? [] = some o ∧
      o.buckets = [(.int 1, 1), (.float (1.0 / 0.0), 1)] ∧
      ¬o.Cumulative oneAndInfinity [.int 1, .int (10 ^ 250 * 10 ^ 250)] := by
  have hbounds : AreBounds oneAndInfinity := by
    refine ⟨?_, by decide +kernel⟩
    intro b hb
    have hnumber : ∀ b ∈ oneAndInfinity, b.place?.isSome = true := by decide +kernel
    exact Option.isSome_iff_exists.mp (hnumber b hb)
  have hnumbers : ∀ c ∈ brokenOffChanges, ∃ p, c.amount.place? = some p := by
    intro c hc
    have hnumber : ∀ c ∈ brokenOffChanges, c.amount.place?.isSome = true := by decide +kernel
    exact Option.isSome_iff_exists.mp (hnumber c hc)
  obtain ⟨hdistributed, hcumulative, -⟩ :=
    distribution_by_series "seconds" "Seconds." [] hbounds hnumbers
  have hvalues : observedIn ⟨"seconds", "Seconds.", []⟩ brokenOffChanges [] =
      [.int 1, .int (10 ^ 250 * 10 ^ 250)] := rfl
  have hkept := hdistributed.keeps []
  rw [if_pos (by decide +kernel), hvalues] at hkept
  refine ⟨hbounds, hnumbers, hdistributed.counts [] rfl rfl, _, hkept, ?_, ?_⟩
  · have hone : ([.int 1, .int (10 ^ 250 * 10 ^ 250)] : List Value).countP
        (fun v => v.summable && v.atMost (.int 1)) = 1 := by decide +kernel
    have hinfinity : ([.int 1, .int (10 ^ 250 * 10 ^ 250)] : List Value).countP
        (fun v => v.summable && v.atMost (.float (1.0 / 0.0))) = 1 := by decide +kernel
    simp only [Observations.ofValues, oneAndInfinity, List.isEmpty_cons, Bool.false_eq_true,
      if_false, List.map_cons, List.map_nil, hone, hinfinity]
  · intro hcounts
    have hbelow := (hcumulative [] _ hkept).1.mp hcounts (.int (10 ^ 250 * 10 ^ 250))
      (by rw [hvalues]; simp)
    rcases hbelow with hsum | habove
    · have hbroken : (Value.int (10 ^ 250 * 10 ^ 250)).summable = false := by decide +kernel
      rw [hbroken] at hsum
      cases hsum
    · have hinfinity := habove (.float (1.0 / 0.0)) (List.mem_cons_of_mem _ List.mem_cons_self)
      have hwithin : (Value.int (10 ^ 250 * 10 ^ 250)).atMost (.float (1.0 / 0.0)) = true := by
        decide +kernel
      rw [hwithin] at hinfinity
      cases hinfinity

end Metrics

end DocLedger
