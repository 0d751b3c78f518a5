import DocLedger.Metrics.Call
import DocLedger.Proofs.Metrics.Series

/-!
# Changes of metrics

A change is a call that updates a metric.  What it comes to depends on its arguments alone:
whether their names fit, the amount, and the labels.  A call whose names do not fit is at
fault and leaves the metric as it was.
-/

namespace DocLedger

namespace Signature

/-- Whether arguments have names, none of which is bound already. -/
def namesFit (bound : List String) : List (Value × Value) → Bool
  | [] => true
  | (.text name, _) :: rest => !bound.contains name && namesFit bound rest
  | _ :: _ => false

def named (name : String) (arguments : List (Value × Value)) : Bool :=
  (Value.lookup name arguments).isSome

/-- A call that takes any name finds fault with the names that are bound already, and with
what has no name. -/
theorem names_cases (s : Signature) (hopen : s.isOpen = true) (arguments : List (Value × Value)) :
    (∃ given, names arguments = .ok given ∧
      (given.findSome? s.nameFault?).isNone = namesFit s.bound arguments ∧
      ∀ name, given.contains name = named name arguments) ∨
    ((∃ fault, names arguments = .error fault) ∧ namesFit s.bound arguments = false) := by
  induction arguments with
  | nil =>
      left
      exact ⟨[], rfl, rfl, fun _ => rfl⟩
  | cons entry rest ih =>
      obtain ⟨k, v⟩ := entry
      cases k with
      | text name =>
          rcases ih with ⟨given, hnames, hfit, hnamed⟩ | ⟨⟨fault, hnames⟩, hfit⟩
          · left
            refine ⟨name :: given, ?_, ?_, ?_⟩
            · rw [names, hnames]
              rfl
            · rw [List.findSome?_cons, nameFault?, namesFit, ← hfit, hopen, Bool.true_or,
                Bool.true_or]
              cases s.bound.contains name with
              | true => rfl
              | false => rfl
            · intro other
              rw [List.contains_cons, hnamed other, named, named, Value.lookup]
              by_cases hname : name = other
              · subst hname
                simp
              · simp [hname, Ne.symm hname]
          · right
            refine ⟨⟨fault, ?_⟩, ?_⟩
            · rw [names, hnames]
              rfl
            · rw [namesFit, hfit, Bool.and_false]
      | _ =>
          right
          exact ⟨⟨_, rfl⟩, rfl⟩

/-- A call that takes any name fits just in case no name is bound already and what has to be
given is given. -/
theorem check_of_open (s : Signature) (hopen : s.isOpen = true) (arguments : List (Value × Value)) :
    (s.check arguments).toOption =
      if namesFit s.bound arguments && s.required.all fun name => named name arguments
      then some () else none := by
  rcases names_cases s hopen arguments with ⟨given, hnames, hfit, hnamed⟩ | ⟨⟨fault, hnames⟩, hfit⟩
  · have hmissing : (s.missing given = []) ↔
        (s.required.all fun name => named name arguments) = true := by
      simp only [missing, hnamed, List.filter_eq_nil_iff, List.all_eq_true, Bool.not_eq_true',
        Bool.not_eq_false]
    rw [check, hnames, ← hfit]
    simp only [bind, Except.bind]
    cases given.findSome? s.nameFault? with
    | some fault => rfl
    | none =>
        cases hleft : s.missing given with
        | nil =>
            rw [hmissing.mp hleft]
            rfl
        | cons name left =>
            have hall : (s.required.all fun name => named name arguments) = false := by
              rw [← Bool.not_eq_true, ← hmissing, hleft]
              exact List.cons_ne_nil name left
            rw [hall]
            rfl
  · rw [check, hnames, hfit]
    rfl

end Signature

namespace Metrics

open Signature (namesFit named)

/-- A call that updates a metric: with a value in front or without, and with arguments by
name. -/
structure Change where
  update : Update
  value : Option Value
  arguments : Arguments
deriving Repr

theorem toOption_then_pure {ε α : Type} (check : Except ε Unit) (a : α) :
    (do check; pure a : Except ε α).toOption = check.toOption.map fun _ => a := by
  cases check with
  | error fault => rfl
  | ok u => rfl

/-- The labels of a method that takes nothing else are found if their names fit. -/
theorem readArguments_of_fits (m : Metric) (method : String) {arguments : Arguments}
    (h : namesFit ["self"] arguments = true) :
    readArguments m method arguments = .ok (labelsOf arguments) := by
  have hcheck := Signature.check_of_open (methodSignature m method [] []) rfl arguments
  have hfits : namesFit (methodSignature m method [] []).bound arguments = true := h
  rw [hfits] at hcheck
  rw [readArguments]
  cases hresult : (methodSignature m method [] []).check arguments with
  | ok u => rfl
  | error fault =>
      rw [hresult] at hcheck
      cases hcheck

namespace Change

def make (c : Change) (m : Metric) : Option Fault × Metric := c.update.call m c.value c.arguments

/-- The parameters that have their argument when the names are looked at. -/
def bound (c : Change) : List String :=
  if c.value.isSome then ["self", "value"] else ["self"]

/-- Whether the arguments of a change fit.  What is observed has to be given. -/
def fits (c : Change) : Bool :=
  namesFit c.bound c.arguments &&
    (c.update != .observe || c.value.isSome || named "value" c.arguments)

/-- The amount of a change, which is one unless it is given in front or by name. -/
def amount (c : Change) : Value :=
  c.value.getD (Value.argument c.arguments "value" (.int 1))

/-- The labels of a change.  Without a value in front, `value` is no label. -/
def given (c : Change) : Given :=
  if c.value.isSome then labelsOf c.arguments
  else (labelsOf c.arguments).filter fun entry => entry.1 != "value"

/-- The amount and the labels are found just in case the arguments fit. -/
theorem updateArguments_eq (m : Metric) (c : Change) :
    (updateArguments m c.update.name (c.update == .observe) c.value c.arguments).toOption =
      if c.fits then some (c.amount, c.given) else none := by
  obtain ⟨update, value, arguments⟩ := c
  cases value with
  | some v =>
      have hcheck :=
        Signature.check_of_open (methodSignature m update.name ["value"] []) rfl arguments
      rw [updateArguments, toOption_then_pure, hcheck]
      simp [fits, bound, amount, given, methodSignature]
  | none =>
      have hcheck := Signature.check_of_open
        (methodSignature m update.name [] (if update == .observe then ["value"] else [])) rfl
        arguments
      rw [updateArguments, toOption_then_pure, hcheck]
      cases update with
      | inc => simp [fits, bound, amount, given, methodSignature]
      | dec => simp [fits, bound, amount, given, methodSignature]
      | observe => simp [fits, bound, amount, given, methodSignature]

/-- A change whose arguments fit is made with its amount and its labels. -/
theorem make_of_fits {c : Change} {m : Metric} (hkind : c.update.fits m = true)
    (h : c.fits = true) : c.make m = c.update.apply m c.amount c.given := by
  have hfound := c.updateArguments_eq m
  rw [if_pos h] at hfound
  rw [make, Update.call, hkind]
  cases hresult : updateArguments m c.update.name (c.update == .observe) c.value c.arguments with
  | error fault =>
      rw [hresult] at hfound
      cases hfound
  | ok found =>
      rw [hresult] at hfound
      cases hfound
      rfl

/-- A change that a metric does not have, or whose arguments do not fit, is at fault and
leaves the metric as it was. -/
theorem make_of_misfit {c : Change} {m : Metric} (h : (c.update.fits m && c.fits) = false) :
    ∃ fault, c.make m = (some fault, m) := by
  rw [make, Update.call]
  cases hkind : c.update.fits m with
  | false => exact ⟨_, rfl⟩
  | true =>
      have hfound := c.updateArguments_eq m
      rw [hkind, Bool.true_and] at h
      rw [h] at hfound
      cases hresult : updateArguments m c.update.name (c.update == .observe) c.value
          c.arguments with
      | error fault => exact ⟨fault, rfl⟩
      | ok found =>
          rw [hresult] at hfound
          cases hfound

end Change

/-- Changes one after the other, whether they are at fault or not. -/
def makeAll (changes : List Change) (m : Metric) : Metric :=
  changes.foldl (fun m c => (c.make m).2) m

/-- If each change is a step of a state that it may leave alone, a run of changes is a run of
the steps. -/
theorem makeAll_eq_foldl {State : Type} (metricOf : State → Metric) (accepts : Change → Bool)
    (use : State → Change → State) {changes : List Change}
    (hstep : ∀ c ∈ changes, ∀ state,
      (c.make (metricOf state)).2 = metricOf (if accepts c then use state c else state))
    (state : State) :
    makeAll changes (metricOf state) = metricOf ((changes.filter accepts).foldl use state) := by
  induction changes generalizing state with
  | nil => rfl
  | cons c rest ih =>
      have hrest := ih fun d hd => hstep d (List.mem_cons_of_mem c hd)
      have hmake : makeAll (c :: rest) (metricOf state) =
          makeAll rest (c.make (metricOf state)).2 := rfl
      rw [hmake, hstep c List.mem_cons_self, hrest]
      cases haccepts : accepts c with
      | true =>
          rw [List.filter_cons_of_pos haccepts]
          rfl
      | false => rw [List.filter_cons_of_neg (by simp [haccepts]), if_neg Bool.false_ne_true]

/-! ## The changes of a series -/

section Series

variable (accepts : Change → Bool) (about : Description) (changes : List Change)

/-- The accepted changes of a series, in their order. -/
def acceptedIn (key : Key) : List Change :=
  changes.filter fun c => accepts c && about.series c.given == key

/-- The series of the accepted changes, each at the place of its first. -/
def usedSeries : List Key :=
  ((changes.filter accepts).map fun c => about.series c.given).eraseDups

theorem acceptedIn_of_notMem {key : Key} (h : key ∉ usedSeries accepts about changes) :
    acceptedIn accepts about changes key = [] := by
  rw [acceptedIn, List.filter_eq_nil_iff]
  intro c hc hkey
  rw [Bool.and_eq_true, beq_iff_eq] at hkey
  apply h
  rw [usedSeries, List.mem_eraseDups, List.mem_map]
  exact ⟨c, List.mem_filter.mpr ⟨hc, hkey.1⟩, hkey.2⟩

/-- A table that accepted changes have used holds of each series the fold of its own. -/
theorem foldl_use_accepted {State : Type} (initial : State) (act : Change → State → State) :
    (changes.filter accepts).foldl (Table.use initial act fun c => about.series c.given) [] =
      Table.ofKeys (usedSeries accepts about changes) fun key =>
        (acceptedIn accepts about changes key).foldl (fun state c => act c state) initial := by
  have hstate : Table.stateAfter initial act (fun c => about.series c.given)
      (changes.filter accepts) = fun key =>
        (acceptedIn accepts about changes key).foldl (fun state c => act c state) initial := by
    funext key
    rw [Table.stateAfter, List.filter_filter, acceptedIn]
    simp only [Bool.and_comm]
  rw [Table.foldl_use, hstate, usedSeries]

end Series

end Metrics

end DocLedger
