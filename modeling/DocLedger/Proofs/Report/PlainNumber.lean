import DocLedger.Proofs.Number.Digits
import DocLedger.Report.Shape

/-!
# Plain numbers

A plain number is a minus sign, if there is one, and digits of which no zero stands in
front of others.  Such a text is read as its integer up to the limit, and any other is
not read; it may be called too large only if it has that many digits.
-/

namespace DocLedger.Report

/-- A sign that may be there. -/
def signIf (sign : Char) (given : Bool) : List Char := if given then [sign] else []

/-- Digits of a number: there are some, and no zero stands in front of others. -/
structure Digits (ds : List Char) : Prop where
  all : ∀ c ∈ ds, c.isDigit = true
  ne_nil : ds ≠ []
  zero : ds.head? = some '0' → ds = ['0']

/-- How many characters of a numeral count: the digits and a minus sign. -/
def numeralLength (negative : Bool) (digits : List Char) : Nat :=
  digits.length + (if negative then 1 else 0)

/-- The integer that a minus sign, if there is one, and digits write. -/
def signedValue (negative : Bool) (digits : List Char) : Int :=
  if negative then -(Number.digitsValue digits : Int) else Number.digitsValue digits

theorem ne_of_isDigit {c d : Char} (hd : d.isDigit = true) (hc : c.isDigit = false) : d ≠ c := by
  rintro rfl
  rw [hd] at hc
  cases hc

theorem Digits.head_ne_minus {ds : List Char} (h : Digits ds) : ds.head? ≠ some '-' := by
  intro hhead
  have hdigit := h.all '-' (List.mem_of_head? hhead)
  cases hdigit

/-! ## Reading digits -/

theorem plainInteger_of_noDigit {negative : Bool} {cs : List Char} (hdigit : Number.NoDigit cs)
    (hminus : negative = false → cs.head? ≠ some '-') :
    plainInteger (signIf '-' negative ++ cs) = .error .notIntegerText := by
  have hspan := Number.spanDigits_of_noDigit hdigit
  cases negative with
  | true => simp [signIf, plainInteger, hspan]
  | false =>
      cases cs with
      | nil => rfl
      | cons c rest =>
          have hc : c ≠ '-' := by simpa using hminus rfl
          simp [signIf, plainInteger, hspan, hc]

theorem plainInteger_zero (negative : Bool) :
    plainInteger (signIf '-' negative ++ ['0']) = .ok 0 := by
  cases negative <;> rfl

theorem plainInteger_zero_cons (negative : Bool) (c : Char) (rest : List Char) :
    plainInteger (signIf '-' negative ++ '0' :: c :: rest) = .error .notIntegerText := by
  have hzero : '0'.isDigit = true := by decide
  cases negative <;> cases hc : c.isDigit <;>
    simp [signIf, plainInteger, Number.spanDigits, hzero, hc]

/-- Digits that begin with no zero are read up to the limit, if nothing is behind them. -/
theorem plainInteger_append {negative : Bool} {run tail : List Char}
    (hrun : ∀ c ∈ run, c.isDigit = true) (hne : run ≠ []) (hhead : run.head? ≠ some '0')
    (htail : Number.NoDigit tail) :
    plainInteger (signIf '-' negative ++ (run ++ tail)) =
      if Number.digitLimit < numeralLength negative run then .error .tooLarge
      else if tail.isEmpty then .ok (signedValue negative run)
      else .error .notIntegerText := by
  have hspan := Number.spanDigits_append hrun htail
  obtain ⟨d, more, rfl⟩ := List.exists_cons_of_ne_nil hne
  have hminus : d ≠ '-' := ne_of_isDigit (hrun d List.mem_cons_self) (by decide)
  have hzero : d ≠ '0' := by
    rintro rfl
    exact hhead rfl
  rw [List.cons_append] at hspan ⊢
  cases negative
  all_goals
    simp only [signIf, plainInteger, Bool.false_eq_true, ↓reduceIte, List.nil_append,
      List.cons_append, List.cons.injEq, hminus, false_and, imp_self, implies_true, hspan]
    split
    · next hnil => cases hnil
    · next hcons => exact absurd (List.cons.inj hcons).1 hzero
    · simp [numeralLength, signedValue]

theorem plainInteger_of_digits {ds : List Char} (h : Digits ds) (negative : Bool) :
    plainInteger (signIf '-' negative ++ ds) =
      if Number.digitLimit < numeralLength negative ds then .error .tooLarge
      else .ok (signedValue negative ds) := by
  by_cases hhead : ds.head? = some '0'
  · rw [h.zero hhead, plainInteger_zero]
    cases negative <;> rfl
  · have hend : Number.NoDigit [] := nofun
    simpa using plainInteger_append h.all h.ne_nil hhead hend

theorem exists_signIf (cs : List Char) : ∃ negative unsigned,
    cs = signIf '-' negative ++ unsigned ∧ (negative = false → unsigned.head? ≠ some '-') := by
  by_cases hminus : cs.head? = some '-'
  · obtain ⟨rest, rfl⟩ := List.head?_eq_some_iff.mp hminus
    exact ⟨true, rest, rfl, nofun⟩
  · exact ⟨false, cs, rfl, fun _ => hminus⟩

theorem signIf_append_inj {a b : Bool} {xs ys : List Char}
    (hxs : a = false → xs.head? ≠ some '-') (hys : b = false → ys.head? ≠ some '-')
    (h : signIf '-' a ++ xs = signIf '-' b ++ ys) : a = b ∧ xs = ys := by
  cases a <;> cases b
  · exact ⟨rfl, h⟩
  · exact absurd (congrArg List.head? h) (hxs rfl)
  · exact absurd (congrArg List.head? h).symm (hys rfl)
  · exact ⟨rfl, (List.cons.inj h).2⟩

theorem noDigit_of_head {cs : List Char} (h : ∀ c ∈ cs.head?, c.isDigit = false) :
    Number.NoDigit cs := by
  rintro c rest rfl
  exact h c rfl

theorem exists_run_tail (cs : List Char) : ∃ run tail, cs = run ++ tail ∧
    (∀ c ∈ run, c.isDigit = true) ∧ Number.NoDigit tail := by
  refine ⟨cs.takeWhile Char.isDigit, cs.dropWhile Char.isDigit,
    List.takeWhile_append_dropWhile.symm, fun c hc => Number.isDigit_of_mem_spanDigits hc, ?_⟩
  intro c tail hcons
  have hhead := List.head?_dropWhile_not Char.isDigit cs
  rw [hcons] at hhead
  simpa using hhead

theorem numeralLength_le (negative : Bool) (ds : List Char) :
    numeralLength negative ds ≤ ds.length + 1 := by
  unfold numeralLength
  split <;> omega

/-- A plain number is a sign and digits; anything else is no integer or, if it has that many
digits, too large. -/
theorem plainInteger_cases (cs : List Char) :
    (∃ negative ds, cs = signIf '-' negative ++ ds ∧ Digits ds) ∨
      plainInteger cs = .error .notIntegerText ∨
      (plainInteger cs = .error .tooLarge ∧ Number.digitLimit ≤ cs.countP Char.isDigit) := by
  obtain ⟨negative, unsigned, rfl, hminus⟩ := exists_signIf cs
  obtain ⟨run, tail, rfl, hrun, htail⟩ := exists_run_tail unsigned
  by_cases hne : run = []
  · subst hne
    exact .inr (.inl (plainInteger_of_noDigit htail hminus))
  by_cases hhead : run.head? = some '0'
  · obtain ⟨more, rfl⟩ := List.head?_eq_some_iff.mp hhead
    rw [List.cons_append]
    cases hmore : more ++ tail with
    | nil => exact .inl ⟨negative, ['0'], rfl, ⟨by simp, by simp, fun _ => rfl⟩⟩
    | cons c rest => exact .inr (.inl (plainInteger_zero_cons negative c rest))
  · rw [plainInteger_append hrun hne hhead htail]
    by_cases hlong : Number.digitLimit < numeralLength negative run
    · have hcount : run.countP Char.isDigit = run.length := List.countP_eq_length.mpr hrun
      have hlength := numeralLength_le negative run
      rw [if_pos hlong, List.countP_append, List.countP_append, hcount]
      exact .inr (.inr ⟨rfl, by omega⟩)
    · rw [if_neg hlong]
      by_cases hempty : tail = []
      · subst hempty
        exact .inl ⟨negative, run, by rw [List.append_nil], ⟨hrun, hne, fun h => absurd h hhead⟩⟩
      · rw [if_neg (by simpa using hempty)]
        exact .inr (.inl rfl)

theorem exists_of_plainInteger {cs : List Char} {n : Int} (h : plainInteger cs = .ok n) :
    ∃ negative ds, cs = signIf '-' negative ++ ds ∧ Digits ds ∧
      numeralLength negative ds ≤ Number.digitLimit ∧ n = signedValue negative ds := by
  rcases plainInteger_cases cs with ⟨negative, ds, rfl, hds⟩ | htext | ⟨hlarge, -⟩
  · rw [plainInteger_of_digits hds] at h
    split at h
    · cases h
    · exact ⟨negative, ds, rfl, hds, by omega, (Except.ok.inj h).symm⟩
  · rw [htext] at h
    cases h
  · rw [hlarge] at h
    cases h

theorem misfit_of_plainInteger {cs : List Char} {misfit : Misfit}
    (h : plainInteger cs = .error misfit) :
    misfit = .notIntegerText ∨
      misfit = .tooLarge ∧ Number.digitLimit ≤ cs.countP Char.isDigit := by
  rcases plainInteger_cases cs with ⟨negative, ds, rfl, hds⟩ | htext | ⟨hlarge, hcount⟩
  · rw [plainInteger_of_digits hds] at h
    split at h
    · have hall : ds.countP Char.isDigit = ds.length := List.countP_eq_length.mpr hds.all
      have hlength := numeralLength_le negative ds
      rw [List.countP_append, hall]
      exact .inr ⟨(Except.error.inj h).symm, by omega⟩
    · cases h
  · rw [htext] at h
    exact .inl (Except.error.inj h).symm
  · rw [hlarge] at h
    exact .inr ⟨(Except.error.inj h).symm, hcount⟩

end DocLedger.Report
