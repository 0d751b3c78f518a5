import DocLedger.Number.Places
import DocLedger.Proofs.Number.Digits
import Mathlib.Algebra.Order.Field.Power
import Mathlib.Data.Rat.Cast.Order
import Mathlib.Tactic.Ring

/-!
# Decimals spelled

The text of a number is made of digits, perhaps with a point among them and a power
of ten behind them.  Doubles and decimals are spelled in this form in whatever
layout, and a reader finds the digits and the power of ten again.
-/

namespace DocLedger.Number

def Decimal.value (d : Decimal) : ℚ := d.digits * 10 ^ d.exponent

def Digits (ds : List Char) : Prop := ∀ c ∈ ds, c.isDigit = true

/-- The text of the digits behind a point; without a point there are none. -/
inductive Fraction : List Char → List Char → Prop
  | none : Fraction [] []
  | some {ds : List Char} (hdigits : Digits ds) : Fraction ('.' :: ds) ds

/-- The text of a power of ten; without a text it is the zeroth. -/
inductive Power : List Char → Int → Prop
  | none : Power [] 0
  | up {mark : Char} {ds : List Char} (hmark : mark = 'e' ∨ mark = 'E') (hdigits : Digits ds)
      (hsome : ds ≠ []) : Power (mark :: '+' :: ds) (digitsValue ds)
  | down {mark : Char} {ds : List Char} (hmark : mark = 'e' ∨ mark = 'E') (hdigits : Digits ds)
      (hsome : ds ≠ []) : Power (mark :: '-' :: ds) (-digitsValue ds)

/-- A text that spells a decimal. -/
inductive Spells : List Char → Decimal → Prop
  | mk {whole point after tail : List Char} {power : Int} (hwhole : Digits whole)
      (hsome : whole ≠ []) (hpoint : Fraction point after) (htail : Power tail power) :
      Spells (whole ++ (point ++ tail)) ⟨digitsValue (whole ++ after), power - after.length⟩

/-! ## Digits -/

theorem Digits.append {ds es : List Char} (hds : Digits ds) (hes : Digits es) :
    Digits (ds ++ es) := by
  intro c hc
  rcases List.mem_append.mp hc with h | h
  · exact hds c h
  · exact hes c h

theorem Digits.of_subset {ds es : List Char} (h : Digits es) (hsub : ∀ c ∈ ds, c ∈ es) :
    Digits ds :=
  fun c hc => h c (hsub c hc)

theorem digits_natDigits (n : Nat) : Digits (natDigits n) :=
  fun _ => isDigit_of_mem_natDigits

theorem digits_zeros (n : Nat) : Digits (List.replicate n '0') := by
  intro c hc
  rw [List.eq_of_mem_replicate hc]
  decide

theorem digitsValue_append (ds es : List Char) :
    digitsValue (ds ++ es) = digitsValue ds * 10 ^ es.length + digitsValue es := by
  -- the fold over the digits behind goes on from what those in front have given
  have hfold (n : Nat) : es.foldl (fun n c => n * 10 + (c.toNat - '0'.toNat)) n =
      n * 10 ^ es.length + digitsValue es := by
    induction es generalizing n with
    | nil => simp [digitsValue]
    | cons c rest ih =>
        have hhead := ih (0 * 10 + (c.toNat - '0'.toNat))
        rw [digitsValue, List.foldl_cons, List.foldl_cons, ih, hhead, List.length_cons]
        ring
  rw [digitsValue, List.foldl_append, hfold, ← digitsValue]

theorem digitsValue_zeros (n : Nat) : digitsValue (List.replicate n '0') = 0 := by
  induction n with
  | zero => rfl
  | succ n ih =>
      rw [List.replicate_succ', digitsValue_append, ih]
      rfl

theorem digitsValue_zeros_append (n : Nat) (ds : List Char) :
    digitsValue (List.replicate n '0' ++ ds) = digitsValue ds := by
  rw [digitsValue_append, digitsValue_zeros, Nat.zero_mul, Nat.zero_add]

theorem digits_zeroFilled (width n : Nat) : Digits (zeroFilled width (natDigits n)) :=
  (digits_zeros _).append (digits_natDigits n)

theorem digitsValue_zeroFilled (width n : Nat) :
    digitsValue (zeroFilled width (natDigits n)) = n := by
  rw [zeroFilled, digitsValue_zeros_append, digitsValue_natDigits]

theorem zeroFilled_ne_nil (width n : Nat) : zeroFilled width (natDigits n) ≠ [] :=
  List.append_ne_nil_of_right_ne_nil _ (natDigits_ne_nil n)

theorem le_length_zeroFilled (width : Nat) (ds : List Char) :
    width ≤ (zeroFilled width ds).length := by
  rw [zeroFilled, List.length_append, List.length_replicate]
  omega

/-- Zeros at the end of digits are split off. -/
theorem exists_trailingZeros (ds : List Char) :
    ∃ k, ds = withoutTrailingZeros ds ++ List.replicate k '0' := by
  refine ⟨(ds.reverse.takeWhile (· == '0')).length, ?_⟩
  have hzeros : ds.reverse.takeWhile (· == '0') =
      List.replicate (ds.reverse.takeWhile (· == '0')).length '0' := by
    refine List.eq_replicate_of_mem ?_
    intro c hc
    exact eq_of_beq (List.all_eq_true.mp List.all_takeWhile c hc)
  calc ds = (ds.reverse.takeWhile (· == '0') ++ ds.reverse.dropWhile (· == '0')).reverse := by
        rw [List.takeWhile_append_dropWhile, List.reverse_reverse]
    _ = withoutTrailingZeros ds ++ (ds.reverse.takeWhile (· == '0')).reverse := by
        rw [List.reverse_append, withoutTrailingZeros]
    _ = _ := by rw [hzeros, List.reverse_replicate, List.length_replicate]

/-! ## Powers of ten -/

theorem power_of_int {mark : Char} (hmark : mark = 'e' ∨ mark = 'E') {ds : List Char} {n : Int}
    (hdigits : Digits ds) (hsome : ds ≠ []) (hvalue : digitsValue ds = n.natAbs) :
    Power (mark :: (if n < 0 then '-' else '+') :: ds) n := by
  by_cases hn : n < 0
  · rw [if_pos hn]
    have hpower := Power.down hmark hdigits hsome
    rwa [hvalue, show -(n.natAbs : Int) = n by omega] at hpower
  · rw [if_neg hn]
    have hpower := Power.up hmark hdigits hsome
    rwa [hvalue, show (n.natAbs : Int) = n by omega] at hpower

theorem spells_of_digits {ds : List Char} (hdigits : Digits ds) (hsome : ds ≠ []) :
    Spells ds ⟨digitsValue ds, 0⟩ := by
  have hspells := Spells.mk hdigits hsome .none .none
  simpa using hspells

theorem spells_of_point {whole after : List Char} (hwhole : Digits whole) (hsome : whole ≠ [])
    (hafter : Digits after) :
    Spells (whole ++ '.' :: after) ⟨digitsValue (whole ++ after), -after.length⟩ := by
  have hspells := Spells.mk hwhole hsome (.some hafter) .none
  simpa using hspells

/-- Digits the first of which stands in front of the point, where there are others,
and a power of ten behind them. -/
theorem spells_of_power {c : Char} {rest tail : List Char} {power : Int}
    (hdigits : Digits (c :: rest)) (htail : Power tail power) :
    Spells (if rest = [] then c :: tail else c :: '.' :: rest ++ tail)
      ⟨digitsValue (c :: rest), power - rest.length⟩ := by
  have hc : Digits [c] := hdigits.of_subset (by simp)
  have hrest : Digits rest := hdigits.of_subset fun d hd => List.mem_cons_of_mem _ hd
  by_cases hnone : rest = []
  · rw [if_pos hnone, hnone]
    exact Spells.mk hc (List.cons_ne_nil _ _) .none htail
  · rw [if_neg hnone]
    exact Spells.mk hc (List.cons_ne_nil _ _) (.some hrest) htail

/-! ## Layouts of doubles -/

theorem value_eq_of_digits {ds : List Char} {k : Nat} {d : Decimal}
    (hdigits : d.digits = digitsValue ds * 10 ^ k) {n : Nat} {j : Nat} {power : Int}
    (hn : n = digitsValue ds * 10 ^ j) (hpower : power + j = d.exponent + k) :
    (⟨n, power⟩ : Decimal).value = d.value := by
  have hten : (10 : ℚ) ≠ 0 := by norm_num
  rw [Decimal.value, Decimal.value, hdigits, hn]
  push_cast
  rw [mul_assoc, mul_assoc, ← zpow_natCast, ← zpow_natCast, ← zpow_add₀ hten, ← zpow_add₀ hten,
    add_comm (j : ℤ), add_comm (k : ℤ), hpower]

/-- Digits with zeros left out at their end, as the layouts take them. -/
structure Kept (d : Decimal) (ds : List Char) (k : Nat) : Prop where
  digits : Digits ds
  value : d.digits = digitsValue ds * 10 ^ k
  length : (natDigits d.digits).length = ds.length + k

theorem exists_kept (d : Decimal) :
    ∃ k, Kept d (withoutTrailingZeros (natDigits d.digits)) k := by
  obtain ⟨k, hk⟩ := exists_trailingZeros (natDigits d.digits)
  generalize withoutTrailingZeros (natDigits d.digits) = ds at hk ⊢
  refine ⟨k, ?_, ?_, ?_⟩
  · exact (digits_natDigits d.digits).of_subset fun c hc => by
      rw [hk]
      exact List.mem_append_left _ hc
  · rw [← digitsValue_natDigits d.digits, hk, digitsValue_append, digitsValue_zeros,
      List.length_replicate, Nat.add_zero]
  · rw [hk, List.length_append, List.length_replicate]

section Layouts

variable {d : Decimal} {ds : List Char} {k : Nat}

theorem Kept.value_eq (h : Kept d ds k) {n j : Nat} {power : Int}
    (hn : n = digitsValue ds * 10 ^ j) (hpower : power + j = d.exponent + k) :
    (⟨n, power⟩ : Decimal).value = d.value :=
  value_eq_of_digits h.value hn hpower

/-- A decimal below one, with zeros behind the point. -/
theorem Kept.spells_small (h : Kept d ds k) {count : Nat}
    (hcount : (count : Int) + ds.length + k + d.exponent = 0) :
    ∃ d', Spells ('0' :: '.' :: List.replicate count '0' ++ ds) d' ∧ d'.value = d.value := by
  have hspells := spells_of_point (digits_zeros 1) (List.cons_ne_nil _ _)
    ((digits_zeros count).append h.digits)
  refine ⟨_, hspells, h.value_eq (j := 0) ?_ ?_⟩
  · rw [← List.append_assoc, List.replicate_append_replicate, digitsValue_zeros_append, pow_zero,
      mul_one]
  · rw [List.length_append, List.length_replicate]
    omega

theorem Kept.spells_whole (h : Kept d ds k) {count : Nat} (hcount : (count : Int) = d.exponent + k)
    (hsome : 0 < ds.length + count) :
    ∃ d', Spells (ds ++ List.replicate count '0' ++ ['.', '0']) d' ∧ d'.value = d.value := by
  have hwhole : ds ++ List.replicate count '0' ≠ [] := by
    rw [← List.length_pos_iff, List.length_append, List.length_replicate]
    exact hsome
  have hspells := spells_of_point (h.digits.append (digits_zeros count)) hwhole (digits_zeros 1)
  refine ⟨_, hspells, h.value_eq (j := count + 1) ?_ ?_⟩
  · rw [List.append_assoc, List.replicate_append_replicate, digitsValue_append, digitsValue_zeros,
      List.length_replicate, Nat.add_zero]
  · rw [List.length_replicate]
    omega

theorem Kept.spells_inside (h : Kept d ds k) {whole : Nat} (hwhole : 0 < whole)
    (hlength : whole < ds.length) (hpoint : (whole : Int) = ds.length + k + d.exponent) :
    ∃ d', Spells (ds.take whole ++ '.' :: ds.drop whole) d' ∧ d'.value = d.value := by
  have hsome : ds.take whole ≠ [] := by
    rw [← List.length_pos_iff, List.length_take]
    omega
  have hafter : Digits (ds.drop whole) := h.digits.of_subset fun c => List.mem_of_mem_drop
  have hspells := spells_of_point (h.digits.of_subset fun c => List.mem_of_mem_take) hsome hafter
  refine ⟨_, hspells, h.value_eq (j := 0) ?_ ?_⟩
  · rw [List.take_append_drop, pow_zero, mul_one]
  · rw [List.length_drop]
    omega

theorem Kept.spells_scientific (h : Kept d ds k) {c : Char} {rest tail : List Char} {power : Int}
    (hds : ds = c :: rest) (htail : Power tail power)
    (hpower : power = rest.length + k + d.exponent) :
    ∃ d', Spells (if rest = [] then c :: tail else c :: '.' :: rest ++ tail) d' ∧
      d'.value = d.value := by
  refine ⟨_, spells_of_power (hds ▸ h.digits) htail, h.value_eq (j := 0) ?_ ?_⟩
  · rw [hds, pow_zero, mul_one]
  · omega

end Layouts

/-- In any layout, the text of a decimal spells the number that it stands for. -/
theorem exists_spells_decimal (layout : Layout) (d : Decimal) :
    ∃ d', Spells (layout.decimal d) d' ∧ d'.value = d.value := by
  obtain ⟨k, h⟩ := exists_kept d
  rw [Layout.decimal]
  generalize withoutTrailingZeros (natDigits d.digits) = ds at h ⊢
  rw [h.length]
  generalize hsize : Int.ofNat (ds.length + k) + d.exponent - 1 = size
  rw [Int.ofNat_eq_natCast] at hsize
  push_cast at hsize
  by_cases hplain : (layout.leastPlain ≤ size && size < layout.plainBelow) = true
  · rw [if_pos hplain]
    by_cases hsmall : size < 0
    · rw [if_pos hsmall]
      exact h.spells_small (by omega)
    · rw [if_neg hsmall]
      by_cases hshort : ds.length ≤ size.toNat + 1
      · simp only [if_pos hshort]
        exact h.spells_whole (by omega) (by omega)
      · simp only [if_neg hshort]
        exact h.spells_inside (by omega) (by omega) (by omega)
  · rw [if_neg hplain]
    have htail : Power ('e' :: (if size < 0 then '-' else '+') ::
        zeroFilled layout.exponentDigits (natDigits size.natAbs)) size :=
      power_of_int (.inl rfl) (digits_zeroFilled _ _) (zeroFilled_ne_nil _ _)
        (digitsValue_zeroFilled _ _)
    match ds, h with
    | [], h =>
        refine ⟨_, spells_of_digits (digits_zeros 1) (List.cons_ne_nil _ _), ?_⟩
        simp [Decimal.value, h.value, digitsValue]
    | [c], h =>
        exact h.spells_scientific rfl htail (by simp at hsize ⊢; omega)
    | c :: d :: rest, h =>
        exact h.spells_scientific rfl htail (by simp at hsize ⊢; omega)

theorem spells_of_places {ds : List Char} (hds : Digits ds) {places : Nat}
    (hplaces : places < ds.length) :
    Spells (ds.take (ds.length - places) ++ '.' :: ds.drop (ds.length - places))
      ⟨digitsValue ds, -places⟩ := by
  have hsome : ds.take (ds.length - places) ≠ [] := by
    rw [← List.length_pos_iff, List.length_take]
    omega
  have hafter : Digits (ds.drop (ds.length - places)) :=
    hds.of_subset fun c => List.mem_of_mem_drop
  have hspells := spells_of_point (hds.of_subset fun c => List.mem_of_mem_take) hsome hafter
  rwa [List.take_append_drop, List.length_drop,
    show ds.length - (ds.length - places) = places by omega] at hspells

/-- The digits and the power of ten that are written for a decimal with places are
its own. -/
theorem spells_magnitude (digits : Nat) (exponent : Int) :
    Spells (Places.magnitude digits exponent) ⟨digits, exponent⟩ := by
  have hds := digits_natDigits digits
  have hvalue := digitsValue_natDigits digits
  rw [Places.magnitude]
  generalize hsize : Int.ofNat (natDigits digits).length + exponent = size
  rw [Int.ofNat_eq_natCast] at hsize
  by_cases hplain : (exponent ≤ 0 && -6 < size) = true
  · rw [if_pos hplain]
    rw [Bool.and_eq_true, decide_eq_true_eq] at hplain
    by_cases hplaces : (-exponent).toNat = 0
    · have hexponent : exponent = 0 := by omega
      have hspells := spells_of_digits hds (natDigits_ne_nil digits)
      rw [hvalue] at hspells
      simpa [hexponent] using hspells
    · simp only [beq_iff_eq, if_neg hplaces]
      have hspells := spells_of_places (digits_zeroFilled ((-exponent).toNat + 1) digits)
        (le_length_zeroFilled _ _)
      rwa [digitsValue_zeroFilled, show -((-exponent).toNat : Int) = exponent by omega] at hspells
  · rw [if_neg hplain]
    have htail : Power ('E' :: (if size - 1 < 0 then '-' else '+') ::
        natDigits (size - 1).natAbs) (size - 1) :=
      power_of_int (.inr rfl) (digits_natDigits _) (natDigits_ne_nil _) (digitsValue_natDigits _)
    obtain ⟨c, rest, hcons⟩ := List.exists_cons_of_ne_nil (natDigits_ne_nil digits)
    rw [hcons] at hds hvalue hsize ⊢
    have hspells := spells_of_power hds htail
    rw [hvalue, show size - 1 - (rest.length : Int) = exponent by simp at hsize; omega] at hspells
    cases rest with
    | nil => exact hspells
    | cons d rest => exact hspells

/-- The text of a finite double spells zero or its shortest decimal, behind its sign. -/
theorem exists_spells_double (layout : Layout) {x : Float} {negative : Bool} {mantissa : Nat}
    {exponent : Int} (h : parts x = .finite negative mantissa exponent) :
    ∃ cs d, layout.double x = Places.signed negative cs ∧ Spells cs d ∧
      d.value = if mantissa = 0 then 0 else (shortest mantissa exponent).value := by
  rw [Layout.double, h]
  by_cases hzero : mantissa = 0
  · have hspells := spells_of_point (digits_zeros 1) (List.cons_ne_nil _ _) (digits_zeros 1)
    refine ⟨_, _, ?_, hspells, ?_⟩
    · simp only [hzero]
      rfl
    · simp [hzero, Decimal.value, digitsValue]
  · obtain ⟨d, hspells, hvalue⟩ := exists_spells_decimal layout (shortest mantissa exponent)
    refine ⟨_, d, ?_, hspells, ?_⟩
    · simp [hzero, Places.signed]
    · rw [hvalue, if_neg hzero]

/-! ## Reading a number -/

theorem toLower_of_isDigit {c : Char} (h : c.isDigit = true) : c.toLower = c := by
  have hlower : ¬ (c.val ≥ 'A'.val ∧ c.val ≤ 'Z'.val) := by
    simp only [Char.isDigit, Bool.and_eq_true, decide_eq_true_eq] at h
    grind
  exact dif_neg hlower

theorem Digits.map_toLower {ds : List Char} (h : Digits ds) : ds.map Char.toLower = ds := by
  refine (List.map_congr_left fun c hc => ?_).trans (List.map_id ds)
  exact toLower_of_isDigit (h c hc)

theorem noDigit_cons {c : Char} (h : c.isDigit = false) (rest : List Char) :
    NoDigit (c :: rest) := by
  rintro d tail heq
  cases heq
  exact h

theorem toLower_of_mark {mark : Char} (h : mark = 'e' ∨ mark = 'E') : mark.toLower = 'e' := by
  rcases h with rfl | rfl
  · rfl
  · rfl

theorem power?_signed {ds : List Char} (hdigits : Digits ds) (hsome : ds ≠ []) :
    Places.power? ('e' :: '+' :: ds) = some (digitsValue ds : Int) ∧
      Places.power? ('e' :: '-' :: ds) = some (-digitsValue ds : Int) := by
  have hall : ds.all Char.isDigit = true := List.all_eq_true.mpr hdigits
  have hempty : ds.isEmpty = false := by simpa using hsome
  constructor
  · simp [Places.power?, spanSign, hall, hempty]
  · simp [Places.power?, spanSign, hall, hempty]

/-- In small letters, a power of ten is nothing or starts with its mark. -/
theorem Power.lower {tail : List Char} {power : Int} (h : Power tail power) :
    Places.power? (tail.map Char.toLower) = some power ∧
      (tail.map Char.toLower = [] ∨ ∃ more, tail.map Char.toLower = 'e' :: more) := by
  cases h with
  | none => exact ⟨rfl, .inl rfl⟩
  | up hmark hdigits hsome =>
      rw [List.map_cons, List.map_cons, toLower_of_mark hmark, hdigits.map_toLower]
      exact ⟨(power?_signed hdigits hsome).1, .inr ⟨_, rfl⟩⟩
  | down hmark hdigits hsome =>
      rw [List.map_cons, List.map_cons, toLower_of_mark hmark, hdigits.map_toLower]
      exact ⟨(power?_signed hdigits hsome).2, .inr ⟨_, rfl⟩⟩

/-- A number is read from its text in letters of either case. -/
theorem Spells.number? {cs : List Char} {d : Decimal} (h : Spells cs d) (negative : Bool) :
    Places.number? negative (cs.map Char.toLower) =
      some (.number negative d.digits d.exponent) := by
  cases h with
  | @mk whole point after tail power hwhole hsome hpoint htail =>
  obtain ⟨hpower, hstart⟩ := htail.lower
  rw [List.map_append, List.map_append, hwhole.map_toLower]
  generalize tail.map Char.toLower = tail at hpower hstart
  have htailDigit : NoDigit tail := by
    rcases hstart with rfl | ⟨more, rfl⟩
    · nofun
    · exact noDigit_cons rfl more
  cases hpoint with
  | none =>
      rw [List.map_nil, List.nil_append, Places.number?, spanDigits_append hwhole htailDigit]
      -- what stands behind the digits is no point
      rcases hstart with rfl | ⟨more, rfl⟩
      · simp [hsome, hpower]
      · simp [hsome, hpower]
  | some hafter =>
      rw [List.map_cons, hafter.map_toLower, show Char.toLower '.' = '.' from rfl,
        List.cons_append, Places.number?, spanDigits_append hwhole (noDigit_cons rfl _)]
      simp [spanDigits_append hafter htailDigit, hsome, hpower]

def IsNumeric (c : Char) : Prop :=
  c.isDigit = true ∨ c ∈ ['.', 'e', 'E', '+', '-']

theorem Digits.isNumeric {ds : List Char} (h : Digits ds) : ∀ c ∈ ds, IsNumeric c :=
  fun c hc => .inl (h c hc)

theorem isNumeric_of_mark {mark : Char} (h : mark = 'e' ∨ mark = 'E') : IsNumeric mark := by
  rcases h with rfl | rfl
  · exact .inr (by decide)
  · exact .inr (by decide)

theorem Spells.isNumeric {cs : List Char} {d : Decimal} (h : Spells cs d) :
    ∀ c ∈ cs, IsNumeric c := by
  cases h with
  | @mk whole point after tail power hwhole hsome hpoint htail =>
  simp only [List.forall_mem_append]
  refine ⟨hwhole.isNumeric, ?_, ?_⟩
  · cases hpoint with
    | none => nofun
    | some hafter => exact List.forall_mem_cons.mpr ⟨.inr (by decide), hafter.isNumeric⟩
  · cases htail with
    | none => nofun
    | up hmark hdigits =>
        simp only [List.forall_mem_cons]
        exact ⟨isNumeric_of_mark hmark, .inr (by decide), hdigits.isNumeric⟩
    | down hmark hdigits =>
        simp only [List.forall_mem_cons]
        exact ⟨isNumeric_of_mark hmark, .inr (by decide), hdigits.isNumeric⟩

theorem Spells.ne_nil {cs : List Char} {d : Decimal} (h : Spells cs d) : cs ≠ [] := by
  cases h with
  | mk hwhole hsome => exact List.append_ne_nil_of_left_ne_nil hsome _

theorem Spells.isNumeric_signed {cs : List Char} {d : Decimal} (h : Spells cs d)
    (negative : Bool) : ∀ c ∈ Places.signed negative cs, IsNumeric c := by
  rw [Places.signed]
  split
  · exact List.forall_mem_cons.mpr ⟨.inr (by decide), h.isNumeric⟩
  · exact h.isNumeric

theorem Spells.signed_ne_nil {cs : List Char} {d : Decimal} (h : Spells cs d) (negative : Bool) :
    Places.signed negative cs ≠ [] := by
  rw [Places.signed]
  split
  · exact List.cons_ne_nil _ _
  · exact h.ne_nil

theorem exists_spells_of_isFinite (layout : Layout) {x : Float} (h : isFinite x = true) :
    ∃ negative cs d, layout.double x = Places.signed negative cs ∧ Spells cs d := by
  rw [isFinite] at h
  split at h
  · next negative mantissa exponent hparts =>
      obtain ⟨cs, d, htext, hspells, -⟩ := exists_spells_double layout hparts
      exact ⟨negative, cs, d, htext, hspells⟩
  · cases h

theorem isNumeric_double (layout : Layout) {x : Float} (h : isFinite x = true) :
    ∀ c ∈ layout.double x, IsNumeric c := by
  obtain ⟨negative, cs, d, htext, hspells⟩ := exists_spells_of_isFinite layout h
  rw [htext]
  exact hspells.isNumeric_signed negative

theorem double_ne_nil (layout : Layout) {x : Float} (h : isFinite x = true) :
    layout.double x ≠ [] := by
  obtain ⟨negative, cs, d, htext, hspells⟩ := exists_spells_of_isFinite layout h
  rw [htext]
  exact hspells.signed_ne_nil negative

end DocLedger.Number
