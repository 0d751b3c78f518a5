import DocLedger.Proofs.Number.Spelling
import Mathlib.Tactic.Linarith
import Mathlib.Tactic.NormNum
import Mathlib.Tactic.Positivity

/-!
# The nearest double

The shortest decimal of a double stands within the interval of the reals that round
to it: seventeen digits are fine enough a grid to have a point there.  Doubles are
spaced so that no other double is as near to a number of this interval, but for the
ends of the interval, which belong to it where the mantissa is even.
-/

namespace DocLedger.Number

/-- The number that a whole mantissa and a power of two stand for. -/
def binary (mantissa : Nat) (exponent : Int) : ℚ := mantissa * 2 ^ exponent

/-- The mantissas and powers of two into which finite doubles are taken apart. -/
structure Canonical (mantissa : Nat) (exponent : Int) : Prop where
  mantissa_lt : mantissa < 2 ^ 53
  least : -1074 ≤ exponent
  greatest : exponent ≤ 971
  full : 2 ^ 52 ≤ mantissa ∨ exponent = -1074

theorem canonical_of_parts {x : Float} {negative : Bool} {mantissa : Nat} {exponent : Int}
    (h : parts x = .finite negative mantissa exponent) : Canonical mantissa exponent := by
  rw [parts] at h
  generalize x.toBits.toNat = bits at h
  have hfraction : bits % Nat.pow 2 52 < 2 ^ 52 := Nat.mod_lt _ (by decide)
  have hbiased : bits / Nat.pow 2 52 % 2048 < 2048 := Nat.mod_lt _ (by decide)
  generalize bits / Nat.pow 2 52 % 2048 = biased at h hbiased
  generalize bits % Nat.pow 2 52 = fraction at h hfraction
  simp only [beq_iff_eq] at h
  split at h
  · split at h
    · cases h
    · cases h
  · next hfinite =>
    split at h
    · cases h
      exact ⟨by omega, by omega, by omega, .inr rfl⟩
    · next hnormal =>
      cases h
      have hpow : Nat.pow 2 52 = 2 ^ 52 := rfl
      refine ⟨by omega, ?_, ?_, .inl (by omega)⟩
      · rw [Int.ofNat_eq_natCast]
        omega
      · rw [Int.ofNat_eq_natCast]
        omega

namespace Rounding

/-- The numbers that a rounding takes in. -/
def Holds (r : Rounding) (q : ℚ) : Prop :=
  if r.closed then r.low * 2 ^ r.exponent ≤ q ∧ q ≤ r.high * 2 ^ r.exponent
  else r.low * 2 ^ r.exponent < q ∧ q < r.high * 2 ^ r.exponent

end Rounding

/-! ## Points of a grid -/

section Grid

theorem cast_pow_toNat (b : Nat) (hb : b ≠ 0) (x : Int) :
    ((b ^ x.toNat : Nat) : ℚ) = (b : ℚ) ^ x * ((b ^ (-x).toNat : Nat) : ℚ) := by
  have hbase : (b : ℚ) ≠ 0 := Nat.cast_ne_zero.mpr hb
  push_cast
  rw [← zpow_natCast, ← zpow_natCast, ← zpow_add₀ hbase]
  congr 1
  omega

/-- The common denominator of a power of two and a power of ten. -/
def common (x p : Int) : ℚ := ((2 ^ (-x).toNat * 10 ^ (-p).toNat : Nat) : ℚ)

theorem common_pos (x p : Int) : 0 < common x p := by
  rw [common]
  exact_mod_cast Nat.mul_pos (Nat.pow_pos (by decide)) (Nat.pow_pos (by decide))

variable (a t : Nat) (x p : Int)

theorem cast_scale :
    ((a * (Nat.pow 2 x.toNat * Nat.pow 10 (-p).toNat) : Nat) : ℚ) = a * 2 ^ x * common x p := by
  have h := cast_pow_toNat 2 (by decide) x
  rw [common]
  simp only [Nat.pow_eq]
  push_cast at h ⊢
  rw [h]
  ring

theorem cast_unit :
    ((t * (Nat.pow 10 p.toNat * Nat.pow 2 (-x).toNat) : Nat) : ℚ) = t * 10 ^ p * common x p := by
  have h := cast_pow_toNat 10 (by decide) p
  rw [common]
  simp only [Nat.pow_eq]
  push_cast at h ⊢
  rw [h]
  ring

theorem scale_le_unit_iff :
    a * (Nat.pow 2 x.toNat * Nat.pow 10 (-p).toNat) ≤
      t * (Nat.pow 10 p.toNat * Nat.pow 2 (-x).toNat) ↔ (a : ℚ) * 2 ^ x ≤ t * 10 ^ p := by
  rw [← Nat.cast_le (α := ℚ), cast_scale, cast_unit, mul_le_mul_iff_of_pos_right (common_pos x p)]

theorem unit_le_scale_iff :
    t * (Nat.pow 10 p.toNat * Nat.pow 2 (-x).toNat) ≤
      a * (Nat.pow 2 x.toNat * Nat.pow 10 (-p).toNat) ↔ (t : ℚ) * 10 ^ p ≤ a * 2 ^ x := by
  rw [← Nat.cast_le (α := ℚ), cast_scale, cast_unit, mul_le_mul_iff_of_pos_right (common_pos x p)]

theorem scale_lt_unit_iff :
    a * (Nat.pow 2 x.toNat * Nat.pow 10 (-p).toNat) <
      t * (Nat.pow 10 p.toNat * Nat.pow 2 (-x).toNat) ↔ (a : ℚ) * 2 ^ x < t * 10 ^ p := by
  rw [← not_le, unit_le_scale_iff, not_le]

theorem unit_lt_scale_iff :
    t * (Nat.pow 10 p.toNat * Nat.pow 2 (-x).toNat) <
      a * (Nat.pow 2 x.toNat * Nat.pow 10 (-p).toNat) ↔ (t : ℚ) * 10 ^ p < a * 2 ^ x := by
  rw [← not_le, scale_le_unit_iff, not_le]

end Grid

namespace Rounding

variable {r : Rounding} {power : Int}

/-- The test of a point of the grid, in whole numbers. -/
theorem holds_iff (r : Rounding) (power : Int) (t : Nat) :
    (if r.closed then
        decide (r.low * (Nat.pow 2 r.exponent.toNat * Nat.pow 10 (-power).toNat) ≤
          t * (Nat.pow 10 power.toNat * Nat.pow 2 (-r.exponent).toNat)) &&
        decide (t * (Nat.pow 10 power.toNat * Nat.pow 2 (-r.exponent).toNat) ≤
          r.high * (Nat.pow 2 r.exponent.toNat * Nat.pow 10 (-power).toNat))
      else
        decide (r.low * (Nat.pow 2 r.exponent.toNat * Nat.pow 10 (-power).toNat) <
          t * (Nat.pow 10 power.toNat * Nat.pow 2 (-r.exponent).toNat)) &&
        decide (t * (Nat.pow 10 power.toNat * Nat.pow 2 (-r.exponent).toNat) <
          r.high * (Nat.pow 2 r.exponent.toNat * Nat.pow 10 (-power).toNat))) = true ↔
      r.Holds (t * 10 ^ power) := by
  rw [Holds]
  split
  · rw [Bool.and_eq_true, decide_eq_true_eq, decide_eq_true_eq, scale_le_unit_iff,
      unit_le_scale_iff]
  · rw [Bool.and_eq_true, decide_eq_true_eq, decide_eq_true_eq, scale_lt_unit_iff,
      unit_lt_scale_iff]

/-- A point that is found on a grid is one that the rounding takes in. -/
theorem holds_of_onGrid? {d : Decimal} (h : r.onGrid? power = some d) : r.Holds d.value := by
  rw [onGrid?] at h
  simp only [] at h
  generalize r.value * (Nat.pow 2 r.exponent.toNat * Nat.pow 10 (-power).toNat) /
    (Nat.pow 10 power.toNat * Nat.pow 2 (-r.exponent).toNat) = below at h
  split at h
  · next hbelow habove =>
    rw [holds_iff] at hbelow habove
    split at h
    · cases h
      exact hbelow
    · cases h
      exact habove
  · next hbelow habove =>
    cases h
    exact (holds_iff r power below).mp hbelow
  · next hbelow habove =>
    cases h
    exact (holds_iff r power (below + 1)).mp habove
  · cases h

/-- On a grid finer than the rounding is wide, one of the points next to the value is
taken in. -/
theorem holds_or_holds (hlow : (r.low : ℚ) * 2 ^ r.exponent < r.value * 2 ^ r.exponent)
    (hhigh : (r.value : ℚ) * 2 ^ r.exponent < r.high * 2 ^ r.exponent)
    (hfine : (10 : ℚ) ^ power < (r.high - r.low) * 2 ^ r.exponent) {below : Nat}
    (hbelow : (below : ℚ) * 10 ^ power ≤ r.value * 2 ^ r.exponent)
    (habove : (r.value : ℚ) * 2 ^ r.exponent < (below + 1 : Nat) * 10 ^ power) :
    r.Holds (below * 10 ^ power) ∨ r.Holds ((below + 1 : Nat) * 10 ^ power) := by
  rw [sub_mul] at hfine
  push_cast at habove ⊢
  rw [add_mul, one_mul] at habove ⊢
  by_cases hnear : (r.low : ℚ) * 2 ^ r.exponent < below * 10 ^ power
  · left
    rw [Holds]
    split
    · exact ⟨hnear.le, by linarith⟩
    · exact ⟨hnear, by linarith⟩
  · right
    rw [not_lt] at hnear
    rw [Holds]
    split
    · exact ⟨by linarith, by linarith⟩
    · exact ⟨by linarith, by linarith⟩

theorem exists_onGrid? (hlow : (r.low : ℚ) * 2 ^ r.exponent < r.value * 2 ^ r.exponent)
    (hhigh : (r.value : ℚ) * 2 ^ r.exponent < r.high * 2 ^ r.exponent)
    (hfine : (10 : ℚ) ^ power < (r.high - r.low) * 2 ^ r.exponent) :
    ∃ d, r.onGrid? power = some d := by
  have hunit : 0 < Nat.pow 10 power.toNat * Nat.pow 2 (-r.exponent).toNat :=
    Nat.mul_pos (Nat.pow_pos (by decide)) (Nat.pow_pos (by decide))
  rw [onGrid?]
  simp only []
  generalize hbelow : r.value * (Nat.pow 2 r.exponent.toNat * Nat.pow 10 (-power).toNat) /
    (Nat.pow 10 power.toNat * Nat.pow 2 (-r.exponent).toNat) = below
  have hfloor := (Nat.le_div_iff_mul_le hunit).mp hbelow.ge
  have hceil := (Nat.div_lt_iff_lt_mul hunit).mp (hbelow.trans_lt (Nat.lt_succ_self below))
  rw [unit_le_scale_iff] at hfloor
  rw [scale_lt_unit_iff] at hceil
  have hsome := holds_or_holds hlow hhigh hfine hfloor hceil
  rw [← holds_iff, ← holds_iff] at hsome
  split
  · split
    · exact ⟨_, rfl⟩
    · exact ⟨_, rfl⟩
  · exact ⟨_, rfl⟩
  · exact ⟨_, rfl⟩
  · next hnone habove =>
    rw [hnone, habove] at hsome
    simp at hsome

end Rounding

/-! ## The grid of seventeen digits -/

/-- Ten to a power is at most two to a power, as long as the powers are small and are
to each other as the logarithms of two and ten, but for two. -/
theorem ten_zpow_le_two_zpow {g n : Int} (h : 100000 * g ≤ 30103 * n)
    (hlow : -1100 ≤ n) (hhigh : n ≤ 1100) : (10 : ℚ) ^ (g - 2) ≤ 2 ^ n := by
  by_cases hg : 0 ≤ g - 2
  · -- ten is at most two to 196/59
    have hbound : ((10 : ℚ) ^ (g - 2)) ^ (59 : ℤ) ≤ (2 ^ n) ^ (59 : ℤ) := by
      calc ((10 : ℚ) ^ (g - 2)) ^ (59 : ℤ) = ((10 : ℚ) ^ (59 : ℤ)) ^ (g - 2) := zpow_comm _ _ _
        _ ≤ ((2 : ℚ) ^ (196 : ℤ)) ^ (g - 2) := zpow_le_zpow_left₀ hg (by norm_num) (by norm_num)
        _ = (2 : ℚ) ^ (196 * (g - 2)) := (zpow_mul _ _ _).symm
        _ ≤ (2 : ℚ) ^ (n * 59) := zpow_le_zpow_right₀ (by norm_num) (by omega)
        _ = (2 ^ n) ^ (59 : ℤ) := zpow_mul _ _ _
    exact (zpow_le_zpow_iff_left₀ (by positivity) (by positivity) (by norm_num)).mp hbound
  · -- ten is at least two to 93/28
    have hbound : ((2 : ℚ) ^ (-n)) ^ (28 : ℤ) ≤ (10 ^ (2 - g)) ^ (28 : ℤ) := by
      calc ((2 : ℚ) ^ (-n)) ^ (28 : ℤ) = (2 : ℚ) ^ (-n * 28) := (zpow_mul _ _ _).symm
        _ ≤ (2 : ℚ) ^ (93 * (2 - g)) := zpow_le_zpow_right₀ (by norm_num) (by omega)
        _ = ((2 : ℚ) ^ (93 : ℤ)) ^ (2 - g) := zpow_mul _ _ _
        _ ≤ ((10 : ℚ) ^ (28 : ℤ)) ^ (2 - g) :=
          zpow_le_zpow_left₀ (by omega) (by norm_num) (by norm_num)
        _ = (10 ^ (2 - g)) ^ (28 : ℤ) := zpow_comm _ _ _
    have hle := (zpow_le_zpow_iff_left₀ (by positivity) (by positivity) (by norm_num)).mp hbound
    calc (10 : ℚ) ^ (g - 2) = ((10 : ℚ) ^ (2 - g))⁻¹ := by rw [← zpow_neg]; congr 1; omega
      _ ≤ ((2 : ℚ) ^ (-n))⁻¹ := inv_anti₀ (by positivity) hle
      _ = 2 ^ n := by rw [zpow_neg, inv_inv]

theorem powerAtMost_iff {power exponent : Int} {mantissa : Nat} :
    powerAtMost power (mantissa * Nat.pow 2 exponent.toNat) (Nat.pow 2 (-exponent).toNat) =
      true ↔ (10 : ℚ) ^ power ≤ binary mantissa exponent := by
  have h := unit_le_scale_iff mantissa 1 exponent power
  rw [Nat.one_mul, Nat.cast_one, one_mul] at h
  rw [powerAtMost, decide_eq_true_eq, Nat.mul_assoc, h, binary]

/-- The size of a value in bits: of its numerator, less that of its denominator. -/
def bits (mantissa : Nat) (exponent : Int) : Int :=
  (Nat.log2 (mantissa * Nat.pow 2 exponent.toNat) : Int) - (-exponent).toNat

theorem two_zpow_bits_le {mantissa : Nat} (hpos : 0 < mantissa) (exponent : Int) :
    (2 : ℚ) ^ bits mantissa exponent ≤ binary mantissa exponent := by
  have hnum : mantissa * 2 ^ exponent.toNat ≠ 0 :=
    (Nat.mul_pos hpos (Nat.pow_pos (by decide))).ne'
  have hle : ((2 ^ (mantissa * 2 ^ exponent.toNat).log2 : Nat) : ℚ) ≤
      ((mantissa * 2 ^ exponent.toNat : Nat) : ℚ) := by
    exact_mod_cast Nat.log2_self_le hnum
  rw [Nat.cast_mul, cast_pow_toNat 2 (by decide) exponent] at hle
  rw [bits, zpow_sub₀ (by norm_num), div_le_iff₀ (by positivity), zpow_natCast, zpow_natCast,
    binary, Nat.pow_eq]
  push_cast at hle
  rw [mul_assoc]
  exact hle

theorem Canonical.bits_bounds {mantissa : Nat} {exponent : Int} (h : Canonical mantissa exponent)
    (hpos : 0 < mantissa) : -1074 ≤ bits mantissa exponent ∧ bits mantissa exponent < 1024 := by
  have hleast := h.least
  have hgreatest := h.greatest
  have hnum : mantissa * 2 ^ exponent.toNat ≠ 0 :=
    (Nat.mul_pos hpos (Nat.pow_pos (by decide))).ne'
  have hlog : (mantissa * 2 ^ exponent.toNat).log2 < 53 + exponent.toNat := by
    rw [Nat.log2_lt hnum, pow_add]
    exact Nat.mul_lt_mul_of_pos_right h.mantissa_lt (Nat.pow_pos (by decide))
  rw [bits, Nat.pow_eq]
  omega

theorem magnitude_le {mantissa : Nat} {exponent : Int} (h : Canonical mantissa exponent)
    (hpos : 0 < mantissa) :
    (10 : ℚ) ^ Number.magnitude (mantissa * Nat.pow 2 exponent.toNat)
      (Nat.pow 2 (-exponent).toNat) ≤ binary mantissa exponent := by
  rw [Number.magnitude]
  split
  · next power hpower =>
    have hfound := List.find?_some hpower
    exact powerAtMost_iff.mp hfound
  · have hbounds := h.bits_bounds hpos
    refine (ten_zpow_le_two_zpow ?_ (by omega) (by omega)).trans (two_zpow_bits_le hpos exponent)
    have hsize : Int.ofNat (mantissa * Nat.pow 2 exponent.toNat).log2 -
        Int.ofNat (Nat.pow 2 (-exponent).toNat).log2 = bits mantissa exponent := by
      rw [bits, show (Nat.pow 2 (-exponent).toNat).log2 = (-exponent).toNat from Nat.log2_two_pow]
      rfl
    rw [hsize]
    omega

/-! ## The shortest decimal -/

section Around

variable {mantissa : Nat} {exponent : Int}

/-- How far below a double the reals reach that round to it, in quarters of its last
place. -/
def lowerGap (mantissa : Nat) (exponent : Int) : Nat :=
  if mantissa == Nat.pow 2 52 && decide (-1074 < exponent) then 1 else 2

theorem around_low (hpos : 0 < mantissa) :
    ((Rounding.around mantissa exponent).low : ℚ) = 4 * mantissa - lowerGap mantissa exponent := by
  have hgap : lowerGap mantissa exponent ≤ 4 * mantissa := by
    rw [lowerGap]
    split
    · omega
    · omega
  change ((4 * mantissa - lowerGap mantissa exponent : Nat) : ℚ) = _
  rw [Nat.cast_sub hgap]
  push_cast
  rfl

theorem quarter_zpow (exponent : Int) : 4 * (2 : ℚ) ^ (exponent - 2) = 2 ^ exponent := by
  rw [zpow_sub₀ (by norm_num)]
  norm_num
  ring

/-- The value of a double in quarters of its last place. -/
theorem binary_eq (mantissa : Nat) (exponent : Int) :
    binary mantissa exponent = 4 * mantissa * 2 ^ (exponent - 2) := by
  rw [binary, ← quarter_zpow]
  ring

theorem lowerGap_pos (mantissa : Nat) (exponent : Int) : 0 < lowerGap mantissa exponent := by
  rw [lowerGap]
  split
  · decide
  · decide

/-- The last of seventeen digits is worth less than the reals are apart that round to a
double. -/
theorem Canonical.fine (h : Canonical mantissa exponent) {size : Int}
    (hsize : (10 : ℚ) ^ size ≤ binary mantissa exponent) :
    (10 : ℚ) ^ (size - 16) < (2 + lowerGap mantissa exponent) * 2 ^ (exponent - 2) := by
  have hdigits : 4 * mantissa < (2 + lowerGap mantissa exponent) * 10 ^ 16 := by
    have hlt := h.mantissa_lt
    rw [lowerGap]
    split
    · next hpower =>
      rw [Bool.and_eq_true, beq_iff_eq, Nat.pow_eq] at hpower
      omega
    · omega
  have hcast : (4 * mantissa : ℚ) < (2 + lowerGap mantissa exponent) * 10 ^ 16 := by
    exact_mod_cast hdigits
  rw [binary_eq] at hsize
  have hpos : (0 : ℚ) < 2 ^ (exponent - 2) := by positivity
  rw [zpow_sub₀ (by norm_num), div_lt_iff₀ (by positivity)]
  calc (10 : ℚ) ^ size ≤ 4 * mantissa * 2 ^ (exponent - 2) := hsize
    _ < (2 + lowerGap mantissa exponent) * 10 ^ 16 * 2 ^ (exponent - 2) :=
      mul_lt_mul_of_pos_right hcast hpos
    _ = (2 + lowerGap mantissa exponent) * 2 ^ (exponent - 2) * 10 ^ (16 : ℤ) := by
      rw [show (10 : ℚ) ^ (16 : ℤ) = 10 ^ 16 by norm_num]
      ring

/-- On the grid of seventeen digits there is a point that rounds to a double. -/
theorem exists_seventeen (h : Canonical mantissa exponent) (hpos : 0 < mantissa) {size : Int}
    (hsize : (10 : ℚ) ^ size ≤ binary mantissa exponent) :
    ∃ d, (Rounding.around mantissa exponent).onGrid? (size - 16) = some d := by
  have hquarter : (0 : ℚ) < 2 ^ (exponent - 2) := by positivity
  have hgap : (0 : ℚ) < lowerGap mantissa exponent := by
    exact_mod_cast lowerGap_pos mantissa exponent
  have hvalue : ((Rounding.around mantissa exponent).value : ℚ) = 4 * mantissa := by
    simp [Rounding.around]
  have hhigh : ((Rounding.around mantissa exponent).high : ℚ) = 4 * mantissa + 2 := by
    simp [Rounding.around]
  have hfine := h.fine hsize
  refine Rounding.exists_onGrid? ?_ ?_ ?_
  · rw [around_low hpos, hvalue]
    exact mul_lt_mul_of_pos_right (by linarith) hquarter
  · rw [hvalue, hhigh]
    exact mul_lt_mul_of_pos_right (by linarith) hquarter
  · rw [around_low hpos, hhigh, show (Rounding.around mantissa exponent).exponent = exponent - 2
      from rfl]
    calc (10 : ℚ) ^ (size - 16) < (2 + lowerGap mantissa exponent) * 2 ^ (exponent - 2) := hfine
      _ = _ := by ring

/-- The shortest decimal of a double is one that rounds to it. -/
theorem shortest_holds (h : Canonical mantissa exponent) (hpos : 0 < mantissa) :
    (Rounding.around mantissa exponent).Holds (shortest mantissa exponent).value := by
  have hsize := magnitude_le h hpos
  rw [shortest]
  generalize Number.magnitude (mantissa * Nat.pow 2 exponent.toNat) (Nat.pow 2 (-exponent).toNat) =
    size at hsize ⊢
  split
  · next d hfound =>
    obtain ⟨count, -, hgrid⟩ := List.exists_of_findSome?_eq_some hfound
    exact Rounding.holds_of_onGrid? hgrid
  · next hnone =>
    obtain ⟨d, hd⟩ := exists_seventeen h hpos hsize
    have hlast := List.findSome?_eq_none_iff.mp hnone 17 (by decide)
    have hpower : size + 1 - Int.ofNat 17 = size - 16 := by
      rw [Int.ofNat_eq_natCast]
      omega
    rw [hpower, hd] at hlast
    cases hlast

/-! ## Spacing -/

/-- A double is nearest to a number if no number with as many bits, and as small a power
of two as a double has, is nearer to it.  Of two that are equally near, the one with the
even mantissa is the nearest. -/
def Nearest (mantissa : Nat) (exponent : Int) (q : ℚ) : Prop :=
  ∀ (m : Nat) (e : Int), m < 2 ^ 53 → -1074 ≤ e → binary m e ≠ binary mantissa exponent →
    |q - binary mantissa exponent| < |q - binary m e| ∨
      (|q - binary mantissa exponent| = |q - binary m e| ∧ Even mantissa)

theorem lowerGap_le (mantissa : Nat) (exponent : Int) : lowerGap mantissa exponent ≤ 2 := by
  rw [lowerGap]
  split
  · decide
  · decide

/-- In quarters of its last place, a double with all its bits is as far above the greatest
number with a smaller power of two as below it the reals reach twice. -/
theorem Canonical.le_quarters (h : Canonical mantissa exponent) (hleast : -1074 < exponent) :
    2 ^ 54 + 2 * lowerGap mantissa exponent ≤ 4 * mantissa + 2 := by
  have hfull : 2 ^ 52 ≤ mantissa := by
    rcases h.full with hfull | hexponent
    · exact hfull
    · omega
  rw [lowerGap]
  split
  · omega
  · next hpower =>
    rw [Bool.and_eq_true, beq_iff_eq, Nat.pow_eq, decide_eq_true_eq] at hpower
    omega

/-- The numbers with the bits of doubles are as far from a double as its own last place,
or half of that below a power of two. -/
theorem Canonical.spaced (h : Canonical mantissa exponent) {m : Nat} {e : Int}
    (hm : m < 2 ^ 53) (he : -1074 ≤ e) (hne : binary m e ≠ binary mantissa exponent) :
    binary mantissa exponent + 4 * 2 ^ (exponent - 2) ≤ binary m e ∨
      binary m e ≤
        binary mantissa exponent - 2 * lowerGap mantissa exponent * 2 ^ (exponent - 2) := by
  have hquarter : (0 : ℚ) < 2 ^ (exponent - 2) := by positivity
  have hvalue := binary_eq mantissa exponent
  by_cases hpower : exponent ≤ e
  · -- both are multiples of the last place of the double
    obtain ⟨n, hn⟩ := Int.le.dest hpower
    have hmultiple : binary m e = 4 * (m * 2 ^ n : Nat) * 2 ^ (exponent - 2) := by
      rw [binary, ← hn, zpow_add₀ (by norm_num), ← quarter_zpow, zpow_natCast]
      push_cast
      ring
    generalize m * 2 ^ n = multiple at hmultiple
    rcases Nat.lt_trichotomy mantissa multiple with hlt | heq | hlt
    · left
      have hcast : (mantissa : ℚ) + 1 ≤ multiple := by exact_mod_cast hlt
      rw [hvalue, hmultiple]
      nlinarith
    · exact absurd (by rw [hvalue, hmultiple, heq]) hne
    · right
      have hcast : (multiple : ℚ) + 1 ≤ mantissa := by exact_mod_cast hlt
      have hgap : (lowerGap mantissa exponent : ℚ) ≤ 2 := by
        exact_mod_cast lowerGap_le mantissa exponent
      rw [hvalue, hmultiple]
      nlinarith
  · right
    have hquarters : (2 : ℚ) ^ 54 + 2 * lowerGap mantissa exponent ≤ 4 * mantissa + 2 := by
      exact_mod_cast h.le_quarters (by omega)
    have hsmall : (2 : ℚ) ^ e ≤ 2 * 2 ^ (exponent - 2) := by
      rw [← zpow_one_add₀ (by norm_num)]
      exact zpow_le_zpow_right₀ (by norm_num) (by omega)
    have hbits : (m : ℚ) + 1 ≤ 2 ^ 53 := by exact_mod_cast hm
    calc binary m e = m * 2 ^ e := rfl
      _ ≤ (2 ^ 53 - 1) * (2 * 2 ^ (exponent - 2)) :=
        mul_le_mul (by linarith) hsmall (by positivity) (by norm_num)
      _ = (2 ^ 54 - 2) * 2 ^ (exponent - 2) := by ring
      _ ≤ (4 * mantissa - 2 * lowerGap mantissa exponent) * 2 ^ (exponent - 2) :=
        mul_le_mul_of_nonneg_right (by linarith) hquarter.le
      _ = _ := by
        rw [hvalue]
        ring

theorem abs_sub_le_abs_sub {q v y : ℚ} (h : (v < y ∧ 2 * q ≤ v + y) ∨ (y < v ∧ v + y ≤ 2 * q)) :
    |q - v| ≤ |q - y| := by
  rcases h with ⟨hlt, hmid⟩ | ⟨hlt, hmid⟩
  · rw [abs_sub_comm q y]
    exact (abs_le.mpr ⟨by linarith, by linarith⟩).trans (le_abs_self (y - q))
  · exact (abs_le.mpr ⟨by linarith, by linarith⟩).trans (le_abs_self (q - y))

theorem abs_sub_lt_abs_sub {q v y : ℚ} (h : (v < y ∧ 2 * q < v + y) ∨ (y < v ∧ v + y < 2 * q)) :
    |q - v| < |q - y| := by
  rcases h with ⟨hlt, hmid⟩ | ⟨hlt, hmid⟩
  · rw [abs_sub_comm q y]
    exact (abs_lt.mpr ⟨by linarith, by linarith⟩).trans_le (le_abs_self (y - q))
  · exact (abs_lt.mpr ⟨by linarith, by linarith⟩).trans_le (le_abs_self (q - y))

/-- A double is the nearest to all numbers that its rounding takes in. -/
theorem Canonical.nearest (h : Canonical mantissa exponent) (hpos : 0 < mantissa) {q : ℚ}
    (hq : (Rounding.around mantissa exponent).Holds q) : Nearest mantissa exponent q := by
  intro m e hm he hne
  have hquarter : (0 : ℚ) < 2 ^ (exponent - 2) := by positivity
  have hgap : (0 : ℚ) < lowerGap mantissa exponent * 2 ^ (exponent - 2) :=
    mul_pos (by exact_mod_cast lowerGap_pos mantissa exponent) hquarter
  have hvalue := binary_eq mantissa exponent
  have hspaced := h.spaced hm he hne
  rw [Rounding.Holds, around_low hpos, show (Rounding.around mantissa exponent).exponent =
    exponent - 2 from rfl, show (Rounding.around mantissa exponent).high = 4 * mantissa + 2
    from rfl] at hq
  push_cast at hq
  rw [sub_mul, add_mul, ← hvalue] at hq
  split at hq
  · next hclosed =>
    have heven : Even mantissa := by
      rw [Nat.even_iff]
      exact eq_of_beq hclosed
    have hle : |q - binary mantissa exponent| ≤ |q - binary m e| := by
      refine abs_sub_le_abs_sub ?_
      rcases hspaced with habove | hbelow
      · exact .inl ⟨by linarith, by linarith⟩
      · exact .inr ⟨by linarith, by linarith⟩
    rcases hle.lt_or_eq with hlt | heq
    · exact .inl hlt
    · exact .inr ⟨heq, heven⟩
  · left
    refine abs_sub_lt_abs_sub ?_
    rcases hspaced with habove | hbelow
    · exact .inl ⟨by linarith, by linarith⟩
    · exact .inr ⟨by linarith, by linarith⟩

/-- A double is the nearest to the shortest decimal that is written for it. -/
theorem nearest_shortest (h : Canonical mantissa exponent) (hpos : 0 < mantissa) :
    Nearest mantissa exponent (shortest mantissa exponent).value :=
  h.nearest hpos (shortest_holds h hpos)

theorem nearest_zero (exponent : Int) : Nearest 0 exponent 0 := by
  intro m e _ _ hne
  left
  have hzero : binary 0 exponent = 0 := by simp [binary]
  rw [hzero] at hne ⊢
  simpa using hne

end Around

/-- The text of a finite double spells, behind its sign, a decimal to which it is the
nearest double. -/
theorem exists_spells_nearest (layout : Layout) {x : Float} {negative : Bool} {mantissa : Nat}
    {exponent : Int} (h : parts x = .finite negative mantissa exponent) :
    ∃ cs d, layout.double x = Places.signed negative cs ∧ Spells cs d ∧
      Nearest mantissa exponent d.value := by
  obtain ⟨cs, d, htext, hspells, hvalue⟩ := exists_spells_double layout h
  refine ⟨cs, d, htext, hspells, ?_⟩
  rw [hvalue]
  by_cases hzero : mantissa = 0
  · rw [if_pos hzero, hzero]
    exact nearest_zero exponent
  · rw [if_neg hzero]
    exact nearest_shortest (canonical_of_parts h) (Nat.pos_of_ne_zero hzero)

end DocLedger.Number
