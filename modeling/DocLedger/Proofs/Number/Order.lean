import DocLedger.Value.Compare
import Mathlib.Algebra.Order.Field.Rat
import Mathlib.Order.WithBot
import Mathlib.Tactic.NormNum

/-!
# The order of numbers

A number has a place among the rationals and the two infinities, and the comparison of
exact numbers is the order of their places.  So is the comparison of values that are
numbers, whatever kinds of number they are.
-/

namespace DocLedger

namespace Number

/-- The rationals with an infinity at either end. -/
abbrev Line := WithBot (WithTop ℚ)

namespace Exact

def place? : Exact → Option Line
  | .undefined => none
  | .infinite true => some ⊥
  | .infinite false => some ((⊤ : WithTop ℚ) : Line)
  | .fraction n d => some (((n / d : ℚ) : WithTop ℚ) : Line)

/-- A fraction is taken over a positive number. -/
def Proper : Exact → Prop
  | .fraction _ d => 0 < d
  | _ => True

theorem le_iff_of_fractions {a c : Int} {b d : Nat} (hb : 0 < b) (hd : 0 < d) :
    (Exact.fraction a b).le (.fraction c d) = true ↔ (a / b : ℚ) ≤ c / d := by
  have hb' : (0 : ℚ) < b := by exact_mod_cast hb
  have hd' : (0 : ℚ) < d := by exact_mod_cast hd
  rw [div_le_div_iff₀ hb' hd', le, decide_eq_true_eq]
  exact_mod_cast Iff.rfl

/-- A number is at most another just in case its place is. -/
theorem le_iff {a b : Exact} (ha : a.Proper) (hb : b.Proper) {p q : Line}
    (hp : a.place? = some p) (hq : b.place? = some q) : a.le b = true ↔ p ≤ q := by
  cases a with
  | undefined => cases hp
  | infinite negative =>
      cases negative with
      | true =>
          obtain rfl : ⊥ = p := Option.some.inj hp
          have hle : (Exact.infinite true).le b = true := by
            cases b with
            | undefined => cases hq
            | infinite negative => cases negative with | true => rfl | false => rfl
            | fraction n d => rfl
          simp [hle]
      | false =>
          obtain rfl : ((⊤ : WithTop ℚ) : Line) = p := Option.some.inj hp
          cases b with
          | undefined => cases hq
          | infinite negative =>
              cases negative with
              | true =>
                  obtain rfl : ⊥ = q := Option.some.inj hq
                  simp [le]
              | false =>
                  obtain rfl : ((⊤ : WithTop ℚ) : Line) = q := Option.some.inj hq
                  simp [le]
          | fraction n d =>
              obtain rfl : (((n / d : ℚ) : WithTop ℚ) : Line) = q := Option.some.inj hq
              simp [le]
  | fraction n d =>
      obtain rfl : (((n / d : ℚ) : WithTop ℚ) : Line) = p := Option.some.inj hp
      cases b with
      | undefined => cases hq
      | infinite negative =>
          cases negative with
          | true =>
              obtain rfl : ⊥ = q := Option.some.inj hq
              simp [le]
          | false =>
              obtain rfl : ((⊤ : WithTop ℚ) : Line) = q := Option.some.inj hq
              simp [le]
      | fraction n' d' =>
          obtain rfl : (((n' / d' : ℚ) : WithTop ℚ) : Line) = q := Option.some.inj hq
          rw [WithBot.coe_le_coe, WithTop.coe_le_coe]
          exact le_iff_of_fractions ha hb

end Exact

theorem proper_exactInt (n : Int) : (exactInt n).Proper := Nat.one_pos

theorem proper_exact (x : Float) : (exact x).Proper := by
  rw [exact]
  cases parts x with
  | notANumber => exact trivial
  | infinite negative => exact trivial
  | finite negative mantissa exponent => exact Nat.pow_pos (by decide)

theorem Places.proper_exact (d : Places) : d.exact.Proper := by
  cases d with
  | infinite negative => exact trivial
  | undefined negative signaling payload => exact trivial
  | number negative digits exponent =>
      rw [Places.exact]
      split
      · exact Nat.one_pos
      · exact Nat.pow_pos (by decide)

end Number

namespace Value

open Number (Line)

def place? (v : Value) : Option Line := v.number?.bind Number.Exact.place?

theorem exists_number_of_place {v : Value} {p : Line} (h : v.place? = some p) :
    ∃ x, v.number? = some x ∧ x.place? = some p ∧ x.Proper := by
  obtain ⟨x, hx, hp⟩ := Option.bind_eq_some_iff.mp h
  refine ⟨x, hx, hp, ?_⟩
  cases v with
  | bool b =>
      obtain rfl := Option.some.inj hx
      exact Number.proper_exactInt _
  | int n =>
      obtain rfl := Option.some.inj hx
      exact Number.proper_exactInt n
  | float y =>
      obtain rfl := Option.some.inj hx
      exact Number.proper_exact y
  | decimal d =>
      obtain rfl := Option.some.inj hx
      exact Number.Places.proper_exact d
  | null | text | bytes | list | tuple | set | mapping | moment | record | loop => cases hx

theorem compare_of_number {v : Value} {x : Number.Exact} (h : v.number? = some x) (c : Comparison)
    (w : Value) : compare c v w = compareNumbers c v w := by
  cases v with
  | bool b => cases w <;> rfl
  | int n => cases w <;> rfl
  | float y => cases w <;> rfl
  | decimal d => cases w <;> rfl
  | null | text | bytes | list | tuple | set | mapping | moment | record | loop => cases h

theorem same_of_numbers {v w : Value} {x y : Number.Exact} (hv : v.number? = some x)
    (hw : w.number? = some y) : same v w = x.eq y := by
  cases v with
  | bool b => cases w <;> cases hv <;> cases hw <;> simp [same, number?]
  | int n => cases w <;> cases hv <;> cases hw <;> simp [same, number?]
  | float z => cases w <;> cases hv <;> cases hw <;> simp [same, number?]
  | decimal d => cases w <;> cases hv <;> cases hw <;> simp [same, number?]
  | null | text | bytes | list | tuple | set | mapping | moment | record | loop => cases hv

/-- Numbers are compared by their places. -/
theorem compare_atMost {v w : Value} {p q : Line} (hv : v.place? = some p)
    (hw : w.place? = some q) : compare .atMost v w = .ok (decide (p ≤ q)) := by
  obtain ⟨x, hx, hp, hproper⟩ := exists_number_of_place hv
  obtain ⟨y, hy, hq, hproper'⟩ := exists_number_of_place hw
  have hxd : (x == .undefined) = false := by
    cases x with
    | undefined => cases hp
    | infinite | fraction => rfl
  have hyd : (y == .undefined) = false := by
    cases y with
    | undefined => cases hq
    | infinite | fraction => rfl
  rw [compare_of_number hx, compareNumbers, hx, hy]
  simp only [hxd, hyd, Bool.or_self, Bool.and_false, Bool.false_eq_true, if_false,
    Comparison.holds]
  rw [Except.ok.injEq, Bool.eq_iff_iff, decide_eq_true_eq]
  exact Number.Exact.le_iff hproper hproper' hp hq

theorem same_iff {v w : Value} {p q : Line} (hv : v.place? = some p) (hw : w.place? = some q) :
    same v w = true ↔ p = q := by
  obtain ⟨x, hx, hp, hproper⟩ := exists_number_of_place hv
  obtain ⟨y, hy, hq, hproper'⟩ := exists_number_of_place hw
  rw [same_of_numbers hx hy, Number.Exact.eq, Bool.and_eq_true,
    Number.Exact.le_iff hproper hproper' hp hq, Number.Exact.le_iff hproper' hproper hq hp]
  exact ⟨fun h => le_antisymm h.1 h.2, fun h => ⟨h.le, h.ge⟩⟩

theorem keyFault?_of_place {v : Value} {p : Line} (h : v.place? = some p) : keyFault? v = none := by
  cases v with
  | bool | int | float => rfl
  | decimal d =>
      cases d with
      | number | infinite => rfl
      | undefined => cases h
  | null | text | bytes | list | tuple | set | mapping | moment | record | loop => cases h

end Value

end DocLedger
