import DocLedger.Number.Text

/-!
# Digits written and read

The digits of a whole number write it, no zero stands in front of them, and a
reader takes them off the front of a text if no other digit follows.  An integer
is within the limit just in case its digits are.
-/

namespace DocLedger.Number

theorem isDigit_of_mem_natDigits {n : Nat} {c : Char} (h : c ∈ natDigits n) :
    c.isDigit = true :=
  Nat.isDigit_of_mem_toDigits (by decide) (by decide) h

theorem natDigits_ne_nil (n : Nat) : natDigits n ≠ [] :=
  Nat.toDigits_ne_nil

theorem digitsValue_natDigits (n : Nat) : digitsValue (natDigits n) = n := by
  have h : Nat.ofDigitChars 10 (natDigits n) 0 = n := Nat.ofDigitChars_ten_toDigits
  rw [Nat.ofDigitChars_eq_foldl] at h
  simpa only [digitsValue, Nat.mul_comm] using h

theorem eq_zero_of_natDigits_eq {n : Nat} {tail : List Char} (h : natDigits n = '0' :: tail) :
    n = 0 := by
  induction n using Nat.strongRecOn generalizing tail with
  | ind n ih =>
      rcases Nat.lt_or_ge n 10 with hsmall | hlarge
      · rw [natDigits, Nat.toDigits_of_lt_base hsmall] at h
        exact Nat.digitChar_eq_zero.mp (List.cons.inj h).1
      · rw [natDigits, Nat.toDigits_of_base_le (by decide) hlarge] at h
        obtain ⟨c, front, hfront⟩ := List.exists_cons_of_ne_nil (natDigits_ne_nil (n / 10))
        rw [natDigits] at hfront
        rw [hfront] at h
        obtain rfl : c = '0' := (List.cons.inj h).1
        have hzero := ih (n / 10) (by omega) hfront
        omega

/-- A text that does not go on with a digit. -/
def NoDigit (rest : List Char) : Prop :=
  ∀ c tail, rest = c :: tail → c.isDigit = false

theorem spanDigits_of_noDigit {rest : List Char} (h : NoDigit rest) :
    spanDigits rest = ([], rest) := by
  cases rest with
  | nil => rfl
  | cons c tail => simp [spanDigits, h c tail rfl]

theorem spanDigits_append {ds rest : List Char} (hds : ∀ c ∈ ds, c.isDigit = true)
    (h : NoDigit rest) : spanDigits (ds ++ rest) = (ds, rest) := by
  obtain ⟨hnone, hall⟩ := Prod.mk.inj (spanDigits_of_noDigit h)
  rw [spanDigits, List.takeWhile_append_of_pos hds, List.dropWhile_append_of_pos hds,
    hnone, hall, List.append_nil]

theorem spanDigits_natDigits_append (n : Nat) {rest : List Char} (h : NoDigit rest) :
    spanDigits (natDigits n ++ rest) = (natDigits n, rest) :=
  spanDigits_append (fun _ => isDigit_of_mem_natDigits) h

theorem tooLong_eq_false_iff {n : Int} :
    tooLong n = false ↔ (natDigits n.natAbs).length ≤ digitLimit := by
  rw [natDigits, Nat.length_toDigits_le_iff (by decide) (by decide), tooLong,
    decide_eq_false_iff_not, Nat.not_le, Nat.pow_eq]

theorem tooLong_neg (n : Int) : tooLong (-n) = tooLong n := by
  rw [tooLong, tooLong, Int.natAbs_neg]

/-- An integer of at most nineteen digits is within the limit. -/
theorem tooLong_of_natAbs_lt {n : Int} (h : n.natAbs < Nat.pow 10 19) : tooLong n = false := by
  rw [tooLong_eq_false_iff, natDigits]
  have hlength := (Nat.length_toDigits_le_iff (b := 10) (k := 19) (by decide) (by decide)).mpr h
  exact Nat.le_trans hlength (by decide)

/-- Digits write a number below the power of ten that has as many zeros. -/
theorem digitsValue_lt {ds : List Char} (h : ∀ c ∈ ds, c.isDigit = true) :
    digitsValue ds < Nat.pow 10 ds.length := by
  -- the fold goes on from what the digits in front have given
  have hfold (n : Nat) :
      ds.foldl (fun n c => n * 10 + (c.toNat - '0'.toNat)) n < (n + 1) * 10 ^ ds.length := by
    induction ds generalizing n with
    | nil => simp
    | cons c rest ih =>
        have hc : c.isDigit = true := h c List.mem_cons_self
        simp only [Char.isDigit, Bool.and_eq_true, decide_eq_true_eq] at hc
        have hhigh : c.toNat - '0'.toNat ≤ 9 := Nat.sub_le_of_le_add hc.2
        have hrest := ih (fun d hd => h d (List.mem_cons_of_mem _ hd))
          (n * 10 + (c.toNat - '0'.toNat))
        rw [List.foldl_cons, List.length_cons, Nat.pow_succ']
        refine Nat.lt_of_lt_of_le hrest ?_
        rw [← Nat.mul_assoc]
        exact Nat.mul_le_mul_right _ (by omega)
  simpa [digitsValue] using hfold 0

theorem tooLong_of_natAbs_lt_pow {n : Int} {count : Nat} (h : n.natAbs < Nat.pow 10 count)
    (hcount : count ≤ digitLimit) : tooLong n = false := by
  rw [tooLong, decide_eq_false_iff_not, Nat.not_le]
  generalize digitLimit = limit at hcount
  exact Nat.lt_of_lt_of_le h (Nat.pow_le_pow_right (by decide) hcount)

theorem tooLong_of_digits {ds : List Char} (h : ∀ c ∈ ds, c.isDigit = true)
    (hlength : ds.length ≤ digitLimit) (negative : Bool) :
    tooLong (if negative then -Int.ofNat (digitsValue ds) else Int.ofNat (digitsValue ds)) =
      false := by
  refine tooLong_of_natAbs_lt_pow ?_ hlength
  have hvalue := digitsValue_lt h
  cases negative <;> simpa using hvalue

theorem isDigit_of_mem_spanDigits {cs : List Char} {c : Char} (h : c ∈ (spanDigits cs).1) :
    c.isDigit = true :=
  List.all_eq_true.mp List.all_takeWhile c h

theorem tooLong_ten_pow : tooLong (Nat.pow 10 digitLimit) = true := by
  unfold tooLong
  generalize digitLimit = limit
  simp

/-- The text of an integer is a minus sign, where there is one, and the digits of
its size. -/
theorem intDigits_eq (n : Int) :
    intDigits n = (if n < 0 then ['-'] else []) ++ natDigits n.natAbs := by
  cases n with
  | ofNat n => simp [intDigits]
  | negSucc n => simp [intDigits, Int.negSucc_lt_zero]

theorem mem_intDigits {n : Int} {c : Char} (h : c ∈ intDigits n) : c = '-' ∨ c.isDigit = true := by
  rw [intDigits_eq, List.mem_append] at h
  rcases h with hsign | hdigit
  · split at hsign
    · exact .inl (List.mem_singleton.mp hsign)
    · cases hsign
  · exact .inr (isDigit_of_mem_natDigits hdigit)

theorem spanSign_intDigits (n : Int) :
    spanSign (intDigits n) = (decide (n < 0), natDigits n.natAbs) := by
  rw [intDigits_eq]
  by_cases hn : n < 0
  · simp [hn, spanSign]
  · obtain ⟨c, tail, hdigits⟩ := List.exists_cons_of_ne_nil (natDigits_ne_nil n.natAbs)
    have hc : c.isDigit = true := isDigit_of_mem_natDigits (hdigits ▸ List.mem_cons_self)
    simp only [hn, ↓reduceIte, List.nil_append, decide_false]
    rw [hdigits, spanSign.eq_def]
    split
    · next heq => cases heq; cases hc
    · next heq => cases heq; cases hc
    · rfl

end DocLedger.Number
