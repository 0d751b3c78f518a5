import DocLedger.Json.Printer
import DocLedger.Proofs.Json.Extension
import DocLedger.Proofs.Number.Digits

/-!
# What is written is read

The text of a string is read back to its closing quote, whatever is escaped in
it, and the text of an integer within the limit is read back up to the delimiter
that follows.  Characters outside the basic plane are written as two halves of a
pair in ASCII, which the reader joins again.
-/

namespace DocLedger.Json

open Number (NoDigit intDigits natDigits)

/-! ## Numbered escapes -/

theorem hexValue?_digitChar {d : Nat} (hd : d < 16) : hexValue? d.digitChar = some d := by
  have hall : ∀ d : Fin 16, hexValue? d.val.digitChar = some d.val := by decide
  exact hall ⟨d, hd⟩

theorem hex_succ {width : Nat} (hwidth : 0 < width) (n : Nat) :
    Text.Quoted.hex (width + 1) n = Text.Quoted.hex width (n / 16) ++ [(n % 16).digitChar] := by
  simp only [Text.Quoted.hex, Number.zeroFilled]
  rcases Nat.lt_or_ge n 16 with hsmall | hlarge
  · obtain ⟨width, rfl⟩ := Nat.exists_eq_add_of_le' hwidth
    rw [Nat.div_eq_of_lt hsmall, Nat.mod_eq_of_lt hsmall, Nat.toDigits_of_lt_base hsmall,
      Nat.toDigits_zero]
    simp [List.replicate_succ']
  · rw [Nat.toDigits_of_base_le (by decide) hlarge, List.length_append, List.length_singleton,
      Nat.add_sub_add_right, List.append_assoc]

theorem hex_four {n : Nat} (hn : n < 0x10000) :
    Text.Quoted.hex 4 n = [(n / 16 / 16 / 16).digitChar, (n / 16 / 16 % 16).digitChar,
      (n / 16 % 16).digitChar, (n % 16).digitChar] := by
  have hfirst : Text.Quoted.hex 1 (n / 16 / 16 / 16) = [(n / 16 / 16 / 16).digitChar] := by
    simp only [Text.Quoted.hex, Number.zeroFilled]
    rw [Nat.toDigits_of_lt_base (by omega)]
    rfl
  rw [hex_succ (by decide), hex_succ (by decide), hex_succ (by decide), hfirst]
  rfl

theorem hexUnit?_hex {n : Nat} (hn : n < 0x10000) (rest : List Char) :
    hexUnit? (Text.Quoted.hex 4 n ++ rest) = some (n, rest) := by
  rw [hex_four hn]
  simp only [List.cons_append, List.nil_append, hexUnit?,
    hexValue?_digitChar (show n / 16 / 16 / 16 < 16 by omega),
    hexValue?_digitChar (show n / 16 / 16 % 16 < 16 by omega),
    hexValue?_digitChar (show n / 16 % 16 < 16 by omega),
    hexValue?_digitChar (show n % 16 < 16 by omega),
    Option.bind_eq_bind, Option.bind_some, Option.pure_def, Option.some.injEq, Prod.mk.injEq,
    and_true]
  omega

theorem readEscape_unit {n : Nat} (hn : n < 0x10000) (hhigh : isHighHalf n = false)
    {rest : List Char} (hrest : rest ≠ []) :
    readEscape ('u' :: (Text.Quoted.hex 4 n ++ rest)) = .ok (ofUnit n, rest) := by
  have hlength : ¬ (Text.Quoted.hex 4 n ++ rest).length ≤ 4 := by
    have := List.length_pos_iff.mpr hrest
    rw [hex_four hn, List.length_append]
    simp only [List.length_cons, List.length_nil]
    omega
  rw [readEscape, if_neg hlength, hexUnit?_hex hn]
  simp [hhigh]

theorem readEscape_pair {high low : Nat} (hhigh : isHighHalf high = true)
    (hlow : isLowHalf low = true) {rest : List Char} (hrest : rest ≠ []) :
    readEscape ('u' :: (Text.Quoted.hex 4 high ++ (unitEscape low ++ rest))) =
      .ok (ofHalves high low, rest) := by
  obtain ⟨-, hhighBound⟩ : 0xd800 ≤ high ∧ high < 0xdc00 := by simpa [isHighHalf] using hhigh
  obtain ⟨-, hlowBound⟩ : 0xdc00 ≤ low ∧ low < 0xe000 := by simpa [isLowHalf] using hlow
  have hpos := List.length_pos_iff.mpr hrest
  have hlength : ¬ (Text.Quoted.hex 4 high ++ (unitEscape low ++ rest)).length ≤ 4 := by
    rw [hex_four (by omega), List.length_append, List.length_append]
    simp only [List.length_cons, List.length_nil]
    omega
  have hbehind : 4 < (Text.Quoted.hex 4 low ++ rest).length := by
    rw [hex_four (by omega), List.length_append]
    simp only [List.length_cons, List.length_nil]
    omega
  have hmark : (Text.Quoted.backslash == backslash) = true := rfl
  rw [readEscape, if_neg hlength, hexUnit?_hex (by omega)]
  simp only [hhigh, if_true, unitEscape, List.cons_append, readLowHalf, hmark, hbehind,
    decide_true, Bool.and_self, hexUnit?_hex (show low < 0x10000 by omega), hlow]

/-! ## Strings -/

theorem ofUnit_toNat {c : Char} (hsmall : c.toNat < 0x10000) :
    isHighHalf c.toNat = false ∧ ofUnit c.toNat = c := by
  have hvalid : c.toNat < 0xd800 ∨ 0xdfff < c.toNat := by
    rcases c.valid with hlow | hhigh
    · exact Or.inl hlow
    · exact Or.inr hhigh.1
  have hhigh : isHighHalf c.toNat = false := by
    simp only [isHighHalf, Bool.and_eq_false_iff, decide_eq_false_iff_not]
    omega
  have hlow : isLowHalf c.toNat = false := by
    simp only [isLowHalf, Bool.and_eq_false_iff, decide_eq_false_iff_not]
    omega
  exact ⟨hhigh, by rw [ofUnit, hhigh, hlow]; exact Char.ofNat_toNat c⟩

theorem exists_halves {c : Char} (hlarge : ¬ c.toNat < 0x10000) :
    ∃ high low, numberedEscape c = unitEscape high ++ unitEscape low ∧
      isHighHalf high = true ∧ isLowHalf low = true ∧ ofHalves high low = c := by
  have hbound : c.toNat < 0x110000 := by
    rcases c.valid with hlow | hhigh
    · exact Nat.lt_trans hlow (by decide)
    · exact hhigh.2
  refine ⟨0xd800 + (c.toNat - 0x10000) / 0x400, 0xdc00 + (c.toNat - 0x10000) % 0x400,
    if_neg hlarge, ?_, ?_, ?_⟩
  · simp only [isHighHalf, Bool.and_eq_true, decide_eq_true_eq]
    omega
  · simp only [isLowHalf, Bool.and_eq_true, decide_eq_true_eq]
    omega
  · have hnumber : 0x10000 + (0xd800 + (c.toNat - 0x10000) / 0x400 - 0xd800) * 0x400 +
        (0xdc00 + (c.toNat - 0x10000) % 0x400 - 0xdc00) = c.toNat := by omega
    rw [ofHalves, hnumber, Char.ofNat_toNat]

section Character

variable {start fuel : Nat} {tail text rest : List Char} {c : Char}

theorem readString_escape (mark : List Char) (hread : readEscape (mark ++ tail) = .ok (c, tail))
    (h : readString start fuel tail = .ok (text, rest)) :
    readString start (fuel + 1) (backslash :: mark ++ tail) = .ok (c :: text, rest) :=
  readString_succ_eq_ok_iff.mpr (.escape hread h)

theorem readString_numberedEscape (h : readString start fuel tail = .ok (text, rest)) :
    readString start (fuel + 1) (numberedEscape c ++ tail) = .ok (c :: text, rest) := by
  have htail : tail ≠ [] := (readString_leaves h).ne_nil
  by_cases hsmall : c.toNat < 0x10000
  · obtain ⟨hhigh, hchar⟩ := ofUnit_toNat hsmall
    have hread := readEscape_unit hsmall hhigh htail
    rw [hchar] at hread
    rw [numberedEscape, if_pos hsmall]
    exact readString_escape ('u' :: Text.Quoted.hex 4 c.toNat) hread h
  · obtain ⟨high, low, hescape, hhigh, hlow, hchar⟩ := exists_halves hsmall
    have hread := readEscape_pair hhigh hlow htail
    rw [hchar] at hread
    rw [hescape, List.append_assoc]
    exact readString_succ_eq_ok_iff.mpr (.escape hread h)

/-- What is written for one character is read in one step. -/
theorem readString_character {ascii : Bool} (h : readString start fuel tail = .ok (text, rest)) :
    readString start (fuel + 1) (character ascii c ++ tail) = .ok (c :: text, rest) := by
  -- the letter of a short escape gives the character of the number tested
  have hletter {n : Nat} {mark : Char} (hn : (c.toNat == n) = true)
      (hmark : readEscape (mark :: tail) = .ok (Char.ofNat n, tail)) :
      readString start (fuel + 1) ([Text.Quoted.backslash, mark] ++ tail) =
        .ok (c :: text, rest) := by
    rw [← eq_of_beq hn, Char.ofNat_toNat] at hmark
    exact readString_escape [mark] hmark h
  rw [character]
  split
  · next hself =>
    refine readString_escape [c] ?_ h
    rcases Bool.or_eq_true .. |>.mp hself with hquote | hback
    · rw [eq_of_beq hquote]
      rfl
    · rw [eq_of_beq hback]
      rfl
  · next hself =>
    simp only [Bool.or_eq_true, beq_iff_eq, not_or] at hself
    split
    · next hn => exact hletter hn rfl
    split
    · next hn => exact hletter hn rfl
    split
    · next hn => exact hletter hn rfl
    split
    · next hn => exact hletter hn rfl
    split
    · next hn => exact hletter hn rfl
    split
    · exact readString_numberedEscape h
    · next hplain =>
      refine readString_succ_eq_ok_iff.mpr (.plain ⟨hself.1, hself.2, ?_⟩ h)
      intro hcontrol
      simp [hcontrol] at hplain

end Character

theorem numberedEscape_ne_nil (c : Char) : numberedEscape c ≠ [] := by
  rw [numberedEscape]
  split
  · exact List.cons_ne_nil _ _
  · exact List.append_ne_nil_of_left_ne_nil (List.cons_ne_nil _ _) _

theorem character_ne_nil (ascii : Bool) (c : Char) : character ascii c ≠ [] := by
  rw [character]
  repeat' split
  any_goals exact List.cons_ne_nil _ _
  exact numberedEscape_ne_nil c

/-- A string is read back to its closing quote. -/
theorem readString_flatMap (start : Nat) (ascii : Bool) (cs rest : List Char) {fuel : Nat}
    (hfuel : (cs.flatMap (character ascii)).length < fuel) :
    readString start fuel (cs.flatMap (character ascii) ++ quoteMark :: rest) =
      .ok (cs, rest) := by
  induction cs generalizing fuel with
  | nil =>
      obtain ⟨fuel, rfl⟩ := Nat.exists_eq_add_of_le' hfuel
      exact readString_succ_eq_ok_iff.mpr .close
  | cons c cs ih =>
      obtain ⟨fuel, rfl⟩ := Nat.exists_eq_add_of_le' (Nat.lt_of_le_of_lt (Nat.zero_le _) hfuel)
      rw [List.flatMap_cons, List.length_append] at hfuel
      have := List.length_pos_iff.mpr (character_ne_nil ascii c)
      rw [List.flatMap_cons, List.append_assoc]
      exact readString_character (ih (by omega))

theorem stringBody_flatMap (ascii : Bool) (cs rest : List Char) :
    stringBody (cs.flatMap (character ascii) ++ quoteMark :: rest) = .ok (cs, rest) := by
  refine readString_flatMap _ ascii cs rest ?_
  rw [List.length_append, List.length_cons]
  omega

/-! ## Integers -/

theorem Delimited.head {rest : List Char} (h : Delimited rest) :
    ∃ c tail, rest = c :: tail ∧ c.isDigit = false ∧ c ≠ '.' ∧ c ≠ 'e' ∧ c ≠ 'E' := by
  cases rest with
  | nil => exact h.elim
  | cons c tail =>
      refine ⟨c, tail, rfl, ?_⟩
      simp only [Delimited, isBlank, Bool.or_eq_true, beq_iff_eq] at h
      rcases h with ((((rfl | rfl) | rfl) | rfl) | rfl | rfl | rfl) <;> decide

theorem Delimited.noDigit {rest : List Char} (h : Delimited rest) : NoDigit rest := by
  obtain ⟨c, tail, rfl, hdigit, -⟩ := h.head
  rintro d more heq
  cases heq
  exact hdigit

theorem readFraction_of_delimited {rest : List Char} (h : Delimited rest) :
    readFraction rest = ([], rest) := by
  obtain ⟨c, tail, rfl, -, hpoint, -⟩ := h.head
  unfold readFraction
  split
  · next heq =>
    cases heq
    exact absurd rfl hpoint
  · rfl

theorem readExponent_of_delimited {rest : List Char} (h : Delimited rest) :
    readExponent rest = (none, rest) := by
  obtain ⟨c, tail, rfl, -, -, he, hE⟩ := h.head
  simp [readExponent, he, hE]

theorem readWhole?_natDigits_append (n : Nat) {rest : List Char} (h : NoDigit rest) :
    readWhole? (natDigits n ++ rest) = some (natDigits n, rest) := by
  unfold readWhole?
  split
  · next tail heq =>
    obtain ⟨c, more, hcons⟩ := List.exists_cons_of_ne_nil (Number.natDigits_ne_nil n)
    rw [hcons, List.cons_append] at heq
    obtain ⟨rfl, htail⟩ := List.cons.inj heq
    obtain rfl := Number.eq_zero_of_natDigits_eq hcons
    obtain rfl : more = [] := by simpa [natDigits] using hcons
    rw [hcons, ← htail, List.nil_append]
  · rw [Number.spanDigits_natDigits_append n h]
    split
    · next heq => exact absurd (congrArg Prod.fst heq) (Number.natDigits_ne_nil n)
    · rfl

theorem spanMinus_intDigits_append (n : Int) (rest : List Char) :
    spanMinus (intDigits n ++ rest) = (decide (n < 0), natDigits n.natAbs ++ rest) := by
  rw [Number.intDigits_eq]
  by_cases hn : n < 0
  · simp [hn, spanMinus]
  · obtain ⟨c, tail, hcons⟩ := List.exists_cons_of_ne_nil (Number.natDigits_ne_nil n.natAbs)
    have hdigit : c.isDigit = true :=
      Number.isDigit_of_mem_natDigits (hcons ▸ List.mem_cons_self)
    have hminus : c ≠ '-' := by
      rintro rfl
      exact absurd hdigit (by decide)
    simp [hn, hcons, spanMinus, hminus]

/-- The text of an integer opens neither a string nor a container and closes none. -/
theorem exists_intDigits_eq_cons (n : Int) :
    ∃ c tail, intDigits n = c :: tail ∧ isBlank c = false ∧ c ≠ ']' ∧ c ≠ quoteMark ∧ c ≠ '[' ∧
      c ≠ '\x7b' := by
  have hsome : intDigits n ≠ [] := by
    simp [Number.intDigits_eq, Number.natDigits_ne_nil]
  obtain ⟨c, tail, hcons⟩ := List.exists_cons_of_ne_nil hsome
  have hc : c = '-' ∨ c.isDigit = true := Number.mem_intDigits (hcons ▸ List.mem_cons_self)
  have hother (d : Char) (hd : d ≠ '-' ∧ d.isDigit = false) : c ≠ d := by
    rintro rfl
    rcases hc with hminus | hdigit
    · exact hd.1 hminus
    · exact absurd hdigit (by simp [hd.2])
  refine ⟨c, tail, hcons, ?_, hother _ (by decide), hother _ (by decide), hother _ (by decide),
    hother _ (by decide)⟩
  simp [isBlank, hother ' ' (by decide), hother '\t' (by decide), hother '\n' (by decide),
    hother '\r' (by decide)]

theorem integer_of_natAbs_lt {n : Int} (hn : n.natAbs < Nat.pow 10 19) :
    integer n = .ok (intDigits n) := by
  rw [integer, Number.tooLong_of_natAbs_lt hn]
  rfl

theorem readScalar_intDigits_append {n : Int} (hn : Number.tooLong n = false)
    {rest : List Char} (h : Delimited rest) :
    readScalar (intDigits n ++ rest) = .ok (.int n, rest) := by
  have hlimit : ¬ Number.digitLimit < (natDigits n.natAbs).length :=
    Nat.not_lt.mpr (Number.tooLong_eq_false_iff.mp hn)
  have hwhole : readWhole? (spanMinus (intDigits n ++ rest)).2 =
      some (natDigits n.natAbs, rest) := by
    rw [spanMinus_intDigits_append]
    exact readWhole?_natDigits_append _ h.noDigit
  have hvalue : (if n < 0 then -(n.natAbs : Int) else (n.natAbs : Int)) = n := by omega
  rw [readScalar, readWord?_eq_none_of_readWhole? hwhole, readUnsigned, hwhole]
  simp only [Option.map_some, readFraction_of_delimited h, readExponent_of_delimited h,
    numberOfParts, if_neg hlimit, Number.digitsValue_natDigits, spanMinus_intDigits_append,
    decide_eq_true_eq, Int.ofNat_eq_natCast, hvalue]
  rfl

theorem readDocument_intDigits_of_tooLong {n : Int} (hn : Number.tooLong n = true) :
    readDocument (intDigits n) = .error (.tooManyDigits (natDigits n.natAbs).length) := by
  have hlimit : Number.digitLimit < (natDigits n.natAbs).length := by
    rw [← Nat.not_le, ← Number.tooLong_eq_false_iff, hn]
    nofun
  have hspan := spanMinus_intDigits_append n []
  rw [List.append_nil, List.append_nil] at hspan
  have hwhole : readWhole? (spanMinus (intDigits n)).2 = some (natDigits n.natAbs, []) := by
    have hwhole := @readWhole?_natDigits_append n.natAbs [] nofun
    rw [List.append_nil] at hwhole
    rw [hspan, hwhole]
  have hscalar : readScalar (intDigits n) = .error (.tooManyDigits (natDigits n.natAbs).length) := by
    rw [readScalar, readWord?_eq_none_of_readWhole? hwhole, readUnsigned, hwhole]
    simp [readFraction, readExponent, numberOfParts, hlimit, Except.map]
  obtain ⟨c, tail, hcons, hblank, -, hquote, hbracket, hbrace⟩ := exists_intDigits_eq_cons n
  have hmark : c ≠ Char.ofNat 0xfeff := by
    rintro rfl
    rcases Number.mem_intDigits (hcons ▸ List.mem_cons_self) with hminus | hdigit
    · exact absurd hminus (by decide)
    · exact absurd hdigit (by decide)
  rw [hcons] at hscalar ⊢
  simp [readDocument, hmark, skipBlanks, hblank, readFront, fuelFor, readValue, hquote, hbracket,
    hbrace, hscalar]

end DocLedger.Json
