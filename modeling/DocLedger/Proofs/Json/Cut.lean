import DocLedger.Proofs.Json.Extension
import DocLedger.Proofs.Number.Digits

/-!
# Text cut off behind a value

A reader owes nothing to the characters that it leaves: a value is read in the same
way when they are cut off.  So the part of a text that a value has taken is a text of
its own, and it is read to its end as that value.

The lemmas are about a text in two parts of which the second is left, among others.
What a reader leaves is a suffix of what it was given, so every text that comes up on
the way still ends with the second part.
-/

namespace DocLedger.Json

/-! ## What stands in front of the part that is left -/

/-- A text of which the reader leaves more than the second part has a first
character in front of that. -/
theorem exists_cons_of_leaves {cs rest more : List Char}
    (h : Leaves (cs ++ more) (rest ++ more)) : ∃ c tail, cs = c :: tail := by
  apply List.exists_cons_of_ne_nil
  rintro rfl
  have hlength := h.2
  rw [List.nil_append, List.length_append] at hlength
  omega

theorem exists_front_of_suffix {mid rest more : List Char} (h : rest ++ more <:+ mid) :
    ∃ front, mid = front ++ more ∧ rest <:+ front := by
  obtain ⟨taken, rfl⟩ := h
  exact ⟨taken ++ rest, (List.append_assoc taken rest more).symm, List.suffix_append _ _⟩

theorem exists_front_of_leaves {mid rest more : List Char} (h : Leaves mid (rest ++ more)) :
    ∃ front, mid = front ++ more ∧ Leaves front rest := by
  obtain ⟨front, rfl, hrest⟩ := exists_front_of_suffix h.1
  have hlength := h.2
  rw [List.length_append, List.length_append] at hlength
  exact ⟨front, rfl, hrest, by omega⟩

theorem eq_cons_of_append {c : Char} {tail cs rest more : List Char}
    (h : c :: tail = cs ++ more) (hrest : rest ++ more <:+ tail) :
    ∃ front, cs = c :: front ∧ tail = front ++ more := by
  have hleaves : Leaves (cs ++ more) (rest ++ more) := h ▸ Leaves.cons hrest
  obtain ⟨d, front, rfl⟩ := exists_cons_of_leaves hleaves
  rw [List.cons_append, List.cons.injEq] at h
  exact ⟨front, by rw [h.1], h.2⟩

/-! ## Spans -/

theorem dropWhile_of_append_eq_cons {α : Type} {p : α → Bool} {xs ys tail : List α} {a : α}
    (h : (xs ++ ys).dropWhile p = a :: (tail ++ ys)) : xs.dropWhile p = a :: tail := by
  cases hxs : xs.dropWhile p with
  | nil =>
      rw [List.dropWhile_append, hxs, if_pos List.isEmpty_nil] at h
      have hlength := (List.dropWhile_suffix p (l := ys)).length_le
      rw [h, List.length_cons, List.length_append] at hlength
      omega
  | cons b front =>
      rw [dropWhile_append_of_eq_cons hxs, List.cons.injEq] at h
      rw [h.1, List.append_cancel_right h.2]

theorem skipBlanks_of_append {cs tail more : List Char} {c : Char}
    (h : skipBlanks (cs ++ more) = c :: (tail ++ more)) : skipBlanks cs = c :: tail :=
  dropWhile_of_append_eq_cons h

/-- The blanks in front of what is read stand before the second part. -/
theorem skipBlanks_append_of_leaves {cs rest more : List Char}
    (h : Leaves (skipBlanks (cs ++ more)) (rest ++ more)) :
    skipBlanks (cs ++ more) = skipBlanks cs ++ more ∧ Leaves (skipBlanks cs) rest := by
  obtain ⟨front, hfront, hrest⟩ := exists_front_of_leaves h
  obtain ⟨c, tail, rfl⟩ := List.exists_cons_of_ne_nil hrest.ne_nil
  have hcs := skipBlanks_of_append hfront
  rw [hfront, hcs]
  exact ⟨rfl, hrest⟩

theorem spanDigits_of_append {cs digits rest more : List Char}
    (h : Number.spanDigits (cs ++ more) = (digits, rest ++ more)) :
    Number.spanDigits cs = (digits, rest) := by
  obtain ⟨htake, hdrop⟩ := Prod.mk.inj h
  have hcs : cs = digits ++ rest := by
    have hwhole := List.takeWhile_append_dropWhile (p := Char.isDigit) (l := cs ++ more)
    rw [htake, hdrop, ← List.append_assoc] at hwhole
    exact (List.append_cancel_right hwhole).symm
  have hdigits : ∀ c ∈ digits, c.isDigit = true := by
    intro c hc
    rw [← htake] at hc
    exact List.all_eq_true.mp List.all_takeWhile c hc
  have hrest : Number.NoDigit rest := by
    rintro c tail rfl
    have hhead := List.head_dropWhile_not (l := cs ++ more) Char.isDigit (by simp [hdrop])
    simpa [hdrop] using hhead
  obtain ⟨hnone, hall⟩ := Prod.mk.inj (Number.spanDigits_of_noDigit hrest)
  rw [hcs, Number.spanDigits, List.takeWhile_append_of_pos hdigits,
    List.dropWhile_append_of_pos hdigits, hnone, hall, List.append_nil]

theorem spanDigits_fst_of_append {cs more rest : List Char}
    (h : Number.spanDigits (cs ++ more) = ([], rest)) : (Number.spanDigits cs).1 = [] := by
  have htake : (cs ++ more).takeWhile Char.isDigit = [] := (Prod.mk.inj h).1
  cases cs with
  | nil => rfl
  | cons c tail =>
      have hc : ¬ c.isDigit = true := by
        intro hc
        rw [List.cons_append, List.takeWhile_cons_of_pos hc] at htake
        cases htake
      exact List.takeWhile_cons_of_neg hc

theorem spanSign_append_of_leaves {cs more rest : List Char}
    (h : Leaves (Number.spanSign (cs ++ more)).2 (rest ++ more)) :
    Number.spanSign (cs ++ more) = ((Number.spanSign cs).1, (Number.spanSign cs).2 ++ more) := by
  apply spanSign_append
  rintro rfl
  have hshorter := h.2
  have hsuffix := (spanSign_suffix more).length_le
  rw [List.nil_append, List.length_append] at hshorter
  omega

/-! ## Numbers and words -/

theorem readWhole?_of_append {cs whole rest more : List Char}
    (h : readWhole? (cs ++ more) = some (whole, rest ++ more)) :
    readWhole? cs = some (whole, rest) := by
  obtain ⟨c, tail, rfl⟩ := exists_cons_of_leaves (readWhole?_leaves h)
  rw [List.cons_append] at h
  by_cases hzero : c = '0'
  · subst hzero
    obtain ⟨rfl, htail⟩ := Prod.mk.inj (Option.some.inj h)
    rw [List.append_cancel_right htail]
    rfl
  · unfold readWhole? at h ⊢
    simp only [List.cons.injEq, hzero, false_and, imp_self, implies_true] at h ⊢
    split at h
    · cases h
    · next found hfound =>
      have hspan : Number.spanDigits (c :: tail) = (whole, rest) :=
        spanDigits_of_append (Option.some.inj h)
      obtain ⟨d, ds, rfl⟩ := List.exists_cons_of_ne_nil
        (l := whole) (by rintro rfl; exact hfound _ (Option.some.inj h))
      rw [hspan]

def HasExponent (cs : List Char) : Prop :=
  ∃ c tail, cs = c :: tail ∧ (c == 'e' || c == 'E') = true ∧
    (Number.spanDigits (Number.spanSign tail).2).1 ≠ []

theorem readExponent_of_not_hasExponent {cs : List Char} (h : ¬ HasExponent cs) :
    readExponent cs = (none, cs) := by
  cases cs with
  | nil => rfl
  | cons c tail =>
      by_cases hmark : (c == 'e' || c == 'E') = true
      · have hdigits : (Number.spanDigits (Number.spanSign tail).2).1 = [] := by
          by_contra hdigits
          exact h ⟨c, tail, rfl, hmark, hdigits⟩
        rcases hspan : Number.spanDigits (Number.spanSign tail).2 with ⟨digits, last⟩
        rw [hspan] at hdigits
        subst hdigits
        simp [readExponent, hmark, hspan]
      · rw [readExponent, if_neg hmark]

theorem HasExponent.append {cs : List Char} (h : HasExponent cs) (more : List Char) :
    HasExponent (cs ++ more) := by
  obtain ⟨c, tail, rfl, hmark, hdigits⟩ := h
  have htail : tail ≠ [] := by
    rintro rfl
    exact hdigits rfl
  refine ⟨c, tail ++ more, rfl, hmark, ?_⟩
  rw [spanSign_append htail]
  intro hnone
  exact hdigits (spanDigits_fst_of_append (Prod.ext hnone rfl))

theorem readExponent_of_append {cs rest more : List Char}
    (h : (readExponent (cs ++ more)).2 = rest ++ more) :
    readExponent cs = ((readExponent (cs ++ more)).1, rest) := by
  by_cases hexponent : HasExponent (cs ++ more)
  · obtain ⟨c, behind, hcs, hmark, hdigits⟩ := hexponent
    rw [hcs] at h ⊢
    rcases hspan : Number.spanDigits (Number.spanSign behind).2 with ⟨digits, last⟩
    rw [hspan] at hdigits
    obtain ⟨d, ds, rfl⟩ := List.exists_cons_of_ne_nil hdigits
    obtain rfl : last = rest ++ more := by simpa [readExponent, hmark, hspan] using h
    have hlast := spanDigits_leaves hspan hdigits
    obtain ⟨tail, rfl, rfl⟩ :=
      eq_cons_of_append hcs.symm (hlast.1.trans (spanSign_suffix behind))
    rw [spanSign_append_of_leaves hlast] at hspan
    have hcut := spanDigits_of_append hspan
    simp [readExponent, hmark, hcut, spanSign_append_of_leaves hlast, hspan]
  · have hcut : ¬ HasExponent cs := fun hcs => hexponent (hcs.append more)
    rw [readExponent_of_not_hasExponent hexponent] at h ⊢
    rw [readExponent_of_not_hasExponent hcut, List.append_cancel_right h]

def HasFraction (cs : List Char) : Prop :=
  ∃ tail, cs = '.' :: tail ∧ (Number.spanDigits tail).1 ≠ []

theorem readFraction_of_not_hasFraction {cs : List Char} (h : ¬ HasFraction cs) :
    readFraction cs = ([], cs) := by
  unfold readFraction
  split
  · next tail =>
    split
    · rfl
    · next found hfound =>
      exact absurd ⟨tail, rfl, fun hnone => hfound _ (Prod.ext hnone rfl)⟩ h
  · rfl

theorem HasFraction.append {cs : List Char} (h : HasFraction cs) (more : List Char) :
    HasFraction (cs ++ more) := by
  obtain ⟨tail, rfl, hdigits⟩ := h
  refine ⟨tail ++ more, rfl, ?_⟩
  intro hnone
  exact hdigits (spanDigits_fst_of_append (Prod.ext hnone rfl))

theorem readFraction_of_append {cs rest more : List Char}
    (h : (readFraction (cs ++ more)).2 = rest ++ more) :
    readFraction cs = ((readFraction (cs ++ more)).1, rest) := by
  by_cases hfraction : HasFraction (cs ++ more)
  · obtain ⟨behind, hcs, hdigits⟩ := hfraction
    rw [hcs] at h ⊢
    rcases hspan : Number.spanDigits behind with ⟨digits, last⟩
    rw [hspan] at hdigits
    obtain ⟨d, ds, rfl⟩ := List.exists_cons_of_ne_nil hdigits
    obtain rfl : last = rest ++ more := by simpa [readFraction, hspan] using h
    obtain ⟨tail, rfl, rfl⟩ := eq_cons_of_append hcs.symm (spanDigits_leaves hspan hdigits).1
    have hcut := spanDigits_of_append hspan
    simp [readFraction, hspan, hcut]
  · have hcut : ¬ HasFraction cs := fun hcs => hfraction (hcs.append more)
    rw [readFraction_of_not_hasFraction hfraction] at h ⊢
    rw [readFraction_of_not_hasFraction hcut, List.append_cancel_right h]

theorem readUnsigned_of_append {negative : Bool} {cs rest more : List Char} {v : Value}
    (h : readUnsigned negative (cs ++ more) = some (.ok (v, rest ++ more))) :
    readUnsigned negative cs = some (.ok (v, rest)) := by
  obtain ⟨whole, afterWhole, hwhole, hparts, hrest⟩ := readUnsigned_ok h
  have hexponent := readExponent_suffix (readFraction afterWhole).2
  rw [hrest] at hexponent
  obtain ⟨afterFraction, hafterFraction, -⟩ := exists_front_of_suffix hexponent
  have hfraction := readFraction_suffix afterWhole
  rw [hafterFraction] at hfraction
  obtain ⟨front, rfl, -⟩ := exists_front_of_suffix hfraction
  rw [hafterFraction] at hrest hparts
  simp [readUnsigned, readWhole?_of_append hwhole, readFraction_of_append hafterFraction,
    readExponent_of_append hrest, hparts, Except.map]

theorem readScalar_of_append {cs rest more : List Char} {v : Value}
    (h : readScalar (cs ++ more) = .ok (v, rest ++ more)) : readScalar cs = .ok (v, rest) := by
  obtain ⟨c, tail, hcons⟩ := exists_cons_of_leaves (readScalar_leaves h)
  unfold readScalar at h
  split at h
  · next found hword =>
    cases h
    obtain ⟨word, hmem, hcs⟩ := readWord?_eq_some hword
    rw [← List.append_assoc] at hcs
    rw [List.append_cancel_right hcs, readScalar, readWord?_of_mem hmem]
  · have hcs : cs ≠ [] := hcons ▸ List.cons_ne_nil c tail
    rw [spanMinus_append hcs] at h
    cases hnumber : readUnsigned (spanMinus cs).1 ((spanMinus cs).2 ++ more) with
    | none => simp [hnumber] at h
    | some result =>
        rw [hnumber, Option.getD_some] at h
        subst h
        have hcut := readUnsigned_of_append hnumber
        obtain ⟨whole, afterWhole, hwhole, -⟩ := readUnsigned_ok hcut
        rw [readScalar, readWord?_eq_none_of_readWhole? hwhole, hcut, Option.getD_some]

/-! ## Strings -/

theorem hexUnit?_append_of_le {cs : List Char} (h : 4 ≤ cs.length) (more : List Char) :
    hexUnit? (cs ++ more) = (hexUnit? cs).map fun found => (found.1, found.2 ++ more) := by
  match cs with
  | [] | [_] | [_, _] | [_, _, _] => simp at h
  | a :: b :: c :: d :: tail =>
      simp only [List.cons_append, hexUnit?]
      cases hexValue? a <;> cases hexValue? b <;> cases hexValue? c <;> cases hexValue? d <;> rfl

theorem length_of_hexUnit? {cs rest : List Char} {n : Nat} (h : hexUnit? cs = some (n, rest)) :
    cs.length = rest.length + 4 := by
  match cs with
  | [] | [_] | [_, _] | [_, _, _] => simp [hexUnit?] at h
  | a :: b :: c :: d :: tail =>
      simp only [hexUnit?, Option.bind_eq_bind, Option.bind_eq_some_iff,
        Option.pure_def, Option.some.injEq, Prod.mk.injEq] at h
      obtain ⟨_, _, _, _, _, _, _, _, _, rfl⟩ := h
      rfl

/-- The text goes on with a numbered escape that has text behind it. -/
def HasEscape (cs : List Char) : Prop :=
  ∃ after, cs = backslash :: 'u' :: after ∧ 4 < after.length

theorem readLowHalf_of_not_hasEscape (high : Nat) {cs : List Char} (h : ¬ HasEscape cs) :
    readLowHalf high cs = .ok (ofUnit high, cs) := by
  unfold readLowHalf
  split
  · next b after =>
    split
    · next hpair =>
      obtain ⟨hb, hlong⟩ := Bool.and_eq_true .. |>.mp hpair
      exact absurd ⟨after, by rw [eq_of_beq hb], of_decide_eq_true hlong⟩ h
    · rfl
  · rfl

/-- What is taken as the second half of a pair is an escape. -/
theorem readLowHalf_cases {high : Nat} {cs rest : List Char} {c : Char}
    (h : readLowHalf high cs = .ok (c, rest)) :
    (c = ofUnit high ∧ rest = cs) ∨ (HasEscape cs ∧ cs.length = rest.length + 6) := by
  by_cases hescape : HasEscape cs
  · obtain ⟨after, rfl, hlong⟩ := hescape
    unfold readLowHalf at h
    simp only [beq_self_eq_true, hlong, decide_true, Bool.and_self, if_true] at h
    split at h
    · cases h
    · next low last hunit =>
      split at h
      · obtain ⟨-, rfl⟩ := ok_pair_inj h
        have hlength := length_of_hexUnit? hunit
        exact Or.inr ⟨⟨after, rfl, hlong⟩, by simp [hlength]⟩
      · obtain ⟨rfl, rfl⟩ := ok_pair_inj h
        exact Or.inl ⟨rfl, rfl⟩
  · rw [readLowHalf_of_not_hasEscape high hescape] at h
    obtain ⟨rfl, rfl⟩ := ok_pair_inj h
    exact Or.inl ⟨rfl, rfl⟩

theorem readLowHalf_of_append {high : Nat} {cs rest more : List Char} {c : Char}
    (h : readLowHalf high (cs ++ more) = .ok (c, rest ++ more)) (hrest : rest ≠ []) :
    readLowHalf high cs = .ok (c, rest) := by
  by_cases hescape : HasEscape cs
  · obtain ⟨after, rfl, hlong⟩ := hescape
    have hlonger : 4 < (after ++ more).length := by
      rw [List.length_append]
      omega
    rw [List.cons_append, List.cons_append] at h
    unfold readLowHalf at h ⊢
    simp only [beq_self_eq_true, hlonger, hlong, decide_true, Bool.and_self, if_true,
      hexUnit?_append_of_le (Nat.le_of_lt hlong)] at h ⊢
    cases hunit : hexUnit? after with
    | none => simp [hunit] at h
    | some found =>
        simp only [hunit, Option.map_some] at h
        simp only
        split at h
        · next hlow =>
          obtain ⟨rfl, hfound⟩ := ok_pair_inj h
          rw [if_pos hlow, List.append_cancel_right hfound]
        · next hlow =>
          obtain ⟨rfl, hfound⟩ := ok_pair_inj h
          rw [← List.cons_append, ← List.cons_append] at hfound
          rw [if_neg hlow, List.append_cancel_right hfound]
  · rw [readLowHalf_of_not_hasEscape high hescape]
    rcases readLowHalf_cases h with ⟨rfl, hfound⟩ | hfound
    · rw [List.append_cancel_right hfound]
    · obtain ⟨⟨after, hcs, -⟩, hlength⟩ := hfound
      have hpos := List.length_pos_iff.mpr hrest
      rw [List.length_append, List.length_append] at hlength
      match cs with
      | [] | [_] => simp at hlength; omega
      | b :: d :: front =>
          simp only [List.cons_append, List.cons.injEq] at hcs
          obtain ⟨rfl, rfl, -⟩ := hcs
          simp only [List.length_cons] at hlength
          exact absurd ⟨front, rfl, by omega⟩ hescape

theorem readEscape_of_append {cs rest more : List Char} {c : Char}
    (h : readEscape (cs ++ more) = .ok (c, rest ++ more)) (hrest : rest ≠ []) :
    readEscape cs = .ok (c, rest) := by
  obtain ⟨d, tail, rfl⟩ := exists_cons_of_leaves (readEscape_leaves h)
  by_cases hu : d = 'u'
  · subst hu
    rw [List.cons_append, readEscape] at h
    split at h
    · cases h
    · split at h
      · cases h
      · next n last hunit =>
        have hlast : rest ++ more <:+ last := by
          split at h
          · exact readLowHalf_suffix h
          · obtain ⟨-, rfl⟩ := ok_pair_inj h
            exact List.suffix_refl _
        obtain ⟨front, rfl, hfront⟩ := exists_front_of_suffix hlast
        have hpos := List.length_pos_iff.mpr hrest
        have hshorter := hfront.length_le
        have hlength := length_of_hexUnit? hunit
        rw [List.length_append, List.length_append] at hlength
        rw [hexUnit?_append_of_le (by omega)] at hunit
        rw [readEscape, if_neg (by omega)]
        cases hcut : hexUnit? tail with
        | none => simp [hcut] at hunit
        | some found =>
            simp only [hcut, Option.map_some, Option.some.injEq, Prod.mk.injEq] at hunit
            obtain ⟨rfl, hbehind⟩ := hunit
            obtain rfl := List.append_cancel_right hbehind
            simp only
            split at h
            · next hhigh => rw [if_pos hhigh, readLowHalf_of_append h hrest]
            · next hhigh =>
              obtain ⟨rfl, hbehind⟩ := ok_pair_inj h
              rw [if_neg hhigh, List.append_cancel_right hbehind]
  · rw [List.cons_append, readEscape.eq_3 _ _ hu] at h
    rw [readEscape.eq_3 _ _ hu]
    split at h
    · next short hshort =>
      obtain ⟨rfl, hbehind⟩ := ok_pair_inj h
      rw [List.append_cancel_right hbehind]
    · cases h

theorem readString_of_append {start start' fuel fuel' : Nat} {cs text rest more : List Char}
    (h : readString start fuel (cs ++ more) = .ok (text, rest ++ more))
    (hfuel : cs.length ≤ rest.length + fuel') :
    readString start' fuel' cs = .ok (text, rest) := by
  induction fuel generalizing cs text fuel' with
  | zero => simp [readString] at h
  | succ fuel ih =>
      have hleaves := readString_leaves h
      have hlength := hleaves.2
      rw [List.length_append, List.length_append] at hlength
      obtain ⟨fuel', rfl⟩ : ∃ n, fuel' = n + 1 := ⟨fuel' - 1, by omega⟩
      have hstep := readString_succ_eq_ok_iff.mp h
      rw [readString_succ_eq_ok_iff]
      generalize hwhole : cs ++ more = whole at hstep
      generalize hlast : rest ++ more = last at hstep
      cases hstep with
      | close =>
          have hsuffix : rest ++ more <:+ last := hlast ▸ List.suffix_refl last
          obtain ⟨front, rfl, hfront⟩ := eq_cons_of_append hwhole.symm hsuffix
          rw [← List.append_cancel_right (hlast.trans hfront)]
          exact .close
      | @escape tail after text _ c first others =>
          subst hlast
          have hafter := readString_leaves others
          obtain ⟨front, rfl, hfront⟩ := exists_front_of_leaves hafter
          have htail := readEscape_leaves first
          obtain ⟨back, rfl, rfl⟩ := eq_cons_of_append hwhole.symm (hafter.1.trans htail.1)
          have hshorter := htail.2
          simp only [List.length_append, List.length_cons] at hshorter hfuel
          exact .escape (readEscape_of_append first hfront.ne_nil) (ih others (by omega))
      | @plain c tail text _ first others =>
          subst hlast
          have htail := readString_leaves others
          obtain ⟨back, rfl, rfl⟩ := eq_cons_of_append hwhole.symm htail.1
          rw [List.length_cons] at hfuel
          exact .plain first (ih others (by omega))

theorem stringBody_of_append {cs text rest more : List Char}
    (h : stringBody (cs ++ more) = .ok (text, rest ++ more)) : stringBody cs = .ok (text, rest) :=
  readString_of_append h (by omega)

/-! ## Values -/

/-- The name of a member and its value, which leaves the second part among others. -/
theorem member_of_append {fuel : Nat} {cs tail key afterKey colon after more : List Char}
    {v : Value} (hwhole : cs ++ more = quoteMark :: tail)
    (name : stringBody tail = .ok (key, afterKey)) (mark : skipBlanks afterKey = ':' :: colon)
    (value : readValue fuel (skipBlanks colon) = .ok (v, after ++ more)) :
    ∃ front behind next, cs = quoteMark :: front ∧ stringBody front = .ok (key, behind) ∧
      skipBlanks behind = ':' :: next ∧
      readValue fuel (skipBlanks next ++ more) = .ok (v, after ++ more) ∧
      Leaves (skipBlanks next) after ∧ (skipBlanks next).length < front.length := by
  have hvalue := (readers_leave fuel).1 _ _ _ value
  obtain ⟨next, rfl, -⟩ := exists_front_of_suffix (hvalue.1.trans (skipBlanks_suffix colon))
  obtain ⟨hskip, hleaves⟩ := skipBlanks_append_of_leaves hvalue
  obtain ⟨behind, rfl, -⟩ := exists_front_of_suffix (suffix_of_skipBlanks mark)
  obtain ⟨front, rfl, rfl⟩ := eq_cons_of_append hwhole.symm (stringBody_leaves name).1
  have hname := stringBody_of_append name
  have hmark := skipBlanks_of_append mark
  have hshorter : (skipBlanks next).length < front.length := by
    have hnext := (skipBlanks_suffix next).length_le
    have hbehind := (suffix_of_skipBlanks hmark).length_le
    have hfront := (stringBody_leaves hname).2
    omega
  exact ⟨front, behind, next, rfl, hname, hmark, hskip ▸ value, hleaves, hshorter⟩

/-- What a reader leaves can be cut off, and as much fuel as there are characters to read
is enough. -/
def CutsOff {α : Type} (read : Nat → List Char → Except ParseFault (α × List Char))
    (fuel : Nat) : Prop :=
  ∀ cs a rest more fuel', read fuel (cs ++ more) = .ok (a, rest ++ more) →
    cs.length ≤ rest.length + fuel' → read fuel' cs = .ok (a, rest)

theorem readValue_cutsOff_succ {fuel : Nat} (ihItems : CutsOff readItems fuel)
    (ihMembers : CutsOff readMembers fuel) : CutsOff readValue (fuel + 1) := by
  intro cs v rest more fuel' h hfuel
  have hlength := ((readers_leave _).1 _ _ _ h).2
  rw [List.length_append, List.length_append] at hlength
  obtain ⟨fuel', rfl⟩ : ∃ n, fuel' = n + 1 := ⟨fuel' - 1, by omega⟩
  have hstep := readValue_succ_eq_ok_iff.mp h
  rw [readValue_succ_eq_ok_iff]
  generalize hwhole : cs ++ more = whole at hstep
  generalize hlast : rest ++ more = last at hstep
  cases hstep with
  | text body =>
      subst hlast
      obtain ⟨front, rfl, rfl⟩ := eq_cons_of_append hwhole.symm (stringBody_leaves body).1
      exact .text (stringBody_of_append body)
  | emptyList close =>
      subst hlast
      obtain ⟨front, rfl, rfl⟩ := eq_cons_of_append hwhole.symm (suffix_of_skipBlanks close)
      exact .emptyList (skipBlanks_of_append close)
  | list opened body =>
      subst hlast
      have hleaves := (readers_leave fuel).2.1 _ _ _ body
      obtain ⟨front, rfl, rfl⟩ :=
        eq_cons_of_append hwhole.symm (hleaves.1.trans (skipBlanks_suffix _))
      obtain ⟨hskip, hfront⟩ := skipBlanks_append_of_leaves hleaves
      rw [hskip] at body
      have hshorter := (skipBlanks_suffix front).length_le
      rw [List.length_cons] at hfuel
      refine .list ?_ (ihItems _ _ _ _ _ body (by omega))
      intro tail hclose
      exact opened _ (skipBlanks_append hclose more)
  | emptyObject close =>
      subst hlast
      obtain ⟨front, rfl, rfl⟩ := eq_cons_of_append hwhole.symm (suffix_of_skipBlanks close)
      exact .emptyObject (skipBlanks_of_append close)
  | object opened body =>
      subst hlast
      have hleaves := (readers_leave fuel).2.2 _ _ _ body
      obtain ⟨front, rfl, rfl⟩ :=
        eq_cons_of_append hwhole.symm (hleaves.1.trans (skipBlanks_suffix _))
      obtain ⟨hskip, hfront⟩ := skipBlanks_append_of_leaves hleaves
      rw [hskip] at body
      have hshorter := (skipBlanks_suffix front).length_le
      rw [List.length_cons] at hfuel
      refine .object ?_ (ihMembers _ _ _ _ _ body (by omega))
      intro tail hclose
      exact opened _ (skipBlanks_append hclose more)
  | @scalar c tail _ _ plain body =>
      subst hlast
      rw [← hwhole] at body
      have hcs := readScalar_of_append body
      obtain ⟨d, front, rfl⟩ := exists_cons_of_leaves (readScalar_leaves body)
      rw [List.cons_append, List.cons.injEq] at hwhole
      obtain ⟨rfl, -⟩ := hwhole
      exact .scalar plain hcs

theorem readItems_cutsOff_succ {fuel : Nat} (ihValue : CutsOff readValue fuel)
    (ihItems : CutsOff readItems fuel) : CutsOff readItems (fuel + 1) := by
  intro cs items rest more fuel' h hfuel
  have hlength := ((readers_leave _).2.1 _ _ _ h).2
  rw [List.length_append, List.length_append] at hlength
  obtain ⟨fuel', rfl⟩ : ∃ n, fuel' = n + 1 := ⟨fuel' - 1, by omega⟩
  have hstep := readItems_succ_eq_ok_iff.mp h
  rw [readItems_succ_eq_ok_iff]
  generalize hlast : rest ++ more = last at hstep
  cases hstep with
  | last value close =>
      subst hlast
      obtain ⟨after, rfl, -⟩ := exists_front_of_suffix (suffix_of_skipBlanks close)
      have hclose := skipBlanks_of_append close
      have hafter := (hclose ▸ skipBlanks_suffix after).length_le
      rw [List.length_cons] at hafter
      exact .last (ihValue _ _ _ _ _ value (by omega)) hclose
  | more value comma others =>
      subst hlast
      have hothers := (readers_leave fuel).2.1 _ _ _ others
      obtain ⟨next, rfl, -⟩ := exists_front_of_suffix (hothers.1.trans (skipBlanks_suffix _))
      obtain ⟨hskip, hleaves⟩ := skipBlanks_append_of_leaves hothers
      obtain ⟨after, rfl, -⟩ := exists_front_of_suffix (suffix_of_skipBlanks comma)
      have hcomma := skipBlanks_of_append comma
      have hafter := (hcomma ▸ skipBlanks_suffix after).length_le
      have hvalue := ((readers_leave fuel).1 _ _ _ value).2
      have hnext := (skipBlanks_suffix next).length_le
      have hrest := hleaves.2
      rw [hskip] at others
      rw [List.length_cons] at hafter
      rw [List.length_append, List.length_append] at hvalue
      exact .more (ihValue _ _ _ _ _ value (by omega)) hcomma
        (ihItems _ _ _ _ _ others (by omega))

theorem readMembers_cutsOff_succ {fuel : Nat} (ihValue : CutsOff readValue fuel)
    (ihMembers : CutsOff readMembers fuel) : CutsOff readMembers (fuel + 1) := by
  intro cs members rest more fuel' h hfuel
  have hlength := ((readers_leave _).2.2 _ _ _ h).2
  rw [List.length_append, List.length_append] at hlength
  obtain ⟨fuel', rfl⟩ : ∃ n, fuel' = n + 1 := ⟨fuel' - 1, by omega⟩
  have hstep := readMembers_succ_eq_ok_iff.mp h
  rw [readMembers_succ_eq_ok_iff]
  generalize hwhole : cs ++ more = whole at hstep
  generalize hlast : rest ++ more = last at hstep
  cases hstep with
  | last name mark value close =>
      subst hlast
      obtain ⟨after, rfl, -⟩ := exists_front_of_suffix (suffix_of_skipBlanks close)
      obtain ⟨front, behind, next, rfl, hname, hmark, hvalue, hleaves, hshorter⟩ :=
        member_of_append hwhole name mark value
      have hclose := skipBlanks_of_append close
      have hafter := (hclose ▸ skipBlanks_suffix after).length_le
      rw [List.length_cons] at hafter hfuel
      exact .last hname hmark (ihValue _ _ _ _ _ hvalue (by omega)) hclose
  | more name mark value comma others =>
      subst hlast
      have hothers := (readers_leave fuel).2.2 _ _ _ others
      obtain ⟨later, rfl, -⟩ :=
        exists_front_of_suffix (hothers.1.trans (skipBlanks_suffix _))
      obtain ⟨hskip, hrest⟩ := skipBlanks_append_of_leaves hothers
      obtain ⟨after, rfl, -⟩ := exists_front_of_suffix (suffix_of_skipBlanks comma)
      obtain ⟨front, behind, next, rfl, hname, hmark, hvalue, hleaves, hshorter⟩ :=
        member_of_append hwhole name mark value
      have hcomma := skipBlanks_of_append comma
      have hafter := (hcomma ▸ skipBlanks_suffix after).length_le
      have hbehind := (skipBlanks_suffix later).length_le
      have hnext := hleaves.2
      have hless := hrest.2
      rw [hskip] at others
      rw [List.length_cons] at hafter hfuel
      exact .more hname hmark (ihValue _ _ _ _ _ hvalue (by omega)) hcomma
        (ihMembers _ _ _ _ _ others (by omega))

theorem readers_cutOff (fuel : Nat) :
    CutsOff readValue fuel ∧ CutsOff readItems fuel ∧ CutsOff readMembers fuel := by
  induction fuel with
  | zero => simp [CutsOff, readValue, readItems, readMembers]
  | succ fuel ih =>
      obtain ⟨hvalue, hitems, hmembers⟩ := ih
      exact ⟨readValue_cutsOff_succ hitems hmembers, readItems_cutsOff_succ hvalue hitems,
        readMembers_cutsOff_succ hvalue hmembers⟩

/-- The part of a text that a value has taken is read to its end as that value. -/
theorem readFront_of_append {cs more : List Char} {v : Value}
    (h : readFront (cs ++ more) = .ok (v, more)) : readFront cs = .ok (v, []) := by
  apply (readers_cutOff _).1 cs v [] more _ h
  simp only [fuelFor, List.length_nil]
  omega

end DocLedger.Json
