import DocLedger.Proofs.Json.Front
import Mathlib.Tactic.ByContra

/-!
# Text added behind a value

A value is at its end when a bracket, a brace or a quote closes it, or when a
delimiter follows it.  Such a value is read in the same way whatever text is
added behind.  A number alone is different: more digits make it another number.

The escapes of a string look ahead, so a string cut inside an escape may be read
otherwise than the whole of it.  It is not read to its closing quote in that
case, which is why the lemmas on escapes ask for the string to go on.
-/

namespace DocLedger.Json

/-- A text that starts with a character that ends a number or a word. -/
def Delimited : List Char → Prop
  | [] => False
  | c :: _ => isBlank c = true ∨ c = ',' ∨ c = ']' ∨ c = '\x7d'

theorem Delimited.ne_nil {cs : List Char} (h : Delimited cs) : cs ≠ [] := by
  rintro rfl
  exact h

theorem delimited_of_skipBlanks {cs tail : List Char} {c : Char}
    (h : skipBlanks cs = c :: tail) (hc : c = ',' ∨ c = ']' ∨ c = '\x7d') :
    Delimited cs := by
  cases cs with
  | nil => simp [skipBlanks] at h
  | cons d rest =>
      by_cases hd : isBlank d = true
      · exact Or.inl hd
      · simp only [skipBlanks, List.dropWhile_cons, hd] at h
        cases h
        exact Or.inr hc

/-! ## Spans -/

theorem dropWhile_append_of_eq_cons {α : Type} {p : α → Bool} {xs tail : List α} {a : α}
    (h : xs.dropWhile p = a :: tail) (ys : List α) :
    (xs ++ ys).dropWhile p = a :: (tail ++ ys) := by
  simp [List.dropWhile_append, h]

theorem takeWhile_append_of_dropWhile_ne_nil {α : Type} {p : α → Bool} {xs : List α}
    (h : xs.dropWhile p ≠ []) (ys : List α) :
    (xs ++ ys).takeWhile p = xs.takeWhile p := by
  rw [List.takeWhile_append, if_neg]
  intro hlength
  have hsplit := congrArg List.length (List.takeWhile_append_dropWhile (p := p) (l := xs))
  rw [List.length_append, hlength] at hsplit
  exact h (List.eq_nil_of_length_eq_zero (by omega))

theorem skipBlanks_append {cs tail : List Char} {c : Char}
    (h : skipBlanks cs = c :: tail) (more : List Char) :
    skipBlanks (cs ++ more) = c :: (tail ++ more) :=
  dropWhile_append_of_eq_cons h more

theorem skipBlanks_append_of_ne_nil {cs : List Char}
    (h : skipBlanks cs ≠ []) (more : List Char) :
    skipBlanks (cs ++ more) = skipBlanks cs ++ more := by
  obtain ⟨c, tail, hcons⟩ := List.exists_cons_of_ne_nil h
  rw [skipBlanks_append hcons, hcons, List.cons_append]

theorem skipBlanks_append_ne_cons {cs : List Char} {c : Char}
    (h : skipBlanks cs ≠ []) (hc : ∀ last, skipBlanks cs ≠ c :: last)
    (more last : List Char) : skipBlanks (cs ++ more) ≠ c :: last := by
  obtain ⟨d, tail, hcons⟩ := List.exists_cons_of_ne_nil h
  rw [skipBlanks_append hcons]
  intro heq
  obtain ⟨rfl, -⟩ := List.cons.inj heq
  exact hc tail hcons

theorem spanDigits_append {cs digits rest : List Char}
    (h : Number.spanDigits cs = (digits, rest)) (hrest : rest ≠ []) (more : List Char) :
    Number.spanDigits (cs ++ more) = (digits, rest ++ more) := by
  obtain ⟨rfl, rfl⟩ := Prod.mk.inj h
  obtain ⟨c, tail, hcons⟩ := List.exists_cons_of_ne_nil hrest
  rw [Number.spanDigits, takeWhile_append_of_dropWhile_ne_nil hrest,
    dropWhile_append_of_eq_cons hcons, hcons, List.cons_append]

theorem spanSign_append {cs : List Char} (h : cs ≠ []) (more : List Char) :
    Number.spanSign (cs ++ more) =
      ((Number.spanSign cs).1, (Number.spanSign cs).2 ++ more) := by
  obtain ⟨c, tail, rfl⟩ := List.exists_cons_of_ne_nil h
  by_cases hminus : c = '-'
  · subst hminus
    rfl
  · by_cases hplus : c = '+'
    · subst hplus
      rfl
    · simp [Number.spanSign, hminus, hplus]

theorem spanMinus_append {cs : List Char} (h : cs ≠ []) (more : List Char) :
    spanMinus (cs ++ more) = ((spanMinus cs).1, (spanMinus cs).2 ++ more) := by
  obtain ⟨c, tail, rfl⟩ := List.exists_cons_of_ne_nil h
  by_cases hminus : c = '-'
  · subst hminus
    rfl
  · simp [spanMinus, hminus]

/-! ## Numbers and words -/

theorem readWhole?_append {cs whole rest : List Char}
    (h : readWhole? cs = some (whole, rest)) (hrest : rest ≠ []) (more : List Char) :
    readWhole? (cs ++ more) = some (whole, rest ++ more) := by
  unfold readWhole? at h
  split at h
  · cases h
    rfl
  · next hzero =>
    split at h
    · cases h
    · next found hfound =>
      obtain ⟨c, tail, rfl⟩ := List.exists_cons_of_ne_nil
        (l := cs) (by rintro rfl; exact hfound [] rfl)
      have hspan := spanDigits_append (Option.some.inj h) hrest more
      have hc : c ≠ '0' := fun heq => hzero tail (by rw [heq])
      obtain ⟨d, ds, rfl⟩ := List.exists_cons_of_ne_nil
        (l := whole) (by rintro rfl; exact hfound _ (Option.some.inj h))
      rw [List.cons_append] at hspan ⊢
      simp [readWhole?, hc, hspan]

theorem readExponent_append {cs : List Char} (h : Delimited (readExponent cs).2)
    (more : List Char) :
    readExponent (cs ++ more) =
      ((readExponent cs).1, (readExponent cs).2 ++ more) := by
  cases cs with
  | nil => exact h.elim
  | cons c tail =>
      by_cases hmark : (c == 'e' || c == 'E') = true
      · rw [readExponent, if_pos hmark] at h ⊢
        rw [List.cons_append, readExponent, if_pos hmark]
        by_cases hdigits : (Number.spanDigits (Number.spanSign tail).2).1 = []
        · -- a letter that no digits follow is left over, and it is no delimiter
          rcases hspan : Number.spanDigits (Number.spanSign tail).2 with ⟨_, last⟩
          rw [hspan] at hdigits
          subst hdigits
          simp only [hspan] at h
          rcases Bool.or_eq_true .. |>.mp hmark with hc | hc
          · obtain rfl := eq_of_beq hc
            simp [Delimited, isBlank] at h
          · obtain rfl := eq_of_beq hc
            simp [Delimited, isBlank] at h
        · have htail : tail ≠ [] := by
            rintro rfl
            exact hdigits rfl
          rcases hspan : Number.spanDigits (Number.spanSign tail).2 with ⟨digits, last⟩
          rw [hspan] at hdigits
          obtain ⟨d, ds, rfl⟩ := List.exists_cons_of_ne_nil hdigits
          simp only [hspan] at h
          simp [spanSign_append htail, spanDigits_append hspan h.ne_nil, hspan]
      · rw [readExponent, if_neg hmark, List.cons_append, readExponent, if_neg hmark]

theorem readFraction_append {cs : List Char}
    (h : Delimited (readExponent (readFraction cs).2).2) (more : List Char) :
    readFraction (cs ++ more) =
      ((readFraction cs).1, (readFraction cs).2 ++ more) := by
  cases cs with
  | nil => exact h.elim
  | cons c tail =>
      by_cases hpoint : c = '.'
      · subst hpoint
        rcases hspan : Number.spanDigits tail with ⟨digits, last⟩
        cases digits with
        | nil =>
            -- a point that no digits follow is left over, and it is no delimiter
            simp [readFraction, hspan, readExponent, Delimited, isBlank] at h
        | cons d ds =>
            have hlast : last ≠ [] := by
              rintro rfl
              simp [readFraction, hspan, readExponent, Delimited] at h
            simp [readFraction, hspan, spanDigits_append hspan hlast]
      · simp [readFraction, hpoint]

theorem readUnsigned_append {negative : Bool} {cs rest : List Char} {v : Value}
    (h : readUnsigned negative cs = some (.ok (v, rest))) (hrest : Delimited rest)
    (more : List Char) :
    readUnsigned negative (cs ++ more) = some (.ok (v, rest ++ more)) := by
  obtain ⟨whole, afterWhole, hwhole, hparts, rfl⟩ := readUnsigned_ok h
  have hafter : afterWhole ≠ [] := by
    rintro rfl
    exact hrest
  simp [readUnsigned, readWhole?_append hwhole hafter, readFraction_append hrest,
    readExponent_append hrest, hparts, Except.map]

theorem readWord?_of_mem {word : List Char} {v : Value} (h : (word, v) ∈ words)
    (rest : List Char) : readWord? (word ++ rest) = some (v, rest) := by
  simp only [words, List.mem_cons, List.not_mem_nil, or_false, Prod.mk.injEq] at h
  rcases h with ⟨rfl, rfl⟩ | ⟨rfl, rfl⟩ | ⟨rfl, rfl⟩ | ⟨rfl, rfl⟩ | ⟨rfl, rfl⟩ | ⟨rfl, rfl⟩ <;>
    simp [readWord?, words, afterWord?]

/-- No word starts, behind its sign, as a number does. -/
theorem readWord?_eq_none_of_readWhole? {cs : List Char} {found : List Char × List Char}
    (h : readWhole? (spanMinus cs).2 = some found) : readWord? cs = none := by
  cases hword : readWord? cs with
  | none => rfl
  | some result =>
      obtain ⟨word, hmem, rfl⟩ := readWord?_eq_some hword
      simp only [words, List.mem_cons, List.not_mem_nil, or_false, Prod.mk.injEq] at hmem
      rcases hmem with ⟨rfl, -⟩ | ⟨rfl, -⟩ | ⟨rfl, -⟩ | ⟨rfl, -⟩ | ⟨rfl, -⟩ | ⟨rfl, -⟩ <;>
        simp [spanMinus, readWhole?, Number.spanDigits] at h

theorem readScalar_append {cs rest : List Char} {v : Value}
    (h : readScalar cs = .ok (v, rest)) (hrest : Delimited rest) (more : List Char) :
    readScalar (cs ++ more) = .ok (v, rest ++ more) := by
  unfold readScalar at h
  split at h
  · next found hword =>
    cases h
    obtain ⟨word, hmem, rfl⟩ := readWord?_eq_some hword
    rw [List.append_assoc, readScalar, readWord?_of_mem hmem]
  · cases hnumber : readUnsigned (spanMinus cs).1 (spanMinus cs).2 with
    | none => simp [hnumber] at h
    | some result =>
        rw [hnumber, Option.getD_some] at h
        subst h
        have hcs : cs ≠ [] := by
          rintro rfl
          simp [spanMinus, readUnsigned, readWhole?, Number.spanDigits] at hnumber
        have happend : readUnsigned (spanMinus (cs ++ more)).1 (spanMinus (cs ++ more)).2 =
            some (.ok (v, rest ++ more)) := by
          rw [spanMinus_append hcs]
          exact readUnsigned_append hnumber hrest more
        obtain ⟨whole, afterWhole, hwhole, -⟩ := readUnsigned_ok happend
        rw [readScalar, readWord?_eq_none_of_readWhole? hwhole, happend, Option.getD_some]

/-! ## Strings -/

theorem hexUnit?_append {cs rest : List Char} {n : Nat}
    (h : hexUnit? cs = some (n, rest)) (more : List Char) :
    hexUnit? (cs ++ more) = some (n, rest ++ more) := by
  match cs with
  | [] | [_] | [_, _] | [_, _, _] => simp [hexUnit?] at h
  | a :: b :: c :: d :: tail =>
      simp only [hexUnit?, Option.bind_eq_bind, Option.bind_eq_some_iff,
        Option.pure_def, Option.some.injEq, Prod.mk.injEq] at h
      obtain ⟨a', ha, b', hb, c', hc, d', hd, rfl, rfl⟩ := h
      simp [hexUnit?, ha, hb, hc, hd]

/-- What a string goes on with is no escape that the end of the text cuts. -/
theorem readString_ok_ne_cut {start fuel : Nat} {cs : List Char}
    {result : List Char × List Char} (h : readString start fuel cs = .ok result) :
    cs ≠ [] ∧ cs ≠ [backslash] ∧
      ∀ after, cs = backslash :: 'u' :: after → 4 < after.length := by
  have hquote : (backslash == quoteMark) = false := by decide
  refine ⟨?_, ?_, ?_⟩
  · rintro rfl
    cases fuel <;> simp [readString] at h
  · rintro rfl
    cases fuel <;> simp [readString, hquote] at h
  · rintro after rfl
    cases fuel with
    | zero => simp [readString] at h
    | succ fuel =>
        by_contra hlength
        have hcut : after.length ≤ 4 := Nat.le_of_not_lt hlength
        simp [readString, hquote, readEscape, hcut] at h

theorem readLowHalf_append {high start fuel : Nat} {rest after : List Char} {c : Char}
    {result : List Char × List Char}
    (h : readLowHalf high rest = .ok (c, after))
    (hnext : readString start fuel after = .ok result) (more : List Char) :
    readLowHalf high (rest ++ more) = .ok (c, after ++ more) := by
  unfold readLowHalf at h
  split at h
  · next b tail =>
    split at h
    · next hpair =>
      split at h
      · cases h
      · next low last hunit =>
        obtain ⟨hb, hlong⟩ := Bool.and_eq_true .. |>.mp hpair
        have hlonger : 4 < (tail ++ more).length := by
          rw [List.length_append]
          have := of_decide_eq_true hlong
          omega
        rw [List.cons_append, List.cons_append, readLowHalf,
          if_pos (Bool.and_eq_true .. |>.mpr ⟨hb, decide_eq_true hlonger⟩),
          hexUnit?_append hunit]
        simp only
        split at h
        · next hlow =>
          obtain ⟨rfl, rfl⟩ := ok_pair_inj h
          rw [if_pos hlow]
        · next hlow =>
          obtain ⟨rfl, rfl⟩ := ok_pair_inj h
          rw [if_neg hlow]
          simp
    · next hpair =>
      obtain ⟨rfl, rfl⟩ := ok_pair_inj h
      have hb : ¬ (b == backslash) = true := by
        intro hb
        obtain rfl := eq_of_beq hb
        exact hpair (by simpa using (readString_ok_ne_cut hnext).2.2 tail rfl)
      rw [List.cons_append, List.cons_append, readLowHalf, if_neg (by simp [hb])]
  · next hother =>
    obtain ⟨rfl, rfl⟩ := ok_pair_inj h
    obtain ⟨hnil, hlone, -⟩ := readString_ok_ne_cut hnext
    match rest, hother with
    | [], _ => exact absurd rfl hnil
    | [b], _ =>
        have hb : ¬ (b == backslash) = true := by
          intro hb
          exact hlone (by rw [eq_of_beq hb])
        unfold readLowHalf
        split
        · next heq =>
          cases heq
          rw [if_neg (by simp [hb])]
        · rfl
    | b :: d :: tail, hother =>
        have hd : d ≠ 'u' := fun heq => hother b tail (by rw [heq])
        unfold readLowHalf
        split
        · next heq =>
          cases heq
          exact absurd rfl hd
        · rfl

theorem readEscape_append {start fuel : Nat} {cs after : List Char} {c : Char}
    {result : List Char × List Char}
    (h : readEscape cs = .ok (c, after))
    (hnext : readString start fuel after = .ok result) (more : List Char) :
    readEscape (cs ++ more) = .ok (c, after ++ more) := by
  unfold readEscape at h
  split at h
  · cases h
  · next tail =>
    split at h
    · cases h
    · next hlong =>
      split at h
      · cases h
      · next n last hunit =>
        have hlonger : ¬ (tail ++ more).length ≤ 4 := by
          rw [List.length_append]
          omega
        rw [List.cons_append, readEscape, if_neg hlonger, hexUnit?_append hunit]
        simp only
        split at h
        · next hhigh => rw [if_pos hhigh, readLowHalf_append h hnext]
        · next hhigh =>
          obtain ⟨rfl, rfl⟩ := ok_pair_inj h
          rw [if_neg hhigh]
  · next d tail hu =>
    split at h
    · next short hshort =>
      obtain ⟨rfl, rfl⟩ := ok_pair_inj h
      rw [List.cons_append, readEscape.eq_3 _ _ hu, hshort]
    · cases h

/-- A string that is read to its closing quote does not depend on the text
behind it, nor on the place that an error would name. -/
theorem readString_append {start start' fuel fuel' : Nat} {cs text rest : List Char}
    (h : readString start fuel cs = .ok (text, rest)) (hfuel : fuel ≤ fuel')
    (more : List Char) :
    readString start' fuel' (cs ++ more) = .ok (text, rest ++ more) := by
  induction fuel generalizing cs text fuel' with
  | zero => simp [readString] at h
  | succ fuel ih =>
      obtain ⟨fuel', rfl⟩ := Nat.exists_eq_add_of_le' (Nat.lt_of_lt_of_le fuel.succ_pos hfuel)
      have hless : fuel ≤ fuel' := by omega
      rw [readString_succ_eq_ok_iff]
      cases readString_succ_eq_ok_iff.mp h with
      | close => exact .close
      | escape first others =>
          exact .escape (readEscape_append first others more) (ih others hless)
      | plain first others => exact .plain first (ih others hless)

theorem stringBody_append {cs text rest : List Char}
    (h : stringBody cs = .ok (text, rest)) (more : List Char) :
    stringBody (cs ++ more) = .ok (text, rest ++ more) :=
  readString_append h (by simp) more

/-! ## Values -/

/-- A text that starts with a character that a closing one belongs to. -/
def Enclosed : List Char → Prop
  | [] => False
  | c :: _ => c = quoteMark ∨ c = '[' ∨ c = '\x7b'

/-- Text added behind what a reader has read changes nothing, where the text and what is
left of it are as asked for, and neither does more fuel. -/
def Extends {α : Type} (read : Nat → List Char → Except ParseFault (α × List Char))
    (Ends : List Char → List Char → Prop) (fuel : Nat) : Prop :=
  ∀ cs a rest, read fuel cs = .ok (a, rest) → Ends cs rest → ∀ fuel' more, fuel ≤ fuel' →
    read fuel' (cs ++ more) = .ok (a, rest ++ more)

/-- A value ends where its text does, or where what is left cannot go on with it. -/
def ValueEnds (cs rest : List Char) : Prop :=
  Enclosed cs ∨ Delimited rest

def BracketEnds (_ _ : List Char) : Prop :=
  True

theorem readValue_extends_succ {fuel : Nat} (ihItems : Extends readItems BracketEnds fuel)
    (ihMembers : Extends readMembers BracketEnds fuel) :
    Extends readValue ValueEnds (fuel + 1) := by
  intro cs v rest h hend fuel' more hfuel
  obtain ⟨fuel', rfl⟩ := Nat.exists_eq_add_of_le' (Nat.lt_of_lt_of_le fuel.succ_pos hfuel)
  have hless : fuel ≤ fuel' := by omega
  rw [readValue_succ_eq_ok_iff]
  cases readValue_succ_eq_ok_iff.mp h with
  | text body => exact .text (stringBody_append body more)
  | emptyList close => exact .emptyList (skipBlanks_append close more)
  | @list tail _ items opened body =>
      have hne := ((readers_leave fuel).2.1 _ _ _ body).ne_nil
      have hbody : readItems fuel' (skipBlanks (tail ++ more)) =
          .ok (items, rest ++ more) := by
        rw [skipBlanks_append_of_ne_nil hne]
        exact ihItems _ _ _ body trivial _ more hless
      exact .list (skipBlanks_append_ne_cons hne opened more) hbody
  | emptyObject close => exact .emptyObject (skipBlanks_append close more)
  | @object tail _ members opened body =>
      have hne := ((readers_leave fuel).2.2 _ _ _ body).ne_nil
      have hbody : readMembers fuel' (skipBlanks (tail ++ more)) =
          .ok (members, rest ++ more) := by
        rw [skipBlanks_append_of_ne_nil hne]
        exact ihMembers _ _ _ body trivial _ more hless
      exact .object (skipBlanks_append_ne_cons hne opened more) hbody
  | scalar plain body =>
      have hrest : Delimited rest := by
        rcases hend with henclosed | hrest
        · rcases henclosed with hc | hc | hc
          · exact absurd hc plain.1
          · exact absurd hc plain.2.1
          · exact absurd hc plain.2.2
        · exact hrest
      exact .scalar plain (readScalar_append body hrest more)

theorem readItems_extends_succ {fuel : Nat} (ihValue : Extends readValue ValueEnds fuel)
    (ihItems : Extends readItems BracketEnds fuel) :
    Extends readItems BracketEnds (fuel + 1) := by
  intro cs items rest h _ fuel' more hfuel
  obtain ⟨fuel', rfl⟩ := Nat.exists_eq_add_of_le' (Nat.lt_of_lt_of_le fuel.succ_pos hfuel)
  have hless : fuel ≤ fuel' := by omega
  rw [readItems_succ_eq_ok_iff]
  cases readItems_succ_eq_ok_iff.mp h with
  | last value close =>
      have hend := delimited_of_skipBlanks close (by simp)
      exact .last (ihValue _ _ _ value (Or.inr hend) _ more hless)
        (skipBlanks_append close more)
  | more value comma others =>
      have hend := delimited_of_skipBlanks comma (by simp)
      refine .more (ihValue _ _ _ value (Or.inr hend) _ more hless)
        (skipBlanks_append comma more) ?_
      rw [skipBlanks_append_of_ne_nil ((readers_leave fuel).2.1 _ _ _ others).ne_nil]
      exact ihItems _ _ _ others trivial _ more hless

theorem readMembers_extends_succ {fuel : Nat} (ihValue : Extends readValue ValueEnds fuel)
    (ihMembers : Extends readMembers BracketEnds fuel) :
    Extends readMembers BracketEnds (fuel + 1) := by
  intro cs members rest h _ fuel' more hfuel
  obtain ⟨fuel', rfl⟩ := Nat.exists_eq_add_of_le' (Nat.lt_of_lt_of_le fuel.succ_pos hfuel)
  have hless : fuel ≤ fuel' := by omega
  have happend {colon after : List Char} {v : Value}
      (value : readValue fuel (skipBlanks colon) = .ok (v, after))
      (hend : Delimited after) :
      readValue fuel' (skipBlanks (colon ++ more)) = .ok (v, after ++ more) := by
    rw [skipBlanks_append_of_ne_nil ((readers_leave fuel).1 _ _ _ value).ne_nil]
    exact ihValue _ _ _ value (Or.inr hend) _ more hless
  rw [readMembers_succ_eq_ok_iff]
  cases readMembers_succ_eq_ok_iff.mp h with
  | last name mark value close =>
      have hend := delimited_of_skipBlanks close (by simp)
      exact .last (stringBody_append name more) (skipBlanks_append mark more)
        (happend value hend) (skipBlanks_append close more)
  | more name mark value comma others =>
      have hend := delimited_of_skipBlanks comma (by simp)
      refine .more (stringBody_append name more) (skipBlanks_append mark more)
        (happend value hend) (skipBlanks_append comma more) ?_
      rw [skipBlanks_append_of_ne_nil ((readers_leave fuel).2.2 _ _ _ others).ne_nil]
      exact ihMembers _ _ _ others trivial _ more hless

theorem readers_extend (fuel : Nat) : Extends readValue ValueEnds fuel ∧
    Extends readItems BracketEnds fuel ∧ Extends readMembers BracketEnds fuel := by
  induction fuel with
  | zero => simp [Extends, readValue, readItems, readMembers]
  | succ fuel ih =>
      obtain ⟨hvalue, hitems, hmembers⟩ := ih
      exact ⟨readValue_extends_succ hitems hmembers, readItems_extends_succ hvalue hitems,
        readMembers_extends_succ hvalue hmembers⟩

/-- A list, an object or a string at the front of a text is read in the same way
whatever follows it. -/
theorem readFront_append {cs rest : List Char} {v : Value}
    (h : readFront cs = .ok (v, rest)) (hcs : Enclosed cs) (more : List Char) :
    readFront (cs ++ more) = .ok (v, rest ++ more) := by
  refine (readers_extend _).1 cs v rest h (Or.inl hcs) _ more ?_
  simp only [fuelFor, List.length_append]
  omega

end DocLedger.Json
