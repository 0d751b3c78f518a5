import DocLedger.Json.Parser
import DocLedger.Proofs.Text.DigitRuns

/-!
# The value at the front of a text

Reading takes a value off the front of a text and returns the characters that
are left.  Here is what the result owes to the text.  The characters left are
the end of the text, and there are fewer of them.  Text added behind a value
that has come to its end changes nothing.  A reader that gives up on an integer
has come across a run of too many digits.
-/

namespace DocLedger.Json

/-! ## The characters left -/

/-- A text of which something has been read: the characters left are its end,
and there are fewer of them. -/
def Leaves (cs rest : List Char) : Prop :=
  rest <:+ cs ∧ rest.length < cs.length

theorem Leaves.cons {c : Char} {cs rest : List Char} (h : rest <:+ cs) :
    Leaves (c :: cs) rest :=
  ⟨h.trans (List.suffix_cons c cs), Nat.lt_succ_of_le h.length_le⟩

theorem Leaves.ne_nil {cs rest : List Char} (h : Leaves cs rest) : cs ≠ [] := by
  rintro rfl
  exact Nat.not_lt_zero _ h.2

theorem Leaves.of_suffix {cs mid rest : List Char}
    (h : Leaves cs mid) (hrest : rest <:+ mid) : Leaves cs rest :=
  ⟨hrest.trans h.1, Nat.lt_of_le_of_lt hrest.length_le h.2⟩

theorem Leaves.suffix_left {cs mid rest : List Char}
    (h : Leaves mid rest) (hmid : mid <:+ cs) : Leaves cs rest :=
  ⟨h.1.trans hmid, Nat.lt_of_lt_of_le h.2 hmid.length_le⟩

/-- Two results with characters left are equal in both parts. -/
theorem ok_pair_inj {α ε : Type} {a b : α} {cs ds : List Char}
    (h : (Except.ok (a, cs) : Except ε (α × List Char)) = .ok (b, ds)) :
    a = b ∧ cs = ds := by
  simpa using h

theorem skipBlanks_suffix (cs : List Char) : skipBlanks cs <:+ cs :=
  List.dropWhile_suffix _

theorem suffix_of_skipBlanks {cs tail : List Char} {c : Char}
    (h : skipBlanks cs = c :: tail) : tail <:+ cs :=
  (List.suffix_cons c tail).trans (h ▸ skipBlanks_suffix cs)

theorem hexUnit?_suffix {cs rest : List Char} {n : Nat}
    (h : hexUnit? cs = some (n, rest)) : rest <:+ cs := by
  match cs with
  | [] | [_] | [_, _] | [_, _, _] => simp [hexUnit?] at h
  | a :: b :: c :: d :: tail =>
      simp only [hexUnit?, Option.bind_eq_bind, Option.bind_eq_some_iff,
        Option.pure_def, Option.some.injEq, Prod.mk.injEq] at h
      obtain ⟨_, _, _, _, _, _, _, _, _, rfl⟩ := h
      exact List.suffix_append [a, b, c, d] _

theorem readLowHalf_suffix {high : Nat} {rest after : List Char} {c : Char}
    (h : readLowHalf high rest = .ok (c, after)) : after <:+ rest := by
  unfold readLowHalf at h
  split at h
  · next b more =>
    split at h
    · split at h
      · cases h
      · next low last hunit =>
        split at h
        · obtain ⟨-, rfl⟩ := ok_pair_inj h
          exact (hexUnit?_suffix hunit).trans (List.suffix_append [b, 'u'] more)
        · obtain ⟨-, rfl⟩ := ok_pair_inj h
          exact List.suffix_refl _
    · obtain ⟨-, rfl⟩ := ok_pair_inj h
      exact List.suffix_refl _
  · obtain ⟨-, rfl⟩ := ok_pair_inj h
    exact List.suffix_refl _

theorem readEscape_leaves {cs after : List Char} {c : Char}
    (h : readEscape cs = .ok (c, after)) : Leaves cs after := by
  unfold readEscape at h
  split at h
  · cases h
  · next rest =>
    split at h
    · cases h
    · split at h
      · cases h
      · next n last hunit =>
        have hlast : last <:+ rest := hexUnit?_suffix hunit
        split at h
        · exact Leaves.cons ((readLowHalf_suffix h).trans hlast)
        · obtain ⟨-, rfl⟩ := ok_pair_inj h
          exact Leaves.cons hlast
  · split at h
    · obtain ⟨-, rfl⟩ := ok_pair_inj h
      exact Leaves.cons (List.suffix_refl _)
    · cases h

/-- How the characters of a string are taken off the front of a text. -/
inductive StringStep (start fuel : Nat) : List Char → List Char → List Char → Prop
  | close {rest : List Char} : StringStep start fuel (quoteMark :: rest) [] rest
  | escape {tail after text rest : List Char} {c : Char}
      (first : readEscape tail = .ok (c, after))
      (others : readString start fuel after = .ok (text, rest)) :
      StringStep start fuel (backslash :: tail) (c :: text) rest
  | plain {c : Char} {tail text rest : List Char}
      (first : c ≠ quoteMark ∧ c ≠ backslash ∧ ¬ c.toNat < 32)
      (others : readString start fuel tail = .ok (text, rest)) :
      StringStep start fuel (c :: tail) (c :: text) rest

theorem readString_succ_eq_ok_iff {start fuel : Nat} {cs text rest : List Char} :
    readString start (fuel + 1) cs = .ok (text, rest) ↔
      StringStep start fuel cs text rest := by
  constructor
  · intro h
    cases cs with
    | nil => simp [readString] at h
    | cons c tail =>
        rw [readString.eq_def] at h
        simp only at h
        split at h
        · next hquote =>
          cases h
          rw [eq_of_beq hquote]
          exact .close
        · next hquote =>
          split at h
          · next hback =>
            rw [eq_of_beq hback]
            split at h
            · cases h
            · split at h
              · cases h
              · next d after hescape =>
                split at h
                · cases h
                · next others last hothers =>
                  cases h
                  exact .escape hescape hothers
          · next hback =>
            split at h
            · cases h
            · next hcontrol =>
              split at h
              · cases h
              · next others last hothers =>
                cases h
                exact .plain ⟨by simpa using hquote, by simpa using hback, hcontrol⟩ hothers
  · intro h
    have hquote : (backslash == quoteMark) = false := by decide
    cases h with
    | close => simp [readString]
    | @escape tail _ _ _ _ first others =>
        cases tail with
        | nil => simp [readEscape] at first
        | cons d more => simp [readString, hquote, first, others]
    | plain first others => simp [readString, first, others]

theorem readString_leaves {start fuel : Nat} {cs text rest : List Char}
    (h : readString start fuel cs = .ok (text, rest)) : Leaves cs rest := by
  induction fuel generalizing cs text with
  | zero => simp [readString] at h
  | succ fuel ih =>
      cases readString_succ_eq_ok_iff.mp h with
      | close => exact .cons (List.suffix_refl _)
      | escape first others => exact .cons ((ih others).1.trans (readEscape_leaves first).1)
      | plain first others => exact .cons (ih others).1

theorem stringBody_leaves {cs text rest : List Char}
    (h : stringBody cs = .ok (text, rest)) : Leaves cs rest :=
  readString_leaves h

theorem spanDigits_leaves {cs digits rest : List Char}
    (h : Number.spanDigits cs = (digits, rest)) (hdigits : digits ≠ []) :
    Leaves cs rest := by
  obtain ⟨rfl, rfl⟩ := Prod.mk.inj h
  refine ⟨List.dropWhile_suffix _, ?_⟩
  have hlength := congrArg List.length
    (List.takeWhile_append_dropWhile (p := Char.isDigit) (l := cs))
  rw [List.length_append] at hlength
  have := List.length_pos_iff.mpr hdigits
  omega

theorem readWhole?_leaves {cs whole rest : List Char}
    (h : readWhole? cs = some (whole, rest)) : Leaves cs rest := by
  unfold readWhole? at h
  split at h
  · cases h
    exact Leaves.cons (List.suffix_refl _)
  · split at h
    · cases h
    · next found hfound =>
      cases h
      refine spanDigits_leaves rfl ?_
      intro hnil
      exact hfound _ (Prod.ext hnil rfl)

theorem readFraction_suffix (cs : List Char) : (readFraction cs).2 <:+ cs := by
  unfold readFraction
  split
  · next rest =>
    split
    · exact List.suffix_refl _
    · exact (List.dropWhile_suffix _).trans (List.suffix_cons _ _)
  · exact List.suffix_refl _

theorem spanSign_suffix (cs : List Char) : (Number.spanSign cs).2 <:+ cs := by
  unfold Number.spanSign
  split
  · exact List.suffix_cons _ _
  · exact List.suffix_cons _ _
  · exact List.suffix_refl _

theorem readExponent_suffix (cs : List Char) : (readExponent cs).2 <:+ cs := by
  unfold readExponent
  split
  · next c rest =>
    split
    · split
      next negative unsigned hsign =>
      split
      · exact List.suffix_refl _
      · next ds last hdigits hspan =>
        have hlast : last <:+ unsigned := by
          obtain ⟨-, rfl⟩ := Prod.mk.inj hspan
          exact List.dropWhile_suffix _
        have hunsigned : unsigned <:+ rest := by
          simpa [hsign] using spanSign_suffix rest
        exact (hlast.trans hunsigned).trans (List.suffix_cons c rest)
    · exact List.suffix_refl _
  · exact List.suffix_refl _

theorem readUnsigned_ok {negative : Bool} {cs rest : List Char} {v : Value}
    (h : readUnsigned negative cs = some (.ok (v, rest))) :
    ∃ whole afterWhole, readWhole? cs = some (whole, afterWhole) ∧
      numberOfParts negative whole (readFraction afterWhole).1
        (readExponent (readFraction afterWhole).2).1 = .ok v ∧
      (readExponent (readFraction afterWhole).2).2 = rest := by
  simp only [readUnsigned, Option.map_eq_some_iff, Prod.exists] at h
  obtain ⟨whole, afterWhole, hwhole, h⟩ := h
  refine ⟨whole, afterWhole, hwhole, ?_⟩
  cases hparts : numberOfParts negative whole (readFraction afterWhole).1
      (readExponent (readFraction afterWhole).2).1 with
  | error fault => simp [hparts, Except.map] at h
  | ok number => simpa [hparts, Except.map] using h

theorem readUnsigned_leaves {negative : Bool} {cs rest : List Char} {v : Value}
    (h : readUnsigned negative cs = some (.ok (v, rest))) : Leaves cs rest := by
  obtain ⟨whole, afterWhole, hwhole, -, rfl⟩ := readUnsigned_ok h
  exact (readWhole?_leaves hwhole).of_suffix
    ((readExponent_suffix _).trans (readFraction_suffix _))

theorem afterWord?_eq_some_iff {word cs rest : List Char} :
    afterWord? word cs = some rest ↔ cs = word ++ rest := by
  induction word generalizing cs with
  | nil => simp [afterWord?]
  | cons w ws ih =>
      cases cs with
      | nil => simp [afterWord?]
      | cons c tail =>
          by_cases hw : w = c
          · simp [afterWord?, hw, ih]
          · simp [afterWord?, hw, Ne.symm hw]

theorem readWord?_eq_some {cs rest : List Char} {v : Value}
    (h : readWord? cs = some (v, rest)) :
    ∃ word, (word, v) ∈ words ∧ cs = word ++ rest := by
  obtain ⟨⟨word, found⟩, hmem, hword⟩ := List.exists_of_findSome?_eq_some h
  simp only [Option.map_eq_some_iff, Prod.mk.injEq] at hword
  obtain ⟨after, hafter, rfl, rfl⟩ := hword
  exact ⟨word, hmem, afterWord?_eq_some_iff.mp hafter⟩

theorem words_ne_nil {word : List Char} {v : Value} (h : (word, v) ∈ words) :
    word ≠ [] := by
  simp only [words, List.mem_cons, List.not_mem_nil, or_false, Prod.mk.injEq] at h
  rcases h with h | h | h | h | h | h <;> simp [h.1]

theorem spanMinus_suffix (cs : List Char) : (spanMinus cs).2 <:+ cs := by
  unfold spanMinus
  split
  · exact List.suffix_cons _ _
  · exact List.suffix_refl _

theorem readScalar_leaves {cs rest : List Char} {v : Value}
    (h : readScalar cs = .ok (v, rest)) : Leaves cs rest := by
  unfold readScalar at h
  split at h
  · next found hword =>
    cases h
    obtain ⟨word, hmem, rfl⟩ := readWord?_eq_some hword
    refine ⟨List.suffix_append _ _, ?_⟩
    have := List.length_pos_iff.mpr (words_ne_nil hmem)
    rw [List.length_append]
    omega
  · cases hnumber : readUnsigned (spanMinus cs).1 (spanMinus cs).2 with
    | none => simp [hnumber] at h
    | some result =>
        rw [hnumber, Option.getD_some] at h
        rw [h] at hnumber
        exact (readUnsigned_leaves hnumber).suffix_left (spanMinus_suffix cs)

/-! ## One step of the reader -/

/-- How a value is taken off the front of a text, given how its parts are. -/
inductive ValueStep (fuel : Nat) : List Char → Value → List Char → Prop
  | text {tail text rest : List Char} (body : stringBody tail = .ok (text, rest)) :
      ValueStep fuel (quoteMark :: tail) (.text (String.ofList text)) rest
  | emptyList {tail rest : List Char} (close : skipBlanks tail = ']' :: rest) :
      ValueStep fuel ('[' :: tail) (.list []) rest
  | list {tail rest : List Char} {items : List Value}
      (opened : ∀ last, skipBlanks tail ≠ ']' :: last)
      (body : readItems fuel (skipBlanks tail) = .ok (items, rest)) :
      ValueStep fuel ('[' :: tail) (.list items) rest
  | emptyObject {tail rest : List Char} (close : skipBlanks tail = '\x7d' :: rest) :
      ValueStep fuel ('\x7b' :: tail) (ofMembers []) rest
  | object {tail rest : List Char} {members : List (List Char × Value)}
      (opened : ∀ last, skipBlanks tail ≠ '\x7d' :: last)
      (body : readMembers fuel (skipBlanks tail) = .ok (members, rest)) :
      ValueStep fuel ('\x7b' :: tail) (ofMembers members) rest
  | scalar {c : Char} {tail rest : List Char} {v : Value}
      (plain : c ≠ quoteMark ∧ c ≠ '[' ∧ c ≠ '\x7b')
      (body : readScalar (c :: tail) = .ok (v, rest)) :
      ValueStep fuel (c :: tail) v rest

/-- How the items of a list are taken off the front of a text. -/
inductive ItemsStep (fuel : Nat) : List Char → List Value → List Char → Prop
  | last {cs after rest : List Char} {v : Value}
      (value : readValue fuel cs = .ok (v, after))
      (close : skipBlanks after = ']' :: rest) : ItemsStep fuel cs [v] rest
  | more {cs after next rest : List Char} {v : Value} {items : List Value}
      (value : readValue fuel cs = .ok (v, after))
      (comma : skipBlanks after = ',' :: next)
      (others : readItems fuel (skipBlanks next) = .ok (items, rest)) :
      ItemsStep fuel cs (v :: items) rest

/-- How the members of an object are taken off the front of a text. -/
inductive MembersStep (fuel : Nat) :
    List Char → List (List Char × Value) → List Char → Prop
  | last {tail key afterKey colon after rest : List Char} {v : Value}
      (name : stringBody tail = .ok (key, afterKey))
      (mark : skipBlanks afterKey = ':' :: colon)
      (value : readValue fuel (skipBlanks colon) = .ok (v, after))
      (close : skipBlanks after = '\x7d' :: rest) :
      MembersStep fuel (quoteMark :: tail) [(key, v)] rest
  | more {tail key afterKey colon after next rest : List Char} {v : Value}
      {members : List (List Char × Value)}
      (name : stringBody tail = .ok (key, afterKey))
      (mark : skipBlanks afterKey = ':' :: colon)
      (value : readValue fuel (skipBlanks colon) = .ok (v, after))
      (comma : skipBlanks after = ',' :: next)
      (others : readMembers fuel (skipBlanks next) = .ok (members, rest)) :
      MembersStep fuel (quoteMark :: tail) ((key, v) :: members) rest

theorem readValue_succ_eq_ok_iff {fuel : Nat} {cs rest : List Char} {v : Value} :
    readValue (fuel + 1) cs = .ok (v, rest) ↔ ValueStep fuel cs v rest := by
  constructor
  · intro h
    rw [readValue.eq_def] at h
    simp only at h
    split at h
    · cases h
    · next c tail =>
      split at h
      · next hquote =>
        obtain rfl := eq_of_beq hquote
        split at h
        · cases h
        · next text last hbody =>
          cases h
          exact .text hbody
      · split at h
        · next hbracket =>
          obtain rfl := eq_of_beq hbracket
          split at h
          · next last hclose =>
            cases h
            exact .emptyList hclose
          · next hopened =>
            split at h
            · cases h
            · next items last hbody =>
              cases h
              exact .list hopened hbody
        · split at h
          · next hbrace =>
            obtain rfl := eq_of_beq hbrace
            split at h
            · next last hclose =>
              cases h
              exact .emptyObject hclose
            · next hopened =>
              split at h
              · cases h
              · next members last hbody =>
                cases h
                exact .object hopened hbody
          · next hquote hbracket hbrace =>
            exact .scalar
              ⟨by simpa using hquote, by simpa using hbracket, by simpa using hbrace⟩ h
  · intro h
    cases h with
    | text body => simp [readValue, body]
    | emptyList close =>
        have : ('[' == quoteMark) = false := by decide
        simp [readValue, close, this]
    | list opened body =>
        have : ('[' == quoteMark) = false := by decide
        simp [readValue, this, body]
    | emptyObject close =>
        have : ('\x7b' == quoteMark) = false := by decide
        simp [readValue, close, this]
    | object opened body =>
        have : ('\x7b' == quoteMark) = false := by decide
        simp [readValue, this, body]
    | scalar plain body => simp [readValue, plain, body]

theorem readItems_succ_eq_ok_iff
    {fuel : Nat} {cs rest : List Char} {items : List Value} :
    readItems (fuel + 1) cs = .ok (items, rest) ↔ ItemsStep fuel cs items rest := by
  constructor
  · intro h
    rw [readItems.eq_def] at h
    simp only at h
    split at h
    · cases h
    · next value after hvalue =>
      split at h
      · next last hclose =>
        cases h
        exact .last hvalue hclose
      · next next hcomma =>
        split at h
        · cases h
        · next others last hothers =>
          cases h
          exact .more hvalue hcomma hothers
      · cases h
  · intro h
    cases h with
    | last value close => simp [readItems, value, close]
    | more value comma others => simp [readItems, value, comma, others]

theorem readMembers_succ_eq_ok_iff
    {fuel : Nat} {cs rest : List Char} {members : List (List Char × Value)} :
    readMembers (fuel + 1) cs = .ok (members, rest) ↔
      MembersStep fuel cs members rest := by
  constructor
  · intro h
    rw [readMembers.eq_def] at h
    simp only at h
    split at h
    · cases h
    · next c tail =>
      split at h
      · next hquote =>
        obtain rfl := eq_of_beq hquote
        split at h
        · cases h
        · next key afterKey hname =>
          split at h
          · next colon hmark =>
            split at h
            · cases h
            · next value after hvalue =>
              split at h
              · next last hclose =>
                cases h
                exact .last hname hmark hvalue hclose
              · next next hcomma =>
                split at h
                · cases h
                · next others last hothers =>
                  cases h
                  exact .more hname hmark hvalue hcomma hothers
              · cases h
          · cases h
      · cases h
  · intro h
    cases h with
    | last name mark value close => simp [readMembers, name, mark, value, close]
    | more name mark value comma others =>
        simp [readMembers, name, mark, value, comma, others]

/-! ## Every reader leaves less than it was given -/

/-- The three readers with some fuel leave less than they are given. -/
theorem readers_leave (fuel : Nat) :
    (∀ cs v rest, readValue fuel cs = .ok (v, rest) → Leaves cs rest) ∧
      (∀ cs items rest, readItems fuel cs = .ok (items, rest) → Leaves cs rest) ∧
      (∀ cs members rest, readMembers fuel cs = .ok (members, rest) → Leaves cs rest) := by
  induction fuel with
  | zero => simp [readValue, readItems, readMembers]
  | succ fuel ih =>
      obtain ⟨ihValue, ihItems, ihMembers⟩ := ih
      refine ⟨?_, ?_, ?_⟩
      · intro cs v rest h
        cases readValue_succ_eq_ok_iff.mp h with
        | text body => exact .cons (stringBody_leaves body).1
        | emptyList close => exact .cons (suffix_of_skipBlanks close)
        | list opened body => exact .cons ((ihItems _ _ _ body).1.trans (skipBlanks_suffix _))
        | emptyObject close => exact .cons (suffix_of_skipBlanks close)
        | object opened body =>
            exact .cons ((ihMembers _ _ _ body).1.trans (skipBlanks_suffix _))
        | scalar plain body => exact readScalar_leaves body
      · intro cs items rest h
        cases readItems_succ_eq_ok_iff.mp h with
        | last value close => exact (ihValue _ _ _ value).of_suffix (suffix_of_skipBlanks close)
        | more value comma others =>
            have hothers := (ihItems _ _ _ others).1.trans (skipBlanks_suffix _)
            exact (ihValue _ _ _ value).of_suffix (hothers.trans (suffix_of_skipBlanks comma))
      · intro cs members rest h
        cases readMembers_succ_eq_ok_iff.mp h with
        | last name mark value close =>
            have hvalue := (ihValue _ _ _ value).1.trans (skipBlanks_suffix _)
            exact .cons ((suffix_of_skipBlanks close).trans
              (hvalue.trans ((suffix_of_skipBlanks mark).trans (stringBody_leaves name).1)))
        | more name mark value comma others =>
            have hvalue := (ihValue _ _ _ value).1.trans (skipBlanks_suffix _)
            have hothers := (ihMembers _ _ _ others).1.trans (skipBlanks_suffix _)
            exact .cons ((hothers.trans (suffix_of_skipBlanks comma)).trans
              (hvalue.trans ((suffix_of_skipBlanks mark).trans (stringBody_leaves name).1)))

theorem readFront_leaves {cs rest : List Char} {v : Value}
    (h : readFront cs = .ok (v, rest)) : Leaves cs rest :=
  (readers_leave _).1 cs v rest h

/-! ## Integers with too many digits -/

open Text (RunsWithin)

/-- A text with a run of more digits than an integer may have. -/
def HasLongRun (cs : List Char) : Prop :=
  ¬ RunsWithin Char.isDigit Number.digitLimit cs

theorem HasLongRun.of_suffix {cs rest : List Char}
    (h : HasLongRun rest) (hrest : rest <:+ cs) : HasLongRun cs :=
  fun hcs => h (hcs.mono hrest.isInfix)

theorem readWhole?_eq_append {cs whole rest : List Char}
    (h : readWhole? cs = some (whole, rest)) :
    cs = whole ++ rest ∧ ∀ c ∈ whole, c.isDigit = true := by
  unfold readWhole? at h
  split at h
  · cases h
    exact ⟨rfl, by simp [Char.isDigit]⟩
  · split at h
    · cases h
    · cases h
      exact ⟨List.takeWhile_append_dropWhile.symm,
        fun c hc => List.all_eq_true.mp (List.all_takeWhile ..) c hc⟩

theorem readUnsigned_hasLongRun {negative : Bool} {cs : List Char} {fault : ParseFault}
    (h : readUnsigned negative cs = some (.error fault)) : HasLongRun cs := by
  simp only [readUnsigned, Option.map_eq_some_iff, Prod.exists] at h
  obtain ⟨whole, afterWhole, hwhole, h⟩ := h
  obtain ⟨rfl, hdigits⟩ := readWhole?_eq_append hwhole
  unfold numberOfParts at h
  split at h
  · split at h
    · next hlong =>
      intro hruns
      have := hruns whole (List.prefix_append _ _).isInfix hdigits
      omega
    · cases h
  · cases h

theorem readScalar_hasLongRun {cs : List Char} {n : Nat}
    (h : readScalar cs = .error (.tooManyDigits n)) : HasLongRun cs := by
  unfold readScalar at h
  split at h
  · cases h
  · cases hnumber : readUnsigned (spanMinus cs).1 (spanMinus cs).2 with
    | none => simp [hnumber] at h
    | some result =>
        rw [hnumber, Option.getD_some] at h
        subst h
        exact (readUnsigned_hasLongRun hnumber).of_suffix (spanMinus_suffix cs)

theorem readEscape_ne_tooManyDigits (cs : List Char) (n : Nat) :
    readEscape cs ≠ .error (.tooManyDigits n) := by
  intro h
  unfold readEscape readLowHalf at h
  repeat' split at h
  all_goals cases h

theorem readString_ne_tooManyDigits (start fuel : Nat) (cs : List Char) (n : Nat) :
    readString start fuel cs ≠ .error (.tooManyDigits n) := by
  induction fuel generalizing cs with
  | zero => simp [readString]
  | succ fuel ih =>
      intro h
      cases cs with
      | nil => simp [readString] at h
      | cons c rest =>
          rw [readString.eq_def] at h
          simp only at h
          split at h
          · cases h
          · split at h
            · split at h
              · cases h
              · split at h
                · next fault hescape =>
                  cases h
                  exact readEscape_ne_tooManyDigits _ n hescape
                · split at h
                  · next fault hothers =>
                    cases h
                    exact ih _ hothers
                  · cases h
            · split at h
              · cases h
              · split at h
                · next fault hothers =>
                  cases h
                  exact ih _ hothers
                · cases h

theorem readValue_succ_hasLongRun {fuel n : Nat} {cs : List Char}
    (hitems : ∀ cs, readItems fuel cs = .error (.tooManyDigits n) → HasLongRun cs)
    (hmembers : ∀ cs, readMembers fuel cs = .error (.tooManyDigits n) → HasLongRun cs)
    (h : readValue (fuel + 1) cs = .error (.tooManyDigits n)) : HasLongRun cs := by
  rw [readValue.eq_def] at h
  simp only at h
  split at h
  · cases h
  · next c tail =>
    have htail : skipBlanks tail <:+ c :: tail :=
      (skipBlanks_suffix tail).trans (List.suffix_cons c tail)
    split at h
    · split at h
      · next fault hbody =>
        cases h
        exact absurd hbody (readString_ne_tooManyDigits _ _ _ n)
      · cases h
    · split at h
      · split at h
        · cases h
        · split at h
          · next fault hbody =>
            cases h
            exact (hitems _ hbody).of_suffix htail
          · cases h
      · split at h
        · split at h
          · cases h
          · split at h
            · next fault hbody =>
              cases h
              exact (hmembers _ hbody).of_suffix htail
            · cases h
        · exact readScalar_hasLongRun h

theorem readItems_succ_hasLongRun {fuel n : Nat} {cs : List Char}
    (hvalue : ∀ cs, readValue fuel cs = .error (.tooManyDigits n) → HasLongRun cs)
    (hitems : ∀ cs, readItems fuel cs = .error (.tooManyDigits n) → HasLongRun cs)
    (h : readItems (fuel + 1) cs = .error (.tooManyDigits n)) : HasLongRun cs := by
  rw [readItems.eq_def] at h
  simp only at h
  split at h
  · next fault hfirst =>
    cases h
    exact hvalue _ hfirst
  · next value after hfirst =>
    have hafter : after <:+ cs := ((readers_leave fuel).1 _ _ _ hfirst).1
    split at h
    · cases h
    · next next hcomma =>
      split at h
      · next fault hothers =>
        cases h
        exact (hitems _ hothers).of_suffix
          ((skipBlanks_suffix _).trans ((suffix_of_skipBlanks hcomma).trans hafter))
      · cases h
    · cases h

theorem readMembers_succ_hasLongRun {fuel n : Nat} {cs : List Char}
    (hvalue : ∀ cs, readValue fuel cs = .error (.tooManyDigits n) → HasLongRun cs)
    (hmembers : ∀ cs, readMembers fuel cs = .error (.tooManyDigits n) → HasLongRun cs)
    (h : readMembers (fuel + 1) cs = .error (.tooManyDigits n)) : HasLongRun cs := by
  rw [readMembers.eq_def] at h
  simp only at h
  split at h
  · cases h
  · next c tail =>
    split at h
    · split at h
      · next fault hname =>
        cases h
        exact absurd hname (readString_ne_tooManyDigits _ _ _ n)
      · next key afterKey hname =>
        have hkey : afterKey <:+ c :: tail :=
          (stringBody_leaves hname).1.trans (List.suffix_cons c tail)
        split at h
        · next colon hmark =>
          have hcolon : skipBlanks colon <:+ c :: tail :=
            (skipBlanks_suffix _).trans ((suffix_of_skipBlanks hmark).trans hkey)
          split at h
          · next fault hfirst =>
            cases h
            exact (hvalue _ hfirst).of_suffix hcolon
          · next value after hfirst =>
            have hafter : after <:+ c :: tail :=
              ((readers_leave fuel).1 _ _ _ hfirst).1.trans hcolon
            split at h
            · cases h
            · next next hcomma =>
              split at h
              · next fault hothers =>
                cases h
                exact (hmembers _ hothers).of_suffix
                  ((skipBlanks_suffix _).trans ((suffix_of_skipBlanks hcomma).trans hafter))
              · cases h
            · cases h
        · cases h
    · cases h

/-- Whichever of the three readers gives up on an integer, there are too many
digits in its text. -/
theorem readers_hasLongRun (fuel n : Nat) :
    (∀ cs, readValue fuel cs = .error (.tooManyDigits n) → HasLongRun cs) ∧
      (∀ cs, readItems fuel cs = .error (.tooManyDigits n) → HasLongRun cs) ∧
      (∀ cs, readMembers fuel cs = .error (.tooManyDigits n) → HasLongRun cs) := by
  induction fuel with
  | zero => simp [readValue, readItems, readMembers]
  | succ fuel ih =>
      obtain ⟨hvalue, hitems, hmembers⟩ := ih
      exact ⟨fun _ => readValue_succ_hasLongRun hitems hmembers,
        fun _ => readItems_succ_hasLongRun hvalue hitems,
        fun _ => readMembers_succ_hasLongRun hvalue hmembers⟩

theorem readFront_hasLongRun {cs : List Char} {n : Nat}
    (h : readFront cs = .error (.tooManyDigits n)) : HasLongRun cs :=
  (readers_hasLongRun _ n).1 cs h

end DocLedger.Json
