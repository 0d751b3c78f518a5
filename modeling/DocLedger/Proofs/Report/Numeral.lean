import DocLedger.Proofs.Report.PlainNumber

/-!
# Integers in texts

A report may write an integer as a text.  Such a numeral is made of white space, a plus
sign, zeros, a minus sign, digits with single underscores between them, a fraction of
zeros and white space again; only the digits have to be there.  The reader of integers
accepts just the numerals that are not too long.
-/

namespace DocLedger.Report

/-! ## Numerals -/

/-- Digits with single underscores between them, and the digits alone. -/
inductive Grouped : List Char → List Char → Prop
  | one {d : Char} (hd : d.isDigit = true) : Grouped [d] [d]
  | next {d : Char} {cs ds : List Char} (hd : d.isDigit = true) (h : Grouped cs ds) :
      Grouped (d :: cs) (d :: ds)
  | apart {d : Char} {cs ds : List Char} (hd : d.isDigit = true) (h : Grouped cs ds) :
      Grouped (d :: '_' :: cs) (d :: ds)

/-- Zeros in front of a number, with any underscores behind the first of them. -/
inductive Padding : List Char → Prop
  | none : Padding []
  | zeros {more : List Char} (h : ∀ c ∈ more, c = '0' ∨ c = '_') : Padding ('0' :: more)

/-- A fraction of zeros behind a number. -/
inductive ZeroFraction : List Char → Prop
  | none : ZeroFraction []
  | zeros {more : List Char} (h : ∀ c ∈ more, c = '0') : ZeroFraction ('.' :: '0' :: more)

/-- A text is a numeral with some digits.  They do not begin with a zero, unless that is
all, and a minus sign does not follow a plus sign at once. -/
inductive Numeral : List Char → Bool → List Char → Prop
  | mk {front padding body digits fraction back : List Char} {plus negative : Bool}
      (hfront : ∀ c ∈ front, isSpace c = true) (hpadding : Padding padding)
      (hsigns : plus = true → negative = true → padding ≠ [])
      (hbody : Grouped body digits) (hzero : digits.head? = some '0' → body = ['0'])
      (hfraction : ZeroFraction fraction) (hback : ∀ c ∈ back, isSpace c = true) :
      Numeral (front ++ ((signIf '+' plus ++ (padding ++ (signIf '-' negative ++
        (body ++ fraction)))) ++ back)) negative digits

namespace Grouped

variable {cs ds : List Char}

theorem digits (h : Grouped cs ds) : ∀ c ∈ ds, c.isDigit = true := by
  induction h with
  | one hd => simpa using hd
  | next hd _ ih | apart hd _ ih => exact List.forall_mem_cons.mpr ⟨hd, ih⟩

theorem self (hne : ds ≠ []) (hds : ∀ c ∈ ds, c.isDigit = true) : Grouped ds ds := by
  induction ds with
  | nil => exact absurd rfl hne
  | cons d rest ih =>
      obtain ⟨hd, hrest⟩ := List.forall_mem_cons.mp hds
      by_cases hempty : rest = []
      · subst hempty
        exact .one hd
      · exact .next hd (ih hempty hrest)

theorem mem_cases (h : Grouped cs ds) : ∀ c ∈ cs, c = '_' ∨ c.isDigit = true := by
  induction h with
  | one hd => simpa using .inr hd
  | next hd _ ih => exact List.forall_mem_cons.mpr ⟨.inr hd, ih⟩
  | apart hd _ ih =>
      exact List.forall_mem_cons.mpr ⟨.inr hd, List.forall_mem_cons.mpr ⟨.inl rfl, ih⟩⟩

theorem exists_cons (h : Grouped cs ds) :
    ∃ d cs' ds', cs = d :: cs' ∧ ds = d :: ds' ∧ d.isDigit = true := by
  cases h with
  | one hd | next hd _ | apart hd _ => exact ⟨_, _, _, rfl, rfl, hd⟩

theorem exists_concat (h : Grouped cs ds) : ∃ cs' d, cs = cs' ++ [d] ∧ d.isDigit = true := by
  induction h with
  | one hd => exact ⟨[], _, rfl, hd⟩
  | @next d _ _ _ _ ih =>
      obtain ⟨cs', e, rfl, he⟩ := ih
      exact ⟨d :: cs', e, rfl, he⟩
  | @apart d _ _ _ _ ih =>
      obtain ⟨cs', e, rfl, he⟩ := ih
      exact ⟨d :: '_' :: cs', e, rfl, he⟩

end Grouped

theorem isSpace_of_isDigit {c : Char} (h : c.isDigit = true) : isSpace c = false := by
  simp only [Char.isDigit, ge_iff_le, Bool.and_eq_true, decide_eq_true_eq] at h
  have hlow : 48 ≤ c.toNat := h.1
  have hhigh : c.toNat ≤ 57 := h.2
  simp only [isSpace, Text.isBlank]
  grind

/-! ## What is around the digits -/

theorem dropWhile_isSpace {cs : List Char} (h : ∀ c ∈ cs, isSpace c = false) :
    cs.dropWhile isSpace = cs := by
  cases cs with
  | nil => rfl
  | cons c rest => simp [h c List.mem_cons_self]

theorem withoutSpace_append {front mid back : List Char} (hfront : ∀ c ∈ front, isSpace c = true)
    (hback : ∀ c ∈ back, isSpace c = true) (hmid : ∀ c ∈ mid, isSpace c = false) (hne : mid ≠ []) :
    withoutSpace (front ++ (mid ++ back)) = mid := by
  have hkeep : (mid ++ back).dropWhile isSpace = mid ++ back := by
    obtain ⟨c, rest, rfl⟩ := List.exists_cons_of_ne_nil hne
    simp [hmid c List.mem_cons_self]
  have hreverse : ∀ c ∈ mid.reverse, isSpace c = false := by simpa using hmid
  rw [withoutSpace, List.dropWhile_append_of_pos hfront, hkeep, List.reverse_append,
    List.dropWhile_append_of_pos (by simpa using hback), dropWhile_isSpace hreverse,
    List.reverse_reverse]

theorem exists_withoutSpace (cs : List Char) :
    ∃ front back, cs = front ++ (withoutSpace cs ++ back) ∧
      (∀ c ∈ front, isSpace c = true) ∧ ∀ c ∈ back, isSpace c = true := by
  refine ⟨cs.takeWhile isSpace, ((cs.dropWhile isSpace).reverse.takeWhile isSpace).reverse,
    ?_, ?_, ?_⟩
  · rw [withoutSpace, ← List.reverse_append, List.takeWhile_append_dropWhile, List.reverse_reverse,
      List.takeWhile_append_dropWhile]
  · exact fun c hc => List.all_eq_true.mp List.all_takeWhile c hc
  · intro c hc
    exact List.all_eq_true.mp List.all_takeWhile c (List.mem_reverse.mp hc)

/-- The text of a number as it stands behind zeros: a minus sign or a digit is first, and
a zero is first only where at most a fraction follows. -/
inductive Unpadded : List Char → Prop
  | minus (rest : List Char) : Unpadded ('-' :: rest)
  | digit {d : Char} (hd : d.isDigit = true) (hzero : d ≠ '0') (rest : List Char) :
      Unpadded (d :: rest)
  | zero : Unpadded ['0']
  | fraction (rest : List Char) : Unpadded ('0' :: '.' :: rest)

/-- The last of the zeros and underscores does not matter to what is behind them. -/
theorem afterZeros?_append {number : List Char} (h : Unpadded number) {more : List Char}
    (hmore : ∀ c ∈ more, c = '0' ∨ c = '_') (last : Char) :
    afterZeros? last (more ++ number) = some number := by
  induction more generalizing last with
  | nil =>
      cases h with
      | minus rest => simp [afterZeros?]
      | @digit d hd hzero rest =>
          have hscore : d ≠ '_' := ne_of_isDigit hd (by decide)
          have hpoint : d ≠ '.' := ne_of_isDigit hd (by decide)
          simp [afterZeros?, hd, hzero, hscore, hpoint]
      | zero | fraction => simp [afterZeros?]
  | cons c rest ih =>
      obtain ⟨hc, hrest⟩ := List.forall_mem_cons.mp hmore
      rcases hc with rfl | rfl <;> simpa [afterZeros?] using ih hrest _

theorem withoutLeadingZeros?_append {padding number : List Char} (hpadding : Padding padding)
    (h : Unpadded number) : withoutLeadingZeros? (padding ++ number) = some number := by
  cases hpadding with
  | zeros hmore => simpa [withoutLeadingZeros?] using afterZeros?_append h hmore '0'
  | none =>
      cases h with
      | minus rest => simp [withoutLeadingZeros?]
      | digit hd hzero rest => simp [withoutLeadingZeros?, hd, hzero]
      | zero | fraction => simp [withoutLeadingZeros?, afterZeros?]

theorem exists_of_afterZeros? {last : Char} (hlast : last = '0' ∨ last = '_')
    {cs number : List Char} (h : afterZeros? last cs = some number) :
    ∃ zeros, last :: cs = zeros ++ number ∧ ∀ c ∈ zeros, c = '0' ∨ c = '_' := by
  induction cs generalizing last with
  | nil =>
      cases h
      exact ⟨[], rfl, nofun⟩
  | cons c rest ih =>
      rw [afterZeros?] at h
      split at h
      · next hc =>
        obtain ⟨zeros, hsplit, hzeros⟩ := ih (by simpa using hc) h
        exact ⟨last :: zeros, by rw [hsplit, List.cons_append],
          List.forall_mem_cons.mpr ⟨hlast, hzeros⟩⟩
      · split at h
        · cases h
          exact ⟨[], rfl, nofun⟩
        · split at h
          · cases h
            exact ⟨[last], rfl, by simpa using hlast⟩
          · cases h

theorem exists_of_withoutLeadingZeros? {cs number : List Char}
    (h : withoutLeadingZeros? cs = some number) :
    ∃ padding, Padding padding ∧ cs = padding ++ number := by
  cases cs with
  | nil => cases h
  | cons c rest =>
      rw [withoutLeadingZeros?] at h
      split at h
      · next hc =>
        obtain rfl : c = '0' := by simpa using hc
        obtain ⟨zeros, hsplit, hzeros⟩ := exists_of_afterZeros? (.inl rfl) h
        refine ⟨zeros, ?_, hsplit⟩
        cases zeros with
        | nil => exact .none
        | cons d more =>
            obtain rfl : '0' = d := (List.cons.inj hsplit).1
            exact .zeros (List.forall_mem_cons.mp hzeros).2
      · split at h
        · cases h
          exact ⟨[], .none, rfl⟩
        · cases h

theorem withoutZeroFraction_append {number fraction : List Char} (hnumber : '.' ∉ number)
    (hfraction : ZeroFraction fraction) : withoutZeroFraction (number ++ fraction) = number := by
  have hfree : ∀ c ∈ number, (c != '.') = true := by
    intro c hc
    have hne : c ≠ '.' := fun h => hnumber (h ▸ hc)
    simpa using hne
  cases hfraction with
  | none =>
      rw [withoutZeroFraction, List.dropWhile_append_of_pos hfree]
      simp
  | @zeros more hmore =>
      rw [withoutZeroFraction, List.dropWhile_append_of_pos hfree,
        List.takeWhile_append_of_pos hfree]
      simpa using hmore

theorem exists_withoutZeroFraction (cs : List Char) :
    ∃ fraction, cs = withoutZeroFraction cs ++ fraction ∧ ZeroFraction fraction := by
  have hsplit : cs = cs.takeWhile (· != '.') ++ cs.dropWhile (· != '.') :=
    List.takeWhile_append_dropWhile.symm
  unfold withoutZeroFraction
  split
  · next p c rest hdrop =>
    split
    · next hzeros =>
      have hpoint : p = '.' := by
        have hhead := List.head?_dropWhile_not (· != '.') cs
        rw [hdrop] at hhead
        simpa using hhead
      obtain ⟨rfl, hrest⟩ : c = '0' ∧ ∀ d ∈ rest, d = '0' := by simpa using hzeros
      refine ⟨'.' :: '0' :: rest, ?_, .zeros hrest⟩
      rwa [hdrop, hpoint] at hsplit
    · exact ⟨[], (List.append_nil cs).symm, .none⟩
  · exact ⟨[], (List.append_nil cs).symm, .none⟩

theorem hasDoubleUnderscore_cons {c : Char} (hc : c ≠ '_') (rest : List Char) :
    hasDoubleUnderscore (c :: rest) = hasDoubleUnderscore rest := by
  cases rest with
  | nil => simp [hasDoubleUnderscore]
  | cons d more => simp [hasDoubleUnderscore, hc]

theorem hasDoubleUnderscore_signIf (negative : Bool) (cs : List Char) :
    hasDoubleUnderscore (signIf '-' negative ++ cs) = hasDoubleUnderscore cs := by
  cases negative with
  | false => rfl
  | true => exact hasDoubleUnderscore_cons (by decide) cs

theorem hasInnerUnderscores_signIf {negative : Bool} {cs : List Char}
    (hminus : negative = false → cs.head? ≠ some '-') :
    hasInnerUnderscores (signIf '-' negative ++ cs) = true ↔
      cs.head? ≠ some '_' ∧ cs.getLast? ≠ some '_' ∧ hasDoubleUnderscore cs = false := by
  have hdouble := hasDoubleUnderscore_signIf negative cs
  cases negative with
  | false => simp [hasInnerUnderscores, signIf, hminus, and_assoc]
  | true =>
      have hlast : ('-' :: cs).getLast? = some '_' ↔ cs.getLast? = some '_' := by
        cases cs <;> simp
      change hasDoubleUnderscore ('-' :: cs) = hasDoubleUnderscore cs at hdouble
      change hasInnerUnderscores ('-' :: cs) = true ↔ _
      simp [hasInnerUnderscores, hdouble, hlast, and_assoc]

namespace Grouped

variable {cs ds : List Char}

theorem hasDoubleUnderscore_eq (h : Grouped cs ds) : hasDoubleUnderscore cs = false := by
  induction h with
  | one hd => rw [hasDoubleUnderscore_cons (ne_of_isDigit hd (by decide))]; rfl
  | next hd _ ih => rwa [hasDoubleUnderscore_cons (ne_of_isDigit hd (by decide))]
  | @apart d cs ds hd h ih =>
      obtain ⟨e, rest, _, rfl, _, he⟩ := h.exists_cons
      have hscore : e ≠ '_' := ne_of_isDigit he (by decide)
      rw [hasDoubleUnderscore_cons (ne_of_isDigit hd (by decide))]
      simpa [hasDoubleUnderscore, hscore] using ih

theorem filter_eq (h : Grouped cs ds) : cs.filter (· != '_') = ds := by
  induction h with
  | one hd => simp [ne_of_isDigit hd (by decide : '_'.isDigit = false)]
  | next hd _ ih | apart hd _ ih =>
      simpa [ne_of_isDigit hd (by decide : '_'.isDigit = false)] using ih

theorem hasInnerUnderscores_eq (h : Grouped cs ds) (negative : Bool) :
    hasInnerUnderscores (signIf '-' negative ++ cs) = true := by
  have hlast : cs.getLast? ≠ some '_' := by
    obtain ⟨front, d, rfl, hd⟩ := h.exists_concat
    simpa using ne_of_isDigit hd (by decide)
  obtain ⟨d, rest, _, rfl, _, hd⟩ := h.exists_cons
  have hscore : d ≠ '_' := ne_of_isDigit hd (by decide)
  have hminus : d ≠ '-' := ne_of_isDigit hd (by decide)
  exact (hasInnerUnderscores_signIf (by simpa using fun _ => hminus)).mpr
    ⟨by simpa using hscore, hlast, h.hasDoubleUnderscore_eq⟩

theorem withoutUnderscores_eq (h : Grouped cs ds) (negative : Bool) :
    withoutUnderscores (signIf '-' negative ++ cs) = signIf '-' negative ++ ds := by
  rw [withoutUnderscores, if_pos (h.hasInnerUnderscores_eq negative), List.filter_append,
    h.filter_eq]
  cases negative <;> rfl

/-- Underscores that stand alone between digits group them. -/
theorem of_filter : {cs : List Char} → cs ≠ [] → cs.head? ≠ some '_' → cs.getLast? ≠ some '_' →
    hasDoubleUnderscore cs = false → (∀ c ∈ cs.filter (· != '_'), c.isDigit = true) →
    Grouped cs (cs.filter (· != '_'))
  | [c], _, hhead, _, _, hdigits => by
      have hc : c ≠ '_' := by simpa using hhead
      have hfilter : [c].filter (· != '_') = [c] := by simp [hc]
      rw [hfilter] at hdigits ⊢
      exact .one (hdigits c List.mem_cons_self)
  | c :: d :: rest, _, hhead, hlast, hdouble, hdigits => by
      have hc : c ≠ '_' := by simpa using hhead
      have hfilter : (c :: d :: rest).filter (· != '_') = c :: (d :: rest).filter (· != '_') := by
        simp [hc]
      rw [hasDoubleUnderscore_cons hc] at hdouble
      rw [hfilter] at hdigits ⊢
      obtain ⟨hcdigit, hdigits⟩ := List.forall_mem_cons.mp hdigits
      have hlast : (d :: rest).getLast? ≠ some '_' := by simpa using hlast
      by_cases hd : d = '_'
      · subst hd
        have hskip : ('_' :: rest).filter (· != '_') = rest.filter (· != '_') := by simp
        rw [hskip] at hdigits ⊢
        -- behind a lone underscore something else follows
        obtain ⟨e, more, rfl, he⟩ : ∃ e more, rest = e :: more ∧ e ≠ '_' := by
          cases rest with
          | nil => exact absurd rfl hlast
          | cons e more =>
              refine ⟨e, more, rfl, ?_⟩
              rintro rfl
              cases hdouble
        have hdouble : hasDoubleUnderscore (e :: more) = false := by
          simpa [hasDoubleUnderscore, he] using hdouble
        exact .apart hcdigit
          (of_filter (by simp) (by simpa using he) (by simpa using hlast) hdouble hdigits)
      · exact .next hcdigit (of_filter (by simp) (by simpa using hd) hlast hdouble hdigits)

end Grouped

theorem exists_of_withoutUnderscores {cs ds : List Char} {negative : Bool} (hds : Digits ds)
    (h : withoutUnderscores cs = signIf '-' negative ++ ds) :
    ∃ body, cs = signIf '-' negative ++ body ∧ Grouped body ds := by
  rw [withoutUnderscores] at h
  split at h
  · next hinner =>
    obtain ⟨sign, body, rfl, hminus⟩ := exists_signIf cs
    obtain ⟨hfirst, hlast, hdouble⟩ := (hasInnerUnderscores_signIf hminus).mp hinner
    have hfilter : signIf '-' sign ++ body.filter (· != '_') = signIf '-' negative ++ ds := by
      rw [← h, List.filter_append]
      cases sign <;> rfl
    have hhead : sign = false → (body.filter (· != '_')).head? ≠ some '-' := by
      intro hsign
      cases body with
      | nil => exact nofun
      | cons c rest => simpa [show c ≠ '_' by simpa using hfirst] using hminus hsign
    obtain ⟨rfl, rfl⟩ := signIf_append_inj hhead (fun _ => hds.head_ne_minus) hfilter
    have hne : body ≠ [] := by
      rintro rfl
      exact hds.ne_nil rfl
    exact ⟨body, rfl, .of_filter hne hfirst hlast hdouble hds.all⟩
  · exact ⟨ds, h, .self hds.ne_nil hds.all⟩

/-! ## White space and a plus sign -/

theorem isDigit_of_isSpace {c : Char} (h : isSpace c = true) : c.isDigit = false := by
  cases hdigit : c.isDigit with
  | false => rfl
  | true =>
      rw [isSpace_of_isDigit hdigit] at h
      cases h

theorem withoutPlus?_eq {cs unsigned : List Char} {plus : Bool}
    (hspace : withoutSpace cs = signIf '+' plus ++ unsigned)
    (hplus : plus = false → unsigned.head? ≠ some '+')
    (hminus : plus = true → unsigned.head? ≠ some '-') : withoutPlus? cs = some unsigned := by
  rw [withoutPlus?, hspace]
  cases plus with
  | true =>
      cases unsigned with
      | nil => rfl
      | cons c rest =>
          have hc : c ≠ '-' := by simpa using hminus rfl
          simp [signIf, hc]
  | false =>
      cases unsigned with
      | nil => rfl
      | cons c rest =>
          have hc : c ≠ '+' := by simpa using hplus rfl
          simp [signIf, hc]

theorem exists_of_withoutPlus? {cs unsigned : List Char} (h : withoutPlus? cs = some unsigned) :
    ∃ front plus back, cs = front ++ ((signIf '+' plus ++ unsigned) ++ back) ∧
      (∀ c ∈ front, isSpace c = true) ∧ (∀ c ∈ back, isSpace c = true) ∧
      (plus = true → unsigned.head? ≠ some '-') := by
  obtain ⟨front, back, hsplit, hfront, hback⟩ := exists_withoutSpace cs
  unfold withoutPlus? at h
  split at h
  · cases h
  · next rest hne htrim =>
    cases h
    refine ⟨front, true, back, ?_, hfront, hback, ?_⟩
    · rwa [htrim] at hsplit
    · intro _ hhead
      obtain ⟨more, rfl⟩ := List.head?_eq_some_iff.mp hhead
      exact hne more rfl
  · cases h
    exact ⟨front, false, back, hsplit, hfront, hback, nofun⟩

/-! ## Numerals are read -/

section

variable {cs ds body fraction : List Char} {negative : Bool}

theorem Grouped.eq_zero (h : Grouped body ['0']) : body = ['0'] := by
  cases h with
  | one => rfl
  | next _ h | apart _ h => cases h

theorem Grouped.digits_of_zero (h : Grouped body ds) (hzero : ds.head? = some '0' → body = ['0']) :
    Digits ds := by
  obtain ⟨_, _, _, _, hds, _⟩ := h.exists_cons
  refine ⟨h.digits, by simp [hds], ?_⟩
  intro hhead
  rw [hzero hhead] at h
  cases h with
  | one => rfl
  | next _ h => cases h

theorem Grouped.unpadded (h : Grouped body ds) (hzero : ds.head? = some '0' → body = ['0'])
    (hfraction : ZeroFraction fraction) (negative : Bool) :
    Unpadded (signIf '-' negative ++ (body ++ fraction)) := by
  cases negative with
  | true => exact .minus _
  | false =>
      by_cases hhead : ds.head? = some '0'
      · rw [hzero hhead]
        cases hfraction with
        | none => exact .zero
        | zeros => exact .fraction _
      · obtain ⟨d, rest, _, rfl, rfl, hd⟩ := h.exists_cons
        exact .digit hd (by simpa using hhead) _

theorem Grouped.not_mem (h : Grouped body ds) {c : Char} (hc : c ≠ '_')
    (hdigit : c.isDigit = false) : c ∉ body := by
  intro hmem
  rcases h.mem_cases c hmem with hscore | hc'
  · exact hc hscore
  · rw [hdigit] at hc'
    cases hc'

theorem Padding.head_ne_plus {padding number : List Char} (hpadding : Padding padding)
    (h : Unpadded number) : (padding ++ number).head? ≠ some '+' := by
  cases hpadding with
  | zeros => simp
  | none =>
      cases h with
      | digit hd => simpa using ne_of_isDigit hd (by decide)
      | minus | zero | fraction => simp

/-- No white space is between the signs, the padding, the digits and the fraction. -/
theorem Grouped.isSpace_eq_false {padding : List Char} (h : Grouped body ds)
    (hpadding : Padding padding) (hfraction : ZeroFraction fraction) (plus negative : Bool) :
    ∀ c ∈ signIf '+' plus ++ (padding ++ (signIf '-' negative ++ (body ++ fraction))),
      isSpace c = false := by
  have hsign {sign : Char} (hsign : isSpace sign = false) (given : Bool) :
      ∀ c ∈ signIf sign given, isSpace c = false := by
    cases given <;> simp [signIf, hsign]
  have hzeros : ∀ c ∈ padding, isSpace c = false := by
    cases hpadding with
    | none => exact List.forall_mem_nil _
    | zeros hmore =>
        refine List.forall_mem_cons.mpr ⟨by decide, ?_⟩
        intro c hc
        rcases hmore c hc with rfl | rfl <;> decide
  have hbody : ∀ c ∈ body, isSpace c = false := by
    intro c hc
    rcases h.mem_cases c hc with rfl | hdigit
    · decide
    · exact isSpace_of_isDigit hdigit
  have hpoint : ∀ c ∈ fraction, isSpace c = false := by
    cases hfraction with
    | none => exact List.forall_mem_nil _
    | zeros hmore =>
        refine List.forall_mem_cons.mpr ⟨by decide, List.forall_mem_cons.mpr ⟨by decide, ?_⟩⟩
        intro c hc
        rw [hmore c hc]
        decide
  simp only [List.forall_mem_append]
  exact ⟨hsign (by decide) plus, hzeros, hsign (by decide) negative, hbody, hpoint⟩

/-- What is taken off the text of a numeral leaves its sign and its digits. -/
theorem Numeral.cleaned?_eq (h : Numeral cs negative ds) :
    cleaned? cs = some (signIf '-' negative ++ ds) := by
  cases h with
  | @mk front padding body _ fraction back plus _
      hfront hpadding hsigns hbody hzero hfraction hback =>
      have hunpadded := hbody.unpadded hzero hfraction negative
      have hne :
          signIf '+' plus ++ (padding ++ (signIf '-' negative ++ (body ++ fraction))) ≠ [] := by
        obtain ⟨d, rest, _, rfl, _, _⟩ := hbody.exists_cons
        simp
      have hspace := withoutSpace_append hfront hback
        (hbody.isSpace_eq_false hpadding hfraction plus negative) hne
      have hminus : plus = true →
          (padding ++ (signIf '-' negative ++ (body ++ fraction))).head? ≠ some '-' := by
        intro hplus
        cases hpadding with
        | zeros => simp
        | none =>
            obtain ⟨d, rest, _, rfl, _, hd⟩ := hbody.exists_cons
            have hd : d ≠ '-' := ne_of_isDigit hd (by decide)
            cases negative with
            | true => exact absurd rfl (hsigns hplus rfl)
            | false => simpa [signIf] using hd
      have hplus := withoutPlus?_eq hspace (fun _ => hpadding.head_ne_plus hunpadded) hminus
      have hpoint : '.' ∉ signIf '-' negative ++ body := by
        rw [List.mem_append, not_or]
        refine ⟨?_, hbody.not_mem (by decide) (by decide)⟩
        cases negative <;> decide
      have hfree := withoutZeroFraction_append hpoint hfraction
      rw [List.append_assoc] at hfree
      rw [cleaned?, hplus, Option.bind_some, withoutLeadingZeros?_append hpadding hunpadded,
        Option.map_some, hfree, hbody.withoutUnderscores_eq]

theorem Grouped.exists_run (h : Grouped body ds) : ∃ run tail more,
    body = run ++ tail ∧ ds = run ++ more ∧ run ≠ [] ∧ (tail = [] → more = []) ∧
      ∀ c ∈ tail.head?, c = '_' := by
  induction h with
  | @one d hd => exact ⟨[d], [], [], rfl, rfl, by simp, fun _ => rfl, nofun⟩
  | @next d _ _ hd _ ih =>
      obtain ⟨run, tail, more, rfl, rfl, _, hempty, hscore⟩ := ih
      exact ⟨d :: run, tail, more, rfl, rfl, by simp, hempty, hscore⟩
  | @apart d cs ds hd _ _ =>
      exact ⟨[d], '_' :: cs, ds, rfl, rfl, by simp, nofun, by simp⟩

/-- A sign and grouped digits in front of a fraction and white space are read as such only
if they are all. -/
theorem Grouped.plainInteger_cases (h : Grouped body ds)
    (hzero : ds.head? = some '0' → body = ['0']) {rest : List Char}
    (hrest : ∀ c ∈ rest.head?, c = '.' ∨ isSpace c = true) (negative : Bool) :
    plainInteger (signIf '-' negative ++ (body ++ rest)) = .error .notIntegerText ∨
      plainInteger (signIf '-' negative ++ (body ++ rest)) =
        plainInteger (signIf '-' negative ++ ds) := by
  have hdigits := h.digits_of_zero hzero
  by_cases hhead : ds.head? = some '0'
  · rw [hzero hhead, hdigits.zero hhead]
    cases rest with
    | nil => exact .inr rfl
    | cons c more => exact .inl (plainInteger_zero_cons negative c more)
  · obtain ⟨run, tail, more, rfl, rfl, hne, hempty, hscore⟩ := h.exists_run
    have hrun : ∀ c ∈ run, c.isDigit = true := (List.forall_mem_append.mp hdigits.all).1
    have hstop : Number.NoDigit (tail ++ rest) := by
      apply noDigit_of_head
      intro c hc
      cases tail with
      | cons d after =>
          obtain rfl : d = c := by simpa using hc
          rw [hscore d rfl]
          decide
      | nil =>
          rcases hrest c hc with rfl | hspace
          · decide
          · exact isDigit_of_isSpace hspace
    have hfirst : run.head? ≠ some '0' := by
      obtain ⟨d, front, rfl⟩ := List.exists_cons_of_ne_nil hne
      simpa using hhead
    rw [List.append_assoc, plainInteger_append hrun hne hfirst hstop,
      plainInteger_of_digits hdigits]
    by_cases hlong : Number.digitLimit < numeralLength negative run
    · have hmore : Number.digitLimit < numeralLength negative (run ++ more) := by
        simp only [numeralLength, List.length_append] at hlong ⊢
        omega
      rw [if_pos hlong, if_pos hmore]
      exact .inr rfl
    · rw [if_neg hlong]
      by_cases hall : tail ++ rest = []
      · obtain ⟨htail, -⟩ := List.append_eq_nil_iff.mp hall
        rw [hall, hempty htail, List.append_nil, if_neg hlong]
        exact .inr rfl
      · rw [if_neg (by simpa using hall)]
        exact .inl rfl

theorem Numeral.plainInteger_cases (h : Numeral cs negative ds) :
    plainInteger cs = .error .notIntegerText ∨
      plainInteger cs = plainInteger (signIf '-' negative ++ ds) := by
  cases h with
  | @mk front padding body _ fraction back plus _ hfront hpadding _ hbody hzero hfraction hback =>
      have hother {c : Char} {rest : List Char} (hc : c.isDigit = false) (hminus : c ≠ '-') :
          plainInteger (c :: rest) = .error .notIntegerText := by
        have hdigit : Number.NoDigit (c :: rest) := noDigit_of_head (by simpa using hc)
        have hhead : false = false → (c :: rest).head? ≠ some '-' := by simpa using hminus
        exact plainInteger_of_noDigit hdigit hhead
      cases front with
      | cons c rest =>
          have hc : isSpace c = true := hfront c List.mem_cons_self
          refine .inl (hother (isDigit_of_isSpace hc) ?_)
          rintro rfl
          cases hc
      | nil =>
          cases plus with
          | true => exact .inl (hother (by decide) (by decide))
          | false =>
              cases hpadding with
              | @zeros more _ =>
                  obtain ⟨d, digits, _, rfl, _, _⟩ := hbody.exists_cons
                  obtain ⟨c, rest, hcons⟩ : ∃ c rest, (more ++ (signIf '-' negative ++
                      (d :: digits ++ fraction))) ++ back = c :: rest :=
                    List.exists_cons_of_ne_nil (by simp)
                  left
                  have hpadded := plainInteger_zero_cons false c rest
                  rw [← hcons] at hpadded
                  exact hpadded
              | none =>
                  have hrest : ∀ c ∈ (fraction ++ back).head?, c = '.' ∨ isSpace c = true := by
                    intro c hc
                    cases hfraction with
                    | none => exact .inr (hback c (List.mem_of_head? hc))
                    | zeros => exact .inl (by simpa using hc.symm)
                  have hcases := hbody.plainInteger_cases hzero hrest negative
                  simpa [signIf, List.append_assoc] using hcases

theorem Numeral.digits (h : Numeral cs negative ds) : Digits ds := by
  cases h with
  | mk _ _ _ hbody hzero => exact hbody.digits_of_zero hzero

/-- A numeral is read as what it writes, up to the limit. -/
theorem Numeral.integerOfText_eq (h : Numeral cs negative ds) :
    integerOfText cs =
      if Number.digitLimit < numeralLength negative ds then .error .tooLarge
      else .ok (signedValue negative ds) := by
  rw [integerOfText.eq_def, ← plainInteger_of_digits h.digits]
  rcases h.plainInteger_cases with hplain | hplain
  · simp only [hplain, h.cleaned?_eq]
  · by_cases hlong : Number.digitLimit < numeralLength negative ds <;>
      simp only [hplain, plainInteger_of_digits h.digits, hlong, ↓reduceIte]

/-- Only numerals are left with a sign and digits. -/
theorem numeral_of_cleaned? (hds : Digits ds)
    (h : cleaned? cs = some (signIf '-' negative ++ ds)) : Numeral cs negative ds := by
  rw [cleaned?, Option.map_eq_some_iff] at h
  obtain ⟨number, hnumber, hleft⟩ := h
  obtain ⟨unsigned, hunsigned, hpadded⟩ := Option.bind_eq_some_iff.mp hnumber
  obtain ⟨front, plus, back, rfl, hfront, hback, hminus⟩ := exists_of_withoutPlus? hunsigned
  obtain ⟨padding, hpadding, rfl⟩ := exists_of_withoutLeadingZeros? hpadded
  obtain ⟨fraction, hsplit, hfraction⟩ := exists_withoutZeroFraction number
  obtain ⟨body, hbody, hgrouped⟩ := exists_of_withoutUnderscores hds hleft
  rw [hbody, List.append_assoc] at hsplit
  subst hsplit
  refine .mk hfront hpadding ?_ hgrouped ?_ hfraction hback
  · rintro rfl rfl rfl
    exact hminus rfl rfl
  · intro hhead
    rw [hds.zero hhead] at hgrouped
    exact hgrouped.eq_zero

theorem numeral_of_digits (hds : Digits ds) (negative : Bool) :
    Numeral (signIf '-' negative ++ ds) negative ds := by
  have hnumeral := @Numeral.mk [] [] ds ds [] [] false negative nofun .none nofun
    (.self hds.ne_nil hds.all) hds.zero .none nofun
  simpa [signIf] using hnumeral

theorem exists_of_integerOfText {n : Int} (h : integerOfText cs = .ok n) :
    ∃ number, (number = cs ∨ cleaned? cs = some number) ∧ plainInteger number = .ok n := by
  rw [integerOfText.eq_def] at h
  split at h
  · split at h
    · next number hcleaned => exact ⟨number, .inr hcleaned, h⟩
    · cases h
  · exact ⟨cs, .inl rfl, h⟩

/-- Just the numerals that are not too long write integers. -/
theorem integerOfText_eq_ok_iff {n : Int} :
    integerOfText cs = .ok n ↔ ∃ negative ds, Numeral cs negative ds ∧
      numeralLength negative ds ≤ Number.digitLimit ∧ n = signedValue negative ds := by
  constructor
  · intro h
    obtain ⟨number, hcleaned, hnumber⟩ := exists_of_integerOfText h
    obtain ⟨negative, ds, rfl, hds, hlength, rfl⟩ := exists_of_plainInteger hnumber
    refine ⟨negative, ds, ?_, hlength, rfl⟩
    rcases hcleaned with rfl | hcleaned
    · exact numeral_of_digits hds negative
    · exact numeral_of_cleaned? hds hcleaned
  · rintro ⟨negative, ds, hnumeral, hlength, rfl⟩
    rw [hnumeral.integerOfText_eq, if_neg (by omega)]

/-! ## Texts that are not read -/

theorem sublist_of_cleaned? {number : List Char} (h : cleaned? cs = some number) :
    number.Sublist cs := by
  rw [cleaned?, Option.map_eq_some_iff] at h
  obtain ⟨padded, hpadded, rfl⟩ := h
  obtain ⟨unsigned, hunsigned, hpadded⟩ := Option.bind_eq_some_iff.mp hpadded
  obtain ⟨front, plus, back, hcs, -, -, -⟩ := exists_of_withoutPlus? hunsigned
  obtain ⟨padding, -, hpadding⟩ := exists_of_withoutLeadingZeros? hpadded
  obtain ⟨fraction, hfraction, -⟩ := exists_withoutZeroFraction padded
  have hscores : (withoutUnderscores (withoutZeroFraction padded)).Sublist
      (withoutZeroFraction padded) := by
    unfold withoutUnderscores
    split
    · exact List.filter_sublist
    · exact List.Sublist.refl _
  have hpoint : (withoutZeroFraction padded).Sublist padded := by
    generalize withoutZeroFraction padded = number at hfraction
    rw [hfraction]
    exact List.sublist_append_left _ _
  have hzeros : padded.Sublist unsigned := by
    rw [hpadding]
    exact List.sublist_append_right _ _
  have hspace : unsigned.Sublist cs := by
    rw [hcs]
    exact (List.sublist_append_of_sublist_left (List.sublist_append_right _ _)).trans
      (List.sublist_append_right _ _)
  exact ((hscores.trans hpoint).trans hzeros).trans hspace

theorem misfit_of_integerOfText {misfit : Misfit} (h : integerOfText cs = .error misfit) :
    misfit = .notIntegerText ∨
      misfit = .tooLarge ∧ Number.digitLimit ≤ cs.countP Char.isDigit := by
  rw [integerOfText.eq_def] at h
  split at h
  · split at h
    · next number hcleaned =>
      rcases misfit_of_plainInteger h with htext | ⟨hlarge, hcount⟩
      · exact .inl htext
      · exact .inr ⟨hlarge, Nat.le_trans hcount (sublist_of_cleaned? hcleaned).countP_le⟩
    · exact .inl (Except.error.inj h).symm
  · exact misfit_of_plainInteger h

end

end DocLedger.Report
