import DocLedger.Console.Markup
import Mathlib.Data.List.TakeWhile
import Mathlib.Data.List.Infix

/-!
# Tags and escapes

A text falls into parts: characters with which no tag begins, and what looks like a tag,
behind some backslashes.  Escaping puts backslashes in front of the tags and leaves the other
characters as they are.  So where no tag began before, none begins in the escaped text.
-/

namespace DocLedger.Console

/-! ## Tags at the front of a text -/

def isBracket (d : Char) : Bool := d == '[' || d == ']'

/-- The inside of a tag: a character with which it may start, and no bracket. -/
inductive IsInside : List Char → Prop
  | mk {c : Char} {body : List Char} (hstart : startsTag c = true)
      (hbody : ∀ d ∈ body, isBracket d = false) : IsInside (c :: body)

theorem IsInside.of_all {inside : List Char} (hstart : inside.head?.any startsTag = true)
    (hbody : inside.tail.all (fun d => !isBracket d) = true) : IsInside inside := by
  cases inside with
  | nil => cases hstart
  | cons c body => exact .mk hstart (by simpa using hbody)

/-- What follows a bracket begins a tag if it starts with a character that may start one,
and the first bracket behind it closes. -/
theorem tagInside?_cons (c : Char) (rest : List Char) :
    tagInside? ('[' :: c :: rest) =
      if startsTag c = true ∧ rest.find? isBracket = some ']' then
        some (c :: rest.takeWhile fun d => d != '[' && d != ']')
      else none := by
  have hfirst : (rest.drop (rest.takeWhile fun d => d != '[' && d != ']').length).head? =
      rest.find? isBracket := by
    induction rest with
    | nil => rfl
    | cons d rest ih =>
        by_cases hd : isBracket d = true
        · have hstop : (d != '[' && d != ']') = false := by
            simpa [isBracket, or_iff_not_imp_left] using hd
          simp [hstop, hd]
        · have hgo : (d != '[' && d != ']') = true := by
            simpa [isBracket, not_or] using hd
          simp only [List.takeWhile_cons, hgo, if_true, List.length_cons, List.drop_succ_cons, ih,
            List.find?_cons_of_neg hd]
  rw [tagInside?]
  simp only [hfirst]
  by_cases hstart : startsTag c = true
  · by_cases hclose : rest.find? isBracket = some ']' <;> simp [hstart, hclose]
  · simp [hstart]

theorem tagInside?_of_ne {c : Char} (h : c ≠ '[') (rest : List Char) :
    tagInside? (c :: rest) = none := by
  unfold tagInside?
  split
  · next heq =>
    cases heq
    exact absurd rfl h
  · rfl

theorem takeWhile_inside {body : List Char} (hbody : ∀ d ∈ body, isBracket d = false)
    (rest : List Char) :
    (body ++ ']' :: rest).takeWhile (fun d => d != '[' && d != ']') = body := by
  rw [List.takeWhile_append_of_pos]
  · simp
  · intro d hd
    simpa [isBracket] using hbody d hd

theorem tagInside?_of_isInside {inside : List Char} (h : IsInside inside) (rest : List Char) :
    tagInside? ('[' :: (inside ++ ']' :: rest)) = some inside := by
  cases h with
  | @mk c body hstart hbody =>
      have hfind : (body ++ ']' :: rest).find? isBracket = some ']' := by
        rw [List.find?_append, List.find?_eq_none.mpr (by simpa using hbody)]
        rfl
      rw [List.cons_append, tagInside?_cons, if_pos ⟨hstart, hfind⟩, takeWhile_inside hbody]

theorem tagInside?_eq_some {cs inside : List Char} (h : tagInside? cs = some inside) :
    IsInside inside ∧ ∃ rest, cs = '[' :: (inside ++ ']' :: rest) := by
  cases cs with
  | nil => cases h
  | cons b cs =>
      by_cases hb : b = '['
      · subst hb
        cases cs with
        | nil => cases h
        | cons c rest =>
            rw [tagInside?_cons] at h
            split at h
            · next hboth =>
              obtain ⟨-, body, rest, rfl, hbody⟩ := List.find?_eq_some_iff_append.mp hboth.2
              have hopen : ∀ d ∈ body, isBracket d = false := by
                intro d hd
                simpa using hbody d hd
              rw [takeWhile_inside hopen] at h
              cases h
              exact ⟨.mk hboth.1 hopen, rest, rfl⟩
            · cases h
      · rw [tagInside?_of_ne hb] at h
        cases h

/-! ## Tags behind backslashes -/

def slashedTag (slashes : Nat) (inside : List Char) : List Char :=
  List.replicate slashes backslash ++ '[' :: (inside ++ [']'])

theorem slashedTag_succ (slashes : Nat) (inside : List Char) :
    slashedTag (slashes + 1) inside = backslash :: slashedTag slashes inside := rfl

@[simp] theorem length_slashedTag (slashes : Nat) (inside : List Char) :
    (slashedTag slashes inside).length = tagLength slashes inside := by
  simp [slashedTag, tagLength]
  omega

theorem tagAt?_backslash (cs : List Char) :
    tagAt? (backslash :: cs) = (tagAt? cs).map fun found => (found.1 + 1, found.2) := by
  simp [tagAt?, Function.comp_def]

theorem tagAt?_of_ne {c : Char} (h : c ≠ backslash) (cs : List Char) :
    tagAt? (c :: cs) = (tagInside? (c :: cs)).map fun inside => (0, inside) := by
  simp [tagAt?, h]

theorem tagAt?_of_isInside {inside : List Char} (h : IsInside inside) (slashes : Nat)
    (rest : List Char) :
    tagAt? (slashedTag slashes inside ++ rest) = some (slashes, inside) := by
  induction slashes with
  | zero =>
      have hbare : slashedTag 0 inside ++ rest = '[' :: (inside ++ ']' :: rest) := by
        simp [slashedTag]
      rw [hbare, tagAt?_of_ne (by decide), tagInside?_of_isInside h]
      rfl
  | succ slashes ih =>
      rw [slashedTag_succ, List.cons_append, tagAt?_backslash, ih]
      rfl

theorem tagAt?_eq_some {cs inside : List Char} {slashes : Nat}
    (h : tagAt? cs = some (slashes, inside)) :
    IsInside inside ∧ ∃ rest, cs = slashedTag slashes inside ++ rest := by
  induction cs generalizing slashes with
  | nil => cases h
  | cons c cs ih =>
      by_cases hc : c = backslash
      · subst hc
        rw [tagAt?_backslash, Option.map_eq_some_iff] at h
        obtain ⟨⟨fewer, found⟩, hfound, heq⟩ := h
        cases heq
        obtain ⟨hinside, rest, hcs⟩ := ih hfound
        exact ⟨hinside, rest, by rw [hcs]; rfl⟩
      · rw [tagAt?_of_ne hc, Option.map_eq_some_iff] at h
        obtain ⟨found, hfound, heq⟩ := h
        cases heq
        obtain ⟨hinside, rest, hcs⟩ := tagInside?_eq_some hfound
        exact ⟨hinside, rest, by simp [hcs, slashedTag]⟩

/-! ## The parts of a text -/

/-- A part of a text: a character with which no tag begins, or what looks like a tag, behind
some backslashes. -/
inductive Part
  | char (c : Char)
  | tag (slashes : Nat) (inside : List Char)

/-- A part with the backslashes that make ordinary text of it. -/
def Part.escaped : Part → List Char
  | char c => [c]
  | tag slashes inside => slashedTag (2 * slashes + 1) inside

/-- A text has some parts. -/
inductive Parts : List Char → List Part → Prop
  | nil : Parts [] []
  | char {c : Char} {cs : List Char} {ps : List Part} (hnone : tagAt? (c :: cs) = none)
      (hrest : Parts cs ps) : Parts (c :: cs) (.char c :: ps)
  | tag {slashes : Nat} {inside cs : List Char} {ps : List Part} (hinside : IsInside inside)
      (hrest : Parts cs ps) : Parts (slashedTag slashes inside ++ cs) (.tag slashes inside :: ps)

theorem exists_parts (cs : List Char) : ∃ ps, Parts cs ps := by
  induction hlength : cs.length using Nat.strongRecOn generalizing cs with
  | _ n ih =>
    cases cs with
    | nil => exact ⟨[], .nil⟩
    | cons c cs =>
        cases htag : tagAt? (c :: cs) with
        | none =>
            obtain ⟨ps, hps⟩ := ih cs.length (by rw [← hlength]; simp) cs rfl
            exact ⟨_, .char htag hps⟩
        | some found =>
            obtain ⟨hinside, rest, hcs⟩ := tagAt?_eq_some htag
            obtain ⟨ps, hps⟩ := ih rest.length (by rw [← hlength, hcs]; simp [tagLength]) rest rfl
            rw [hcs]
            exact ⟨_, .tag hinside hps⟩

/-- A text with a tag at its front has a first character, and behind as many further ones as
the tag takes up the rest begins. -/
theorem exists_cons_of_slashedTag (slashes : Nat) (inside rest : List Char) :
    ∃ c cs, slashedTag slashes inside ++ rest = c :: cs ∧
      cs.drop (tagLength slashes inside - 1) = rest := by
  have hlength : (slashedTag slashes inside).length = tagLength slashes inside - 1 + 1 := by
    simp [tagLength]
  obtain ⟨c, cs, hcons⟩ := List.exists_cons_of_ne_nil (List.ne_nil_of_length_eq_add_one hlength)
  refine ⟨c, cs ++ rest, by rw [hcons]; rfl, ?_⟩
  rw [hcons, List.length_cons, Nat.add_right_cancel_iff] at hlength
  exact List.drop_left' hlength

/-! ## Texts part by part -/

theorem escapeTags_drop (taken : Nat) (cs : List Char) :
    escapeTags taken cs = escapeTags 0 (cs.drop taken) := by
  induction cs generalizing taken with
  | nil => cases taken <;> rfl
  | cons c cs ih =>
      cases taken with
      | zero => rfl
      | succ taken => exact ih taken

theorem piecesFrom_drop (position taken : Nat) (cs : List Char) :
    ∃ later, piecesFrom position taken cs = piecesFrom later 0 (cs.drop taken) := by
  induction cs generalizing position taken with
  | nil => cases taken <;> exact ⟨position, rfl⟩
  | cons c cs ih =>
      cases taken with
      | zero => exact ⟨position, rfl⟩
      | succ taken => exact ih (position + 1) taken

theorem escapeTags_of_tagAt?_eq_none {c : Char} {cs : List Char} (h : tagAt? (c :: cs) = none) :
    escapeTags 0 (c :: cs) = c :: escapeTags 0 cs := by
  rw [escapeTags, h]

theorem piecesFrom_of_tagAt?_eq_none {c : Char} {cs : List Char} (h : tagAt? (c :: cs) = none)
    (position : Nat) :
    piecesFrom position 0 (c :: cs) = addPlain c (piecesFrom (position + 1) 0 cs) := by
  rw [piecesFrom, h]

section

variable {inside : List Char} (h : IsInside inside) (slashes : Nat) (rest : List Char)
include h

theorem escapeTags_of_isInside :
    escapeTags 0 (slashedTag slashes inside ++ rest) =
      slashedTag (2 * slashes + 1) inside ++ escapeTags 0 rest := by
  have hfound := tagAt?_of_isInside h slashes rest
  obtain ⟨c, cs, hcons, hdrop⟩ := exists_cons_of_slashedTag slashes inside rest
  rw [hcons] at hfound ⊢
  simp [escapeTags, hfound, escapeTags_drop (tagLength slashes inside - 1), hdrop, slashedTag]

theorem piecesFrom_of_isInside (position : Nat) :
    ∃ later, piecesFrom position 0 (slashedTag slashes inside ++ rest) =
      tagPieces position slashes inside ++ piecesFrom later 0 rest := by
  have hfound := tagAt?_of_isInside h slashes rest
  obtain ⟨c, cs, hcons, hdrop⟩ := exists_cons_of_slashedTag slashes inside rest
  obtain ⟨later, hlater⟩ := piecesFrom_drop (position + 1) (tagLength slashes inside - 1) cs
  rw [hcons] at hfound ⊢
  refine ⟨later, ?_⟩
  rw [piecesFrom, hfound]
  simp only [hlater, hdrop]

end

theorem Parts.escapeTags_eq {cs : List Char} {ps : List Part} (h : Parts cs ps) :
    escapeTags 0 cs = ps.flatMap Part.escaped := by
  induction h with
  | nil => rfl
  | char hnone _ ih => rw [escapeTags_of_tagAt?_eq_none hnone, ih]; rfl
  | tag hinside _ ih => rw [escapeTags_of_isInside hinside, ih]; rfl

/-! ## Escaped text holds no tag -/

theorem find?_slashes (slashes : Nat) (rest : List Char) :
    (List.replicate slashes backslash ++ rest).find? isBracket = rest.find? isBracket := by
  rw [List.find?_append, List.find?_replicate]
  simp [show isBracket backslash = false from rfl]

theorem find?_slashedTag (slashes : Nat) (inside : List Char) :
    (slashedTag slashes inside).find? isBracket = some '[' := by
  rw [slashedTag, find?_slashes]
  rfl

theorem slashedTag_eq_cons (slashes : Nat) (inside : List Char) :
    ∃ c rest, slashedTag slashes inside = c :: rest ∧ startsTag c = false := by
  cases slashes with
  | zero => exact ⟨_, _, rfl, rfl⟩
  | succ slashes => exact ⟨_, _, rfl, rfl⟩

theorem tagInside?_cons_eq_none {c : Char} {rest : List Char} :
    tagInside? ('[' :: c :: rest) = none ↔
      ¬ (startsTag c = true ∧ rest.find? isBracket = some ']') := by
  rw [tagInside?_cons]
  split <;> simp_all

namespace Parts

variable {cs : List Char} {ps : List Part}

theorem find?_escaped (h : Parts cs ps) :
    (ps.flatMap Part.escaped).find? isBracket = cs.find? isBracket := by
  induction h with
  | nil => rfl
  | @char c cs ps _ _ ih =>
      show (c :: ps.flatMap Part.escaped).find? isBracket = _
      rw [List.find?_cons, List.find?_cons, ih]
  | @tag slashes inside cs ps _ _ _ =>
      show (slashedTag (2 * slashes + 1) inside ++ ps.flatMap Part.escaped).find? isBracket = _
      rw [List.find?_append, List.find?_append, find?_slashedTag, find?_slashedTag]
      rfl

variable (slashes : Nat) (inside : List Char)

/-- A bracket that begins no tag begins none when what follows it is escaped and a tag is put
behind that. -/
theorem tagInside?_escaped (h : Parts cs ps) (hnone : tagInside? ('[' :: cs) = none) :
    tagInside? ('[' :: (ps.flatMap Part.escaped ++ slashedTag slashes inside)) = none := by
  cases h with
  | nil =>
      obtain ⟨c, rest, hcons, hstart⟩ := slashedTag_eq_cons slashes inside
      rw [List.flatMap_nil, List.nil_append, hcons, tagInside?_cons_eq_none]
      simp [hstart]
  | @char c cs ps _ hrest =>
      rw [tagInside?_cons_eq_none] at hnone
      rw [List.flatMap_cons, List.append_assoc]
      show tagInside? ('[' :: c :: (ps.flatMap Part.escaped ++ slashedTag slashes inside)) = none
      rw [tagInside?_cons_eq_none, List.find?_append, hrest.find?_escaped, find?_slashedTag]
      rintro ⟨hstart, hclose⟩
      cases hfound : cs.find? isBracket with
      | none => simp [hfound] at hclose
      | some found =>
          rw [hfound] at hclose
          exact hnone ⟨hstart, hfound.trans hclose⟩
  | @tag before other cs ps _ _ =>
      obtain ⟨c, rest, hcons, hstart⟩ := slashedTag_eq_cons (2 * before + 1) other
      have hescaped : (Part.tag before other).escaped = c :: rest := hcons
      rw [List.flatMap_cons, hescaped, List.cons_append, List.cons_append,
        tagInside?_cons_eq_none]
      simp [hstart]

/-- Where no tag begins, none begins when the text is escaped and a tag is put behind it.  The
text must not be all backslashes, which would stand before the tag behind it. -/
theorem tagAt?_escaped (h : Parts cs ps) (hnone : tagAt? cs = none)
    (hother : ∃ c ∈ cs, c ≠ backslash) :
    tagAt? (ps.flatMap Part.escaped ++ slashedTag slashes inside) = none := by
  induction h with
  | nil => simp at hother
  | @char c cs ps _ hrest ih =>
      show tagAt? (c :: (ps.flatMap Part.escaped ++ slashedTag slashes inside)) = none
      by_cases hc : c = backslash
      · subst hc
        rw [tagAt?_backslash, Option.map_eq_none_iff] at hnone ⊢
        apply ih hnone
        simpa using hother
      · rw [tagAt?_of_ne hc, Option.map_eq_none_iff] at hnone ⊢
        by_cases hbracket : c = '['
        · subst hbracket
          exact hrest.tagInside?_escaped slashes inside hnone
        · exact tagInside?_of_ne hbracket _
  | @tag before other cs ps hinside _ _ =>
      rw [tagAt?_of_isInside hinside] at hnone
      cases hnone

end Parts

end DocLedger.Console
