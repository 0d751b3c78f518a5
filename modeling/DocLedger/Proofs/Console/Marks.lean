import DocLedger.Proofs.Console.Codes
import DocLedger.Proofs.Console.Escaped

/-!
# Marks in a text

A text is shown as it is written just in case it holds no marks: no tag, no bracket behind
a backslash, and no shortcode that names a pictogram.  Whatever else becomes of a text with
marks, some of the characters by which marks are written are lost.
-/

namespace DocLedger.Console

/-- A text holds what looks like a tag. -/
def HoldsTag (cs : List Char) : Prop :=
  ∃ front inside rest, IsInside inside ∧ cs = front ++ '[' :: (inside ++ ']' :: rest)

/-- A text holds a bracket behind a backslash. -/
def HoldsEscape (cs : List Char) : Prop := ∃ front rest, cs = front ++ backslash :: '[' :: rest

/-- A text without marks. -/
structure MarkFree (cs : List Char) : Prop where
  noTag : ¬ HoldsTag cs
  noEscape : ¬ HoldsEscape cs
  noPictogram : PictogramFree cs

/-- Whether a character is one by which tags are written and escaped. -/
def isTagMark (c : Char) : Bool := c == '[' || c == backslash

/-- What is shown of a text has lost colons, or brackets and backslashes. -/
def Loses (shown cs : List Char) : Prop :=
  shown.count ':' < cs.count ':' ∨ shown.countP isTagMark < cs.countP isTagMark

theorem HoldsTag.cons (c : Char) {cs : List Char} (h : HoldsTag cs) : HoldsTag (c :: cs) := by
  obtain ⟨front, inside, rest, hinside, rfl⟩ := h
  exact ⟨c :: front, inside, rest, hinside, rfl⟩

theorem HoldsEscape.cons (c : Char) {cs : List Char} (h : HoldsEscape cs) :
    HoldsEscape (c :: cs) := by
  obtain ⟨front, rest, rfl⟩ := h
  exact ⟨c :: front, rest, rfl⟩

theorem bracket_mem_of_holdsTag {cs : List Char} (h : HoldsTag cs) : '[' ∈ cs := by
  obtain ⟨front, inside, rest, -, rfl⟩ := h
  simp

theorem bracket_mem_of_holdsEscape {cs : List Char} (h : HoldsEscape cs) : '[' ∈ cs := by
  obtain ⟨front, rest, rfl⟩ := h
  simp

theorem markFree_nil : MarkFree [] := by
  constructor
  · intro htag
    exact List.not_mem_nil (bracket_mem_of_holdsTag htag)
  · intro hescape
    exact List.not_mem_nil (bracket_mem_of_holdsEscape hescape)
  · exact .nil

/-! ## Escapes -/

theorem unescaped_sublist (cs : List Char) : (unescaped cs).Sublist cs := by
  induction cs with
  | nil => exact .refl []
  | cons c cs ih =>
      rw [unescaped]
      split
      · exact ih.cons c
      · exact ih.cons_cons c

theorem unescaped_of_not_holdsEscape {cs : List Char} (h : ¬ HoldsEscape cs) :
    unescaped cs = cs := by
  induction cs with
  | nil => rfl
  | cons c cs ih =>
      have hfirst : (c == backslash && cs.head? == some '[') = false := by
        by_contra hboth
        rw [Bool.not_eq_false, Bool.and_eq_true, beq_iff_eq, beq_iff_eq] at hboth
        obtain ⟨rest, rfl⟩ := List.head?_eq_some_iff.mp hboth.2
        exact h ⟨[], rest, by rw [hboth.1]; rfl⟩
      rw [unescaped, hfirst, ih fun hrest => h (hrest.cons c)]
      rfl

/-- A backslash in front of a bracket is lost. -/
theorem countP_unescaped_lt {cs : List Char} (h : HoldsEscape cs) :
    (unescaped cs).countP isTagMark < cs.countP isTagMark := by
  obtain ⟨front, rest, rfl⟩ := h
  have hhere : (unescaped (backslash :: '[' :: rest)).countP isTagMark <
      (backslash :: '[' :: rest).countP isTagMark := by
    have hle : (unescaped ('[' :: rest)).countP isTagMark ≤ ('[' :: rest).countP isTagMark :=
      (unescaped_sublist ('[' :: rest)).countP_le
    have hboth : (backslash == backslash && ('[' :: rest).head? == some '[') = true := rfl
    have hmark : isTagMark backslash = true := rfl
    rw [unescaped, if_pos hboth, List.countP_cons_of_pos hmark]
    omega
  induction front with
  | nil => exact hhere
  | cons c front ih =>
      rw [List.cons_append, unescaped]
      split
      · rw [List.countP_cons]
        omega
      · rw [List.countP_cons, List.countP_cons]
        omega

/-! ## What is shown of a piece -/

/-- The text of a piece; a tag has none. -/
def Piece.text : Piece → List Char
  | plain cs => cs
  | literal cs => cs
  | tag .. => []

def visible (pieces : List Piece) : List Char := pieces.flatMap fun piece => shownText piece.text

theorem count_shownText_le (cs : List Char) : (shownText cs).count ':' ≤ cs.count ':' :=
  (count_withPictograms_le (unescaped cs)).trans ((unescaped_sublist cs).count_le ':')

/-- Apart from its escapes a text is shown as it is, or it loses colons. -/
theorem shownText_cases (cs : List Char) :
    shownText cs = unescaped cs ∨ (shownText cs).count ':' < cs.count ':' := by
  rcases pictogramFree_or_count_lt (unescaped cs) with hfree | hless
  · exact .inl hfree.withPictograms_eq
  · exact .inr (hless.trans_le ((unescaped_sublist cs).count_le ':'))

theorem count_visible_le (pieces : List Piece) :
    (visible pieces).count ':' ≤ (pieces.flatMap Piece.text).count ':' := by
  induction pieces with
  | nil => exact Nat.le_refl 0
  | cons piece pieces ih =>
      have hfirst := count_shownText_le piece.text
      rw [visible] at ih ⊢
      rw [List.flatMap_cons, List.flatMap_cons, List.count_append, List.count_append]
      omega

theorem visible_cases (pieces : List Piece) :
    (visible pieces).Sublist (pieces.flatMap Piece.text) ∨
      (visible pieces).count ':' < (pieces.flatMap Piece.text).count ':' := by
  induction pieces with
  | nil => exact .inl (.refl [])
  | cons piece pieces ih =>
      have hle := count_visible_le pieces
      have hfirst := count_shownText_le piece.text
      have hcons : visible (piece :: pieces) = shownText piece.text ++ visible pieces := rfl
      rw [hcons, List.flatMap_cons]
      rcases shownText_cases piece.text with hsame | hless
      · rcases ih with hsublist | hless
        · left
          rw [hsame]
          exact (unescaped_sublist piece.text).append hsublist
        · right
          rw [List.count_append, List.count_append]
          omega
      · right
        rw [List.count_append, List.count_append]
        omega

/-! ## Tags are lost -/

theorem text_addPlain (c : Char) (pieces : List Piece) :
    (addPlain c pieces).flatMap Piece.text = c :: pieces.flatMap Piece.text := by
  unfold addPlain
  split <;> rfl

theorem countP_slashedTag (slashes : Nat) (inside : List Char) :
    (slashedTag slashes inside).countP isTagMark = slashes + (inside.countP isTagMark + 1) := by
  have hslash : isTagMark backslash = true := rfl
  have hopen : isTagMark '[' = true := rfl
  have hclose : isTagMark ']' = false := rfl
  simp [slashedTag, List.countP_append, List.countP_replicate, hslash, hopen, hclose]

/-- Of a tag behind backslashes either the tag is lost, or some of the backslashes are. -/
theorem text_tagPieces (position slashes : Nat) (inside : List Char) :
    ((tagPieces position slashes inside).flatMap Piece.text).Sublist (slashedTag slashes inside) ∧
      ((tagPieces position slashes inside).flatMap Piece.text).countP isTagMark <
        (slashedTag slashes inside).countP isTagMark := by
  have hslashes : (if (List.replicate (slashes / 2) backslash).isEmpty then []
      else [Piece.literal (List.replicate (slashes / 2) backslash)]).flatMap Piece.text =
        List.replicate (slashes / 2) backslash := by
    split
    · next hempty => rw [List.isEmpty_iff.mp hempty]; rfl
    · exact List.append_nil _
  have hhalf : (List.replicate (slashes / 2) backslash).Sublist
      (List.replicate slashes backslash) :=
    List.sublist_replicate_iff.mpr ⟨_, Nat.div_le_self slashes 2, rfl⟩
  rw [tagPieces, List.flatMap_append, hslashes]
  by_cases hodd : (slashes % 2 == 1) = true
  · have htext : [Piece.literal ('[' :: inside ++ [']'])].flatMap Piece.text =
        slashedTag 0 inside := by simp [Piece.text, slashedTag]
    have hlong : List.replicate (slashes / 2) backslash ++ slashedTag 0 inside =
        slashedTag (slashes / 2) inside := rfl
    rw [if_pos hodd, htext, hlong, countP_slashedTag, countP_slashedTag]
    refine ⟨hhalf.append (.refl _), ?_⟩
    rw [beq_iff_eq] at hodd
    omega
  · have htext : [Piece.tag (position + slashes) inside].flatMap Piece.text = [] := rfl
    rw [if_neg hodd, htext, List.append_nil, countP_slashedTag]
    refine ⟨hhalf.trans (List.sublist_append_left _ _), ?_⟩
    have hcount : (List.replicate (slashes / 2) backslash).countP isTagMark = slashes / 2 := by
      simp [List.countP_replicate, show isTagMark backslash = true from rfl]
    rw [hcount]
    omega

namespace Parts

variable {cs : List Char} {ps : List Part}

theorem text_sublist (h : Parts cs ps) (position : Nat) :
    ((piecesFrom position 0 cs).flatMap Piece.text).Sublist cs := by
  induction h generalizing position with
  | nil => exact .refl []
  | @char c cs ps hnone _ ih =>
      rw [piecesFrom_of_tagAt?_eq_none hnone, text_addPlain]
      exact (ih (position + 1)).cons_cons c
  | @tag slashes inside cs ps hinside _ ih =>
      obtain ⟨later, hpieces⟩ := piecesFrom_of_isInside hinside slashes cs position
      rw [hpieces, List.flatMap_append]
      exact (text_tagPieces position slashes inside).1.append (ih later)

theorem exists_tag (h : Parts cs ps) (htag : HoldsTag cs) :
    ∃ slashes inside, Part.tag slashes inside ∈ ps := by
  induction h with
  | nil =>
      obtain ⟨front, inside, rest, -, hcs⟩ := htag
      simp at hcs
  | @char c cs ps hnone _ ih =>
      obtain ⟨front, inside, rest, hinside, hcs⟩ := htag
      cases front with
      | nil =>
          have hfound := tagAt?_of_isInside hinside 0 rest
          have hbare : slashedTag 0 inside ++ rest = c :: cs := by
            rw [hcs]
            simp [slashedTag]
          rw [hbare, hnone] at hfound
          cases hfound
      | cons d front =>
          obtain ⟨-, hcs⟩ := List.cons.inj hcs
          obtain ⟨slashes, found, hmem⟩ := ih ⟨front, inside, rest, hinside, hcs⟩
          exact ⟨slashes, found, List.mem_cons_of_mem _ hmem⟩
  | tag _ _ _ => exact ⟨_, _, List.mem_cons_self⟩

theorem countP_text_lt (h : Parts cs ps) {slashes : Nat} {inside : List Char}
    (htag : Part.tag slashes inside ∈ ps) (position : Nat) :
    ((piecesFrom position 0 cs).flatMap Piece.text).countP isTagMark < cs.countP isTagMark := by
  induction h generalizing position with
  | nil => cases htag
  | @char c cs ps hnone _ ih =>
      have hrest := ih (by simpa using htag) (position + 1)
      rw [piecesFrom_of_tagAt?_eq_none hnone, text_addPlain, List.countP_cons, List.countP_cons]
      omega
  | @tag before other cs ps hinside hrest _ =>
      obtain ⟨later, hpieces⟩ := piecesFrom_of_isInside hinside before cs position
      have hfirst := (text_tagPieces position before other).2
      have hothers := (hrest.text_sublist later).countP_le (p := isTagMark)
      rw [hpieces, List.flatMap_append, List.countP_append, List.countP_append]
      omega

end Parts

theorem tagAt?_of_not_holdsTag {cs : List Char} (h : ¬ HoldsTag cs) : tagAt? cs = none := by
  rw [Option.eq_none_iff_forall_ne_some]
  rintro ⟨slashes, inside⟩ hfound
  obtain ⟨hinside, rest, rfl⟩ := tagAt?_eq_some hfound
  exact h ⟨List.replicate slashes backslash, inside, rest, hinside, by simp [slashedTag]⟩

theorem piecesFrom_of_not_holdsTag {c : Char} {cs : List Char} (h : ¬ HoldsTag (c :: cs))
    (position : Nat) : piecesFrom position 0 (c :: cs) = [.plain (c :: cs)] := by
  rw [piecesFrom_of_tagAt?_eq_none (tagAt?_of_not_holdsTag h)]
  induction cs generalizing position c with
  | nil => rfl
  | cons d cs ih =>
      have hrest : ¬ HoldsTag (d :: cs) := fun htag => h (htag.cons c)
      rw [piecesFrom_of_tagAt?_eq_none (tagAt?_of_not_holdsTag hrest), ih hrest]
      rfl

theorem visible_of_not_holdsTag {cs : List Char} (h : ¬ HoldsTag cs) :
    visible (pieces cs) = shownText cs := by
  cases cs with
  | nil => rfl
  | cons c cs =>
      rw [pieces, piecesFrom_of_not_holdsTag h]
      exact List.append_nil _

/-- A text with marks loses some of the characters by which they are written. -/
theorem loses_visible {cs : List Char} (h : ¬ MarkFree cs) : Loses (visible (pieces cs)) cs := by
  by_cases htag : HoldsTag cs
  · obtain ⟨ps, hparts⟩ := exists_parts cs
    obtain ⟨slashes, inside, hmem⟩ := hparts.exists_tag htag
    have hless := hparts.countP_text_lt hmem 0
    rcases visible_cases (pieces cs) with hsublist | hcolons
    · exact .inr ((hsublist.countP_le (p := isTagMark)).trans_lt hless)
    · exact .inl (hcolons.trans_le ((hparts.text_sublist 0).count_le ':'))
  rw [visible_of_not_holdsTag htag]
  by_cases hescape : HoldsEscape cs
  · rcases shownText_cases cs with hsame | hcolons
    · right
      rw [hsame]
      exact countP_unescaped_lt hescape
    · exact .inl hcolons
  · rw [shownText, unescaped_of_not_holdsEscape hescape]
    rcases pictogramFree_or_count_lt cs with hfree | hless
    · exact absurd ⟨htag, hescape, hfree⟩ h
    · exact .inl hless

/-! ## What is shown of a text -/

/-- Marked text that can be read is what is visible of it. -/
theorem Marked.text_of_ofPieces {opened : List OpenTag} {pieces : List Piece} {m : Marked}
    (h : ofPieces opened pieces = .ok m) : m.text = visible pieces := by
  induction pieces generalizing opened m with
  | nil =>
      cases h
      rfl
  | cons piece pieces ih =>
      have htext {cs : List Char}
          (h : (ofPieces opened pieces).map (after (shownText cs)) = .ok m) :
          m.text = shownText cs ++ visible pieces := by
        cases hrest : ofPieces opened pieces with
        | error fault =>
            rw [hrest] at h
            cases h
        | ok rest =>
            rw [hrest] at h
            cases h
            rw [← ih hrest]
            rfl
      cases piece with
      | plain cs => exact htext h
      | literal cs => exact htext h
      | tag position inside =>
          rw [ofPieces] at h
          cases happly : applyTag position inside opened with
          | error fault =>
              rw [happly] at h
              cases h
          | ok next =>
              cases hrest : ofPieces next pieces with
              | error fault =>
                  simp only [happly, hrest, bind, Except.bind] at h
                  cases h
              | ok rest =>
                  simp only [happly, hrest, bind, Except.bind] at h
                  have htag : m.text = rest.text := by
                    rw [← Except.ok.inj h]
                    split <;> rfl
                  rw [htag, ih hrest]
                  rfl

theorem Marked.text_of_ofString {markup : String} {m : Marked} (h : ofString markup = .ok m) :
    m.text = visible (pieces markup.toList) := by
  simp only [ofString] at h
  by_cases hbracket : '[' ∈ markup.toList
  · rw [if_pos (by simpa using hbracket)] at h
    exact text_of_ofPieces h
  · rw [if_neg (by simpa using hbracket)] at h
    cases h
    rw [visible_of_not_holdsTag fun htag => hbracket (bracket_mem_of_holdsTag htag), shownText,
      unescaped_of_not_holdsEscape fun hescape => hbracket (bracket_mem_of_holdsEscape hescape)]

theorem toList_of_render {markup text : String} (h : render markup = .ok text) :
    text.toList = visible (pieces markup.toList) := by
  rw [render] at h
  cases hread : Marked.ofString markup with
  | error fault =>
      rw [hread] at h
      cases h
  | ok m =>
      rw [hread] at h
      have hshown : (do
          let _ ← m.styles.mapM Style.ofName
          return String.ofList m.text : Except Fault String) = .ok text := h
      rw [← Marked.text_of_ofString hread]
      cases hstyles : m.styles.mapM Style.ofName with
      | error fault =>
          rw [hstyles] at hshown
          cases hshown
      | ok styles =>
          rw [hstyles] at hshown
          cases hshown
          exact String.toList_ofList

theorem render_of_markFree {markup : String} (h : MarkFree markup.toList) :
    render markup = .ok markup := by
  by_cases hbracket : '[' ∈ markup.toList
  · have hshown : shownText markup.toList = markup.toList := by
      rw [shownText, unescaped_of_not_holdsEscape h.noEscape, h.noPictogram.withPictograms_eq]
    obtain ⟨c, cs, hcs⟩ := List.exists_cons_of_ne_nil (List.ne_nil_of_mem hbracket)
    have hpieces : pieces markup.toList = [.plain markup.toList] := by
      have hone := h.noTag
      rw [hcs] at hone ⊢
      exact piecesFrom_of_not_holdsTag hone 0
    have hmarked : Marked.ofString markup = .ok ⟨markup.toList, []⟩ := by
      have hcontains : markup.toList.contains '[' = true := by simpa using hbracket
      simp only [Marked.ofString, hcontains, if_true, hpieces, Marked.ofPieces, hshown]
      simp [Except.map, Marked.after]
    rw [render_of_ofString hmarked]
    exact congrArg Except.ok String.ofList_toList
  · rw [render_of_no_bracket hbracket, h.noPictogram.withPictograms_eq, String.ofList_toList]

/-- A text with marks cannot be shown, or is shown with some of their characters lost. -/
theorem loses_of_render {markup text : String} (h : ¬ MarkFree markup.toList)
    (hrender : render markup = .ok text) : Loses text.toList markup.toList := by
  rw [toList_of_render hrender]
  exact loses_visible h

end DocLedger.Console
