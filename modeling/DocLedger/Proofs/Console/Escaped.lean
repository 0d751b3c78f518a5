import DocLedger.Proofs.Console.Shown
import DocLedger.Proofs.Console.Tags

/-!
# Escaped text between two tags

Escaped text holds no tag, whatever it was before: what looked like one has a backslash in
front of it that makes it ordinary text, and nothing else becomes a tag by these
backslashes.  So escaped text between an opening tag and its closing tag is always shown.
Text without backslashes and without shortcodes is shown as it is.
-/

namespace DocLedger.Console

/-! ## The pieces of escaped text -/

def Piece.isText : Piece → Bool
  | plain _ => true
  | literal _ => true
  | tag .. => false

/-- What a piece is made from, a tag with its brackets. -/
def Piece.written : Piece → List Char
  | plain cs => cs
  | literal cs => cs
  | tag _ inside => slashedTag 0 inside

theorem isText_addPlain {pieces : List Piece} (h : ∀ piece ∈ pieces, piece.isText = true)
    (c : Char) : ∀ piece ∈ addPlain c pieces, piece.isText = true := by
  unfold addPlain
  split
  · next cs rest =>
    simp only [List.forall_mem_cons] at h ⊢
    exact ⟨rfl, h.2⟩
  · exact List.forall_mem_cons.mpr ⟨rfl, h⟩

theorem written_addPlain (c : Char) (pieces : List Piece) :
    (addPlain c pieces).flatMap Piece.written = c :: pieces.flatMap Piece.written := by
  unfold addPlain
  split <;> rfl

/-- A character joins the pieces in front of a tag. -/
theorem addPlain_append (c : Char) (front : List Piece) {tail : List Piece}
    (htail : ∀ cs, tail.head? ≠ some (.plain cs)) :
    addPlain c (front ++ tail) = addPlain c front ++ tail := by
  cases front with
  | cons piece front => cases piece <;> rfl
  | nil =>
      rw [List.nil_append]
      unfold addPlain
      split
      · next cs rest => exact absurd rfl (htail cs)
      · rfl

theorem head?_tagPieces (position slashes : Nat) (inside cs : List Char) :
    (tagPieces position slashes inside).head? ≠ some (.plain cs) := by
  unfold tagPieces
  by_cases hempty : (List.replicate (slashes / 2) backslash).isEmpty = true <;>
    by_cases hodd : (slashes % 2 == 1) = true <;> simp [hempty, hodd]

/-- What looks like a tag is text behind an odd number of backslashes, half of which are shown. -/
theorem tagPieces_odd (position slashes : Nat) (inside : List Char) :
    (∀ piece ∈ tagPieces position (2 * slashes + 1) inside, piece.isText = true) ∧
      (tagPieces position (2 * slashes + 1) inside).flatMap Piece.written =
        slashedTag slashes inside := by
  have hhalf : (2 * slashes + 1) / 2 = slashes := by omega
  have hodd : ((2 * slashes + 1) % 2 == 1) = true := by simp [Nat.add_mod]
  unfold tagPieces
  simp only [hhalf, hodd, if_true]
  cases slashes with
  | zero => exact ⟨by simp [Piece.isText], by simp [Piece.written, slashedTag]⟩
  | succ slashes =>
      exact ⟨by simp [Piece.isText, List.replicate_succ],
        by simp [Piece.written, slashedTag, List.replicate_succ]⟩

namespace Parts

variable {cs : List Char} {ps : List Part}

theorem escaped_of_backslashes (h : Parts cs ps) (hall : ∀ c ∈ cs, c = backslash) :
    ps.flatMap Part.escaped = List.replicate cs.length backslash := by
  induction h with
  | nil => rfl
  | char _ _ ih =>
      rw [List.forall_mem_cons] at hall
      rw [List.flatMap_cons, ih hall.2, Part.escaped, hall.1]
      rfl
  | tag _ _ _ =>
      have hbracket := hall '[' (by simp [slashedTag])
      cases hbracket

/-- Escaped text in front of a tag is read as text, but for backslashes at its end, which
stand before the tag.  The pieces of a text without backslashes are what it was before it was
escaped. -/
theorem piecesFrom_escaped (h : Parts cs ps) (slashes : Nat) {inside : List Char}
    (hinside : IsInside inside) (position : Nat) :
    ∃ front kept later,
      piecesFrom position 0 (ps.flatMap Part.escaped ++ slashedTag slashes inside) =
        front ++ tagPieces later (kept + slashes) inside ∧
      (∀ piece ∈ front, piece.isText = true) ∧
      (backslash ∉ cs → kept = 0 ∧ front.flatMap Piece.written = cs) := by
  have hlast (position slashes : Nat) :
      piecesFrom position 0 (slashedTag slashes inside) = tagPieces position slashes inside := by
    obtain ⟨later, hpieces⟩ := piecesFrom_of_isInside hinside slashes [] position
    simpa [piecesFrom] using hpieces
  induction h generalizing position with
  | nil => exact ⟨[], 0, position, by simpa using hlast position slashes, by simp, by simp⟩
  | @char c cs ps hnone hrest ih =>
      have hparts : Parts (c :: cs) (.char c :: ps) := .char hnone hrest
      by_cases hall : ∀ d ∈ c :: cs, d = backslash
      · refine ⟨[], (c :: cs).length, position, ?_, by simp, ?_⟩
        · rw [hparts.escaped_of_backslashes hall, List.nil_append, ← hlast, slashedTag,
            slashedTag, List.replicate_add, List.append_assoc]
        · intro hnot
          exact absurd (hall c (by simp) ▸ List.mem_cons_self) hnot
      · have hother : ∃ d ∈ c :: cs, d ≠ backslash := by
          simpa only [not_forall, exists_prop] using hall
        have hplain := hparts.tagAt?_escaped slashes inside hnone hother
        obtain ⟨front, kept, later, hpieces, htext, hwritten⟩ := ih (position + 1)
        refine ⟨addPlain c front, kept, later, ?_, isText_addPlain htext c, ?_⟩
        · rw [← addPlain_append c front (head?_tagPieces later _ inside), ← hpieces]
          exact piecesFrom_of_tagAt?_eq_none hplain position
        · intro hnot
          rw [List.mem_cons, not_or] at hnot
          obtain ⟨hkept, hfront⟩ := hwritten hnot.2
          exact ⟨hkept, by rw [written_addPlain, hfront]⟩
  | @tag before other cs ps hother hrest ih =>
      obtain ⟨next, hnext⟩ := piecesFrom_of_isInside hother (2 * before + 1)
        (ps.flatMap Part.escaped ++ slashedTag slashes inside) position
      obtain ⟨front, kept, later, hpieces, htext, hwritten⟩ := ih next
      obtain ⟨hshown, hsame⟩ := tagPieces_odd position before other
      refine ⟨tagPieces position (2 * before + 1) other ++ front, kept, later, ?_, ?_, ?_⟩
      · rw [List.append_assoc, ← hpieces, ← hnext]
        simp [Part.escaped]
      · simpa [List.mem_append, or_imp, forall_and] using ⟨hshown, htext⟩
      · intro hnot
        rw [List.mem_append, not_or] at hnot
        obtain ⟨hkept, hfront⟩ := hwritten hnot.2
        exact ⟨hkept, by rw [List.flatMap_append, hsame, hfront]⟩

theorem getLast?_escaped (h : Parts cs ps) :
    (ps.flatMap Part.escaped).getLast? = cs.getLast? := by
  induction h with
  | nil => rfl
  | @char c cs ps _ _ ih =>
      show (c :: ps.flatMap Part.escaped).getLast? = _
      rw [List.getLast?_cons, List.getLast?_cons, ih]
  | @tag before other cs ps _ _ ih =>
      have hclose (slashes : Nat) : (slashedTag slashes other).getLast? = some ']' := by
        simp [slashedTag, List.getLast?_cons]
      show (slashedTag (2 * before + 1) other ++ ps.flatMap Part.escaped).getLast? = _
      rw [List.getLast?_append, List.getLast?_append, hclose, hclose, ih]

end Parts

/-- A text is escaped part by part; at most one backslash is added at its end, and none to a
text without backslashes. -/
theorem exists_parts_escape (s : String) :
    ∃ ps added, Parts s.toList ps ∧
      (escape s).toList = ps.flatMap Part.escaped ++ List.replicate added backslash ∧
      (backslash ∉ s.toList → added = 0) := by
  obtain ⟨ps, hparts⟩ := exists_parts s.toList
  by_cases hlast : (ps.flatMap Part.escaped).getLast? = some backslash
  · have hmem : backslash ∈ s.toList := List.mem_of_getLast? (hparts.getLast?_escaped ▸ hlast)
    by_cases hbefore : (ps.flatMap Part.escaped).dropLast.getLast? = some backslash
    · refine ⟨ps, 0, hparts, ?_, fun _ => rfl⟩
      simp [escape, hparts.escapeTags_eq, hlast, hbefore]
    · refine ⟨ps, 1, hparts, ?_, fun hnot => absurd hmem hnot⟩
      simp [escape, hparts.escapeTags_eq, hlast, hbefore]
  · refine ⟨ps, 0, hparts, ?_, fun _ => rfl⟩
    simp [escape, hparts.escapeTags_eq, hlast]

/-! ## What is shown of escaped text -/

/-- A text that holds neither backslashes nor anything like a shortcode: behind each colon
stands a blank or nothing. -/
structure Verbatim (cs : List Char) : Prop where
  noBackslash : backslash ∉ cs
  spaced : ∀ front rest, cs = front ++ ':' :: rest → ∀ c ∈ rest.head?, c = ' '

theorem replaceCodes_of_spaced {cs : List Char}
    (h : ∀ front rest, cs = front ++ ':' :: rest → ∀ c ∈ rest.head?, c = ' ') :
    replaceCodes 0 cs = cs := by
  induction cs with
  | nil => rfl
  | cons c cs ih =>
      have hrest := ih fun front rest heq => h (c :: front) rest (by rw [heq]; rfl)
      by_cases hcolon : c = ':'
      · subst hcolon
        cases cs with
        | nil => rfl
        | cons d cs =>
            obtain rfl := h [] (d :: cs) rfl d rfl
            have hblank := replaceCodes_append_of_no_colon (show ':' ∉ [' '] by decide) cs
            rw [List.singleton_append, hrest] at hblank
            rw [replaceCodes_colon_blank]
            exact congrArg (':' :: ·) hblank.symm
      · have hnot : ':' ∉ [c] := by simpa using fun heq => hcolon heq.symm
        have hfirst := replaceCodes_append_of_no_colon hnot cs
        rwa [hrest] at hfirst

theorem unescaped_of_no_backslash {cs : List Char} (h : backslash ∉ cs) : unescaped cs = cs := by
  induction cs with
  | nil => rfl
  | cons c cs ih =>
      rw [List.mem_cons, not_or] at h
      have hc : (c == backslash) = false := beq_false_of_ne fun heq => h.1 heq.symm
      rw [unescaped, hc, Bool.false_and, if_neg Bool.false_ne_true, ih h.2]

namespace Verbatim

variable {cs : List Char}

theorem shownText_eq (h : Verbatim cs) : shownText cs = cs := by
  rw [shownText, unescaped_of_no_backslash h.noBackslash, withPictograms,
    replaceCodes_of_spaced h.spaced]

theorem of_infix {whole : List Char} (h : Verbatim whole) (hwithin : cs <:+: whole) :
    Verbatim cs := by
  obtain ⟨before, after, rfl⟩ := hwithin
  constructor
  · intro hmem
    exact h.noBackslash (by simp [hmem])
  · intro front rest heq c hc
    apply h.spaced (before ++ front) (rest ++ after) (by simp [heq])
    cases rest with
    | nil => cases hc
    | cons d rest => exact hc

/-- A text is shown as it is, piece by piece. -/
theorem flatMap_shownText {pieces : List Piece}
    (h : Verbatim (pieces.flatMap Piece.written)) :
    (pieces.flatMap fun piece => shownText piece.written) = pieces.flatMap Piece.written := by
  have heach (piece : Piece) (hmem : piece ∈ pieces) :
      shownText piece.written = piece.written := by
    obtain ⟨before, after, hpieces⟩ := List.append_of_mem hmem
    apply (h.of_infix _).shownText_eq
    exact ⟨before.flatMap Piece.written, after.flatMap Piece.written, by simp [hpieces]⟩
  exact List.flatMap_congr heach

end Verbatim

namespace Marked

theorem ofPieces_of_isText (opened : List OpenTag) {front : List Piece}
    (h : ∀ piece ∈ front, piece.isText = true) (rest : List Piece) :
    ofPieces opened (front ++ rest) =
      (ofPieces opened rest).map (after (front.flatMap fun piece => shownText piece.written)) := by
  induction front with
  | nil => cases hrest : ofPieces opened rest <;> simp [hrest, Except.map, after]
  | cons piece front ih =>
      rw [List.forall_mem_cons] at h
      cases piece with
      | tag position inside => cases h.1
      | plain cs =>
          rw [List.cons_append, ofPieces, ih h.2]
          cases ofPieces opened rest <;> simp [Except.map, after, Piece.written]
      | literal cs =>
          rw [List.cons_append, ofPieces, ih h.2]
          cases ofPieces opened rest <;> simp [Except.map, after, Piece.written]

end Marked

namespace StyleName

variable {word : String}

/-- A closing tag behind backslashes closes the style, or is text. -/
theorem ofPieces_tagPieces (h : StyleName word) (position slashes : Nat) :
    ∃ text, Marked.ofPieces [⟨word, none⟩] (tagPieces position slashes ('/' :: word.toList)) =
      .ok ⟨text, []⟩ ∧ (slashes = 0 → text = []) := by
  have hclosing (place : Nat) :
      Marked.ofPieces [⟨word, none⟩] [.tag place ('/' :: word.toList)] = .ok ⟨[], []⟩ :=
    Marked.ofPieces_of_closing (by rw [h.tagName_slash]; rfl) (h.applyTag_closes place []) rfl
  have hlast : ∃ text, Marked.ofPieces [⟨word, none⟩]
      (if slashes % 2 == 1 then [.literal ('[' :: '/' :: word.toList ++ [']'])]
        else [.tag (position + slashes) ('/' :: word.toList)]) = .ok ⟨text, []⟩ ∧
      (slashes = 0 → text = []) := by
    by_cases hodd : (slashes % 2 == 1) = true
    · rw [if_pos hodd]
      refine ⟨_, rfl, ?_⟩
      rintro rfl
      cases hodd
    · rw [if_neg hodd]
      exact ⟨[], hclosing _, fun _ => rfl⟩
  obtain ⟨text, hmarked, hnone⟩ := hlast
  have hfront : ∀ piece ∈ (if (List.replicate (slashes / 2) backslash).isEmpty then []
      else [Piece.literal (List.replicate (slashes / 2) backslash)]), piece.isText = true := by
    intro piece hmem
    split at hmem
    · cases hmem
    · rw [List.mem_singleton.mp hmem]
      rfl
  unfold tagPieces
  rw [Marked.ofPieces_of_isText _ hfront, hmarked]
  refine ⟨_, rfl, ?_⟩
  rintro rfl
  simpa using hnone rfl

/-- Escaped text between an opening tag and its closing tag is always shown.  A text without
backslashes and shortcodes is shown as it was before it was escaped. -/
theorem render_escape (h : StyleName word) (hopen : IsInside word.toList)
    (hclose : IsInside ('/' :: word.toList)) (s : String) {markup : String}
    (hmarkup : markup.toList = slashedTag 0 word.toList ++
      ((escape s).toList ++ slashedTag 0 ('/' :: word.toList))) :
    ∃ text, render markup = .ok text ∧ (Verbatim s.toList → text = s) := by
  obtain ⟨ps, added, hparts, hescape, hadded⟩ := exists_parts_escape s
  have hlast : List.replicate added backslash ++ slashedTag 0 ('/' :: word.toList) =
      slashedTag added ('/' :: word.toList) := rfl
  rw [hescape, List.append_assoc, hlast] at hmarkup
  obtain ⟨next, hfirst⟩ := piecesFrom_of_isInside hopen 0
    (ps.flatMap Part.escaped ++ slashedTag added ('/' :: word.toList)) 0
  obtain ⟨front, kept, later, hrest, htext, hwritten⟩ :=
    hparts.piecesFrom_escaped added hclose next
  have hpieces : pieces markup.toList = .tag 0 word.toList ::
      (front ++ tagPieces later (kept + added) ('/' :: word.toList)) := by
    rw [pieces, hmarkup, hfirst, hrest]
    rfl
  obtain ⟨ending, hending, hnone⟩ := h.ofPieces_tagPieces later (kept + added)
  have hmarks : markup.toList.contains '[' = true := by
    rw [hmarkup]
    rfl
  have hmarked : Marked.ofString markup =
      .ok ⟨(front.flatMap fun piece => shownText piece.written) ++ ending, [word]⟩ := by
    have hbody := Marked.ofPieces_of_isText [⟨word, none⟩] htext
      (tagPieces later (kept + added) ('/' :: word.toList))
    rw [hending] at hbody
    have hall := Marked.ofPieces_of_opening (by rw [h.tagName_eq]; exact h.noSlash)
      (h.applyTag_opens 0 []) hbody
    simp only [Marked.ofString, hmarks, if_true, hpieces, hall]
    rfl
  obtain ⟨style, hstyle⟩ := h.readable
  refine ⟨_, (render_of_ofString hmarked).trans (Marked.shown_of_ofName hstyle _), ?_⟩
  intro hverbatim
  obtain ⟨hkept, hsame⟩ := hwritten hverbatim.noBackslash
  rw [hnone (by rw [hkept, hadded hverbatim.noBackslash]), List.append_nil,
    Verbatim.flatMap_shownText (by rw [hsame]; exact hverbatim), hsame, String.ofList_toList]

end StyleName

end DocLedger.Console
