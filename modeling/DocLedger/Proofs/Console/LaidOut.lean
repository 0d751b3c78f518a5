import DocLedger.Proofs.Console.Codes
import DocLedger.Proofs.Console.Shown
import Mathlib.Data.List.Basic

/-!
# Texts laid out in lines

Whatever is done to a text to lay it out, it loses characters and gains blanks, and nothing
else: tabulators give way to blanks, words are put into lines in their order, and lines are cut
off and filled up with blanks.  A listing, whose printable lines all fit, keeps its lines.
-/

namespace DocLedger.Console

/-! ## Nothing but blanks is added -/

/-- The characters of a text that are no blanks. -/
def inked (cs : List Char) : List Char := cs.filter (· != ' ')

/-- A text has lost characters of another one, and gained blanks. -/
def Thins (thin cs : List Char) : Prop := (inked thin).Sublist (inked cs)

namespace Thins

variable {thin cs : List Char}

theorem of_sublist (h : thin.Sublist cs) : Thins thin cs := h.filter _

theorem refl (cs : List Char) : Thins cs cs := of_sublist (.refl cs)

theorem trans {thinner : List Char} (h : Thins thinner thin) (h' : Thins thin cs) :
    Thins thinner cs := List.Sublist.trans h h'

theorem append {thin' cs' : List Char} (h : Thins thin cs) (h' : Thins thin' cs') :
    Thins (thin ++ thin') (cs ++ cs') := by
  rw [Thins, inked, inked, List.filter_append, List.filter_append]
  exact List.Sublist.append h h'

theorem blanks (n : Nat) (cs : List Char) : Thins (List.replicate n ' ') cs := by
  have hnone : inked (List.replicate n ' ') = [] := by simp [inked]
  rw [Thins, hnone]
  exact List.nil_sublist _

/-- What is done to each line is done to all of them. -/
theorem flatMap {f : List Char → List (List Char)} (h : ∀ line, Thins (f line).flatten line)
    (lines : List (List Char)) : Thins (lines.flatMap f).flatten lines.flatten := by
  induction lines with
  | nil => exact refl []
  | cons line lines ih =>
      rw [List.flatMap_cons, List.flatten_append, List.flatten_cons]
      exact (h line).append ih

/-- No character but the blank becomes more frequent. -/
theorem countP_le (h : Thins thin cs) {kind : Char → Bool} (hkind : kind ' ' = false) :
    thin.countP kind ≤ cs.countP kind := by
  have hinked (cs : List Char) : (inked cs).countP kind = cs.countP kind := by
    rw [inked, List.countP_filter]
    congr 1
    funext c
    by_cases hc : c = ' '
    · rw [hc, hkind, Bool.false_and]
    · rw [bne_iff_ne.mpr hc, Bool.and_true]
  rw [← hinked thin, ← hinked cs]
  exact List.Sublist.countP_le h

end Thins

/-! ## Words -/

theorem flatten_addToRuns (c : Char) (runs : List (List Char)) :
    (addToRuns c runs).flatten = c :: runs.flatten := by
  unfold addToRuns
  split
  · split <;> rfl
  · rfl

theorem flatten_lineWords (cs : List Char) : (lineWords cs).flatten = cs := by
  have hruns : (cs.foldr addToRuns []).flatten = cs := by
    induction cs with
    | nil => rfl
    | cons c cs ih => rw [List.foldr_cons, flatten_addToRuns, ih]
  unfold lineWords
  split
  · next first second rest heq =>
    rw [heq] at hruns
    split
    · rw [← hruns, List.flatten_cons, List.flatten_cons, List.flatten_cons, List.append_assoc]
    · exact hruns
  · exact hruns

theorem flatten_addToFirst (c : Char) (pieces : List (List Char)) :
    (addToFirst c pieces).flatten = c :: pieces.flatten := by
  cases pieces <;> rfl

theorem flatten_chop (width used : Nat) (word : List Char) :
    (chop width used word).flatten = word := by
  induction word generalizing used with
  | nil => rfl
  | cons c word ih =>
      rw [chop]
      split
      · rw [List.flatten_cons, List.nil_append, flatten_addToFirst, ih]
      · rw [flatten_addToFirst, ih]

theorem flatten_dropLast_append (pieces : List (List Char)) :
    pieces.dropLast.flatten ++ pieces.getLastD [] = pieces.flatten := by
  rcases pieces.eq_nil_or_concat with rfl | ⟨front, last, rfl⟩
  · rfl
  · simp

theorem flatten_placeWords (width : Nat) (o : Overflow) (line : List Char) (used : Nat)
    (words : List (List Char)) :
    (placeWords width o line used words).flatten = line ++ words.flatten := by
  induction words generalizing line used with
  | nil =>
      rw [placeWords, List.flatten_singleton, List.flatten_nil, List.append_nil]
  | cons word words ih =>
      have hbefore : (if line.isEmpty then [] else [line]).flatten = line := by
        cases line with
        | nil => rfl
        | cons c line => exact List.append_nil _
      rw [placeWords.eq_def]
      simp only [List.flatten_cons]
      split
      · rw [ih, List.append_assoc]
      · split
        · cases o with
          | cuts => rw [List.flatten_append, hbefore, ih]
          | breaks =>
              have hchop := flatten_dropLast_append (chop width 0 word)
              rw [flatten_chop] at hchop
              simp only [List.flatten_append, hbefore, ih]
              rw [List.append_assoc, ← List.append_assoc (chop width 0 word).dropLast.flatten,
                hchop]
        · split
          · rw [List.flatten_cons, ih]
          · rw [ih, List.append_assoc]

/-! ## Lines -/

theorem thins_expandTabs (column : Nat) (cs : List Char) : Thins (expandTabs column cs) cs := by
  induction cs generalizing column with
  | nil => exact .refl []
  | cons c cs ih =>
      rw [expandTabs]
      split
      · exact (Thins.blanks _ [c]).append (ih _)
      · exact (Thins.refl [c]).append (ih _)

theorem halvedFront_isPrefix (width : Nat) (line : List Char) (steps low high : Nat) :
    halvedFront width line steps low high <+: line := by
  induction steps generalizing low high with
  | zero => exact List.take_prefix _ _
  | succ steps ih =>
      rw [halvedFront]
      split
      · exact (List.dropLast_prefix _).trans (List.take_prefix _ _)
      · split
        · exact List.take_prefix _ _
        · split
          · exact ih _ _
          · exact ih _ _

theorem front_isPrefix (width : Nat) (line : List Char) : front width line <+: line := by
  rw [front]
  split
  · exact List.nil_prefix
  · exact halvedFront_isPrefix width line _ _ _

theorem thins_truncated (width : Nat) (line : List Char) :
    Thins (truncated width .breaks line) line := by
  rw [truncated]
  split
  · exact .refl line
  · have hfront : Thins (front width line) line := .of_sublist (front_isPrefix width line).sublist
    have hfilled := hfront.append (.blanks (width - Text.width (front width line)) [])
    rwa [List.append_nil] at hfilled

theorem thins_wrapLine (width : Nat) (line : List Char) :
    Thins (wrapLine width .breaks line).flatten line := by
  have hline : Thins (if line.contains '\t' then expandTabs 0 line else line) line := by
    split
    · exact thins_expandTabs 0 line
    · exact .refl line
  have hends (l : List Char) : Thins [truncated width .breaks (withoutExcess width l)].flatten l := by
    rw [List.flatten_singleton]
    exact (thins_truncated width _).trans (.of_sublist (List.take_sublist _ _))
  rw [wrapLine]
  generalize (if line.contains '\t' then expandTabs 0 line else line) = expanded at hline
  have hlines : (if Text.width expanded ≤ width then [expanded]
      else placeWords width .breaks [] 0 (lineWords expanded)).flatten = expanded := by
    split
    · exact List.flatten_singleton
    · rw [flatten_placeWords, flatten_lineWords, List.nil_append]
  have hall := Thins.flatMap hends (if Text.width expanded ≤ width then [expanded]
      else placeWords width .breaks [] 0 (lineWords expanded))
  rw [hlines, ← List.map_eq_flatMap] at hall
  exact hall.trans hline

/-! ## The lines of a text -/

/-- The pieces of a list, one behind another, are what is left of it without the marks. -/
theorem flatten_splitOn_sublist (mark : Char) (cs : List Char) :
    (cs.splitOn mark).flatten.Sublist cs := by
  induction cs with
  | nil => exact List.nil_sublist _
  | cons c cs ih =>
      rw [List.splitOn_cons_eq_if_modifyHead]
      split
      · exact ih.cons c
      · obtain ⟨first, rest, hsplit⟩ := List.exists_cons_of_ne_nil (List.splitOn_ne_nil mark cs)
        rw [hsplit, List.flatten_cons] at ih
        rw [hsplit, List.modifyHead_cons, List.flatten_cons, List.cons_append]
        exact ih.cons_cons c

/-- Each piece of a list is a stretch of it, and the first one is its front. -/
theorem infix_of_mem_splitOn {mark : Char} {cs piece : List Char} (h : piece ∈ cs.splitOn mark) :
    piece <:+: cs := by
  have hpieces (cs : List Char) : ∃ first rest, cs.splitOn mark = first :: rest ∧ first <+: cs ∧
      ∀ piece ∈ rest, piece <:+: cs := by
    induction cs with
    | nil => exact ⟨[], [], List.splitOn_nil mark, List.nil_prefix, nofun⟩
    | cons c cs ih =>
        obtain ⟨first, rest, hsplit, hfirst, hrest⟩ := ih
        have hlater (piece : List Char) (hmem : piece ∈ rest) : piece <:+: c :: cs :=
          (hrest piece hmem).trans (List.suffix_cons c cs).isInfix
        rw [List.splitOn_cons_eq_if_modifyHead, hsplit]
        split
        · refine ⟨[], _, rfl, List.nil_prefix, List.forall_mem_cons.mpr ⟨?_, hlater⟩⟩
          exact hfirst.isInfix.trans (List.suffix_cons c cs).isInfix
        · exact ⟨_, _, rfl, List.prefix_cons_inj c |>.mpr hfirst, hlater⟩
  obtain ⟨first, rest, hsplit, hfirst, hrest⟩ := hpieces cs
  rw [hsplit, List.mem_cons] at h
  rcases h with rfl | h
  · exact hfirst.isInfix
  · exact hrest piece h

/-- Laying out a text adds nothing but blanks. -/
theorem thins_wrap (width : Nat) (text : String) :
    Thins (wrap width .breaks text).flatten text.toList := by
  have hlines : ((withoutControls text.toList).splitOn '\n').flatten.Sublist text.toList :=
    (flatten_splitOn_sublist '\n' _).trans List.filter_sublist
  exact (Thins.flatMap (thins_wrapLine width) _).trans (.of_sublist hlines)

/-! ## Listings -/

/-- A text of printable characters in lines, each of which fits into some width. -/
structure IsListing (width : Nat) (cs : List Char) : Prop where
  printable : ∀ c ∈ cs, c ≠ '\n' → isPrintable c = true
  fits : ∀ line, line <:+: cs → '\n' ∉ line → line.length ≤ width

namespace IsListing

variable {width : Nat} {cs : List Char}

theorem of_infix (h : IsListing width cs) {part : List Char} (hpart : part <:+: cs) :
    IsListing width part :=
  ⟨fun c hc => h.printable c (hpart.subset hc), fun line hline => h.fits line (hline.trans hpart)⟩

theorem withoutControls_eq (h : IsListing width cs) : withoutControls cs = cs := by
  rw [withoutControls, List.filter_eq_self]
  intro c hc
  by_cases hfeed : c = '\n'
  · rw [hfeed]
    rfl
  · rw [isLeftOut_of_printable (h.printable c hc hfeed)]
    rfl

theorem wrapLine_eq (h : IsListing width cs) {line : List Char} (hline : line ∈ cs.splitOn '\n')
    (o : Overflow) : wrapLine width o line = [line] := by
  have hwithin := infix_of_mem_splitOn hline
  have hfeed := notMem_of_mem_splitOn hline
  refine wrapLine_of_printable (List.all_eq_true.mpr ?_) (h.fits line hwithin hfeed) o
  intro c hc
  exact h.printable c (hwithin.subset hc) fun heq => hfeed (heq ▸ hc)

/-- A listing is laid out in its own lines. -/
theorem wrap_eq {text : String} (h : IsListing width text.toList) (o : Overflow) :
    wrap width o text = text.toList.splitOn '\n' := by
  rw [wrap, h.withoutControls_eq, List.flatMap_congr fun line hline => h.wrapLine_eq hline o,
    ← List.map_eq_flatMap, List.map_id']

end IsListing

end DocLedger.Console
