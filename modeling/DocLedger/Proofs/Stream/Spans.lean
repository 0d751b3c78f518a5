import DocLedger.Proofs.Json.Cut
import DocLedger.Proofs.Stream.Documents
import Mathlib.Logic.ExistsUnique

/-!
# Where the documents of a stream stand

All the text that a decoder has been fed is accounted for.  It consists of one span
for each document that has been handed out, with blanks in between, and of a rest,
which without the blanks at its front is the pending text.  A span is a text of its
own, which is read to its end as its document.  When the end of the stream is no
fault, the rest is blank, and then every other character stands in just one span.
-/

namespace DocLedger.Stream

open Text (trimStart)

/-! ## Spans -/

/-- The place of a document in a text: the blanks in front of it, and the characters
that are its own. -/
structure Span where
  gap : List Char
  text : List Char
  document : Value
  gap_blank : ∀ c ∈ gap, Text.isBlank c = true
  text_opens : ∃ c more, text = c :: more ∧ opensDocument c = true
  text_read : Json.readFront text = .ok (document, [])

/-- The characters of a span with the blanks in front of it. -/
def Span.whole (s : Span) : List Char := s.gap ++ s.text

/-- The character at a place of the text is one of the document with a number. -/
def InSpan (spans : List Span) (k i : Nat) : Prop :=
  ∃ s, spans[k]? = some s ∧
    ((spans.take k).flatMap Span.whole).length + s.gap.length ≤ i ∧
    i < ((spans.take k).flatMap Span.whole).length + s.whole.length

theorem inSpan_zero {s : Span} {spans : List Span} {i : Nat} :
    InSpan (s :: spans) 0 i ↔ s.gap.length ≤ i ∧ i < s.whole.length := by
  simp [InSpan]

theorem inSpan_succ {s : Span} {spans : List Span} {k i : Nat} :
    InSpan (s :: spans) (k + 1) (s.whole.length + i) ↔ InSpan spans k i := by
  simp only [InSpan, List.getElem?_cons_succ, List.take_succ_cons, List.flatMap_cons,
    List.length_append]
  constructor
  · rintro ⟨t, ht, hfrom, hto⟩
    exact ⟨t, ht, by omega, by omega⟩
  · rintro ⟨t, ht, hfrom, hto⟩
    exact ⟨t, ht, by omega, by omega⟩

theorem length_le_of_inSpan_succ {s : Span} {spans : List Span} {k i : Nat}
    (h : InSpan (s :: spans) (k + 1) i) : s.whole.length ≤ i := by
  obtain ⟨t, -, hfrom, -⟩ := h
  rw [List.take_succ_cons, List.flatMap_cons, List.length_append] at hfrom
  omega

/-- Behind the spans there are only blanks, so a character that is none belongs to one
document and no other. -/
theorem existsUnique_inSpan {spans : List Span} {rest : List Char}
    (hrest : ∀ c ∈ rest, Text.isBlank c = true) {i : Nat} {c : Char}
    (hc : (spans.flatMap Span.whole ++ rest)[i]? = some c) (hblank : Text.isBlank c = false) :
    ∃! k, InSpan spans k i := by
  induction spans generalizing i with
  | nil =>
      have hmem : c ∈ rest := List.mem_of_getElem? hc
      rw [hrest c hmem] at hblank
      cases hblank
  | cons s spans ih =>
      rw [List.flatMap_cons, List.append_assoc] at hc
      by_cases hwhole : i < s.whole.length
      · rw [List.getElem?_append_left hwhole] at hc
        have hgap : s.gap.length ≤ i := by
          by_contra hgap
          rw [Span.whole, List.getElem?_append_left (Nat.lt_of_not_le hgap)] at hc
          have hmem : c ∈ s.gap := List.mem_of_getElem? hc
          rw [s.gap_blank c hmem] at hblank
          cases hblank
        refine ⟨0, inSpan_zero.mpr ⟨hgap, hwhole⟩, ?_⟩
        intro k hk
        cases k with
        | zero => rfl
        | succ k => exact absurd (length_le_of_inSpan_succ hk) (Nat.not_le.mpr hwhole)
      · obtain ⟨j, rfl⟩ := Nat.exists_eq_add_of_le (Nat.le_of_not_lt hwhole)
        rw [List.getElem?_append_right (Nat.le_add_right _ _), Nat.add_sub_cancel_left] at hc
        obtain ⟨k, hk, hunique⟩ := ih hc
        refine ⟨k + 1, inSpan_succ.mpr hk, ?_⟩
        intro l hl
        cases l with
        | zero => exact absurd (inSpan_zero.mp hl).2 (by omega)
        | succ l => rw [hunique l (inSpan_succ.mp hl)]

/-! ## The spans of a text -/

/-- The documents of a text stand in it in their order, and behind them is what is
left over. -/
theorem Holds.exists_spans {limit : Int} {cs left : List Char} {vs : List Value}
    (h : Holds limit cs vs left) :
    ∃ (spans : List Span) (rest : List Char), spans.map Span.document = vs ∧
      cs = spans.flatMap Span.whole ++ rest ∧ trimStart rest = left := by
  induction h with
  | @blank cs htrim => exact ⟨[], cs, rfl, rfl, htrim⟩
  | @incomplete cs more c htrim hopens hmore => exact ⟨[], cs, rfl, rfl, htrim⟩
  | @document cs more rest left c v vs htrim hopens hread hrest ih =>
      obtain ⟨spans, last, hdocuments, hspans, hlast⟩ := ih
      obtain ⟨text, htext⟩ := (Json.readFront_leaves hread).1
      obtain ⟨front, rfl⟩ : ∃ front, text = c :: front := by
        have hleaves := Json.readFront_leaves hread
        rw [← htext] at hleaves
        obtain ⟨d, front, rfl⟩ := @Json.exists_cons_of_leaves text [] rest hleaves
        rw [List.cons_append, List.cons.injEq] at htext
        exact ⟨front, by rw [htext.1]⟩
      rw [← htext] at hread
      let s : Span :=
        { gap := cs.takeWhile Text.isBlank
          text := c :: front
          document := v
          gap_blank := fun d hd => List.all_eq_true.mp List.all_takeWhile d hd
          text_opens := ⟨c, front, rfl, hopens⟩
          text_read := Json.readFront_of_append hread }
      have hcs : cs = s.whole ++ rest := by
        have hsplit := List.takeWhile_append_dropWhile (p := Text.isBlank) (l := cs)
        rw [trimStart] at htrim
        rw [htrim, ← htext] at hsplit
        rw [Span.whole, List.append_assoc, hsplit]
      refine ⟨s :: spans, last, ?_, ?_, hlast⟩
      · rw [List.map_cons, hdocuments]
      · rw [List.flatMap_cons, List.append_assoc, ← hspans]
        exact hcs

/-! ## Blanks -/

theorem blank_of_trimStart {cs : List Char} (h : ∀ c ∈ trimStart cs, Text.isBlank c = true) :
    ∀ c ∈ cs, Text.isBlank c = true := by
  intro c hc
  rw [← List.takeWhile_append_dropWhile (p := Text.isBlank) (l := cs), List.mem_append] at hc
  rcases hc with hfront | hbehind
  · exact List.all_eq_true.mp List.all_takeWhile c hfront
  · exact h c hbehind

theorem blank_of_trim_eq_nil {cs : List Char} (h : Text.trim cs = []) :
    ∀ c ∈ cs, Text.isBlank c = true := by
  apply blank_of_trimStart
  intro c hc
  rw [Text.trim, Text.trimEnd, List.reverse_eq_nil_iff, List.dropWhile_eq_nil_iff] at h
  exact h c (List.mem_reverse.mpr hc)

/-! ## A decoder fed with texts -/

namespace Decoder

/-- Add texts one after another, up to the first fault: the documents that each of
them completes. -/
def feedTexts (d : Decoder) :
    List (List Char) → Except StreamFault (List (List Value)) × Decoder
  | [] => (.ok [], d)
  | text :: texts =>
    match d.feed text with
    | (.error fault, next) => (.error fault, next)
    | (.ok documents, next) =>
      match next.feedTexts texts with
      | (.error fault, last) => (.error fault, last)
      | (.ok lists, last) => (.ok (documents :: lists), last)

theorem feedTexts_cons_eq_ok {d last : Decoder} {text : List Char} {texts : List (List Char)}
    {lists : List (List Value)} (h : d.feedTexts (text :: texts) = (.ok lists, last)) :
    ∃ documents next others, d.feed text = (.ok documents, next) ∧
      next.feedTexts texts = (.ok others, last) ∧ lists = documents :: others := by
  rw [feedTexts] at h
  split at h
  · cases h
  · next documents next hfeed =>
    split at h
    · cases h
    · next others last' hothers =>
      cases h
      exact ⟨documents, next, others, hfeed, hothers, rfl⟩

/-- A run over texts is a run over the first of them and goes on from there. -/
theorem feedTexts_take {texts : List (List Char)} {d last : Decoder} {lists : List (List Value)}
    (h : d.feedTexts texts = (.ok lists, last)) (n : Nat) :
    ∃ now, d.feedTexts (texts.take n) = (.ok (lists.take n), now) := by
  induction texts generalizing d lists n with
  | nil =>
      cases h
      exact ⟨_, by rw [List.take_nil, List.take_nil]; rfl⟩
  | cons text texts ih =>
      obtain ⟨documents, next, others, hfeed, hothers, rfl⟩ := feedTexts_cons_eq_ok h
      cases n with
      | zero => exact ⟨d, rfl⟩
      | succ n =>
          obtain ⟨now, hnow⟩ := ih hothers n
          exact ⟨now, by simp only [List.take_succ_cons, feedTexts, hfeed, hnow]⟩

/-- What has been handed out and what is pending are what all the text so far holds. -/
theorem holds_of_feedTexts {texts : List (List Char)} {d last : Decoder} {fed : List Char}
    {before : List Value} {lists : List (List Value)} (hfed : Holds d.limit fed before d.pending)
    (h : d.feedTexts texts = (.ok lists, last)) :
    Holds d.limit (fed ++ texts.flatten) (before ++ lists.flatten) last.pending ∧
      last.limit = d.limit ∧ last.partialChar = d.partialChar := by
  induction texts generalizing d fed before lists with
  | nil =>
      cases h
      simpa using hfed
  | cons text texts ih =>
      obtain ⟨documents, next, others, hfeed, hothers, rfl⟩ := feedTexts_cons_eq_ok h
      obtain ⟨hholds, hnext⟩ := holds_of_feed hfeed
      have hstep : Holds d.limit (fed ++ text) (before ++ documents) next.pending :=
        hfed.append_iff.mpr ⟨documents, rfl, hholds⟩
      have hlimit : next.limit = d.limit := by rw [hnext]
      have hpartial : next.partialChar = d.partialChar := by rw [hnext]
      rw [← hlimit] at hstep
      have hrun := ih hstep hothers
      rw [hlimit, hpartial] at hrun
      simpa only [List.flatten_cons, List.append_assoc] using hrun

/-- The end of a stream that is no fault leaves only blanks pending. -/
theorem pending_blank_of_close {d after : Decoder} (hpartial : d.partialChar = .between)
    (h : d.close = (.ok (), after)) : ∀ c ∈ d.pending, Text.isBlank c = true := by
  have hleft : Text.trim (d.pending ++ Text.Utf8.finish d.partialChar) = [] := by
    rw [close] at h
    split at h
    · next hempty => exact List.isEmpty_iff.mp hempty
    · cases h
  rw [hpartial, Text.Utf8.finish, List.append_nil] at hleft
  exact blank_of_trim_eq_nil hleft

end Decoder

/-- A fresh decoder that has been fed any texts without a fault accounts for each of
them as it comes: after every call the text so far consists of the spans of the
documents handed out and a rest, which is pending.  If the stream may end there, every
character that is not blank belongs to one of the documents and to no other. -/
theorem feedTexts_accounts {limit : Int} {texts : List (List Char)} {lists : List (List Value)}
    {last : Decoder} (h : (Decoder.fresh limit).feedTexts texts = (.ok lists, last)) (n : Nat) :
    ∃ (now : Decoder) (spans : List Span) (rest : List Char),
      (Decoder.fresh limit).feedTexts (texts.take n) = (.ok (lists.take n), now) ∧
      spans.map Span.document = (lists.take n).flatten ∧
      (texts.take n).flatten = spans.flatMap Span.whole ++ rest ∧
      trimStart rest = now.pending ∧
      ∀ after, now.close = (.ok (), after) → ∀ i c, (texts.take n).flatten[i]? = some c →
        Text.isBlank c = false → ∃! k, InSpan spans k i := by
  obtain ⟨now, hnow⟩ := Decoder.feedTexts_take h n
  have hfresh : Holds limit [] [] (Decoder.fresh limit).pending := .blank rfl
  obtain ⟨hholds, -, hpartial⟩ := Decoder.holds_of_feedTexts hfresh hnow
  rw [List.nil_append, List.nil_append] at hholds
  obtain ⟨spans, rest, hdocuments, hspans, hrest⟩ := hholds.exists_spans
  refine ⟨now, spans, rest, hnow, hdocuments, hspans, hrest, ?_⟩
  intro after hclose i c hc hblank
  have hpending := Decoder.pending_blank_of_close hpartial hclose
  rw [← hrest] at hpending
  rw [hspans] at hc
  exact existsUnique_inSpan (blank_of_trimStart hpending) hc hblank

/-- Two documents that touch, both cut, with blanks around them that are none of JSON's:
the quote at place five is in one of them only. -/
theorem feedTexts_accounts_touching_documents :
    let texts : List (List Char) :=
      [['\u00a0', '[', '1'], [], [']', '\x7b', '"', '"', ':', '2'], ['\x7d', '\u2003']]
    let lists : List (List Value) :=
      [[], [], [.list [.int 1]], [.mapping [(.text "", .int 2)]]]
    (Decoder.fresh 9).feedTexts texts = (.ok lists, Decoder.fresh 9) ∧
    ∃ (spans : List Span) (rest : List Char), spans.map Span.document = lists.flatten ∧
      texts.flatten = spans.flatMap Span.whole ++ rest ∧ trimStart rest = [] ∧
      ∃! k, InSpan spans k 5 := by
  intro texts lists
  have hrun : (Decoder.fresh 9).feedTexts texts = (.ok lists, Decoder.fresh 9) := rfl
  obtain ⟨now, spans, rest, hnow, hdocuments, hspans, hrest, hclose⟩ := feedTexts_accounts hrun 4
  obtain ⟨-, rfl⟩ := Prod.mk.inj (hrun.symm.trans hnow)
  exact ⟨hrun, spans, rest, hdocuments, hspans, hrest, hclose _ rfl 5 _ rfl rfl⟩

end DocLedger.Stream
