import DocLedger.Proofs.Text.Lines
import DocLedger.Watch.Handle
import Mathlib.Data.List.DropRight

/-!
# A watch read by lines

The lines of a watch are cut out of its output byte by byte and read one at a time.  As long as
none is too long, they are the pieces of the text of the whole output, cut after its line feeds,
even where a line ends within a character.
-/

namespace DocLedger.Watch

open Engine (Bytes)
open Text (CutAfter)

/-- A byte in front belongs to the first line. -/
theorem addByte_cutAfter {bytes : Bytes} {pieces : List Bytes} (h : CutAfter lineFeed bytes pieces)
    (byte : UInt8) : CutAfter lineFeed (byte :: bytes) (addByte byte pieces) := by
  by_cases hbyte : byte = lineFeed
  · subst hbyte
    exact @CutAfter.ended _ _ [] bytes pieces List.not_mem_nil h
  · unfold addByte
    rw [if_neg (by simpa using hbyte)]
    cases h with
    | nothing =>
        apply CutAfter.unended (List.cons_ne_nil _ _)
        simpa using Ne.symm hbyte
    | unended nonempty unmarked =>
        apply CutAfter.unended (List.cons_ne_nil _ _)
        rw [List.mem_cons, not_or]
        exact ⟨Ne.symm hbyte, unmarked⟩
    | @ended piece rest pieces unmarked later =>
        refine @CutAfter.ended _ _ (byte :: piece) rest pieces ?_ later
        rw [List.mem_cons, not_or]
        exact ⟨Ne.symm hbyte, unmarked⟩

/-- The lines are the pieces cut after the line feeds. -/
theorem lines_cutAfter (bytes : Bytes) : CutAfter lineFeed bytes (lines bytes) := by
  induction bytes with
  | nil => exact CutAfter.nothing
  | cons byte bytes ih => exact addByte_cutAfter ih byte

/-- A line is within the limit, not counting the line feed that ends it. -/
def Fits (line : Bytes) : Prop := (line.filter fun byte => byte != lineFeed).length ≤ lineLimit

theorem filter_of_unmarked {piece : Bytes} (h : lineFeed ∉ piece) :
    (piece.filter fun byte => byte != lineFeed) = piece := by
  rw [List.filter_eq_self]
  intro byte hbyte
  rw [bne_iff_ne]
  rintro rfl
  exact h hbyte

theorem isEnded_of_unmarked {piece : Bytes} (h : lineFeed ∉ piece) : isEnded piece = false := by
  rw [isEnded, beq_eq_false_iff_ne]
  intro hlast
  exact h (List.mem_of_getLast? hlast)

/-- All lines are read if all are within the limit. -/
theorem takeLines_of_fits {bytes : Bytes} {pieces : List Bytes}
    (h : CutAfter lineFeed bytes pieces) (hfits : ∀ piece ∈ pieces, Fits piece) (count : Nat) :
    takeLines none count pieces = ⟨pieces.map lineText, none, []⟩ := by
  induction h generalizing count with
  | nothing => rfl
  | unended nonempty unmarked =>
      have hfit := hfits _ List.mem_cons_self
      rw [Fits, filter_of_unmarked unmarked] at hfit
      rw [takeLines, isEnded_of_unmarked unmarked, if_neg Bool.false_ne_true,
        if_neg (Nat.not_lt.mpr hfit)]
      rfl
  | @ended piece rest pieces unmarked later ih =>
      have hfit := hfits _ List.mem_cons_self
      rw [Fits, List.filter_append, filter_of_unmarked unmarked, List.filter_singleton,
        bne_self_eq_false, cond_false, List.append_nil] at hfit
      have hended : isEnded (piece ++ [lineFeed]) = true := by simp [isEnded]
      have hlength : (piece ++ [lineFeed]).length - 1 = piece.length := by simp
      have hrest := ih (fun p hp => hfits p (List.mem_cons_of_mem _ hp)) (count + 1)
      rw [takeLines, hended, if_pos rfl, hlength, if_neg (Nat.not_lt.mpr hfit), hrest]
      rfl

/-- A text without the carriage returns and line feeds at its end. -/
def strippedEnd (cs : List Char) : String :=
  String.ofList (cs.rdropWhile fun c => c == '\n' || c == '\r')

/-- The lines of a watch whose output is piped are the pieces of the text of its whole output,
cut after every line feed, without the ends of line at their ends.  They are all that is read,
provided that none is too long, and nothing is left. -/
theorem lines_eq_pieces {h : Handle} {output raw : List Bytes} (hpiped : h.stdio = .text "pipe")
    (houtput : h.child.output = some output) (hraw : CutAfter lineFeed output.flatten raw)
    (hfits : ∀ line ∈ raw, Fits line) :
    ∃ pieces, CutAfter '\n' (Text.Utf8.decode output.flatten) pieces ∧
      (h.lines none).1 = ⟨pieces.map strippedEnd, none, []⟩ ∧
      (h.lines none).2.child.output = some [] := by
  have hsame : lines output.flatten = raw := (lines_cutAfter output.flatten).unique hraw
  have hread : readLines none output = ⟨raw.map lineText, none, []⟩ := by
    rw [readLines, hsame]
    exact takeLines_of_fits hraw hfits 0
  have hlines : h.lines none = (⟨raw.map lineText, none, []⟩,
      { h with child := { h.child with output := some [] } }) := by
    simp only [Handle.lines, Handle.output, hpiped, houtput, Handle.taken, hread]
  refine ⟨raw.map Text.Utf8.decode, CutAfter.decode hraw, ?_, ?_⟩
  · have hlineText : lineText = strippedEnd ∘ Text.Utf8.decode := rfl
    rw [hlines, List.map_map, hlineText]
  · rw [hlines]

/-- The first line ends within a character of which two bytes have been seen, the second is a
carriage return alone, and the third has no line feed. -/
def cutCharacter : List Bytes := [[0xe2, 0x82], [10, 13, 10, 0x61, 13]]

/-- A watch that has been started with this output to be read. -/
def cutCharacterWatch : Handle :=
  Handle.start ⟨.known (.int 7), some cutCharacter, .exits 0, ⟨none, [], []⟩⟩ ⟨fun _ => .null⟩
    (.bool false) (.text "pipe") "watch"

theorem lines_eq_pieces_cut_character :
    cutCharacterWatch.stdio = .text "pipe" ∧ cutCharacterWatch.child.output = some cutCharacter ∧
    CutAfter lineFeed cutCharacter.flatten [[0xe2, 0x82, 10], [13, 10], [0x61, 13]] ∧
    (∀ line ∈ [[0xe2, 0x82, 10], [13, 10], [0x61, 13]], Fits line) ∧
    (cutCharacterWatch.lines none).1 = ⟨["\uFFFD", "", "a"], none, []⟩ := by
  have hraw : CutAfter lineFeed cutCharacter.flatten
      [[0xe2, 0x82, 10], [13, 10], [0x61, 13]] := lines_cutAfter cutCharacter.flatten
  have hfits : ∀ line ∈ [[0xe2, 0x82, 10], [13, 10], [0x61, 13]], Fits line := by
    unfold Fits
    decide
  obtain ⟨pieces, hpieces, hlines, -⟩ :=
    @lines_eq_pieces cutCharacterWatch cutCharacter _ rfl rfl hraw hfits
  have hdecoded : CutAfter '\n' (Text.Utf8.decode cutCharacter.flatten)
      [['\uFFFD', '\n'], ['\r', '\n'], ['a', '\r']] := CutAfter.decode hraw
  rw [hpieces.unique hdecoded] at hlines
  exact ⟨rfl, rfl, hraw, hfits, hlines⟩

end DocLedger.Watch
