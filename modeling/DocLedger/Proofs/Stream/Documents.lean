import DocLedger.Proofs.Stream.Pieces
import Mathlib.Data.List.TakeWhile

/-!
# A stream of complete documents

A stream carries documents when it consists of their texts with blanks anywhere
between them.  The decoder gives back exactly these documents, wherever the
stream is cut: a piece that ends inside a document leaves a text that is not
complete, since the whole of the document is read in the same way as a front of
it that could be read.  Only a single document has to be within the limit.
-/

namespace DocLedger.Stream

open Text (RunsWithin trimStart)

/-- The text of one document, nothing more, with a length within the limit and
no long run of digits. -/
structure IsDocument (limit : Int) (text : List Char) (v : Value) : Prop where
  opens : ∃ c more, text = c :: more ∧ opensDocument c = true
  reads : Json.readFront text = .ok (v, [])
  fits : (text.length : Int) ≤ limit
  digits : RunsWithin Char.isDigit Number.digitLimit text

/-- A stream of documents: their texts in order, with any number of blanks before,
between and behind them. -/
inductive Carries (limit : Int) : List Char → List Value → Prop
  | finished {gap : List Char} (hgap : ∀ c ∈ gap, Text.isBlank c = true) :
      Carries limit gap []
  | document {gap text others : List Char} {v : Value} {vs : List Value}
      (hgap : ∀ c ∈ gap, Text.isBlank c = true) (htext : IsDocument limit text v)
      (hothers : Carries limit others vs) : Carries limit (gap ++ (text ++ others)) (v :: vs)

/-! ## One document -/

namespace IsDocument

theorem trimStart_eq {limit : Int} {text : List Char} {v : Value}
    (h : IsDocument limit text v) (more : List Char) :
    trimStart (text ++ more) = text ++ more := by
  obtain ⟨c, tail, rfl, hopens⟩ := h.opens
  exact trimStart_of_opens hopens (tail ++ more)

/-- A document is read in the same way whatever follows it. -/
theorem holds_append {limit : Int} {text more left : List Char} {v : Value} {vs : List Value}
    (h : IsDocument limit text v) (hmore : Holds limit more vs left) :
    Holds limit (text ++ more) (v :: vs) left := by
  have htrim := h.trimStart_eq more
  obtain ⟨c, tail, rfl, hopens⟩ := h.opens
  exact .document htrim hopens
    (Json.readFront_append h.reads (enclosed_of_opens hopens tail) more) hmore

/-- No front of a document but the whole is read. -/
theorem not_read_front {limit : Int} {front behind : List Char} {v w : Value}
    {rest : List Char} {c : Char}
    (h : IsDocument limit (c :: front ++ behind) v) (hopens : opensDocument c = true)
    (hbehind : behind ≠ []) : Json.readFront (c :: front) ≠ .ok (w, rest) := by
  intro hread
  have hwhole := Json.readFront_append hread (enclosed_of_opens hopens front) behind
  rw [h.reads] at hwhole
  cases rest with
  | nil =>
      cases hwhole
      exact hbehind rfl
  | cons d rest => cases hwhole

/-- A stream that ends inside a document waits for the rest of it. -/
theorem holds_front {limit : Int} {front behind : List Char} {v : Value}
    (h : IsDocument limit (front ++ behind) v) (hbehind : behind ≠ []) :
    ∃ left, Holds limit front [] left := by
  cases front with
  | nil => exact ⟨[], .blank rfl⟩
  | cons c front =>
      have hopens : opensDocument c = true := by
        obtain ⟨d, tail, heq, hopens⟩ := h.opens
        cases heq
        exact hopens
      have hfits := h.fits
      rw [List.length_append] at hfits
      have hinfix : c :: front <:+: c :: front ++ behind := (List.prefix_append _ _).isInfix
      refine ⟨_, .incomplete (trimStart_of_opens hopens front) hopens ?_⟩
      rcases read_or_incomplete limit (by omega) (h.digits.mono hinfix)
        with ⟨w, rest, hread⟩ | hpart
      · exact absurd hread (h.not_read_front hopens hbehind)
      · exact hpart

end IsDocument

/-! ## All documents -/

/-- A front of two lists is a strict front of the first or goes on into the
second. -/
theorem prefix_append_cases {α : Type} {front xs ys : List α} (h : front <+: xs ++ ys) :
    (∃ behind, xs = front ++ behind ∧ behind ≠ []) ∨
      ∃ later, front = xs ++ later ∧ later <+: ys := by
  obtain ⟨more, hmore⟩ := h
  rcases List.append_eq_append_iff.mp hmore with ⟨behind, hxs, hbehind⟩ | ⟨later, hfront, hys⟩
  · cases behind with
    | nil => exact Or.inr ⟨[], by simpa using hxs.symm, List.nil_prefix⟩
    | cons a behind => exact Or.inl ⟨a :: behind, hxs, by simp⟩
  · exact Or.inr ⟨later, hfront, more, hys.symm⟩

theorem trimStart_eq_nil_of_blank {gap : List Char} (h : ∀ c ∈ gap, Text.isBlank c = true) :
    trimStart gap = [] := by
  rw [trimStart, List.dropWhile_eq_nil_iff]
  exact h

theorem Holds.blank_append {limit : Int} {gap cs left : List Char} {vs : List Value}
    (hgap : ∀ c ∈ gap, Text.isBlank c = true) (h : Holds limit cs vs left) :
    Holds limit (gap ++ cs) vs left :=
  h.of_trimStart_eq (trimStart_append_of_eq_nil (trimStart_eq_nil_of_blank hgap) cs)

theorem Carries.holds {limit : Int} {cs : List Char} {vs : List Value}
    (h : Carries limit cs vs) : Holds limit cs vs [] := by
  induction h with
  | finished hgap => exact .blank (trimStart_eq_nil_of_blank hgap)
  | document hgap htext hothers ih => exact (htext.holds_append ih).blank_append hgap

/-- The decoder is in the midst of at most one document, wherever the stream is
cut. -/
theorem Carries.steady {limit : Int} {cs : List Char} {vs : List Value}
    (h : Carries limit cs vs) : Steady limit [] cs := by
  induction h with
  | finished hgap =>
      intro front hfront
      exact ⟨[], [], .blank (trimStart_eq_nil_of_blank fun c hc => hgap c (hfront.subset hc))⟩
  | @document gap text others v vs hgap htext hothers ih =>
      intro front hfront
      rw [List.nil_append]
      rcases prefix_append_cases hfront with ⟨behind, rfl, -⟩ | ⟨inside, rfl, hinside⟩
      · have hblank : ∀ c ∈ front, Text.isBlank c = true := by
          intro c hc
          exact hgap c (List.mem_append_left behind hc)
        exact ⟨[], [], .blank (trimStart_eq_nil_of_blank hblank)⟩
      · rcases prefix_append_cases hinside with ⟨behind, rfl, hbehind⟩ | ⟨later, rfl, hlater⟩
        · obtain ⟨left, hleft⟩ := htext.holds_front hbehind
          exact ⟨[], left, hleft.blank_append hgap⟩
        · obtain ⟨ws, left, hws⟩ := ih later hlater
          exact ⟨v :: ws, left, (htext.holds_append hws).blank_append hgap⟩

/-- A stream of documents of any length is decoded to these documents, in whatever
pieces its bytes arrive.  Nothing is pending at its end, and the end is no fault. -/
theorem feedPieces_eq_documents {limit : Int} {stream : List Char} {documents : List Value}
    {pieces : List (List UInt8)}
    (hstream : Carries limit stream documents)
    (hpieces : pieces.flatten = Text.Utf8.encode (String.ofList stream)) :
    ∃ lists last, (Decoder.fresh limit).feedPieces pieces = (.ok lists, last) ∧
      lists.flatten = documents ∧ last.pending = [] ∧
      last.close = (.ok (), Decoder.fresh limit) := by
  have hread : Text.Utf8.read .between pieces.flatten = (stream, .between) := by
    rw [hpieces, Text.Utf8.read_encode, String.toList_ofList]
  have hsteady : Steady limit [] (Text.Utf8.read .between pieces.flatten).1 := by
    rw [hread]
    exact hstream.steady
  have hwhole : Holds limit (Text.Utf8.read .between pieces.flatten).1 documents [] := by
    rw [hread]
    exact hstream.holds
  obtain ⟨lists, hlists, hdocuments⟩ := feedPieces_fresh_of_steady hsteady hwhole
  rw [hread] at hlists
  exact ⟨lists, _, hlists, hdocuments, rfl, rfl⟩

/-- Two documents that touch, each within a limit that the stream exceeds, cut
inside a character and at the boundary of the documents. -/
theorem feedPieces_touching_documents :
    let stream : List Char := ['\u2003', '[', '"', 'é', '"', ']', '\x7b', '\x7d', '\n']
    let pieces : List (List UInt8) :=
      [[0xe2, 0x80], [0x83, 0x5b, 0x22, 0xc3], [0xa9, 0x22, 0x5d], [], [0x7b, 0x7d, 0x0a]]
    Carries 5 stream [.list [.text "é"], .mapping []] ∧
    pieces.flatten = Text.Utf8.encode (String.ofList stream) ∧
    ∃ lists last, (Decoder.fresh 5).feedPieces pieces = (.ok lists, last) ∧
      lists.flatten = [.list [.text "é"], .mapping []] ∧ last.pending = [] ∧
      last.close = (.ok (), Decoder.fresh 5) := by
  intro stream pieces
  have hfirst : IsDocument 5 ['[', '"', 'é', '"', ']'] (.list [.text "é"]) :=
    { opens := ⟨'[', _, rfl, rfl⟩
      reads := rfl
      fits := by decide
      digits := fun run hrun _ => Nat.le_trans hrun.length_le (by decide) }
  have hsecond : IsDocument 5 ['\x7b', '\x7d'] (.mapping []) :=
    { opens := ⟨'\x7b', _, rfl, rfl⟩
      reads := rfl
      fits := by decide
      digits := fun run hrun _ => Nat.le_trans hrun.length_le (by decide) }
  have hbefore : ∀ c ∈ ['\u2003'], Text.isBlank c = true := List.forall_mem_singleton.mpr rfl
  have hbetween : ∀ c ∈ [], Text.isBlank c = true := List.forall_mem_nil _
  have hbehind : ∀ c ∈ ['\n'], Text.isBlank c = true := List.forall_mem_singleton.mpr rfl
  have hstream : Carries 5 stream [.list [.text "é"], .mapping []] :=
    .document hbefore hfirst (.document hbetween hsecond (.finished hbehind))
  have hpieces : pieces.flatten = Text.Utf8.encode (String.ofList stream) := by decide
  exact ⟨hstream, hpieces, feedPieces_eq_documents hstream hpieces⟩

end DocLedger.Stream
