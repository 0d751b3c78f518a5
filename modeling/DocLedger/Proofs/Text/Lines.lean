import DocLedger.Proofs.Text.DigitRuns
import DocLedger.Proofs.Text.Utf8

/-!
# Lines of a text of bytes

A line feed is a character of its own wherever it stands: it ends whatever character has been
begun before, nothing before it decides how the bytes behind it are read, and no other sequence
of bytes shows one.  So the lines of bytes, each read by itself, are the lines of the text that
all the bytes are read to.
-/

namespace DocLedger.Text

/-- A list cut after every mark.  What is left behind the last mark is a piece of its own, if
anything is left. -/
inductive CutAfter {α : Type} (mark : α) : List α → List (List α) → Prop
  | nothing : CutAfter mark [] []
  | unended {piece : List α} (nonempty : piece ≠ []) (unmarked : mark ∉ piece) :
      CutAfter mark piece [piece]
  | ended {piece rest : List α} {pieces : List (List α)} (unmarked : mark ∉ piece)
      (later : CutAfter mark rest pieces) :
      CutAfter mark (piece ++ mark :: rest) ((piece ++ [mark]) :: pieces)

namespace CutAfter

variable {α : Type} {mark : α}

/-- What stands in front of the first mark is known by the list. -/
theorem first_unique {piece piece' rest rest' : List α} (h : mark ∉ piece) (h' : mark ∉ piece')
    (heq : piece ++ mark :: rest = piece' ++ mark :: rest') : piece = piece' ∧ rest = rest' := by
  induction piece generalizing piece' with
  | nil =>
      cases piece' with
      | nil => exact ⟨rfl, (List.cons.inj heq).2⟩
      | cons x xs =>
          exfalso
          apply h'
          rw [(List.cons.inj heq).1]
          exact List.mem_cons_self
  | cons x xs ih =>
      cases piece' with
      | nil =>
          exfalso
          apply h
          rw [← (List.cons.inj heq).1]
          exact List.mem_cons_self
      | cons y ys =>
          obtain ⟨rfl, htail⟩ := List.cons.inj heq
          obtain ⟨rfl, rfl⟩ := ih (fun hmem => h (List.mem_cons_of_mem _ hmem))
            (fun hmem => h' (List.mem_cons_of_mem _ hmem)) htail
          exact ⟨rfl, rfl⟩

theorem unique {xs : List α} {pieces pieces' : List (List α)} (h : CutAfter mark xs pieces)
    (h' : CutAfter mark xs pieces') : pieces = pieces' := by
  induction h generalizing pieces' with
  | nothing =>
      generalize hxs : ([] : List α) = xs at h'
      cases h' with
      | nothing => rfl
      | unended nonempty unmarked => exact absurd hxs.symm nonempty
      | ended unmarked later => simp at hxs
  | unended nonempty unmarked =>
      cases h' with
      | nothing => exact absurd rfl nonempty
      | unended nonempty' unmarked' => rfl
      | ended unmarked' later => simp at unmarked
  | @ended piece rest pieces unmarked later ih =>
      generalize hxs : piece ++ mark :: rest = xs at h'
      cases h' with
      | nothing => simp at hxs
      | unended nonempty' unmarked' =>
          rw [← hxs] at unmarked'
          simp at unmarked'
      | ended unmarked' later' =>
          obtain ⟨rfl, rfl⟩ := first_unique unmarked unmarked' hxs
          rw [ih later']

end CutAfter

namespace Utf8

/-! ## The line feed -/

/-- A character begun is continued by bytes past the single ones only. -/
def Lead.Continues : Lead → Prop
  | .begins b => 0x80 ≤ b.lowest
  | _ => True

/-- What is remembered between two bytes is continued by bytes past the single ones only. -/
def State.Continues : State → Prop
  | .within b => 0x80 ≤ b.lowest
  | _ => True

theorem lead_continues (byte : UInt8) : (lead byte).Continues := by
  unfold lead
  simp only
  split
  · trivial
  · repeat' split
    all_goals first
      | trivial
      | exact Nat.le_refl _
      | exact Nat.le_of_lt (by decide)

theorem restart_continues (state : State) (byte : UInt8) : (restart state byte).2.Continues := by
  have hlead := lead_continues byte
  unfold restart start
  cases hbyte : lead byte with
  | single c => trivial
  | begins b =>
      rw [hbyte] at hlead
      exact hlead
  | illFormed => trivial

theorem push_continues (state : State) (byte : UInt8) : (push state byte).2.Continues := by
  unfold push
  split
  · split
    · split
      · trivial
      · exact Nat.le_refl _
    · split
      · trivial
      · exact restart_continues _ byte
  · exact restart_continues _ byte

/-- A line feed gives up what has been begun and is read as itself. -/
theorem push_lineFeed {state : State} (h : state.Continues) :
    push state 10 = (finish state ++ ['\n'], .between) := by
  cases state with
  | between => rfl
  | surrogate => rfl
  | within b =>
      have haccepts : b.accepts 10 = false := by
        have hlow : 0x80 ≤ b.lowest := h
        rw [Begun.accepts, Bool.and_eq_false_iff]
        left
        exact decide_eq_false (Nat.not_le.mpr (Nat.lt_of_lt_of_le (by decide) hlow))
      have hsurrogate : b.makesSurrogate 10 = false := by
        rw [Begun.makesSurrogate, Bool.and_eq_false_iff]
        left
        exact Bool.and_false _
      rw [push, haccepts, hsurrogate]
      rfl

theorem ofNat_ne_lineFeed {n : Nat} (h : n ≠ 10) : Char.ofNat n ≠ '\n' := by
  intro heq
  rw [Char.ofNat] at heq
  by_cases hvalid : n.isValidChar
  · rw [dif_pos hvalid] at heq
    exact h (congrArg Char.toNat heq)
  · rw [dif_neg hvalid] at heq
    exact absurd heq (by decide)

theorem lineFeed_notMem_finish (state : State) : '\n' ∉ finish state := by
  have hreplacement : '\n' ≠ replacement := by decide
  cases state with
  | between => exact List.not_mem_nil
  | within b => simpa [finish] using hreplacement
  | surrogate => simpa [finish] using hreplacement

theorem restart_spares {byte : UInt8} (h : byte ≠ 10) (state : State) :
    '\n' ∉ (restart state byte).1 := by
  have hfits := lead_fits byte
  unfold restart start
  cases hlead : lead byte with
  | single c =>
      rw [hlead] at hfits
      obtain rfl : c = Char.ofNat byte.toNat := hfits
      have hbyte : byte.toNat ≠ 10 := fun heq => h (UInt8.toNat_inj.mp heq)
      intro hmem
      rcases List.mem_append.mp hmem with hmem | hmem
      · exact lineFeed_notMem_finish state hmem
      · exact ofNat_ne_lineFeed hbyte (List.mem_singleton.mp hmem).symm
  | begins b =>
      intro hmem
      rcases List.mem_append.mp hmem with hmem | hmem
      · exact lineFeed_notMem_finish state hmem
      · cases hmem
  | illFormed =>
      intro hmem
      rcases List.mem_append.mp hmem with hmem | hmem
      · exact lineFeed_notMem_finish state hmem
      · exact absurd (List.mem_singleton.mp hmem) (by decide)

/-- Another byte shows no line feed. -/
theorem push_spares {state : State} (hwide : state.IsWide) {byte : UInt8} (h : byte ≠ 10) :
    '\n' ∉ (push state byte).1 := by
  unfold push
  split
  · next b =>
    split
    · next haccepts =>
      split
      · next hmissing =>
        have hbits : 128 ≤ b.extendedBits byte := (hwide byte haccepts).2 hmissing
        simpa using (ofNat_ne_lineFeed (by omega)).symm
      · exact List.not_mem_nil
    · split
      · exact List.not_mem_nil
      · exact restart_spares h _
  · exact restart_spares h _

theorem push_isWide {state : State} (h : state.IsWide) (byte : UInt8) :
    (push state byte).2.IsWide := by
  have hshows := push_shows h byte
  generalize push state byte = pushed at hshows
  cases hshows with
  | nothing wide begun => exact wide
  | others wide none => exact wide
  | digit single => trivial

/-- Each byte shows something or is remembered. -/
theorem push_visible {state : State} (h : state.IsWide) (byte : UInt8) :
    (push state byte).1 ≠ [] ∨ (push state byte).2 ≠ .between := by
  have hshows := push_shows h byte
  generalize push state byte = pushed at hshows
  cases hshows with
  | nothing wide begun => exact Or.inr begun
  | others wide none => exact Or.inl (List.cons_ne_nil _ _)
  | digit single => exact Or.inl (List.append_ne_nil_of_right_ne_nil _ (List.cons_ne_nil _ _))

/-! ## Pieces of a text -/

theorem read_continues (bytes : List UInt8) {state : State} (h : state.Continues) :
    (read state bytes).2.Continues := by
  induction bytes generalizing state with
  | nil => exact h
  | cons byte bytes ih => exact ih (push_continues state byte)

/-- What is read up to a line feed is read as by itself, and so is what is behind it. -/
theorem decode_append_lineFeed (piece rest : List UInt8) :
    decode (piece ++ 10 :: rest) = decode piece ++ '\n' :: decode rest := by
  have hpush := push_lineFeed (@read_continues piece .between trivial)
  have hread : read (read .between piece).2 (10 :: rest) =
      (finish (read .between piece).2 ++ '\n' :: (read .between rest).1,
        (read .between rest).2) := by
    simp only [read, hpush, List.append_assoc, List.singleton_append]
  simp only [decode, read_append, hread, List.append_assoc, List.cons_append]

theorem lineFeed_notMem_read {bytes : List UInt8} (h : 10 ∉ bytes) {state : State}
    (hwide : state.IsWide) : '\n' ∉ (read state bytes).1 := by
  induction bytes generalizing state with
  | nil => exact List.not_mem_nil
  | cons byte bytes ih =>
      rw [List.mem_cons, not_or] at h
      intro hmem
      rcases List.mem_append.mp hmem with hmem | hmem
      · exact push_spares hwide (Ne.symm h.1) hmem
      · exact ih h.2 (push_isWide hwide byte) hmem

theorem lineFeed_notMem_decode {bytes : List UInt8} (h : 10 ∉ bytes) : '\n' ∉ decode bytes := by
  intro hmem
  rcases List.mem_append.mp hmem with hmem | hmem
  · exact lineFeed_notMem_read h between_isWide hmem
  · exact lineFeed_notMem_finish _ hmem

theorem finish_ne_nil {state : State} (h : state ≠ .between) : finish state ≠ [] := by
  cases state with
  | between => exact absurd rfl h
  | within b => exact List.cons_ne_nil _ _
  | surrogate => exact List.cons_ne_nil _ _

theorem read_finish_ne_nil {state : State} (hwide : state.IsWide) {bytes : List UInt8}
    (h : state ≠ .between ∨ bytes ≠ []) :
    (read state bytes).1 ++ finish (read state bytes).2 ≠ [] := by
  induction bytes generalizing state with
  | nil =>
      rcases h with h | h
      · exact finish_ne_nil h
      · exact absurd rfl h
  | cons byte bytes ih =>
      have hread : (read state (byte :: bytes)).2 = (read (push state byte).2 bytes).2 := rfl
      rw [read_cons, hread, List.append_assoc]
      rcases push_visible hwide byte with hshown | hbegun
      · exact List.append_ne_nil_of_left_ne_nil hshown _
      · apply List.append_ne_nil_of_right_ne_nil
        exact ih (push_isWide hwide byte) (Or.inl hbegun)

theorem decode_ne_nil {bytes : List UInt8} (h : bytes ≠ []) : decode bytes ≠ [] :=
  read_finish_ne_nil between_isWide (Or.inr h)

end Utf8

/-- The pieces of bytes cut after their line feeds, each read by itself, are the pieces of the
whole text cut after its line feeds. -/
theorem CutAfter.decode {bytes : List UInt8} {pieces : List (List UInt8)}
    (h : CutAfter 10 bytes pieces) :
    CutAfter '\n' (Utf8.decode bytes) (pieces.map Utf8.decode) := by
  induction h with
  | nothing => exact CutAfter.nothing
  | unended nonempty unmarked =>
      exact CutAfter.unended (Utf8.decode_ne_nil nonempty) (Utf8.lineFeed_notMem_decode unmarked)
  | ended unmarked later ih =>
      rw [List.map_cons, Utf8.decode_append_lineFeed, Utf8.decode_append_lineFeed]
      exact CutAfter.ended (Utf8.lineFeed_notMem_decode unmarked) ih

end DocLedger.Text
