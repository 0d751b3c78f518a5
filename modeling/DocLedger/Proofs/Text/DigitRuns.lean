import DocLedger.Text.Utf8

/-!
# Runs of digits

A text is free of long runs of digits when the bytes that it is read from are.
The decimal digits are single bytes, no other sequence of bytes shows one, and
a sequence that is ill formed shows at least one other character.
-/

namespace DocLedger.Text

/-- Consecutive elements that all have a property are at most so many. -/
def RunsWithin {α : Type} (p : α → Bool) (most : Nat) (xs : List α) : Prop :=
  ∀ run, run <:+: xs → (∀ a ∈ run, p a = true) → run.length ≤ most

theorem RunsWithin.mono {α : Type} {p : α → Bool} {most : Nat} {xs ys : List α}
    (h : RunsWithin p most xs) (hys : ys <:+: xs) : RunsWithin p most ys := by
  intro run hrun hall
  exact h run (hrun.trans hys) hall

end DocLedger.Text

namespace DocLedger.Text.Utf8

def isDigitByte (byte : UInt8) : Bool := 48 ≤ byte.toNat && byte.toNat ≤ 57

theorem isDigit_ofNat (n : Nat) : (Char.ofNat n).isDigit = (48 ≤ n && n ≤ 57) := by
  have hdigit (c : Char) : c.isDigit = (48 ≤ c.toNat && c.toNat ≤ 57) := by
    simp only [Char.isDigit, ge_iff_le, UInt32.le_iff_toNat_le]
    rfl
  rw [hdigit, Char.ofNat]
  by_cases hvalid : n.isValidChar
  · rw [dif_pos hvalid]
    rfl
  · have hlarge : ¬ n ≤ 57 := by
      intro hn
      exact hvalid (Or.inl (by omega))
    rw [dif_neg hvalid]
    simp [hlarge]

theorem isDigit_of_mem_finish {state : State} {c : Char} (h : c ∈ finish state) :
    c.isDigit = false := by
  have hreplacement : replacement.isDigit = false := by decide
  cases state <;> simp [finish] at h <;> subst h <;> exact hreplacement

/-! ## What one byte shows -/

/-- A character begun that stands for no digit, whatever bytes complete it: its
bits are those of a code past the single bytes. -/
def Begun.IsWide (b : Begun) : Prop :=
  ∀ byte, b.accepts byte = true →
    2 ≤ b.extendedBits byte ∧ (b.missing ≤ 1 → 128 ≤ b.extendedBits byte)

theorem Begun.isWide_of_range {b : Begun}
    (h : ∀ n, b.lowest ≤ n → n ≤ b.highest →
      2 ≤ b.bits * 64 + n % 64 ∧ (b.missing ≤ 1 → 128 ≤ b.bits * 64 + n % 64)) :
    b.IsWide := by
  intro byte haccepts
  obtain ⟨hlow, hhigh⟩ := Bool.and_eq_true .. |>.mp haccepts
  exact h byte.toNat (of_decide_eq_true hlow) (of_decide_eq_true hhigh)

/-- What is remembered between two bytes is wide, if it is a character begun. -/
def State.IsWide : State → Prop
  | .within b => b.IsWide
  | _ => True

theorem between_isWide : State.between.IsWide := trivial

/-- The meaning of a byte at the start of a character: itself, if it is a single
byte, or a character past the single bytes. -/
def Lead.Fits (byte : UInt8) : Lead → Prop
  | .single c => c = Char.ofNat byte.toNat
  | .begins b => b.IsWide
  | .illFormed => True

theorem lead_fits (byte : UInt8) : (lead byte).Fits byte := by
  unfold lead
  simp only
  split
  · rfl
  · repeat' split
    all_goals first
      | trivial
      | exact Begun.isWide_of_range (by simp at *; omega)

/-- What one byte shows and leaves: nothing, with a character begun; or no
digit; or, behind what was given up, the digit that the byte is. -/
inductive Shows (state : State) (byte : UInt8) : List Char × State → Prop
  | nothing {next : State} (wide : next.IsWide) (begun : next ≠ .between) :
      Shows state byte ([], next)
  | others {c : Char} {shown : List Char} {next : State} (wide : next.IsWide)
      (none : ∀ d ∈ c :: shown, d.isDigit = false) :
      Shows state byte (c :: shown, next)
  | digit (single : isDigitByte byte = true) :
      Shows state byte (finish state ++ [Char.ofNat byte.toNat], .between)

theorem Shows.finish_append {state : State} {byte : UInt8} {c : Char}
    (h : c.isDigit = false) : Shows state byte (finish state ++ [c], .between) := by
  have hall : ∀ d ∈ finish state ++ [c], d.isDigit = false := by
    intro d hd
    rcases List.mem_append.mp hd with hd | hd
    · exact isDigit_of_mem_finish hd
    · rw [List.mem_singleton.mp hd]
      exact h
  obtain ⟨d, ds, hcons⟩ := List.exists_cons_of_ne_nil (l := finish state ++ [c]) (by simp)
  rw [hcons] at hall ⊢
  exact .others trivial hall

theorem restart_shows (state : State) (byte : UInt8) :
    Shows state byte (restart state byte) := by
  have hfits := lead_fits byte
  unfold restart start
  cases hlead : lead byte with
  | single c =>
      rw [hlead] at hfits
      obtain rfl : c = Char.ofNat byte.toNat := hfits
      by_cases hdigit : isDigitByte byte = true
      · exact .digit hdigit
      · refine Shows.finish_append ?_
        rw [isDigit_ofNat]
        simpa [isDigitByte] using hdigit
  | begins b =>
      rw [hlead] at hfits
      simp only [List.append_nil]
      cases hstate : finish state with
      | nil => exact .nothing hfits (by simp)
      | cons d ds =>
          refine .others hfits ?_
          intro c hc
          exact isDigit_of_mem_finish (hstate ▸ hc)
  | illFormed => exact Shows.finish_append (by decide)

theorem push_shows {state : State} (h : state.IsWide) (byte : UInt8) :
    Shows state byte (push state byte) := by
  unfold push
  split
  · next b =>
    split
    · next haccepts =>
      obtain ⟨hbits, hlast⟩ := h byte haccepts
      split
      · next hmissing =>
        have := hlast hmissing
        refine .others trivial ?_
        simp [isDigit_ofNat]
        omega
      · refine .nothing (Begun.isWide_of_range ?_) (by simp)
        simp
        omega
    · split
      · exact .nothing trivial (by simp)
      · exact restart_shows _ byte
  · exact restart_shows _ byte

/-! ## What a text of bytes shows -/

theorem read_cons (state : State) (byte : UInt8) (bytes : List UInt8) :
    (read state (byte :: bytes)).1 =
      (push state byte).1 ++ (read (push state byte).2 bytes).1 := rfl

/-- Digits at the front of what bytes show are bytes at their front, and after
part of a character there are none. -/
theorem exists_prefix_of_read_eq_append {state : State} {bytes : List UInt8}
    {run rest : List Char} (hwide : state.IsWide)
    (hread : (read state bytes).1 = run ++ rest) (hrun : ∀ c ∈ run, c.isDigit = true) :
    (state ≠ .between → run = []) ∧
      ∃ front, front <+: bytes ∧ (∀ b ∈ front, isDigitByte b = true) ∧
        front.length = run.length := by
  induction bytes generalizing state run with
  | nil =>
      obtain ⟨rfl, -⟩ := List.append_eq_nil_iff.mp hread.symm
      exact ⟨fun _ => rfl, [], List.nil_prefix, by simp, rfl⟩
  | cons byte bytes ih =>
      cases run with
      | nil => exact ⟨fun _ => rfl, [], List.nil_prefix, by simp, rfl⟩
      | cons c run =>
          have hc : c.isDigit = true := hrun c (by simp)
          rw [read_cons] at hread
          have hshows := push_shows hwide byte
          generalize push state byte = pushed at hread hshows
          cases hshows with
          | nothing wide begun =>
              have := (ih wide hread hrun).1 begun
              cases this
          | others wide none =>
              obtain ⟨rfl, -⟩ := List.cons.inj hread
              rw [none _ (by simp)] at hc
              cases hc
          | digit single =>
              cases hstate : finish state with
              | cons d ds =>
                  rw [hstate] at hread
                  obtain ⟨rfl, -⟩ := List.cons.inj hread
                  rw [isDigit_of_mem_finish (show d ∈ finish state by simp [hstate])] at hc
                  cases hc
              | nil =>
                  rw [hstate] at hread
                  obtain ⟨-, htail⟩ := List.cons.inj hread
                  obtain ⟨-, front, hfront, hall, hlength⟩ :=
                    ih between_isWide htail (fun d hd => hrun d (by simp [hd]))
                  refine ⟨?_, byte :: front, List.cons_prefix_cons.mpr ⟨rfl, hfront⟩, ?_, ?_⟩
                  · intro hbetween
                    cases state <;> simp [finish] at hstate hbetween
                  · simpa [single] using hall
                  · simp [hlength]

theorem append_eq_append_cons_digit {shown others before tail : List Char} {c : Char}
    (h : shown ++ others = before ++ c :: tail)
    (hshown : ∀ d ∈ shown, d.isDigit = false) (hc : c.isDigit = true) :
    ∃ more, before = shown ++ more ∧ others = more ++ c :: tail := by
  rcases List.append_eq_append_iff.mp h with ⟨more, hbefore, hothers⟩ | ⟨more, hsplit, htail⟩
  · exact ⟨more, hbefore, hothers⟩
  · cases more with
    | nil => exact ⟨[], by simpa using hsplit.symm, by simpa using htail.symm⟩
    | cons d ds =>
        obtain ⟨rfl, -⟩ := List.cons.inj htail
        rw [hshown c (by simp [hsplit])] at hc
        cases hc

/-- A run of digits in what bytes show comes from a run of digit bytes. -/
theorem exists_infix_of_read_eq_append {state : State} {bytes : List UInt8}
    {before run after : List Char} (hwide : state.IsWide)
    (hread : (read state bytes).1 = before ++ (run ++ after))
    (hrun : ∀ c ∈ run, c.isDigit = true) :
    ∃ digits, digits <:+: bytes ∧ (∀ b ∈ digits, isDigitByte b = true) ∧
      digits.length = run.length := by
  cases run with
  | nil => exact ⟨[], List.nil_infix, by simp, rfl⟩
  | cons c run =>
      have hc : c.isDigit = true := hrun c (by simp)
      induction bytes generalizing state before with
      | nil =>
          have := congrArg List.length hread
          simp [read] at this
      | cons byte bytes ih =>
          have hlater {next : State} {more : List Char} (wide : next.IsWide)
              (h : (read next bytes).1 = more ++ (c :: run ++ after)) :
              ∃ digits, digits <:+: byte :: bytes ∧
                (∀ b ∈ digits, isDigitByte b = true) ∧
                digits.length = (c :: run).length := by
            obtain ⟨digits, hinfix, hdigits⟩ := ih wide h
            exact ⟨digits, hinfix.trans (List.suffix_cons _ _).isInfix, hdigits⟩
          rw [read_cons] at hread
          have hshows := push_shows hwide byte
          generalize push state byte = pushed at hread hshows
          cases hshows with
          | nothing wide begun => exact hlater wide hread
          | others wide none =>
              obtain ⟨more, -, hmore⟩ := append_eq_append_cons_digit hread none hc
              exact hlater wide hmore
          | digit single =>
              rw [List.append_assoc] at hread
              obtain ⟨more, -, hmore⟩ := append_eq_append_cons_digit hread
                (fun d hd => isDigit_of_mem_finish hd) hc
              cases more with
              | cons d ds => exact hlater between_isWide (List.cons.inj hmore).2
              | nil =>
                  -- the run starts at this byte, and the bytes after it go on with it
                  obtain ⟨-, front, hfront, hall, hlength⟩ :=
                    exists_prefix_of_read_eq_append between_isWide
                      (List.cons.inj hmore).2 (fun d hd => hrun d (by simp [hd]))
                  refine ⟨byte :: front,
                    (List.cons_prefix_cons.mpr ⟨rfl, hfront⟩).isInfix, ?_, ?_⟩
                  · simpa [single] using hall
                  · simp [hlength]

theorem runsWithin_read {most : Nat} {bytes : List UInt8}
    (h : RunsWithin isDigitByte most bytes) :
    RunsWithin Char.isDigit most (read .between bytes).1 := by
  intro run hrun hall
  obtain ⟨before, after, heq⟩ := hrun
  obtain ⟨digits, hdigits, hbytes, hlength⟩ :=
    exists_infix_of_read_eq_append between_isWide
      (by rw [← heq, List.append_assoc]) hall
  rw [← hlength]
  exact h digits hdigits hbytes

end DocLedger.Text.Utf8
