import DocLedger.Proofs.Json.Composed

/-!
# JSON in printable ASCII

A style that escapes writes nothing but the printable characters of ASCII, whatever the value
is: the controls and the characters outside ASCII, those of them that need two units too, stand
as numbered escapes.
-/

namespace DocLedger.Json

/-- A character is printable and within ASCII. -/
def Printable (c : Char) : Prop := 0x20 ≤ c.toNat ∧ c.toNat ≤ 0x7e

instance (c : Char) : Decidable (Printable c) := inferInstanceAs (Decidable (_ ∧ _))

def AllPrintable (cs : List Char) : Prop := ∀ c ∈ cs, Printable c

instance (cs : List Char) : Decidable (AllPrintable cs) := List.decidableBAll Printable cs

namespace AllPrintable

theorem append {cs ds : List Char} (hcs : AllPrintable cs) (hds : AllPrintable ds) :
    AllPrintable (cs ++ ds) := by
  intro c hc
  rcases List.mem_append.mp hc with hc | hc
  · exact hcs c hc
  · exact hds c hc

/-! ### Characters of strings -/

theorem digitChar {d : Nat} (hd : d < 16) : Printable d.digitChar := by
  have hall : ∀ d : Fin 16, Printable d.val.digitChar := by decide
  exact hall ⟨d, hd⟩

theorem unitEscape {n : Nat} (hn : n < 0x10000) : AllPrintable (unitEscape n) := by
  rw [Json.unitEscape, hex_four hn]
  intro c hc
  simp only [List.mem_cons, List.not_mem_nil, or_false] at hc
  rcases hc with rfl | rfl | rfl | rfl | rfl | rfl
  · decide
  · decide
  · exact digitChar (by omega)
  · exact digitChar (by omega)
  · exact digitChar (by omega)
  · exact digitChar (by omega)

/-- A character beyond the first plane is escaped by its two halves. -/
theorem numberedEscape (c : Char) : AllPrintable (numberedEscape c) := by
  by_cases hsmall : c.toNat < 0x10000
  · rw [Json.numberedEscape, if_pos hsmall]
    exact unitEscape hsmall
  · obtain ⟨high, low, hescape, hhigh, hlow, -⟩ := exists_halves hsmall
    simp only [isHighHalf, isLowHalf, Bool.and_eq_true, decide_eq_true_eq] at hhigh hlow
    rw [hescape]
    apply append
    · exact unitEscape (by omega)
    · exact unitEscape (by omega)

theorem character (c : Char) : AllPrintable (character true c) := by
  rw [Json.character]
  split
  · next hself =>
    rcases Bool.or_eq_true .. |>.mp hself with hquote | hback
    · rw [eq_of_beq hquote]
      decide
    · rw [eq_of_beq hback]
      decide
  split
  · decide
  split
  · decide
  split
  · decide
  split
  · decide
  split
  · decide
  split
  · exact numberedEscape c
  · next hplain =>
    simp only [Bool.true_and, Bool.or_eq_true, decide_eq_true_eq, not_or] at hplain
    intro d hd
    obtain rfl := List.mem_singleton.mp hd
    constructor
    · omega
    · omega

theorem string (cs : List Char) : AllPrintable (string true cs) := by
  have hquote : AllPrintable [Text.Quoted.double] := by decide
  have hbody : AllPrintable (cs.flatMap (Json.character true)) := by
    intro d hd
    obtain ⟨c, -, hc⟩ := List.mem_flatMap.mp hd
    exact character c d hc
  exact (hquote.append hbody).append hquote

/-! ### Numbers -/

theorem of_isNumeric {c : Char} (h : Number.IsNumeric c) : Printable c := by
  rcases h with hdigit | hmark
  · simp only [Char.isDigit, ge_iff_le, Bool.and_eq_true, decide_eq_true_eq] at hdigit
    have hlow : 48 ≤ c.toNat := hdigit.1
    have hhigh : c.toNat ≤ 57 := hdigit.2
    constructor
    · omega
    · omega
  · have hall : AllPrintable ['.', 'e', 'E', '+', '-'] := by decide
    exact hall c hmark

theorem intDigits (n : Int) : AllPrintable (Number.intDigits n) := by
  intro c hc
  rcases Number.mem_intDigits hc with rfl | hdigit
  · decide
  · exact of_isNumeric (Or.inl hdigit)

theorem double (x : Float) : AllPrintable (Number.Layout.document.double x) := by
  cases hparts : Number.parts x with
  | notANumber =>
      rw [Number.Layout.double, hparts]
      decide
  | infinite negative =>
      rw [Number.Layout.double, hparts]
      cases negative with
      | true => decide
      | false => decide
  | finite negative mantissa exponent =>
      have hfinite : Number.isFinite x = true := by rw [Number.isFinite, hparts]
      intro c hc
      exact of_isNumeric (Number.isNumeric_double _ hfinite c hc)

/-- With printable separators all that is written is printable. -/
theorem composes {style : Style} (hascii : style.ascii = true) (hcomma : AllPrintable style.comma)
    (hcolon : AllPrintable style.colon) : Composes style AllPrintable where
  append := append
  nil := nofun
  mark := by
    intro c hc d hd
    obtain rfl := List.mem_singleton.mp hd
    have hall : AllPrintable ['[', ']', '\x7b', '\x7d'] := by decide
    exact hall d hc
  comma := hcomma
  colon := hcolon
  word := by
    intro w hw
    have hall : ∀ w ∈ ["null", "true", "false"], AllPrintable w.toList := by decide
    exact hall w hw
  integer := intDigits
  double _ := double _
  string cs := by
    rw [hascii]
    exact string cs

end AllPrintable

/-- A log line has printable characters only, whatever is logged. -/
theorem allPrintable_of_render_logged {v : Value} {cs : List Char}
    (h : render .logged v = .ok cs) : AllPrintable cs :=
  (AllPrintable.composes rfl (by decide) (by decide)).of_render h

end DocLedger.Json
