import DocLedger.Proofs.Json.Room
import DocLedger.Proofs.Json.Written
import DocLedger.Proofs.Number.Spelling

/-!
# What JSON on one line is made of

A value is written from a few kinds of pieces, so what holds of these pieces and of
texts put together holds of all that is written.  In particular a reader that only
tells strings from what stands between them finds, in the compact style, no blank
between the strings and no control character anywhere.
-/

namespace DocLedger.Json

variable {style : Style}

/-- A property of texts that the pieces of JSON in a style have, and that is kept when
texts are put together. -/
structure Composes (style : Style) (T : List Char → Prop) : Prop where
  append {cs ds : List Char} : T cs → T ds → T (cs ++ ds)
  nil : T []
  mark {c : Char} : c ∈ ['[', ']', '\x7b', '\x7d'] → T [c]
  comma : T style.comma
  colon : T style.colon
  word {w : String} : w ∈ ["null", "true", "false"] → T w.toList
  integer (n : Int) : T (Number.intDigits n)
  double {x : Float} : (style.finite = true → Number.isFinite x = true) →
    T (Number.Layout.document.double x)
  string (cs : List Char) : T (string style.ascii cs)

theorem integer_eq_ok {n : Int} {cs : List Char} (h : integer n = .ok cs) :
    cs = Number.intDigits n := by
  rw [integer] at h
  split at h
  · cases h
  · cases h
    rfl

theorem double_eq_ok {x : Float} {cs : List Char} (h : double style x = .ok cs) :
    (style.finite = true → Number.isFinite x = true) ∧ cs = Number.Layout.document.double x := by
  rw [double] at h
  split at h
  · cases h
  · next hfinite =>
      cases h
      refine ⟨?_, rfl⟩
      intro hstyle
      simpa [hstyle] using hfinite

namespace Composes

variable {T : List Char → Prop} {cs : List Char}

theorem of_integer (hT : Composes style T) {n : Int} (h : Json.integer n = .ok cs) : T cs := by
  rw [integer_eq_ok h]
  exact hT.integer n

theorem of_double (hT : Composes style T) {x : Float} (h : Json.double style x = .ok cs) :
    T cs := by
  obtain ⟨hfinite, htext⟩ := double_eq_ok h
  rw [htext]
  exact hT.double hfinite

theorem of_foreignValue (hT : Composes style T) {v : Value} (h : foreignValue style v = .ok cs) :
    T cs := by
  rw [foreignValue.eq_def] at h
  split at h
  · cases h
  · split at h
    · cases h
    · cases h
      exact hT.string _
  · split at h
    · next bytes =>
      cases h
      have hopen := hT.append (hT.mark (c := '\x7b') (by decide)) (hT.string bytesKey.toList)
      have hbody := hT.append (hT.append hopen hT.colon) (hT.string (byteDigits bytes))
      exact hT.append hbody (hT.mark (by decide))
    · split at h
      · cases h
      · cases h
        exact hT.string _

theorem of_separated (hT : Composes style T) {texts : List (List Char)}
    (h : ∀ text ∈ texts, T text) : T (separated style texts) := by
  fun_induction separated style texts with
  | case1 => exact hT.nil
  | case2 text => exact h text List.mem_cons_self
  | case3 text rest hrest ih =>
      have htext := hT.append (h text List.mem_cons_self) hT.comma
      exact hT.append htext (ih fun t ht => h t (List.mem_cons_of_mem _ ht))

theorem of_enclosed (hT : Composes style T) {texts : List (List Char)} {front back : Char}
    (hfront : front ∈ ['[', ']', '\x7b', '\x7d']) (hback : back ∈ ['[', ']', '\x7b', '\x7d'])
    (h : ∀ text ∈ texts, T text) : T (front :: separated style texts ++ [back]) :=
  hT.append (hT.append (hT.mark hfront) (hT.of_separated h)) (hT.mark hback)

theorem inside (hT : Composes style T) {inner : Style} (h : style.inside? = some inner) :
    Composes inner T := by
  rw [(Style.inside?_eq_some h).2]
  exact ⟨hT.append, hT.nil, hT.mark, hT.comma, hT.colon, hT.word, hT.integer, hT.double,
    hT.string⟩

mutual

/-- What holds of the pieces holds of all that is written. -/
theorem of_render {style : Style} (hT : Composes style T) {v : Value} {cs : List Char}
    (h : render style v = .ok cs) : T cs := by
  cases v with
  | null =>
      cases h
      exact hT.word (by decide)
  | bool b =>
      cases h
      cases b with
      | false => exact hT.word (by decide)
      | true => exact hT.word (by decide)
  | int n =>
      rw [render] at h
      exact hT.of_integer h
  | float x =>
      rw [render] at h
      exact hT.of_double h
  | text s =>
      cases h
      exact hT.string _
  | list items | tuple items =>
      rw [render] at h
      obtain ⟨inner, texts, hinside, htexts, rfl⟩ := container_eq_ok_iff.mp h
      exact hT.of_enclosed (by decide) (by decide) (of_renderItems (hT.inside hinside) htexts)
  | mapping entries =>
      rw [render] at h
      obtain ⟨inner, texts, hinside, htexts, rfl⟩ := container_eq_ok_iff.mp h
      exact hT.of_enclosed (by decide) (by decide) (of_renderEntries (hT.inside hinside) htexts)
  | loop => cases h
  | bytes | set | decimal | moment | record =>
      rw [render] at h
      exact hT.of_foreignValue h

theorem of_renderItems {style : Style} (hT : Composes style T) {items : List Value} {texts : List (List Char)}
    (h : renderItems style items = .ok texts) : ∀ text ∈ texts, T text := by
  cases items with
  | nil =>
      cases h
      exact List.forall_mem_nil _
  | cons v rest =>
      rw [renderItems] at h
      split at h
      · cases h
      · next hitem =>
          split at h
          · cases h
          · next hrest =>
              cases h
              exact List.forall_mem_cons.mpr ⟨of_render hT hitem, of_renderItems hT hrest⟩

theorem of_renderEntries {style : Style} (hT : Composes style T)
    {entries : List (Value × Value)} {texts : List (List Char)}
    (h : renderEntries style entries = .ok texts) : ∀ text ∈ texts, T text := by
  cases entries with
  | nil =>
      cases h
      exact List.forall_mem_nil _
  | cons e rest =>
      rw [renderEntries] at h
      split at h
      · cases h
      · next key hkey =>
          split at h
          · cases h
          · next hitem =>
              split at h
              · cases h
              · next hrest =>
                  cases h
                  have hfront := hT.append (hT.string key) hT.colon
                  exact List.forall_mem_cons.mpr
                    ⟨hT.append hfront (of_render hT hitem), of_renderEntries hT hrest⟩

end

end Composes

/-! ## Inside and outside strings -/

/-- Where a reader of JSON stands. -/
inductive Spot
  | outside
  | inside
  /-- Inside a string, behind a backslash. -/
  | escaped
deriving Repr, DecidableEq

namespace Spot

/-- The place behind one more character. -/
def next (p : Spot) (c : Char) : Spot :=
  match p with
  | outside => if c = Text.Quoted.double then inside else outside
  | inside =>
    if c = Text.Quoted.backslash then escaped
    else if c = Text.Quoted.double then outside
    else inside
  | escaped => inside

/-- The place behind a text. -/
def after (p : Spot) (cs : List Char) : Spot := cs.foldl next p

/-- The characters of a text that a reader passes outside strings. -/
def bare (p : Spot) : List Char → List Char
  | [] => []
  | c :: rest => if p = outside then c :: bare (p.next c) rest else bare (p.next c) rest

theorem after_append (p : Spot) (cs ds : List Char) :
    p.after (cs ++ ds) = (p.after cs).after ds :=
  List.foldl_append

theorem bare_append (p : Spot) (cs ds : List Char) :
    p.bare (cs ++ ds) = p.bare cs ++ (p.after cs).bare ds := by
  induction cs generalizing p with
  | nil => rfl
  | cons c rest ih =>
      rw [List.cons_append, bare, bare, ih]
      split
      · rfl
      · rfl

end Spot

/-- A text that leaves a reader in the place where it stands, without control
characters, and without blanks where the reader is outside strings. -/
structure Tidy (p : Spot) (cs : List Char) : Prop where
  stays : p.after cs = p
  printable : ∀ c ∈ cs, 0x20 ≤ c.toNat
  unblanked : ∀ c ∈ p.bare cs, Text.isBlank c = false

namespace Tidy

variable {p : Spot} {cs ds : List Char}

theorem nil (p : Spot) : Tidy p [] := ⟨rfl, nofun, nofun⟩

theorem append (hcs : Tidy p cs) (hds : Tidy p ds) : Tidy p (cs ++ ds) where
  stays := by rw [Spot.after_append, hcs.stays, hds.stays]
  printable := List.forall_mem_append.mpr ⟨hcs.printable, hds.printable⟩
  unblanked := by
    rw [Spot.bare_append, hcs.stays]
    exact List.forall_mem_append.mpr ⟨hcs.unblanked, hds.unblanked⟩

/-- Whether a character may stand outside strings and is no quote. -/
def isBare (c : Char) : Bool :=
  c != Text.Quoted.double && decide (0x20 ≤ c.toNat) && !Text.isBlank c

/-- Texts without quotes and blanks are tidy outside strings. -/
theorem of_bare (h : cs.all isBare = true) : Tidy .outside cs := by
  induction cs with
  | nil => exact nil _
  | cons c rest ih =>
      rw [List.all_cons, Bool.and_eq_true] at h
      obtain ⟨hc, hrest⟩ := h
      simp only [isBare, Bool.and_eq_true, bne_iff_ne, ne_eq, decide_eq_true_eq,
        Bool.not_eq_true'] at hc
      obtain ⟨⟨hquote, hprintable⟩, hblank⟩ := hc
      have hone : Tidy .outside [c] := by
        refine ⟨if_neg hquote, ?_, ?_⟩
        · simpa using hprintable
        · simpa [Spot.bare] using hblank
      exact hone.append (ih hrest)

theorem enclosed (h : Tidy .inside cs) :
    Tidy .outside (Text.Quoted.double :: cs ++ [Text.Quoted.double]) := by
  refine ⟨?_, ?_, ?_⟩
  · rw [Spot.after_append, show Spot.outside.after (Text.Quoted.double :: cs) = .inside from h.stays]
    rfl
  · simp only [List.cons_append, List.forall_mem_cons, List.forall_mem_append]
    exact ⟨by decide, h.printable, by decide, nofun⟩
  · have hbare : Spot.outside.bare (Text.Quoted.double :: cs ++ [Text.Quoted.double]) =
        Text.Quoted.double :: Spot.inside.bare cs := by
      rw [List.cons_append, Spot.bare, if_pos rfl]
      change _ :: Spot.inside.bare _ = _
      rw [Spot.bare_append, h.stays]
      exact congrArg _ (List.append_nil _)
    rw [hbare]
    exact List.forall_mem_cons.mpr ⟨by decide, h.unblanked⟩

/-! ### Inside strings -/

theorem of_plain {c : Char} (hquote : c ≠ Text.Quoted.double) (hback : c ≠ Text.Quoted.backslash)
    (hprintable : 0x20 ≤ c.toNat) : Tidy .inside [c] := by
  refine ⟨?_, ?_, nofun⟩
  · simp [Spot.after, Spot.next, hquote, hback]
  · simpa using hprintable

theorem of_escape {c : Char} (hprintable : 0x20 ≤ c.toNat) :
    Tidy .inside [Text.Quoted.backslash, c] := by
  refine ⟨rfl, ?_, nofun⟩
  simp only [List.forall_mem_cons]
  exact ⟨by decide, hprintable, nofun⟩

theorem of_digitChar {d : Nat} (hd : d < 16) : Tidy .inside [d.digitChar] := by
  have hall : ∀ d : Fin 16, d.val.digitChar ≠ Text.Quoted.double ∧
      d.val.digitChar ≠ Text.Quoted.backslash ∧ 0x20 ≤ d.val.digitChar.toNat := by decide
  obtain ⟨hquote, hback, hprintable⟩ := hall ⟨d, hd⟩
  exact of_plain hquote hback hprintable

theorem of_unitEscape {n : Nat} (hn : n < 0x10000) : Tidy .inside (unitEscape n) := by
  rw [unitEscape, hex_four hn]
  have hmark : Tidy .inside [Text.Quoted.backslash, 'u'] := of_escape (by decide)
  have hfirst := hmark.append (of_digitChar (show n / 16 / 16 / 16 < 16 by omega))
  have hsecond := hfirst.append (of_digitChar (show n / 16 / 16 % 16 < 16 by omega))
  have hthird := hsecond.append (of_digitChar (show n / 16 % 16 < 16 by omega))
  exact hthird.append (of_digitChar (show n % 16 < 16 by omega))

theorem of_numberedEscape (c : Char) : Tidy .inside (numberedEscape c) := by
  by_cases hsmall : c.toNat < 0x10000
  · rw [numberedEscape, if_pos hsmall]
    exact of_unitEscape hsmall
  · obtain ⟨high, low, hescape, hhigh, hlow, -⟩ := exists_halves hsmall
    simp only [isHighHalf, isLowHalf, Bool.and_eq_true, decide_eq_true_eq] at hhigh hlow
    rw [hescape]
    exact (of_unitEscape (by omega)).append (of_unitEscape (by omega))

/-- Whatever the character, what is written for it neither ends the string nor leaves
an escape open. -/
theorem of_character (ascii : Bool) (c : Char) : Tidy .inside (character ascii c) := by
  rw [character]
  split
  · next hself =>
    rcases Bool.or_eq_true .. |>.mp hself with hquote | hback
    · rw [eq_of_beq hquote]
      exact of_escape (by decide)
    · rw [eq_of_beq hback]
      exact of_escape (by decide)
  · next hself =>
    simp only [Bool.or_eq_true, beq_iff_eq, not_or] at hself
    split
    · exact of_escape (by decide)
    split
    · exact of_escape (by decide)
    split
    · exact of_escape (by decide)
    split
    · exact of_escape (by decide)
    split
    · exact of_escape (by decide)
    split
    · exact of_numberedEscape c
    · next hplain =>
      refine of_plain hself.1 hself.2 ?_
      simp only [Bool.or_eq_true, decide_eq_true_eq, not_or] at hplain
      omega

theorem of_string (ascii : Bool) (cs : List Char) : Tidy .outside (string ascii cs) := by
  refine enclosed ?_
  induction cs with
  | nil => exact nil _
  | cons c rest ih =>
      rw [List.flatMap_cons]
      exact (of_character ascii c).append ih

/-! ### Numbers -/

theorem isBare_of_isNumeric {c : Char} (h : Number.IsNumeric c) : isBare c = true := by
  rcases h with hdigit | hmark
  · simp only [Char.isDigit, ge_iff_le, Bool.and_eq_true, decide_eq_true_eq] at hdigit
    have hlow : 48 ≤ c.toNat := hdigit.1
    have hhigh : c.toNat ≤ 57 := hdigit.2
    have hquote : c ≠ Text.Quoted.double := by
      rintro rfl
      exact absurd hlow (by decide)
    have hblank : Text.isBlank c = false := by
      simp only [Text.isBlank]
      grind
    simp [isBare, hquote, hblank, show 0x20 ≤ c.toNat by omega]
  · have hall : ['.', 'e', 'E', '+', '-'].all isBare = true := by decide
    exact List.all_eq_true.mp hall c hmark

theorem of_numeric (h : ∀ c ∈ cs, Number.IsNumeric c) : Tidy .outside cs :=
  of_bare (List.all_eq_true.mpr fun c hc => isBare_of_isNumeric (h c hc))

/-- With tidy separators and finite numbers alone, all that is written is tidy. -/
theorem composes (hcomma : Tidy .outside style.comma) (hcolon : Tidy .outside style.colon)
    (hfinite : style.finite = true) : Composes style (Tidy .outside) where
  append := append
  nil := nil _
  mark := by
    intro c hc
    have hall : ['[', ']', '\x7b', '\x7d'].all (fun c => [c].all isBare) = true := by decide
    exact of_bare (List.all_eq_true.mp hall c hc)
  comma := hcomma
  colon := hcolon
  word := by
    intro w hw
    have hall : ["null", "true", "false"].all (fun w => w.toList.all isBare) = true := by decide
    exact of_bare (List.all_eq_true.mp hall w hw)
  integer n := by
    refine of_numeric ?_
    intro c hc
    rcases Number.mem_intDigits hc with rfl | hdigit
    · exact .inr (by decide)
    · exact .inl hdigit
  double hx := of_numeric (Number.isNumeric_double _ (hx hfinite))
  string := of_string style.ascii

end Tidy

theorem tidy_of_render_compact {v : Value} {cs : List Char} (h : render .compact v = .ok cs) :
    Tidy .outside cs :=
  (Tidy.composes (Tidy.of_bare (by decide)) (Tidy.of_bare (by decide)) rfl).of_render h

theorem ne_nil_of_render_compact {v : Value} {cs : List Char} (h : render .compact v = .ok cs) :
    cs ≠ [] := by
  cases v with
  | null => cases h; decide
  | bool b => cases h; cases b <;> decide
  | int n =>
      rw [render] at h
      rw [integer_eq_ok h, Number.intDigits_eq]
      exact List.append_ne_nil_of_right_ne_nil _ (Number.natDigits_ne_nil _)
  | float x =>
      rw [render] at h
      obtain ⟨hfinite, htext⟩ := double_eq_ok h
      rw [htext]
      exact Number.double_ne_nil _ (hfinite rfl)
  | text s => cases h; exact List.cons_ne_nil _ _
  | list | tuple | mapping =>
      rw [render] at h
      obtain ⟨-, texts, -, -, rfl⟩ := container_eq_ok_iff.mp h
      exact List.cons_ne_nil _ _
  | loop | bytes | set | decimal | moment | record => cases h

end DocLedger.Json
