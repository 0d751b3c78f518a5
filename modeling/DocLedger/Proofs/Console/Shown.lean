import DocLedger.Console.Layout
import DocLedger.Console.Markup
import Mathlib.Data.List.TakeWhile

/-!
# Shown text

Text without brackets holds no marks, and a colon before a blank begins no shortcode, so
such a text is shown as it is written.  Text between an opening tag and the closing tag of
the same name is shown without the two tags.  A line of printable characters that is no
longer than the terminal is wide stays one line.
-/

namespace DocLedger.Console

/-! ## Text without shortcodes -/

theorem replaceCodes_append_of_no_colon {front : List Char} (h : ':' ∉ front)
    (rest : List Char) : replaceCodes 0 (front ++ rest) = front ++ replaceCodes 0 rest := by
  induction front with
  | nil => rfl
  | cons c front ih =>
      rw [List.mem_cons, not_or] at h
      have hcolon : (c == ':') = false := beq_false_of_ne fun heq => h.1 heq.symm
      rw [List.cons_append, replaceCodes, hcolon]
      exact congrArg (c :: ·) (ih h.2)

theorem replaceCodes_colon_blank (rest : List Char) :
    replaceCodes 0 (':' :: ' ' :: rest) = ':' :: ' ' :: replaceCodes 0 rest := by
  have hname : codeName? (' ' :: rest) = none := by
    have hblank : Text.isBlank ' ' = true := by decide
    rw [codeName?, List.takeWhile_cons_of_pos (by decide)]
    simp [hblank]
  have hblank := replaceCodes_append_of_no_colon (show ':' ∉ [' '] by decide) rest
  rw [replaceCodes, if_pos (by decide), hname]
  exact congrArg (':' :: ·) hblank

theorem replaceCodes_of_no_colon {cs : List Char} (h : ':' ∉ cs) : replaceCodes 0 cs = cs := by
  have happend := replaceCodes_append_of_no_colon h []
  rwa [List.append_nil, replaceCodes, List.append_nil] at happend

theorem render_of_ofString {markup : String} {m : Marked} (h : Marked.ofString markup = .ok m) :
    render markup = m.shown := by
  rw [render, h]
  rfl

theorem render_of_no_bracket {markup : String} (h : '[' ∉ markup.toList) :
    render markup = .ok (String.ofList (withPictograms markup.toList)) := by
  have hnone : markup.toList.contains '[' = false := by simpa using h
  have hmarked : Marked.ofString markup = .ok ⟨withPictograms markup.toList, []⟩ := by
    simp only [Marked.ofString, hnone, Bool.false_eq_true, if_false]
  rw [render_of_ofString hmarked]
  rfl

/-! ## Reading tags -/

section

variable {inside : List Char} {opened rest : List OpenTag} {word name : String}

theorem applyTag_of_opening (hslash : (tagName inside).head? ≠ some '/')
    (hword : String.ofList (tagName inside) = word) (hname : normalStyle word = .ok name)
    (position : Nat) (opened : List OpenTag) :
    applyTag position inside opened = .ok (⟨name, tagParameters? inside⟩ :: opened) := by
  unfold applyTag
  split
  case h_1 hcons => simp [hcons] at hslash
  case h_2 =>
    rw [hword, hname]
    rfl

theorem close?_head (tag : OpenTag) (opened : List OpenTag) :
    close? tag.name (tag :: opened) = some (tag, opened) := by
  simp [close?]

theorem applyTag_of_closing {closed : List Char} {tag : OpenTag}
    (hslash : tagName inside = '/' :: closed) (hblank : closed.all Text.isBlank = false)
    (hword : String.ofList (Text.trim closed) = word) (hname : normalStyle word = .ok name)
    (hopened : close? name opened = some (tag, rest)) (htag : tag.close = .ok ())
    (position : Nat) :
    applyTag position inside opened = .ok rest := by
  simp only [applyTag, hslash, hblank, Bool.false_eq_true, if_false]
  rw [hword, hname]
  simp only [bind, Except.bind, hopened, htag]
  rfl

namespace Marked

variable {position : Nat} {pieces : List Piece} {m : Marked}

theorem ofPieces_of_opening {tag : OpenTag} (hslash : (tagName inside).head? ≠ some '/')
    (hopen : applyTag position inside opened = .ok (tag :: opened))
    (hpieces : ofPieces (tag :: opened) pieces = .ok m) :
    ofPieces opened (.tag position inside :: pieces) =
      .ok { m with styles := tag.style :: m.styles } := by
  have hhead : ((tagName inside).head? == some '/') = false := by simpa using hslash
  simp only [ofPieces, hopen, bind, Except.bind, hpieces, hhead]
  rfl

theorem ofPieces_of_closing (hslash : (tagName inside).head? = some '/')
    (hclose : applyTag position inside opened = .ok rest)
    (hpieces : ofPieces rest pieces = .ok m) :
    ofPieces opened (.tag position inside :: pieces) = .ok m := by
  simp only [ofPieces, hclose, bind, Except.bind, hpieces, hslash]
  rfl

theorem ofPieces_plain (cs : List Char) (hpieces : ofPieces opened pieces = .ok m) :
    ofPieces opened (.plain cs :: pieces) = .ok (m.after (shownText cs)) := by
  rw [ofPieces, hpieces]
  rfl

/-- Marked text of one style is shown if the name of the style can be read. -/
theorem shown_of_ofName {style : Option Style} (h : Style.ofName name = .ok style)
    (text : List Char) : shown ⟨text, [name]⟩ = .ok (String.ofList text) := by
  simp only [shown, List.mapM_cons, List.mapM_nil, h]
  rfl

end Marked

end

/-! ## Text in a style -/

/-- The name of a style that a tag can hold, and that is its own normal form. -/
structure StyleName (word : String) : Prop where
  noEquals : '=' ∉ word.toList
  noSlash : word.toList.head? ≠ some '/'
  trimmed : Text.trim word.toList = word.toList
  notBlank : word.toList.all Text.isBlank = false
  normal : normalStyle word = .ok word
  readable : ∃ style, Style.ofName word = .ok style

namespace StyleName

variable {word : String}

theorem tagName_eq (h : StyleName word) : tagName word.toList = word.toList := by
  rw [tagName, List.takeWhile_eq_self_iff]
  intro c hc
  have hne : c ≠ '=' := fun heq => h.noEquals (heq ▸ hc)
  simpa using hne

theorem tagName_slash (h : StyleName word) :
    tagName ('/' :: word.toList) = '/' :: word.toList := by
  rw [tagName, List.takeWhile_cons_of_pos (by decide)]
  exact congrArg _ h.tagName_eq

theorem applyTag_opens (h : StyleName word) (position : Nat) (opened : List OpenTag) :
    applyTag position word.toList opened = .ok (⟨word, none⟩ :: opened) := by
  have hparameters : tagParameters? word.toList = none := by
    simpa [tagParameters?] using h.noEquals
  have hopening := applyTag_of_opening (by rw [h.tagName_eq]; exact h.noSlash)
    (by rw [h.tagName_eq, String.ofList_toList]) h.normal position opened
  rwa [hparameters] at hopening

theorem applyTag_closes (h : StyleName word) (position : Nat) (opened : List OpenTag) :
    applyTag position ('/' :: word.toList) (⟨word, none⟩ :: opened) = .ok opened :=
  applyTag_of_closing h.tagName_slash h.notBlank (by rw [h.trimmed, String.ofList_toList])
    h.normal (close?_head ⟨word, none⟩ opened) (by simp [OpenTag.close]) position

/-- Text between an opening tag and its closing tag is shown without them. -/
theorem render_of_pieces (h : StyleName word) {markup : String} {text : List Char}
    {first last : Nat} (hmarks : '[' ∈ markup.toList)
    (hpieces : pieces markup.toList =
      [.tag first word.toList, .plain text, .tag last ('/' :: word.toList)]) :
    render markup = .ok (String.ofList (shownText text)) := by
  have hlast : Marked.ofPieces [⟨word, none⟩] [.tag last ('/' :: word.toList)] = .ok ⟨[], []⟩ :=
    Marked.ofPieces_of_closing (by rw [h.tagName_slash]; rfl) (h.applyTag_closes last []) rfl
  have hmarked : Marked.ofString markup = .ok ⟨shownText text, [word]⟩ := by
    have hcontains : markup.toList.contains '[' = true := by simpa using hmarks
    have hall := Marked.ofPieces_of_opening (by rw [h.tagName_eq]; exact h.noSlash)
      (h.applyTag_opens first []) (Marked.ofPieces_plain text hlast)
    simp only [Marked.ofString, hcontains, if_true, hpieces, hall, Marked.after, List.append_nil]
    rfl
  obtain ⟨style, hstyle⟩ := h.readable
  rw [render_of_ofString hmarked]
  exact Marked.shown_of_ofName hstyle _

end StyleName

/-! ## Colours -/

/-- A word that is neither a keyword nor an attribute is read as a colour. -/
theorem Style.read_of_colour {word name : String} {known : Bool} (s : Style)
    (hname : Text.lower word = name) (hkeyword : name ∉ ["on", "not", "link"])
    (hattribute : attribute? name = none) (hcolour : isColour name = .ok known)
    (more : List String) :
    s.read (word :: more) =
      if known then { s with colour := some name }.read more else .ok none := by
  rw [Style.read.eq_def]
  simp only [hname]
  split
  case h_7 =>
    rw [hattribute]
    simp only [hcolour]
    rfl
  all_goals simp at hkeyword

/-- A word in lower case that can be read as nothing but a colour. -/
structure ColourWord (word : String) : Prop where
  noEquals : '=' ∉ word.toList
  noSlash : word.toList.head? ≠ some '/'
  trimmed : Text.trim word.toList = word.toList
  notBlank : word.toList.all Text.isBlank = false
  words : (if Text.trimmed word == "none" then [] else Text.words word) = [word]
  lower : Text.lower word = word
  noKeyword : word ∉ ["on", "not", "link"]
  noAttribute : attribute? word = none
  noNumber : word.toList.head? ≠ some '#'
  noDigits : bracketed? "color(" word.toList = none
  noMixture : bracketed? "rgb(" word.toList = none

namespace ColourWord

variable {word : String}

-- The table of colours is too large to be searched here, and need not be: the name is its
-- own normal form whether it is that of a colour or not.
theorem isColour (h : ColourWord word) : ∃ known, Console.isColour word = .ok known := by
  have hnumber : (word.toList.head? == some '#') = false := by simpa using h.noNumber
  unfold Console.isColour
  split
  · exact ⟨true, rfl⟩
  · exact ⟨false, by simp only [hnumber, h.noDigits, h.noMixture, Bool.false_eq_true, if_false]⟩

theorem ofName (h : ColourWord word) {known : Bool} (hknown : Console.isColour word = .ok known) :
    Style.ofName word =
      .ok (if known then some { Style.plain with colour := some word } else none) := by
  rw [Style.ofName, h.words,
    Style.read_of_colour Style.plain h.lower h.noKeyword h.noAttribute hknown]
  cases known <;> rfl

theorem normalStyle (h : ColourWord word) : Console.normalStyle word = .ok word := by
  obtain ⟨known, hknown⟩ := h.isColour
  have htrimmed : Text.trimmed word = word := by
    rw [Text.trimmed, h.trimmed, String.ofList_toList]
  have hwords : ({ Style.plain with colour := some word } : Style).words = [word] := rfl
  rw [Console.normalStyle, h.ofName hknown]
  cases known with
  | false => simp only [Bool.false_eq_true, if_false, bind, Except.bind, htrimmed, h.lower]; rfl
  | true =>
      simp only [if_true, bind, Except.bind, hwords]
      rfl

theorem styleName (h : ColourWord word) : StyleName word := by
  obtain ⟨known, hknown⟩ := h.isColour
  exact ⟨h.noEquals, h.noSlash, h.trimmed, h.notBlank, h.normalStyle, _, h.ofName hknown⟩

end ColourWord

theorem styleName_green : StyleName "green" :=
  ColourWord.styleName (by constructor <;> decide +kernel)

theorem styleName_red : StyleName "red" :=
  ColourWord.styleName (by constructor <;> decide +kernel)

/-! ## Lines that fit -/

/-- Whether a character takes one cell on every terminal, and ends no line. -/
def isPrintable (c : Char) : Bool := decide (32 ≤ c.toNat) && decide (c.toNat < 127)

section

variable {c : Char} (h : isPrintable c = true)
include h

theorem cells_of_printable : Text.cells c = 1 := if_pos h

theorem le_toNat_of_printable : 32 ≤ c.toNat := by
  rw [isPrintable, Bool.and_eq_true] at h
  exact of_decide_eq_true h.1

theorem isLeftOut_of_printable : isLeftOut c = false := by
  have hlow := le_toNat_of_printable h
  have hne (n : Nat) (hn : n < 32) : c.toNat ≠ n := by omega
  simp [isLeftOut, hne]

end

section

variable {cs : List Char} (h : cs.all isPrintable = true)
include h

theorem width_of_printable : Text.width cs = cs.length := by
  induction cs with
  | nil => rfl
  | cons c cs ih =>
      rw [List.all_cons, Bool.and_eq_true] at h
      rw [Text.width, cells_of_printable h.1, ih h.2, List.length_cons, Nat.add_comm]

theorem not_mem_of_printable {c : Char} (hlow : c.toNat < 32) : c ∉ cs := by
  intro hmem
  have hc := le_toNat_of_printable (List.all_eq_true.mp h c hmem)
  omega

theorem wrapLine_of_printable {width : Nat} (hfits : cs.length ≤ width) (o : Overflow) :
    wrapLine width o cs = [cs] := by
  have htab : cs.contains '\t' = false := by
    simpa using not_mem_of_printable h (c := '\t') (by decide)
  have hwidth : Text.width cs ≤ width := (width_of_printable h).trans_le hfits
  have hexcess : withoutExcess width cs = cs := by
    simp [withoutExcess, Nat.sub_eq_zero_of_le hfits]
  simp only [wrapLine, htab, Bool.false_eq_true, if_false, if_pos hwidth, List.map_cons,
    List.map_nil, hexcess, truncated]

end

/-- Printable characters that fit into a line are one. -/
theorem wrap_of_printable {text : String} (h : text.toList.all isPrintable = true) {width : Nat}
    (hfits : text.toList.length ≤ width) (o : Overflow) :
    wrap width o text = [text.toList] := by
  have hkept : withoutControls text.toList = text.toList := by
    rw [withoutControls, List.filter_eq_self]
    intro c hc
    rw [isLeftOut_of_printable (List.all_eq_true.mp h c hc)]
    rfl
  have hline : '\n' ∉ text.toList := not_mem_of_printable h (by decide)
  rw [wrap, hkept, List.splitOn_eq_singleton hline, List.flatMap_singleton,
    wrapLine_of_printable h hfits]

end DocLedger.Console
