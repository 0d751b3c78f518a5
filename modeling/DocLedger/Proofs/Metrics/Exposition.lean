import DocLedger.Proofs.Metrics.Format
import DocLedger.Proofs.Number.Nearest

/-!
# The exposition read back

A line of the exposition is read back to its sample just in case the names are names of
the format, the amount has a text that is a number, and the values of the labels hold
nothing that has to be escaped.  A reader of a value with a quote, a backslash or the end
of a line comes to another sample, to more than one or to none, since the exposition puts
values between quotes as they are.
-/

namespace DocLedger.Metrics

open Format
open Number (Amount Decimal Nearest Places)

/-- A number that has been read stands for an amount.  A double stands for all numbers to
which it is the nearest. -/
def Stands (p : Places) : Amount → Prop
  | .whole n => p = .ofInt n
  | .decimal d => p = d
  | .double x =>
    match Number.parts x with
    | .notANumber => p = .undefined false false 0
    | .infinite negative => p = .infinite negative
    | .finite negative mantissa exponent => ∃ d : Decimal,
        p = .number negative d.digits d.exponent ∧ Nearest mantissa exponent d.value

/-- The amounts that have a text which is a number. -/
def Readable : Amount → Prop
  | .whole n => Number.tooLong n = false
  | .double _ => True
  | .decimal d => IsNumber d

def Sample.letters (s : Sample) : List (List Char × List Char) :=
  s.labels.map fun label => (label.1.toList, label.2.toList)

/-- A line says a sample: its name, its labels with their values, in their order, and its
amount. -/
structure Format.Reading.Says (r : Reading) (s : Sample) : Prop where
  name : r.name = s.name.toList
  labels : r.labels = s.letters
  value : Stands r.value s.value
  time : r.time = none

/-- A line is read back to a sample. -/
def Reads (line : List Char) (s : Sample) : Prop :=
  ∃ r, reading? line = some r ∧ r.Says s

/-- The lines of a text; the empty text has none. -/
def linesOf (text : String) : List (List Char) :=
  if text = "" then [] else text.toList.splitOn '\n'

/-- The lines of a text are read back to samples, one line to each, in their order. -/
def Faithful (text : String) (samples : List Sample) : Prop :=
  List.Forall₂ Reads (linesOf text) samples

/-- The samples that can be written without escapes. -/
structure Sample.Expressible (s : Sample) : Prop where
  name : IsName true s.name.toList
  labels : ∀ label ∈ s.letters, IsName false label.1
  values : ∀ label ∈ s.letters, Plain label.2
  value : Readable s.value

/-! ## Amounts -/

/-- Characters of the texts of amounts: no blanks, ends of lines or braces. -/
def isClear (c : Char) : Bool := !isGap c && c != '\n' && c != '\x7b'

theorem isClear_iff {c : Char} :
    isClear c = true ↔ isGap c = false ∧ c ≠ '\n' ∧ c ≠ '\x7b' := by
  simp [isClear, and_assoc]

theorem isClear_of_isNumeric {c : Char} (h : Number.IsNumeric c) : isClear c = true := by
  rcases h with hdigit | hmark
  · have hother {d : Char} (hd : d.isDigit = false) : c ≠ d := by
      rintro rfl
      rw [hdigit] at hd
      cases hd
    have hspace : c ≠ ' ' := hother rfl
    have htab : c ≠ '\t' := hother rfl
    exact isClear_iff.mpr ⟨by simp [isGap, hspace, htab], hother rfl, hother rfl⟩
  · have hall : ['.', 'e', 'E', '+', '-'].all isClear = true := by decide
    exact List.all_eq_true.mp hall c hmark

/-- A text of an amount that a reader takes for a number that stands for the amount. -/
structure Tells (cs : List Char) (a : Amount) : Prop where
  nonempty : cs ≠ []
  clear : cs.all isClear = true
  stands : ∃ p, number? cs = some p ∧ Stands p a

theorem tells_of_spells {cs : List Char} {d : Decimal} {a : Amount} (h : Number.Spells cs d)
    (negative : Bool) (ha : Stands (.number negative d.digits d.exponent) a) :
    Tells (Places.signed negative cs) a where
  nonempty := h.signed_ne_nil negative
  clear := List.all_eq_true.mpr fun c hc => isClear_of_isNumeric (h.isNumeric_signed negative c hc)
  stands := ⟨_, number?_of_spells h negative, ha⟩

/-- The names of amounts without digits. -/
theorem tells_of_name (name : String) {a : Amount} {p : Places}
    (hname : name ∈ ["nan", "inf", "-inf", "NaN", "Infinity", "-Infinity"])
    (hread : number? name.toList = some p) (ha : Stands p a) : Tells name.toList a := by
  have hall : ∀ name ∈ ["nan", "inf", "-inf", "NaN", "Infinity", "-Infinity"],
      name.toList ≠ [] ∧ name.toList.all isClear = true := by decide
  obtain ⟨hsome, hclear⟩ := hall name hname
  exact ⟨hsome, hclear, p, hread, ha⟩

theorem tells_double (x : Float) : Tells (Number.Layout.plain.double x) (.double x) := by
  cases hparts : Number.parts x with
  | notANumber =>
      rw [Number.Layout.double, hparts]
      exact tells_of_name "nan" (by decide) rfl (by rw [Stands, hparts])
  | infinite negative =>
      rw [Number.Layout.double, hparts]
      have ha : Stands (.infinite negative) (.double x) := by rw [Stands, hparts]
      cases negative with
      | true => exact tells_of_name "-inf" (by decide) rfl ha
      | false => exact tells_of_name "inf" (by decide) rfl ha
  | finite negative mantissa exponent =>
      obtain ⟨cs, d, htext, hspells, hnearest⟩ :=
        Number.exists_spells_nearest Number.Layout.plain hparts
      rw [htext]
      refine tells_of_spells hspells negative ?_
      rw [Stands, hparts]
      exact ⟨d, rfl, hnearest⟩

theorem tells_decimal {d : Places} (h : IsNumber d) : Tells d.text (.decimal d) := by
  cases d with
  | number negative digits exponent =>
      exact tells_of_spells (Number.spells_magnitude digits exponent) negative rfl
  | infinite negative =>
      cases negative with
      | true => exact tells_of_name "-Infinity" (by decide) rfl rfl
      | false => exact tells_of_name "Infinity" (by decide) rfl rfl
  | undefined negative signaling payload =>
      obtain ⟨rfl, rfl, rfl⟩ := h
      exact tells_of_name "NaN" (by decide) rfl rfl

theorem tells_whole (n : Int) : Tells (Number.intDigits n) (.whole n) := by
  have htext : Number.intDigits n =
      Places.signed (decide (n < 0)) (Number.natDigits n.natAbs) := by
    rw [Number.intDigits_eq, Places.signed]
    by_cases hn : n < 0
    · simp [hn]
    · simp [hn]
  have hspells := Number.spells_of_digits (Number.digits_natDigits n.natAbs)
    (Number.natDigits_ne_nil n.natAbs)
  rw [Number.digitsValue_natDigits] at hspells
  rw [htext]
  exact tells_of_spells hspells _ rfl

/-- An amount has a text unless it is a whole number beyond the limit. -/
theorem amountText_eq_ok_iff {a : Amount} {text : String} :
    amountText a = .ok text ↔
      (Value.ofAmount a).overlong = false ∧ text = (Value.ofAmount a).plain := by
  rw [amountText, Value.spelled]
  cases (Value.ofAmount a).overlong with
  | true => exact ⟨nofun, fun h => by cases h.1⟩
  | false => exact ⟨fun h => ⟨rfl, by cases h; rfl⟩, fun h => by rw [h.2]; rfl⟩

theorem exists_amountText {a : Amount} (h : Readable a) :
    ∃ text, amountText a = .ok text ∧ Tells text.toList a := by
  cases a with
  | whole n =>
      refine ⟨String.ofList (Number.intDigits n), amountText_eq_ok_iff.mpr ⟨h, rfl⟩, ?_⟩
      rw [String.toList_ofList]
      exact tells_whole n
  | double x =>
      refine ⟨String.ofList (Number.Layout.plain.double x), amountText_eq_ok_iff.mpr ⟨rfl, rfl⟩, ?_⟩
      rw [String.toList_ofList]
      exact tells_double x
  | decimal d =>
      refine ⟨String.ofList d.text, amountText_eq_ok_iff.mpr ⟨rfl, rfl⟩, ?_⟩
      rw [String.toList_ofList]
      exact tells_decimal h

/-- An amount for which the text of an exposition has been read is readable. -/
theorem readable_of_stands {a : Amount} {text : String} {p : Places}
    (htext : amountText a = .ok text) (hp : IsNumber p) (h : Stands p a) : Readable a := by
  cases a with
  | whole n => exact (amountText_eq_ok_iff.mp htext).1
  | double x => trivial
  | decimal d =>
      obtain rfl : p = d := h
      exact hp

/-! ## Lines -/

def lineOf (name : List Char) (labels : List (List Char × List Char)) (value : List Char) :
    List Char :=
  match labels with
  | [] => name ++ ' ' :: value
  | labels => name ++ '\x7b' :: (labelsText labels ++ '\x7d' :: ' ' :: value)

theorem toList_joined_labels (labels : List (String × String)) :
    (Text.joined "," (labels.map labelText)).toList =
      labelsText (labels.map fun label => (label.1.toList, label.2.toList)) := by
  induction labels with
  | nil => rfl
  | cons label rest ih =>
      cases rest with
      | nil => simp [Text.joined, labelText, labelsText]
      | cons other others =>
          simp only [List.map_cons] at ih ⊢
          rw [Text.joined, String.toList_append, String.toList_append, ih, labelsText]
          simp [labelText]

theorem line_eq (s : Sample) :
    s.line = (amountText s.value).map fun value =>
      String.ofList (lineOf s.name.toList s.letters value.toList) := by
  rw [Sample.line, Sample.letters]
  cases amountText s.value with
  | error fault => rfl
  | ok value =>
      cases s.labels with
      | nil =>
          refine congrArg Except.ok (String.toList_inj.mp ?_)
          simp [lineOf]
      | cons label rest =>
          refine congrArg Except.ok (String.toList_inj.mp ?_)
          simp only [String.toList_append, toList_joined_labels]
          simp [lineOf]

section Line

variable {name value : List Char} {labels : List (List Char × List Char)}

theorem block?_word (hsome : value ≠ []) (hclear : value.all isClear = true) :
    block? (' ' :: value) = some ([], value) := by
  obtain ⟨c, rest, rfl⟩ := List.exists_cons_of_ne_nil hsome
  obtain ⟨hgap, -, hbrace⟩ := isClear_iff.mp (List.all_eq_true.mp hclear c List.mem_cons_self)
  have hskip : skipGap (' ' :: c :: rest) = c :: rest := by
    rw [skipGap, List.dropWhile_cons_of_pos rfl, List.dropWhile_cons_of_neg (by simp [hgap])]
  rw [block?, hskip]
  split
  · next heq =>
    cases heq
    exact absurd rfl hbrace
  · rfl

theorem name?_word (hname : IsName true name) {c : Char} (hc : inName true c = false)
    (tail : List Char) : name? true (skipGap (name ++ c :: tail)) = some (name, c :: tail) := by
  rw [(skipGap_name hname _).1, name?_append hname hc]

theorem reading?_lineOf (hname : IsName true name)
    (hlabels : ∀ label ∈ labels, IsName false label.1) (hvalues : ∀ label ∈ labels, Plain label.2)
    (hsome : value ≠ []) (hclear : value.all isClear = true) {p : Places}
    (hread : number? value = some p) :
    reading? (lineOf name labels value) = some ⟨name, labels, p, none⟩ := by
  obtain ⟨hbare, hspaced⟩ := value?_of_token hsome fun c hc =>
    (isClear_iff.mp (List.all_eq_true.mp hclear c hc)).1
  rw [hread] at hbare hspaced
  rw [reading?_eq_some_iff]
  cases labels with
  | nil =>
      exact ⟨' ' :: value, value, name?_word hname (by decide) _, block?_word hsome hclear, hbare⟩
  | cons label others =>
      exact ⟨_, ' ' :: value, name?_word hname (by decide) _,
        (block?_labelsText_iff (List.cons_ne_nil _ _) hlabels).mpr ⟨hvalues, rfl⟩, hspaced⟩

/-- If the labels of a line are read as they are, nothing in their values has to be
escaped. -/
theorem plain_of_reading? (hname : IsName true name)
    (hlabels : ∀ label ∈ labels, IsName false label.1) {r : Reading}
    (h : reading? (lineOf name labels value) = some r) (hsame : r.labels = labels) :
    ∀ label ∈ labels, Plain label.2 := by
  cases labels with
  | nil => exact List.forall_mem_nil _
  | cons label others =>
      obtain ⟨rest, after, hfound, hblock, -⟩ := reading?_eq_some_iff.mp h
      rw [lineOf, name?_word hname (by decide)] at hfound
      · cases hfound
        rw [hsame] at hblock
        exact ((block?_labelsText_iff (List.cons_ne_nil _ _) hlabels).mp hblock).1
      · nofun

end Line

/-- The line of a sample is read back to it just in case the sample can be written without
escapes. -/
theorem reads_iff (s : Sample) :
    (∃ line, s.line = .ok line ∧ Reads line.toList s) ↔ s.Expressible := by
  rw [line_eq]
  constructor
  · rintro ⟨line, hline, r, hread, hsame⟩
    cases htext : amountText s.value with
    | error fault => rw [htext] at hline; cases hline
    | ok value =>
      rw [htext] at hline
      cases hline
      rw [String.toList_ofList] at hread
      obtain ⟨rest, after, hname, hblock, hvalue⟩ := reading?_eq_some_iff.mp hread
      have hname := isName_of_name? hname
      have hlabels := isName_of_block? hblock
      rw [hsame.name] at hname
      rw [hsame.labels] at hlabels
      exact {
        name := hname
        labels := hlabels
        values := plain_of_reading? hname hlabels hread hsame.labels
        value := readable_of_stands htext (isNumber_of_value? hvalue) hsame.value }
  · rintro ⟨hname, hlabels, hvalues, hvalue⟩
    obtain ⟨text, htext, hsome, hclear, p, hread, hstands⟩ := exists_amountText hvalue
    refine ⟨_, by rw [htext]; rfl, ?_⟩
    rw [String.toList_ofList]
    exact ⟨_, reading?_lineOf hname hlabels hvalues hsome hclear hread, rfl, rfl, hstands, rfl⟩

/-! ## Texts -/

/-- The lines of texts, each on its own. -/
def linesOfAll (texts : List String) : List (List Char) :=
  texts.flatMap fun text => text.toList.splitOn '\n'

/-- The lines of the whole are those of its texts. -/
theorem splitOn_joined {texts : List String} (hsome : texts ≠ []) :
    (Text.joined "\n" texts).toList.splitOn '\n' = linesOfAll texts := by
  induction texts with
  | nil => exact absurd rfl hsome
  | cons first rest ih =>
      cases rest with
      | nil => exact (List.append_nil _).symm
      | cons second others =>
          have hsplit : (Text.joined "\n" (first :: second :: others)).toList.splitOn '\n' =
              first.toList.splitOn '\n' ++
                (Text.joined "\n" (second :: others)).toList.splitOn '\n' := by
            rw [Text.joined, String.toList_append, String.toList_append, List.append_assoc]
            exact List.splitOn_append_cons_self _ _
          rw [hsplit, ih (List.cons_ne_nil _ _)]
          rfl

theorem linesOfAll_of_not_mem {texts : List String} (h : ∀ text ∈ texts, '\n' ∉ text.toList) :
    linesOfAll texts = texts.map String.toList := by
  induction texts with
  | nil => rfl
  | cons first rest ih =>
      obtain ⟨hfirst, hrest⟩ := List.forall_mem_cons.mp h
      rw [linesOfAll, List.flatMap_cons, List.splitOn_eq_singleton hfirst, ← linesOfAll, ih hrest]
      rfl

theorem length_le_linesOfAll (texts : List String) : texts.length ≤ (linesOfAll texts).length := by
  induction texts with
  | nil => exact Nat.le_refl _
  | cons first rest ih =>
      have hfirst : 0 < (first.toList.splitOn '\n').length :=
        List.length_pos_iff.mpr (List.splitOn_ne_nil _ _)
      rw [linesOfAll, List.flatMap_cons, ← linesOfAll, List.length_append, List.length_cons]
      omega

theorem splitOn_of_length {cs : List Char} (h : (cs.splitOn '\n').length = 1) :
    cs.splitOn '\n' = [cs] := by
  obtain ⟨line, hline⟩ := List.length_eq_one_iff.mp h
  have hwhole : ['\n'].intercalate (cs.splitOn '\n') = cs := List.intercalate_splitOn '\n'
  rw [hline] at hwhole ⊢
  rw [← hwhole]
  simp

theorem linesOfAll_of_length {texts : List String} (h : (linesOfAll texts).length = texts.length) :
    linesOfAll texts = texts.map String.toList := by
  induction texts with
  | nil => rfl
  | cons first rest ih =>
      have hfirst : 0 < (first.toList.splitOn '\n').length :=
        List.length_pos_iff.mpr (List.splitOn_ne_nil _ _)
      have hrest := length_le_linesOfAll rest
      rw [linesOfAll, List.flatMap_cons, ← linesOfAll] at h ⊢
      rw [List.length_append, List.length_cons] at h
      rw [splitOn_of_length (by omega), ih (by omega)]
      rfl

/-! ## Expositions -/

theorem end_not_mem_name {colon : Bool} {name : List Char} (h : IsName colon name) :
    '\n' ∉ name := by
  intro hmem
  have hinside := List.all_eq_true.mp h.inside '\n' hmem
  cases colon with
  | true => exact absurd hinside (by decide)
  | false => exact absurd hinside (by decide)

theorem end_not_mem_labelsText {labels : List (List Char × List Char)}
    (hnames : ∀ label ∈ labels, IsName false label.1)
    (hvalues : ∀ label ∈ labels, Plain label.2) : '\n' ∉ labelsText labels := by
  fun_induction labelsText labels with
  | case1 => exact List.not_mem_nil
  | case2 name value =>
      have hname := end_not_mem_name (hnames _ List.mem_cons_self)
      have hvalue : '\n' ∉ value := fun h => (hvalues _ List.mem_cons_self _ h).2.2 rfl
      simp [hname, hvalue]
  | case3 name value label others ih =>
      have hname := end_not_mem_name (hnames _ List.mem_cons_self)
      have hvalue : '\n' ∉ value := fun h => (hvalues _ List.mem_cons_self _ h).2.2 rfl
      have hrest := ih (fun l hl => hnames l (List.mem_cons_of_mem _ hl))
        fun l hl => hvalues l (List.mem_cons_of_mem _ hl)
      simp [hname, hvalue, hrest]

/-- The line of a sample that can be written without escapes is one line. -/
theorem Sample.Expressible.end_not_mem {s : Sample} (h : s.Expressible) {line : String}
    (hline : s.line = .ok line) : '\n' ∉ line.toList := by
  obtain ⟨text, htext, -, hclear, -⟩ := exists_amountText h.value
  rw [line_eq, htext] at hline
  cases hline
  have hname := end_not_mem_name h.name
  have hlabels := end_not_mem_labelsText h.labels h.values
  have hvalue : '\n' ∉ text.toList := by
    intro hmem
    exact absurd (List.all_eq_true.mp hclear _ hmem) (by decide)
  rw [String.toList_ofList, lineOf.eq_def]
  split
  · simp [hname, hvalue]
  · simp [hname, hlabels, hvalue]

theorem mapM_line_eq_ok_iff {samples : List Sample} {lines : List String} :
    samples.mapM Sample.line = .ok lines ↔
      List.Forall₂ (fun s line => s.line = .ok line) samples lines := by
  induction samples generalizing lines with
  | nil =>
      constructor
      · intro h
        cases h
        exact .nil
      · intro h
        cases h
        rfl
  | cons s rest ih =>
      rw [List.mapM_cons]
      constructor
      · intro h
        cases hline : s.line with
        | error fault =>
            rw [hline] at h
            cases h
        | ok line =>
            rw [hline] at h
            cases hrest : rest.mapM Sample.line with
            | error fault =>
                rw [hrest] at h
                cases h
            | ok others =>
                rw [hrest] at h
                cases h
                exact .cons hline (ih.mp hrest)
      · intro h
        cases h with
        | cons hline hrest =>
            rw [hline, ih.mpr hrest]
            rfl

theorem exposition_eq_ok_iff {samples : List Sample} {text : String} :
    exposition samples = .ok text ↔
      ∃ lines, List.Forall₂ (fun s line => s.line = .ok line) samples lines ∧
        Text.joined "\n" lines = text := by
  rw [exposition]
  cases hlines : samples.mapM Sample.line with
  | error fault =>
      constructor
      · nofun
      · rintro ⟨lines, hall, -⟩
        rw [mapM_line_eq_ok_iff.mpr hall] at hlines
        cases hlines
  | ok lines =>
      constructor
      · intro h
        cases h
        exact ⟨lines, mapM_line_eq_ok_iff.mp hlines, rfl⟩
      · rintro ⟨others, hall, rfl⟩
        rw [mapM_line_eq_ok_iff.mpr hall] at hlines
        cases hlines
        rfl

/-- The lines of a faithful exposition are those of its samples. -/
theorem linesOf_of_faithful {samples : List Sample} {lines : List String}
    (hlines : List.Forall₂ (fun s line => s.line = .ok line) samples lines)
    (h : Faithful (Text.joined "\n" lines) samples) :
    linesOf (Text.joined "\n" lines) = lines.map String.toList := by
  have hlength := h.length_eq.trans hlines.length_eq
  rw [linesOf] at hlength ⊢
  split at hlength
  · next hempty =>
    rw [if_pos hempty, List.length_eq_zero_iff.mp hlength.symm]
    rfl
  · next hsome =>
    have hnonempty : lines ≠ [] := by
      rintro rfl
      exact hsome rfl
    rw [splitOn_joined hnonempty] at hlength
    rw [if_neg hsome, splitOn_joined hnonempty, linesOfAll_of_length hlength]

theorem not_reads_nil (s : Sample) : ¬ Reads [] s := by
  rintro ⟨r, hread, -⟩
  cases hread

theorem end_not_mem_of_expressible {samples : List Sample} {lines : List String}
    (hlines : List.Forall₂ (fun s line => s.line = .ok line ∧ Reads line.toList s) samples lines)
    (h : ∀ s ∈ samples, s.Expressible) : ∀ line ∈ lines, '\n' ∉ line.toList := by
  induction hlines with
  | nil => exact List.forall_mem_nil _
  | cons hline _ ih =>
      obtain ⟨hfirst, hrest⟩ := List.forall_mem_cons.mp h
      exact List.forall_mem_cons.mpr ⟨hfirst.end_not_mem hline.1, ih hrest⟩

/-- Samples that can be written without escapes are the lines of their exposition. -/
theorem linesOf_of_expressible {samples : List Sample} {lines : List String}
    (hlines : List.Forall₂ (fun s line => s.line = .ok line ∧ Reads line.toList s) samples lines)
    (h : ∀ s ∈ samples, s.Expressible) :
    linesOf (Text.joined "\n" lines) = lines.map String.toList := by
  have hends := end_not_mem_of_expressible hlines h
  cases hlines with
  | nil => rfl
  | @cons s line samples others hline hothers =>
      have hsplit := (splitOn_joined (List.cons_ne_nil line others)).trans
        (linesOfAll_of_not_mem hends)
      rw [linesOf]
      split
      · next hempty =>
        -- the only line of an empty text is empty, and says no sample
        rw [hempty] at hsplit
        have hfirst : [] = line.toList := (List.cons.inj hsplit).1
        rw [← hfirst] at hline
        exact absurd hline.2 (not_reads_nil s)
      · exact hsplit

/-- An exposition is read back to its samples just in case each of them can be written
without escapes. -/
theorem exists_faithful_iff (samples : List Sample) :
    (∃ text, exposition samples = .ok text ∧ Faithful text samples) ↔
      ∀ s ∈ samples, s.Expressible := by
  constructor
  · rintro ⟨text, htext, hfaithful⟩
    obtain ⟨lines, hlines, rfl⟩ := exposition_eq_ok_iff.mp htext
    rw [Faithful, linesOf_of_faithful hlines hfaithful, List.forall₂_map_left_iff] at hfaithful
    clear htext
    induction hlines with
    | nil => exact List.forall_mem_nil _
    | cons hline _ ih =>
        cases hfaithful with
        | cons hreads hrest =>
            exact List.forall_mem_cons.mpr ⟨(reads_iff _).mp ⟨_, hline, hreads⟩, ih hrest⟩
  · intro h
    have hlines : ∃ lines, List.Forall₂
        (fun s line => s.line = .ok line ∧ Reads line.toList s) samples lines := by
      induction samples with
      | nil => exact ⟨[], .nil⟩
      | cons s rest ih =>
          obtain ⟨hfirst, hrest⟩ := List.forall_mem_cons.mp h
          obtain ⟨line, hline⟩ := (reads_iff s).mpr hfirst
          obtain ⟨others, hothers⟩ := ih hrest
          exact ⟨line :: others, .cons hline hothers⟩
    obtain ⟨lines, hlines⟩ := hlines
    refine ⟨_, exposition_eq_ok_iff.mpr ⟨lines, hlines.imp fun _ _ => And.left, rfl⟩, ?_⟩
    rw [Faithful, linesOf_of_expressible hlines h, List.forall₂_map_left_iff]
    exact (hlines.imp fun _ _ => And.right).flip

/-- The exposition of a registry is read back to its samples, one from each line, just in
case their names are names of the format, their amounts have texts that are numbers, and
no value of a label holds a backslash, a quote or the end of a line. -/
theorem Registry.exposition_faithful_iff (r : Registry) :
    (∃ text, exposition r.collectAll = .ok text ∧ Faithful text r.collectAll) ↔
      ∀ s ∈ r.collectAll, s.Expressible :=
  exists_faithful_iff r.collectAll

/-- A single call with a quote and the end of a line in the value of a label is enough: the
exposition is that of two other samples. -/
theorem Registry.exposition_faithful_iff_forged :
    let forged : String := "x\"\x7d 1\nforged\x7bk=\"y"
    let text : String := "app_calls\x7bk=\"x\"\x7d 1\nforged\x7bk=\"y\"\x7d 1"
    let called := (newCounter "app_calls" "" ["k"]).inc (.int 1) [("k", .text forged)]
    let r : Registry := ⟨"app", [called.2]⟩
    called.1 = none ∧ exposition r.collectAll = .ok text ∧ ¬ Faithful text r.collectAll ∧
      Faithful text [⟨"app_calls", .whole 1, [("k", "x")]⟩, ⟨"forged", .whole 1, [("k", "y")]⟩] := by
  intro forged text called r
  have hcalled : called = (none, .counter ⟨⟨"app_calls", "", ["k"]⟩, [([forged], .whole 1)]⟩) := rfl
  have hsamples : r.collectAll = [⟨"app_calls", .whole 1, [("k", forged)]⟩] := rfl
  have hshort : Number.tooLong 1 = false := Number.tooLong_of_natAbs_lt (by decide)
  have hone : amountText (.whole 1) = .ok "1" := amountText_eq_ok_iff.mpr ⟨hshort, rfl⟩
  have htext : exposition r.collectAll = .ok text := by
    rw [hsamples]
    refine exposition_eq_ok_iff.mpr ⟨[text], .cons ?_ .nil, rfl⟩
    rw [Sample.line, hone]
    rfl
  refine ⟨by rw [hcalled], htext, ?_, ?_⟩
  · intro h
    have hall := (exposition_faithful_iff r).mp ⟨text, htext, h⟩
    rw [hsamples, List.forall_mem_singleton] at hall
    have hvalue := hall.values ("k".toList, forged.toList) List.mem_cons_self
    exact (hvalue '"' (by decide)).2.1 rfl
  · have hsample {name value : String} (hname : name ∈ ["app_calls", "forged"])
        (hv : value ∈ ["x", "y"]) :
        Sample.Expressible ⟨name, .whole 1, [("k", value)]⟩ := by
      have hnames : ∀ name ∈ ["app_calls", "forged"],
          name.toList.head?.any (startsName true) = true ∧
            name.toList.all (inName true) = true := by decide
      obtain ⟨hstarts, hinside⟩ := hnames name hname
      have hlabel : IsName false "k".toList := ⟨by decide, by decide⟩
      have hplain : Plain value.toList := by
        rcases List.mem_pair.mp hv with rfl | rfl
        · simp [Plain]
        · simp [Plain]
      exact {
        name := ⟨hstarts, hinside⟩
        labels := by simpa [Sample.letters] using hlabel
        values := by simpa [Sample.letters] using hplain
        value := hshort }
    have hall : ∀ s ∈ ([⟨"app_calls", .whole 1, [("k", "x")]⟩,
        ⟨"forged", .whole 1, [("k", "y")]⟩] : List Sample), s.Expressible := by
      simp only [List.forall_mem_cons]
      exact ⟨hsample (by decide) (by decide), hsample (by decide) (by decide), nofun⟩
    have hsame : exposition [⟨"app_calls", .whole 1, [("k", "x")]⟩,
        ⟨"forged", .whole 1, [("k", "y")]⟩] = .ok text := by
      refine exposition_eq_ok_iff.mpr ⟨["app_calls\x7bk=\"x\"\x7d 1", "forged\x7bk=\"y\"\x7d 1"],
        .cons ?_ (.cons ?_ .nil), rfl⟩
      · rw [Sample.line, hone]
        rfl
      · rw [Sample.line, hone]
        rfl
    obtain ⟨other, hother, hfaithful⟩ := (exists_faithful_iff _).mpr hall
    rw [hsame] at hother
    cases hother
    exact hfaithful

end DocLedger.Metrics
