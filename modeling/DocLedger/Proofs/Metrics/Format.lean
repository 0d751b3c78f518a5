import DocLedger.Metrics.Registry
import DocLedger.Proofs.Number.Spelling

/-!
# The exposition format

A line of an exposition has a name, perhaps labels between braces, a number, and perhaps
a time.  The value of a label stands between quotes, and a backslash, a quote and the end
of a line are escaped in it.  The reader of such lines takes blanks between the parts and
a comma behind the last label, and it reads numbers exactly, so that none is lost to a
precision of its own.
-/

namespace DocLedger.Metrics.Format

open Number (Places)

/-! ## The reader -/

/-- The blanks between the parts of a line. -/
def isGap (c : Char) : Bool := c == ' ' || c == '\t'

/-- A text without the blanks at its front. -/
def skipGap (cs : List Char) : List Char := cs.dropWhile isGap

/-- Whether a character starts names; the colon starts those of metrics alone. -/
def startsName (colon : Bool) (c : Char) : Bool := c.isAlpha || c == '_' || (colon && c == ':')

/-- Whether a character stands in names. -/
def inName (colon : Bool) (c : Char) : Bool := startsName colon c || c.isDigit

/-- The name at the front of a text, and the rest. -/
def name? (colon : Bool) (cs : List Char) : Option (List Char × List Char) :=
  if cs.head?.any (startsName colon) then
    some (cs.takeWhile (inName colon), cs.dropWhile (inName colon))
  else none

/-- The value of a label behind its opening quote, and the rest behind its closing one. -/
def quoted? : List Char → Option (List Char × List Char)
  | [] => none
  | '"' :: rest => some ([], rest)
  | '\\' :: '\\' :: rest => (quoted? rest).map fun (value, after) => ('\\' :: value, after)
  | '\\' :: '"' :: rest => (quoted? rest).map fun (value, after) => ('"' :: value, after)
  | '\\' :: 'n' :: rest => (quoted? rest).map fun (value, after) => ('\n' :: value, after)
  | '\\' :: _ => none
  | '\n' :: _ => none
  | c :: rest => (quoted? rest).map fun (value, after) => (c :: value, after)

/-- A label with its value at the front of a text, and the rest. -/
def label? (cs : List Char) : Option ((List Char × List Char) × List Char) :=
  match name? false cs with
  | none => none
  | some (name, rest) =>
    match skipGap rest with
    | '=' :: rest =>
      match skipGap rest with
      | '"' :: rest => (quoted? rest).map fun (value, after) => ((name, value), after)
      | _ => none
    | _ => none

/-- At most as many labels, up to the closing brace, and the rest behind it. -/
def labels? : Nat → List Char → Option (List (List Char × List Char) × List Char)
  | 0, _ => none
  | most + 1, cs =>
    if (skipGap cs).head? = some '\x7d' then some ([], (skipGap cs).tail)
    else
      match label? (skipGap cs) with
      | none => none
      | some (label, rest) =>
        match skipGap rest with
        | '\x7d' :: after => some ([label], after)
        | ',' :: more => (labels? most more).map fun (labels, after) => (label :: labels, after)
        | _ => none

/-- The labels of a line, if it has braces, and the rest. -/
def block? (cs : List Char) : Option (List (List Char × List Char) × List Char) :=
  match skipGap cs with
  | '\x7b' :: rest => labels? rest.length rest
  | rest => some ([], rest)

/-- The number that a text is, exactly as it is written. -/
def number? (cs : List Char) : Option Places :=
  let (negative, body) := Number.spanSign cs
  let lower := body.map Char.toLower
  if cs.map Char.toLower = "nan".toList then some (.undefined false false 0)
  else if lower = "inf".toList ∨ lower = "infinity".toList then some (.infinite negative)
  else Places.number? negative lower

def time? (cs : List Char) : Option Int :=
  let (negative, ds) := Number.spanSign cs
  if ds.isEmpty || !ds.all Char.isDigit then none
  else some (if negative then -Number.digitsValue ds else Number.digitsValue ds)

/-- The number at the end of a line, and the time behind it, if there is one. -/
def value? (cs : List Char) : Option (Places × Option Int) :=
  match (cs.splitOnP isGap).filter (!·.isEmpty) with
  | [value] => (number? value).map fun value => (value, none)
  | [value, time] => (number? value).bind fun value => (time? time).map fun time => (value, time)
  | _ => none

/-- What a line of an exposition says. -/
structure Reading where
  name : List Char
  labels : List (List Char × List Char)
  value : Places
  time : Option Int
deriving Repr, DecidableEq

/-- What a line says, if it is one with a value. -/
def reading? (cs : List Char) : Option Reading :=
  match name? true (skipGap cs) with
  | none => none
  | some (name, rest) =>
    match block? rest with
    | none => none
    | some (labels, rest) =>
      (value? rest).map fun (value, time) => ⟨name, labels, value, time⟩

/-! ## Names -/

/-- The names of the format. -/
structure IsName (colon : Bool) (cs : List Char) : Prop where
  starts : cs.head?.any (startsName colon) = true
  inside : cs.all (inName colon) = true

theorem inName_of_startsName {colon : Bool} {c : Char} (h : startsName colon c = true) :
    inName colon c = true := by
  rw [inName, h, Bool.true_or]

theorem isName_of_name? {colon : Bool} {cs name rest : List Char}
    (h : name? colon cs = some (name, rest)) : IsName colon name := by
  rw [name?] at h
  split at h
  · next hstarts =>
    cases h
    refine ⟨?_, List.all_takeWhile⟩
    cases cs with
    | nil => cases hstarts
    | cons c tail =>
        have hc : startsName colon c = true := by simpa using hstarts
        simp [inName_of_startsName hc, hc]
  · cases h

/-- A name is read up to a character that does not stand in names. -/
theorem name?_append {colon : Bool} {name tail : List Char} {c : Char}
    (hname : IsName colon name) (hc : inName colon c = false) :
    name? colon (name ++ c :: tail) = some (name, c :: tail) := by
  have hhead : (name ++ c :: tail).head?.any (startsName colon) = true := by
    have hstarts := hname.starts
    cases name with
    | nil => cases hstarts
    | cons d more => exact hstarts
  have hinside := List.all_eq_true.mp hname.inside
  rw [name?, if_pos hhead, List.takeWhile_append_of_pos hinside,
    List.dropWhile_append_of_pos hinside]
  simp [hc]

/-! ## Values of labels -/

/-- A character between quotes. -/
def escape (c : Char) : List Char :=
  if c = '\\' then ['\\', '\\'] else if c = '"' then ['\\', '"']
  else if c = '\n' then ['\\', 'n'] else [c]

/-- The value of a label as it stands between quotes. -/
def escaped (cs : List Char) : List Char := cs.flatMap escape

/-- Values that stand between quotes as they are. -/
def Plain (cs : List Char) : Prop := ∀ c ∈ cs, c ≠ '\\' ∧ c ≠ '"' ∧ c ≠ '\n'

theorem escape_of_plain {c : Char} (h : c ≠ '\\' ∧ c ≠ '"' ∧ c ≠ '\n') : escape c = [c] := by
  rw [escape, if_neg h.1, if_neg h.2.1, if_neg h.2.2]

theorem Plain.escaped_eq {cs : List Char} (h : Plain cs) : escaped cs = cs := by
  induction cs with
  | nil => rfl
  | cons c rest ih =>
      obtain ⟨hc, hrest⟩ := List.forall_mem_cons.mp h
      rw [escaped, List.flatMap_cons, escape_of_plain hc]
      exact congrArg (c :: ·) (ih hrest)

/-- What is read is what stands escaped in front of the closing quote. -/
theorem eq_of_quoted? {cs value rest : List Char} (h : quoted? cs = some (value, rest)) :
    cs = escaped value ++ '"' :: rest := by
  fun_induction quoted? cs generalizing value rest with
  | case1 => cases h
  | case2 =>
      cases h
      rfl
  | case3 tail ih | case4 tail ih | case5 tail ih =>
      obtain ⟨⟨front, after⟩, hread, heq⟩ := Option.map_eq_some_iff.mp h
      cases heq
      rw [ih hread]
      rfl
  | case6 => cases h
  | case7 => cases h
  | case8 c tail hquote _ _ _ hback hend ih =>
      obtain ⟨⟨front, after⟩, hread, heq⟩ := Option.map_eq_some_iff.mp h
      cases heq
      rw [ih hread, escaped, escaped, List.flatMap_cons, escape_of_plain ⟨hback, hquote, hend⟩]
      rfl

theorem quoted?_escaped (value rest : List Char) :
    quoted? (escaped value ++ '"' :: rest) = some (value, rest) := by
  induction value with
  | nil => rfl
  | cons c tail ih =>
      rw [escaped, List.flatMap_cons, List.append_assoc, ← escaped]
      by_cases hback : c = '\\'
      · subst hback
        simp [escape, quoted?, ih]
      by_cases hquote : c = '"'
      · subst hquote
        simp [escape, quoted?, ih]
      by_cases hend : c = '\n'
      · subst hend
        simp [escape, quoted?, ih]
      · rw [escape_of_plain ⟨hback, hquote, hend⟩, List.singleton_append, quoted?, ih]
        all_goals simp [hback, hquote, hend]

/-- Once a reader has taken a backslash of a value for an escape, it is out of step with
the value up to the closing quote: there is always one backslash too many. -/
theorem append_quote_ne (value rest tail : List Char) (k : Nat) :
    value ++ '"' :: tail ≠
      List.replicate (k + 1) '\\' ++ (escaped value ++ '"' :: rest) := by
  induction value generalizing k with
  | nil => simp [List.replicate_succ]
  | cons c value ih =>
      intro h
      rw [List.replicate_succ, List.cons_append, List.cons_append] at h
      obtain ⟨rfl, hmore⟩ := List.cons.inj h
      refine ih (k + 1) (hmore.trans ?_)
      calc List.replicate k '\\' ++ (escaped ('\\' :: value) ++ '"' :: rest)
          = List.replicate k '\\' ++ (List.replicate 2 '\\' ++ (escaped value ++ '"' :: rest)) := rfl
        _ = List.replicate (k + 1 + 1) '\\' ++ (escaped value ++ '"' :: rest) := by
          rw [← List.append_assoc, List.replicate_append_replicate]

theorem plain_of_escaped_eq {value rest tail : List Char}
    (h : value ++ '"' :: tail = escaped value ++ '"' :: rest) : Plain value ∧ tail = rest := by
  induction value with
  | nil => exact ⟨List.forall_mem_nil _, (List.cons.inj h).2⟩
  | cons c value ih =>
      by_cases hback : c = '\\'
      · subst hback
        exact absurd (List.cons.inj h).2 (append_quote_ne value rest tail 0)
      by_cases hquote : c = '"'
      · subst hquote
        exact absurd (List.cons.inj h).1 (by decide)
      by_cases hend : c = '\n'
      · subst hend
        exact absurd (List.cons.inj h).1 (by decide)
      · rw [escaped, List.flatMap_cons, escape_of_plain ⟨hback, hquote, hend⟩, ← escaped] at h
        obtain ⟨hplain, htail⟩ := ih (List.cons.inj h).2
        exact ⟨List.forall_mem_cons.mpr ⟨⟨hback, hquote, hend⟩, hplain⟩, htail⟩

/-- A value that stands between quotes as it is, is read back just in case nothing in it
has to be escaped. -/
theorem quoted?_append_iff {value rest tail : List Char} :
    quoted? (value ++ '"' :: tail) = some (value, rest) ↔ Plain value ∧ tail = rest := by
  constructor
  · intro h
    exact plain_of_escaped_eq (eq_of_quoted? h)
  · rintro ⟨hplain, rfl⟩
    have hread := quoted?_escaped value tail
    rwa [hplain.escaped_eq] at hread

/-! ## Labels -/

theorem isName_of_label? {cs rest : List Char} {label : List Char × List Char}
    (h : label? cs = some (label, rest)) : IsName false label.1 := by
  rw [label?] at h
  split at h
  · cases h
  · next name after hname =>
    split at h
    · split at h
      · obtain ⟨quoted, -, heq⟩ := Option.map_eq_some_iff.mp h
        cases heq
        exact isName_of_name? hname
      · cases h
    · cases h

theorem isName_of_labels? {most : Nat} {cs rest : List Char}
    {labels : List (List Char × List Char)} (h : labels? most cs = some (labels, rest)) :
    ∀ label ∈ labels, IsName false label.1 := by
  induction most generalizing cs labels with
  | zero => cases h
  | succ most ih =>
      rw [labels?] at h
      split at h
      · cases h
        exact List.forall_mem_nil _
      · split at h
        · cases h
        · next label after hlabel =>
          have hname := isName_of_label? hlabel
          split at h
          · cases h
            exact List.forall_mem_singleton.mpr hname
          · obtain ⟨⟨others, behind⟩, hothers, heq⟩ := Option.map_eq_some_iff.mp h
            cases heq
            exact List.forall_mem_cons.mpr ⟨hname, ih hothers⟩
          · cases h

section Written

variable {most : Nat} {name value more rest : List Char} {labels : List (List Char × List Char)}

theorem skipGap_name {colon : Bool} (hname : IsName colon name) (tail : List Char) :
    skipGap (name ++ tail) = name ++ tail ∧ (name ++ tail).head? ≠ some '\x7d' := by
  have hstarts := hname.starts
  cases name with
  | nil => cases hstarts
  | cons c front =>
      have hc : startsName colon c = true := by simpa using hstarts
      have hother {d : Char} (hd : startsName colon d = false) : c ≠ d := by
        rintro rfl
        rw [hc] at hd
        cases hd
      have hspace : c ≠ ' ' := hother (by cases colon <;> decide)
      have htab : c ≠ '\t' := hother (by cases colon <;> decide)
      have hbrace : c ≠ '\x7d' := hother (by cases colon <;> decide)
      constructor
      · rw [skipGap, List.cons_append, List.dropWhile_cons, if_neg]
        simp [isGap, hspace, htab]
      · simpa using hbrace

theorem label?_written (hname : IsName false name) (more : List Char) :
    label? (name ++ '=' :: '"' :: more) =
      (quoted? more).map fun (value, after) => ((name, value), after) := by
  rw [label?, name?_append hname (by decide)]
  rfl

/-- The labels of a line whose first label is written with all that stands in its value
as it is. -/
theorem labels?_written (hname : IsName false name) (hplain : Plain value) (tail : List Char) :
    labels? (most + 1) (name ++ '=' :: '"' :: (value ++ '"' :: tail)) =
      match skipGap tail with
      | '\x7d' :: after => some ([(name, value)], after)
      | ',' :: more => (labels? most more).map fun (labels, after) =>
          ((name, value) :: labels, after)
      | _ => none := by
  obtain ⟨hskip, hbrace⟩ := skipGap_name hname ('=' :: '"' :: (value ++ '"' :: tail))
  rw [labels?, hskip, if_neg hbrace, label?_written hname,
    quoted?_append_iff.mpr ⟨hplain, rfl⟩]
  rfl

/-- A label that is read as it has been given has a plain value. -/
theorem plain_of_labels? (hname : IsName false name) {tail : List Char}
    (h : labels? most (name ++ '=' :: '"' :: (value ++ '"' :: tail)) =
      some ((name, value) :: labels, rest)) : Plain value := by
  obtain ⟨hskip, hbrace⟩ := skipGap_name hname ('=' :: '"' :: (value ++ '"' :: tail))
  cases most with
  | zero => cases h
  | succ most =>
      rw [labels?, hskip, if_neg hbrace, label?_written hname] at h
      cases hquoted : quoted? (value ++ '"' :: tail) with
      | none =>
          rw [hquoted] at h
          cases h
      | some pair =>
          obtain ⟨found, after⟩ := pair
          obtain rfl : found = value := by
            rw [hquoted] at h
            simp only [Option.map_some] at h
            split at h
            · simp at h
              exact h.1.1
            · obtain ⟨⟨others, behind⟩, -, heq⟩ := Option.map_eq_some_iff.mp h
              simp at heq
              exact heq.1.1
            · cases h
          exact (quoted?_append_iff.mp hquoted).1

/-- Labels as they are written, each with its value between quotes as it is. -/
def labelsText : List (List Char × List Char) → List Char
  | [] => []
  | [(name, value)] => name ++ '=' :: '"' :: (value ++ ['"'])
  | (name, value) :: label :: rest =>
    name ++ '=' :: '"' :: (value ++ '"' :: ',' :: labelsText (label :: rest))

/-- Written labels are read just in case their values are plain. -/
theorem labels?_labelsText_iff (hsome : labels ≠ [])
    (hnames : ∀ label ∈ labels, IsName false label.1) (hmost : labels.length ≤ most)
    {tail : List Char} :
    labels? most (labelsText labels ++ '\x7d' :: tail) = some (labels, rest) ↔
      (∀ label ∈ labels, Plain label.2) ∧ tail = rest := by
  fun_induction labelsText labels generalizing most with
  | case1 => exact absurd rfl hsome
  | case2 name value =>
      obtain ⟨most, rfl⟩ := Nat.exists_eq_add_of_le' hmost
      have hname := hnames _ List.mem_cons_self
      have htext : name ++ '=' :: '"' :: (value ++ ['"']) ++ '\x7d' :: tail =
          name ++ '=' :: '"' :: (value ++ '"' :: '\x7d' :: tail) := by simp
      rw [htext, List.forall_mem_singleton]
      constructor
      · intro h
        have hplain := plain_of_labels? hname h
        rw [List.length_singleton, labels?_written hname hplain] at h
        cases h
        exact ⟨hplain, rfl⟩
      · rintro ⟨hplain, rfl⟩
        rw [List.length_singleton, labels?_written hname hplain]
        rfl
  | case3 name value label others ih =>
      obtain ⟨most, rfl⟩ := Nat.exists_eq_add_of_le' (Nat.one_le_of_lt hmost)
      have hname := hnames _ List.mem_cons_self
      have hrest := ih (List.cons_ne_nil _ _) (fun l hl => hnames l (List.mem_cons_of_mem _ hl))
        (Nat.le_of_succ_le_succ hmost)
      have htext : name ++ '=' :: '"' :: (value ++ '"' :: ',' :: labelsText (label :: others)) ++
          '\x7d' :: tail = name ++ '=' :: '"' :: (value ++ '"' :: ',' ::
            (labelsText (label :: others) ++ '\x7d' :: tail)) := by simp
      have hnext (hplain : Plain value) :
          labels? (most + 1) (name ++ '=' :: '"' :: (value ++ '"' :: ',' ::
            (labelsText (label :: others) ++ '\x7d' :: tail))) =
          (labels? most (labelsText (label :: others) ++ '\x7d' :: tail)).map
            fun (labels, after) => ((name, value) :: labels, after) :=
        labels?_written hname hplain _
      rw [htext, List.forall_mem_cons]
      constructor
      · intro h
        have hplain := plain_of_labels? hname h
        rw [hnext hplain] at h
        obtain ⟨⟨found, after⟩, hfound, heq⟩ := Option.map_eq_some_iff.mp h
        cases heq
        obtain ⟨hplains, htail⟩ := hrest.mp hfound
        exact ⟨⟨hplain, hplains⟩, htail⟩
      · rintro ⟨⟨hplain, hplains⟩, htail⟩
        rw [hnext hplain, hrest.mpr ⟨hplains, htail⟩]
        rfl

theorem length_le_labelsText (labels : List (List Char × List Char)) :
    labels.length ≤ (labelsText labels).length := by
  fun_induction labelsText labels with
  | case1 => exact Nat.le_refl _
  | case2 name value =>
      simp only [List.length_append, List.length_cons, List.length_nil]
      omega
  | case3 name value label others ih =>
      simp only [List.length_append, List.length_cons] at ih ⊢
      omega

end Written

/-! ## Numbers -/

/-- What the text of a number stands for: every number, both infinities, and the plain
decimal that is no number. -/
def IsNumber : Places → Prop
  | .undefined negative signaling payload => negative = false ∧ signaling = false ∧ payload = 0
  | _ => True

theorem exists_of_places_number? {negative : Bool} {cs : List Char} {p : Places}
    (h : Places.number? negative cs = some p) :
    ∃ digits exponent, p = .number negative digits exponent := by
  rw [Places.number?] at h
  split at h
  split at h
  split at h
  · cases h
  · obtain ⟨exponent, -, heq⟩ := Option.map_eq_some_iff.mp h
    exact ⟨_, _, heq.symm⟩

theorem isNumber_of_number? {cs : List Char} {p : Places} (h : number? cs = some p) :
    IsNumber p := by
  rw [number?] at h
  simp only [] at h
  split at h
  · cases h
    exact ⟨rfl, rfl, rfl⟩
  · split at h
    · cases h
      trivial
    · obtain ⟨digits, exponent, rfl⟩ := exists_of_places_number? h
      trivial

section Spelled

variable {cs : List Char} {d : Number.Decimal}

theorem exists_digit_of_spells (h : Number.Spells cs d) :
    ∃ c rest, cs = c :: rest ∧ c.isDigit = true := by
  cases h with
  | @mk whole point after tail power hwhole hsome hpoint htail =>
      obtain ⟨c, rest, rfl⟩ := List.exists_cons_of_ne_nil hsome
      exact ⟨c, _, rfl, hwhole c List.mem_cons_self⟩

theorem spanSign_signed (h : Number.Spells cs d) (negative : Bool) :
    Number.spanSign (Places.signed negative cs) = (negative, cs) := by
  obtain ⟨c, rest, rfl, hdigit⟩ := exists_digit_of_spells h
  cases negative with
  | true => rfl
  | false =>
      rw [Places.signed, if_neg Bool.false_ne_true, Number.spanSign.eq_def]
      split
      · next heq => 
        cases heq
        cases hdigit
      · next heq =>
        cases heq
        cases hdigit
      · rfl

/-- A digit or a minus sign starts none of the names of numbers. -/
theorem map_toLower_ne (h : Number.Spells cs d) (negative : Bool) {c : Char} {rest : List Char}
    (hdigit : c.isDigit = false) (hminus : c ≠ '-') :
    (Places.signed negative cs).map Char.toLower ≠ c :: rest := by
  obtain ⟨first, more, rfl, hfirst⟩ := exists_digit_of_spells h
  intro heq
  cases negative with
  | true => exact hminus (List.cons.inj heq).1.symm
  | false =>
      have hlower := (List.cons.inj heq).1
      rw [Number.toLower_of_isDigit hfirst] at hlower
      rw [hlower, hdigit] at hfirst
      cases hfirst

theorem number?_of_spells (h : Number.Spells cs d) (negative : Bool) :
    number? (Places.signed negative cs) = some (.number negative d.digits d.exponent) := by
  have hnan : (Places.signed negative cs).map Char.toLower ≠ "nan".toList :=
    map_toLower_ne h negative (by decide) (by decide)
  have hinf : cs.map Char.toLower ≠ "inf".toList :=
    map_toLower_ne h false (by decide) (by decide)
  have hinfinity : cs.map Char.toLower ≠ "infinity".toList :=
    map_toLower_ne h false (by decide) (by decide)
  rw [number?, spanSign_signed h]
  simp only [hnan, hinf, hinfinity, or_self, if_false]
  exact h.number? negative

end Spelled

theorem value?_of_token {value : List Char} (hsome : value ≠ [])
    (hgap : ∀ c ∈ value, isGap c = false) :
    value? value = (number? value).map (fun value => (value, none)) ∧
    value? (' ' :: value) = (number? value).map (fun value => (value, none)) := by
  have hspaced : (' ' :: value).splitOnP isGap = [[], value] := by
    have hsplit := List.splitOnP_append_cons [] value (show isGap ' ' = true from rfl)
    rw [List.nil_append, List.splitOnP_eq_singleton hgap] at hsplit
    simpa using hsplit
  constructor
  · rw [value?, List.splitOnP_eq_singleton hgap]
    simp [hsome]
  · rw [value?, hspaced]
    simp [hsome]

theorem isNumber_of_value? {cs : List Char} {p : Places} {time : Option Int}
    (h : value? cs = some (p, time)) : IsNumber p := by
  rw [value?] at h
  split at h
  · obtain ⟨q, hread, heq⟩ := Option.map_eq_some_iff.mp h
    cases heq
    exact isNumber_of_number? hread
  · obtain ⟨q, hread, hmore⟩ := Option.bind_eq_some_iff.mp h
    obtain ⟨found, -, heq⟩ := Option.map_eq_some_iff.mp hmore
    cases heq
    exact isNumber_of_number? hread
  · cases h

/-! ## Lines -/

theorem reading?_eq_some_iff {cs : List Char} {r : Reading} :
    reading? cs = some r ↔ ∃ rest after, name? true (skipGap cs) = some (r.name, rest) ∧
      block? rest = some (r.labels, after) ∧ value? after = some (r.value, r.time) := by
  constructor
  · intro h
    rw [reading?] at h
    split at h
    · cases h
    · next name rest hname =>
      split at h
      · cases h
      · next labels after hblock =>
        obtain ⟨⟨value, time⟩, hvalue, heq⟩ := Option.map_eq_some_iff.mp h
        cases heq
        exact ⟨rest, after, hname, hblock, hvalue⟩
  · rintro ⟨rest, after, hname, hblock, hvalue⟩
    simp only [reading?, hname, hblock, hvalue, Option.map_some]

theorem isName_of_block? {cs rest : List Char} {labels : List (List Char × List Char)}
    (h : block? cs = some (labels, rest)) : ∀ label ∈ labels, IsName false label.1 := by
  rw [block?] at h
  split at h
  · exact isName_of_labels? h
  · cases h
    exact List.forall_mem_nil _

/-- Labels between braces are read just in case their values are plain. -/
theorem block?_labelsText_iff {labels : List (List Char × List Char)} {tail rest : List Char}
    (hsome : labels ≠ []) (hnames : ∀ label ∈ labels, IsName false label.1) :
    block? ('\x7b' :: (labelsText labels ++ '\x7d' :: tail)) = some (labels, rest) ↔
      (∀ label ∈ labels, Plain label.2) ∧ tail = rest := by
  refine labels?_labelsText_iff hsome hnames ?_
  rw [List.length_append]
  exact Nat.le_add_right_of_le (length_le_labelsText labels)

end DocLedger.Metrics.Format
