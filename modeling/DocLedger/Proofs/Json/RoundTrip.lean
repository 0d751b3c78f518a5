import DocLedger.Proofs.Json.Room
import DocLedger.Proofs.Json.Written
import DocLedger.Proofs.Value.Stored

/-!
# Values written and read back

A value that can be stored is written without fault, and reading its text gives
what a document keeps of it, wherever in a text it stands.  The induction is on
the value; what it carries is that the text is read with fuel for twice its
length, and that it starts with no blank and no closing bracket, by which a
reader tells the first item of a list from its end.
-/

namespace DocLedger.Json

open Value (IsKey Storable keyName stored storedEntries storedItems)

/-- A text that is read as a value wherever it stands. -/
structure Spells (cs : List Char) (v : Value) : Prop where
  opens : ∃ c tail, cs = c :: tail ∧ isBlank c = false ∧ c ≠ ']'
  reads : ∀ rest fuel, Delimited rest → 2 * cs.length ≤ fuel →
    readValue fuel (cs ++ rest) = .ok (v, rest)

/-- Separators that a reader passes over, a comma and a colon with blanks behind
them, and any room for containers. -/
structure Style.Plain (style : Style) : Prop where
  comma : ∃ gap, style.comma = ',' :: gap ∧ ∀ c ∈ gap, isBlank c = true
  colon : ∃ gap, style.colon = ':' :: gap ∧ ∀ c ∈ gap, isBlank c = true
  room : style.room = none

theorem Style.compact_plain : Style.compact.Plain :=
  ⟨⟨[], rfl, nofun⟩, ⟨[], rfl, nofun⟩, rfl⟩

theorem Style.Plain.container_eq {style : Style} (hstyle : style.Plain) {front back : Char}
    {parts : Style → Except PrintFault (List (List Char))} {texts : List (List Char)}
    (h : parts style = .ok texts) :
    container style front back parts = .ok (front :: separated style texts ++ [back]) :=
  (container_eq_ok_iff_of_room hstyle.room).mpr ⟨texts, h, rfl⟩

theorem skipBlanks_gap {gap : List Char} {c : Char} (hgap : ∀ d ∈ gap, isBlank d = true)
    (hc : isBlank c = false) (tail : List Char) :
    skipBlanks (gap ++ c :: tail) = c :: tail := by
  rw [skipBlanks, List.dropWhile_append_of_pos hgap, List.dropWhile_cons_of_neg (by simp [hc])]

theorem string_append (ascii : Bool) (cs rest : List Char) :
    string ascii cs ++ rest =
      quoteMark :: (cs.flatMap (character ascii) ++ quoteMark :: rest) := by
  simp only [string, List.cons_append, List.append_assoc, List.nil_append]
  rfl

namespace Spells

variable {cs : List Char} {v : Value}

theorem skipBlanks_append (h : Spells cs v) {gap : List Char}
    (hgap : ∀ c ∈ gap, isBlank c = true) (rest : List Char) :
    skipBlanks (gap ++ (cs ++ rest)) = cs ++ rest := by
  obtain ⟨c, tail, rfl, hblank, -⟩ := h.opens
  exact skipBlanks_gap hgap hblank (tail ++ rest)

/-- What is no string, list or object is read as a scalar. -/
theorem of_scalar {c : Char} {tail : List Char}
    (hopens : isBlank c = false ∧ c ≠ ']' ∧ c ≠ quoteMark ∧ c ≠ '[' ∧ c ≠ '\x7b')
    (hreads : ∀ rest, Delimited rest → readScalar (c :: tail ++ rest) = .ok (v, rest)) :
    Spells (c :: tail) v where
  opens := ⟨c, tail, rfl, hopens.1, hopens.2.1⟩
  reads := by
    intro rest fuel hrest hfuel
    rw [List.length_cons] at hfuel
    obtain ⟨fuel, rfl⟩ := Nat.exists_eq_add_of_le' (show 1 ≤ fuel by omega)
    exact readValue_succ_eq_ok_iff.mpr (.scalar hopens.2.2 (hreads rest hrest))

theorem of_word {word : List Char} (hword : (word, v) ∈ words)
    (hopens : ∃ c tail, word = c :: tail ∧ isBlank c = false ∧ c ≠ ']' ∧ c ≠ quoteMark ∧
      c ≠ '[' ∧ c ≠ '\x7b') : Spells word v := by
  obtain ⟨c, tail, rfl, hc⟩ := hopens
  refine of_scalar hc fun rest hrest => ?_
  rw [readScalar, readWord?_of_mem hword]

theorem of_int {n : Int} (hn : Number.tooLong n = false) :
    Spells (Number.intDigits n) (.int n) := by
  obtain ⟨c, tail, hcons, hopens⟩ := exists_intDigits_eq_cons n
  have hreads : ∀ rest, Delimited rest →
      readScalar (Number.intDigits n ++ rest) = .ok (.int n, rest) :=
    fun rest hrest => readScalar_intDigits_append hn hrest
  rw [hcons] at hreads ⊢
  exact of_scalar hopens hreads

theorem of_text (ascii : Bool) (s : String) : Spells (string ascii s.toList) (.text s) where
  opens := ⟨quoteMark, _, rfl, by decide, by decide⟩
  reads := by
    intro rest fuel hrest hfuel
    have hpos : 0 < (string ascii s.toList).length := Nat.succ_pos _
    obtain ⟨fuel, rfl⟩ := Nat.exists_eq_add_of_le' (show 1 ≤ fuel by omega)
    have hread : ValueStep fuel (string ascii s.toList ++ rest) (.text s) rest := by
      rw [string_append, ← String.ofList_toList (s := s), String.toList_ofList]
      exact .text (stringBody_flatMap ascii s.toList rest)
    exact readValue_succ_eq_ok_iff.mpr hread

end Spells

/-! ## Containers -/

section Containers

variable {style : Style}

theorem separated_cons (style : Style) (first : List Char) (others : List (List Char)) :
    ∃ more, separated style (first :: others) = first ++ more := by
  cases others with
  | nil => exact ⟨[], (List.append_nil first).symm⟩
  | cons second others => exact ⟨_, List.append_assoc _ _ _⟩

/-- Items with the separator of a style between them are read one after
another. -/
theorem readItems_separated (hstyle : style.Plain) {p : List Char × Value}
    {pairs : List (List Char × Value)} (hspells : ∀ q ∈ p :: pairs, Spells q.1 q.2)
    (rest : List Char) {fuel : Nat}
    (hfuel : 2 * (separated style ((p :: pairs).map Prod.fst)).length + 1 ≤ fuel) :
    readItems fuel (separated style ((p :: pairs).map Prod.fst) ++ ']' :: rest) =
      .ok ((p :: pairs).map Prod.snd, rest) := by
  induction pairs generalizing p fuel with
  | nil =>
      -- each reader takes one unit of fuel for itself and passes on the rest
      obtain ⟨fuel, rfl⟩ := Nat.exists_eq_add_of_le' (show 1 ≤ fuel by omega)
      have hp := (hspells p List.mem_cons_self).reads (']' :: rest) fuel
        (Or.inr (Or.inr (Or.inl rfl))) (Nat.le_of_succ_le_succ hfuel)
      exact readItems_succ_eq_ok_iff.mpr (.last hp rfl)
  | cons q pairs ih =>
      obtain ⟨gap, hcomma, hgap⟩ := hstyle.comma
      obtain ⟨fuel, rfl⟩ := Nat.exists_eq_add_of_le' (show 1 ≤ fuel by omega)
      have hothers : ∀ r ∈ q :: pairs, Spells r.1 r.2 :=
        fun r hr => hspells r (List.mem_cons_of_mem _ hr)
      obtain ⟨more, hmore⟩ := separated_cons style q.1 (pairs.map Prod.fst)
      simp only [List.map_cons, separated, hcomma, List.length_append, List.length_cons]
        at hfuel ih ⊢
      have hp := (hspells p List.mem_cons_self).reads
        (',' :: (gap ++ (separated style (q.1 :: pairs.map Prod.fst) ++ ']' :: rest))) fuel
        (Or.inr (Or.inl rfl)) (by omega)
      have hskip :
          skipBlanks (gap ++ (separated style (q.1 :: pairs.map Prod.fst) ++ ']' :: rest)) =
          separated style (q.1 :: pairs.map Prod.fst) ++ ']' :: rest := by
        rw [hmore, List.append_assoc]
        exact (hothers q List.mem_cons_self).skipBlanks_append hgap _
      have hq : readItems fuel (separated style (q.1 :: pairs.map Prod.fst) ++ ']' :: rest) =
          .ok (q.2 :: pairs.map Prod.snd, rest) := ih hothers (by omega)
      rw [← hskip] at hq
      simpa only [List.append_assoc, List.cons_append] using
        readItems_succ_eq_ok_iff.mpr (.more hp rfl hq)

/-- A member of an object before it is written: its key, the text of its value
and the value. -/
structure Member where
  key : String
  cs : List Char
  value : Value

namespace Member

def text (style : Style) (m : Member) : List Char :=
  string style.ascii m.key.toList ++ style.colon ++ m.cs

def read (m : Member) : List Char × Value := (m.key.toList, m.value)

theorem length_le (style : Style) (m : Member) : m.cs.length ≤ (m.text style).length := by
  rw [text, List.length_append]
  exact Nat.le_add_left _ _

/-- The text of a member starts with a quote. -/
theorem skipBlanks_text (style : Style) (m : Member) {gap : List Char}
    (hgap : ∀ c ∈ gap, isBlank c = true) (rest : List Char) :
    skipBlanks (gap ++ (m.text style ++ rest)) = m.text style ++ rest := by
  rw [text, List.append_assoc, List.append_assoc, string_append]
  exact skipBlanks_gap hgap (by decide) _

/-- The key of a member is read, and its value with what follows is left. -/
theorem stringBody_text (hstyle : style.Plain) {m : Member} (hspells : Spells m.cs m.value)
    (rest : List Char) :
    ∃ tail colon, m.text style ++ rest = quoteMark :: tail ∧
      stringBody tail = .ok (m.key.toList, ':' :: colon) ∧
      skipBlanks colon = m.cs ++ rest := by
  obtain ⟨gap, hcolon, hgap⟩ := hstyle.colon
  refine ⟨_, gap ++ (m.cs ++ rest), ?_, stringBody_flatMap style.ascii m.key.toList _,
    hspells.skipBlanks_append hgap rest⟩
  rw [text, hcolon, List.append_assoc, List.append_assoc, string_append]
  rfl

end Member

/-- Members with the separator of a style between them are read one after
another. -/
theorem readMembers_separated (hstyle : style.Plain) {m : Member} {members : List Member}
    (hspells : ∀ l ∈ m :: members, Spells l.cs l.value) (rest : List Char) {fuel : Nat}
    (hfuel : 2 * (separated style ((m :: members).map (Member.text style))).length + 1 ≤ fuel) :
    readMembers fuel (separated style ((m :: members).map (Member.text style)) ++ '\x7d' :: rest) =
      .ok ((m :: members).map Member.read, rest) := by
  induction members generalizing m fuel with
  | nil =>
      obtain ⟨fuel, rfl⟩ := Nat.exists_eq_add_of_le' (show 1 ≤ fuel by omega)
      have hm := hspells m List.mem_cons_self
      obtain ⟨tail, colon, htext, hkey, hvalue⟩ := m.stringBody_text hstyle hm ('\x7d' :: rest)
      have hlength := m.length_le style
      have hread := hm.reads ('\x7d' :: rest) fuel (Or.inr (Or.inr (Or.inr rfl)))
        (by simp only [List.map_cons, List.map_nil, separated] at hfuel; omega)
      rw [← hvalue] at hread
      simp only [List.map_cons, List.map_nil, separated, htext]
      exact readMembers_succ_eq_ok_iff.mpr (.last hkey rfl hread rfl)
  | cons n members ih =>
      obtain ⟨gap, hcomma, hgap⟩ := hstyle.comma
      obtain ⟨fuel, rfl⟩ := Nat.exists_eq_add_of_le' (show 1 ≤ fuel by omega)
      have hothers : ∀ l ∈ n :: members, Spells l.cs l.value :=
        fun l hl => hspells l (List.mem_cons_of_mem _ hl)
      have hm := hspells m List.mem_cons_self
      obtain ⟨more, hmore⟩ := separated_cons style (n.text style) (members.map (Member.text style))
      simp only [List.map_cons, separated, hcomma, List.length_append, List.length_cons]
        at hfuel ih ⊢
      -- the others are opened by their first quote only, so their text can stay closed
      generalize hsep : separated style (n.text style :: members.map (Member.text style)) = others
        at hfuel ih hmore ⊢
      obtain ⟨tail, colon, htext, hkey, hvalue⟩ :=
        m.stringBody_text hstyle hm (',' :: (gap ++ (others ++ '\x7d' :: rest)))
      have hlength := m.length_le style
      have hread := hm.reads (',' :: (gap ++ (others ++ '\x7d' :: rest))) fuel
        (Or.inr (Or.inl rfl)) (by omega)
      have hskip : skipBlanks (gap ++ (others ++ '\x7d' :: rest)) = others ++ '\x7d' :: rest := by
        rw [hmore, List.append_assoc]
        exact n.skipBlanks_text style hgap _
      have hn : readMembers fuel (others ++ '\x7d' :: rest) =
          .ok (n.read :: members.map Member.read, rest) := by
        rw [← hsep]
        exact ih hothers (by rw [hsep]; omega)
      rw [← hskip] at hn
      rw [← hvalue] at hread
      simp only [List.append_assoc, List.cons_append, htext]
      exact readMembers_succ_eq_ok_iff.mpr (.more hkey rfl hread rfl hn)

/-- A list is read in full, whatever follows it. -/
theorem readValue_list (hstyle : style.Plain) {pairs : List (List Char × Value)}
    (hspells : ∀ p ∈ pairs, Spells p.1 p.2) (rest : List Char) {fuel : Nat}
    (hfuel : 2 * (separated style (pairs.map Prod.fst)).length + 2 ≤ fuel) :
    readValue fuel ('[' :: (separated style (pairs.map Prod.fst) ++ ']' :: rest)) =
      .ok (.list (pairs.map Prod.snd), rest) := by
  obtain ⟨fuel, rfl⟩ := Nat.exists_eq_add_of_le' (show 1 ≤ fuel by omega)
  refine readValue_succ_eq_ok_iff.mpr ?_
  cases pairs with
  | nil => exact .emptyList rfl
  | cons p pairs =>
      have hp := hspells p List.mem_cons_self
      obtain ⟨more, hmore⟩ := separated_cons style p.1 (pairs.map Prod.fst)
      have hskip : skipBlanks (separated style ((p :: pairs).map Prod.fst) ++ ']' :: rest) =
          separated style ((p :: pairs).map Prod.fst) ++ ']' :: rest := by
        rw [List.map_cons, hmore, List.append_assoc]
        exact hp.skipBlanks_append (List.forall_mem_nil _) _
      refine .list ?_ (by rw [hskip]; exact readItems_separated hstyle hspells rest (by omega))
      intro last heq
      obtain ⟨c, tail, hc, -, hclose⟩ := hp.opens
      rw [hskip, List.map_cons, hmore, hc] at heq
      exact hclose (List.cons.inj heq).1

/-- An object with distinct keys is read in full, whatever follows it. -/
theorem readValue_object (hstyle : style.Plain) {members : List Member}
    (hspells : ∀ m ∈ members, Spells m.cs m.value)
    (hdistinct : (members.map Member.key).Nodup) (rest : List Char) {fuel : Nat}
    (hfuel : 2 * (separated style (members.map (Member.text style))).length + 2 ≤ fuel) :
    readValue fuel
      ('\x7b' :: (separated style (members.map (Member.text style)) ++ '\x7d' :: rest)) =
      .ok (.mapping (members.map fun m => (.text m.key, m.value)), rest) := by
  have hmembers : ofMembers (members.map Member.read) =
      .mapping (members.map fun m => (.text m.key, m.value)) := by
    have hentries := @Value.ofEntries_of_nodup (members.map fun m => (m.key, m.value))
      (by simpa [Function.comp_def] using hdistinct)
    simpa [ofMembers, Member.read, Function.comp_def] using hentries
  obtain ⟨fuel, rfl⟩ := Nat.exists_eq_add_of_le' (show 1 ≤ fuel by omega)
  rw [readValue_succ_eq_ok_iff, ← hmembers]
  cases members with
  | nil => exact .emptyObject rfl
  | cons m members =>
      obtain ⟨more, hmore⟩ := separated_cons style (m.text style) (members.map (Member.text style))
      have hskip : skipBlanks (separated style ((m :: members).map (Member.text style)) ++
          '\x7d' :: rest) = separated style ((m :: members).map (Member.text style)) ++
            '\x7d' :: rest := by
        rw [List.map_cons, hmore, List.append_assoc]
        exact m.skipBlanks_text style (List.forall_mem_nil _) _
      refine .object ?_
        (by rw [hskip]; exact readMembers_separated hstyle hspells rest (by omega))
      intro last heq
      rw [hskip, List.map_cons, hmore, Member.text, List.append_assoc, List.append_assoc,
        List.append_assoc, string_append] at heq
      exact absurd (List.cons.inj heq).1 (by decide)

/-- An object with distinct keys is read to the end of its text. -/
theorem readFront_object (hstyle : style.Plain) {members : List Member}
    (hspells : ∀ m ∈ members, Spells m.cs m.value)
    (hdistinct : (members.map Member.key).Nodup) :
    readFront ('\x7b' :: (separated style (members.map (Member.text style)) ++ ['\x7d'])) =
      .ok (.mapping (members.map fun m => (.text m.key, m.value)), []) := by
  refine readValue_object hstyle hspells hdistinct [] ?_
  simp only [fuelFor, List.length_cons, List.length_append, List.length_nil]
  omega

theorem readDocument_of_readFront {tail : List Char} {v : Value}
    (h : readFront ('\x7b' :: tail) = .ok (v, [])) : readDocument ('\x7b' :: tail) = .ok v := by
  have hmark : (some '\x7b' == some (Char.ofNat 0xfeff)) = false := by decide
  have hskip : skipBlanks ('\x7b' :: tail) = '\x7b' :: tail :=
    skipBlanks_gap (List.forall_mem_nil _) (by decide) tail
  simp only [readDocument, List.head?_cons, hmark, Bool.false_eq_true, if_false, hskip, h]
  rfl

theorem Spells.of_list (hstyle : style.Plain) {pairs : List (List Char × Value)}
    (hspells : ∀ p ∈ pairs, Spells p.1 p.2) :
    Spells ('[' :: separated style (pairs.map Prod.fst) ++ [']']) (.list (pairs.map Prod.snd)) where
  opens := ⟨'[', _, rfl, by decide, by decide⟩
  reads := by
    intro rest fuel _ hfuel
    simp only [List.cons_append, List.append_assoc, List.nil_append, List.length_cons,
      List.length_append, List.length_nil] at hfuel ⊢
    exact readValue_list hstyle hspells rest (by omega)

theorem Spells.of_object (hstyle : style.Plain) {members : List Member}
    (hspells : ∀ m ∈ members, Spells m.cs m.value)
    (hdistinct : (members.map Member.key).Nodup) :
    Spells ('\x7b' :: separated style (members.map (Member.text style)) ++ ['\x7d'])
      (.mapping (members.map fun m => (.text m.key, m.value))) where
  opens := ⟨'\x7b', _, rfl, by decide, by decide⟩
  reads := by
    intro rest fuel _ hfuel
    simp only [List.cons_append, List.append_assoc, List.nil_append, List.length_cons,
      List.length_append, List.length_nil] at hfuel ⊢
    exact readValue_object hstyle hspells hdistinct rest (by omega)

end Containers

/-! ## Values -/

/-- A value is written without fault, as a text that gives what a document keeps
of it. -/
def Written (style : Style) (v : Value) : Prop :=
  ∃ cs, render style v = .ok cs ∧ Spells cs (stored v)

theorem keyText_of_isKey {k : Value} (h : IsKey k) (style : Style) :
    keyText style k = .ok (keyName k).toList := by
  cases h with
  | text s => rfl
  | null => rfl
  | bool b => cases b <;> rfl
  | int hshort => simp [keyText, integer, hshort, keyName]

theorem renderItems_of_written {style : Style} {items : List Value}
    (h : ∀ v ∈ items, Written style v) :
    ∃ pairs : List (List Char × Value), renderItems style items = .ok (pairs.map Prod.fst) ∧
      pairs.map Prod.snd = storedItems items ∧ ∀ p ∈ pairs, Spells p.1 p.2 := by
  induction items with
  | nil => exact ⟨[], rfl, rfl, nofun⟩
  | cons v items ih =>
      obtain ⟨cs, hrender, hspells⟩ := h v List.mem_cons_self
      obtain ⟨pairs, hpairs, hstored, hall⟩ := ih fun w hw => h w (List.mem_cons_of_mem _ hw)
      refine ⟨(cs, stored v) :: pairs, ?_, ?_, List.forall_mem_cons.mpr ⟨hspells, hall⟩⟩
      · simp [renderItems, hrender, hpairs]
      · simp [storedItems, hstored]

theorem renderEntries_of_written {style : Style} {entries : List (Value × Value)}
    (hkeys : ∀ e ∈ entries, IsKey e.1) (h : ∀ e ∈ entries, Written style e.2) :
    ∃ members : List Member,
      renderEntries style entries = .ok (members.map (Member.text style)) ∧
      (members.map fun m => (Value.text m.key, m.value)) = storedEntries entries ∧
      members.map Member.key = (entries.map fun e => keyName e.1) ∧
      ∀ m ∈ members, Spells m.cs m.value := by
  induction entries with
  | nil => exact ⟨[], rfl, rfl, rfl, nofun⟩
  | cons e entries ih =>
      obtain ⟨k, v⟩ := e
      obtain ⟨cs, hrender, hspells⟩ := h (k, v) List.mem_cons_self
      obtain ⟨members, hmembers, hstored, hnames, hall⟩ :=
        ih (fun w hw => hkeys w (List.mem_cons_of_mem _ hw))
          (fun w hw => h w (List.mem_cons_of_mem _ hw))
      have hkey := keyText_of_isKey (hkeys (k, v) List.mem_cons_self) style
      refine ⟨⟨keyName k, cs, stored v⟩ :: members, ?_, ?_, ?_,
        List.forall_mem_cons.mpr ⟨hspells, hall⟩⟩
      · simp [renderEntries, hkey, hrender, hmembers, Member.text]
      · simp [storedEntries, hstored]
      · simp [hnames]

/-- Every value that can be stored is written, and its text is read as what a
document keeps of it. -/
theorem written_of_storable {style : Style} (hstyle : style.Plain) {v : Value}
    (hv : Storable v) : Written style v := by
  induction hv with
  | null => exact ⟨_, rfl, .of_word (by simp [words, stored]) ⟨_, _, rfl, by decide⟩⟩
  | bool b =>
      cases b with
      | false => exact ⟨_, rfl, .of_word (by simp [words, stored]) ⟨_, _, rfl, by decide⟩⟩
      | true => exact ⟨_, rfl, .of_word (by simp [words, stored]) ⟨_, _, rfl, by decide⟩⟩
  | int hshort =>
      refine ⟨_, ?_, .of_int hshort⟩
      simp [render, integer, hshort]
  | text s => exact ⟨_, rfl, .of_text style.ascii s⟩
  | list _ ih =>
      obtain ⟨pairs, hrender, hstored, hspells⟩ := renderItems_of_written ih
      refine ⟨_, by rw [render, hstyle.container_eq hrender], ?_⟩
      rw [stored, ← hstored]
      exact .of_list hstyle hspells
  | tuple _ ih =>
      obtain ⟨pairs, hrender, hstored, hspells⟩ := renderItems_of_written ih
      refine ⟨_, by rw [render, hstyle.container_eq hrender], ?_⟩
      rw [stored, ← hstored]
      exact .of_list hstyle hspells
  | mapping hkeys _ hdistinct ih =>
      obtain ⟨members, hrender, hstored, hnames, hspells⟩ := renderEntries_of_written hkeys ih
      refine ⟨_, by rw [render, hstyle.container_eq hrender], ?_⟩
      rw [stored, ← hstored]
      exact .of_object hstyle hspells (hnames ▸ hdistinct)

/-- A mapping that can be stored is written as an object that is read to its end. -/
theorem readFront_of_storable {style : Style} (hstyle : style.Plain)
    {entries : List (Value × Value)} (h : Storable (.mapping entries)) :
    ∃ tail, render style (.mapping entries) = .ok ('\x7b' :: tail) ∧
      readFront ('\x7b' :: tail) = .ok (.mapping (storedEntries entries), []) := by
  cases h with
  | mapping hkeys hvalues hdistinct =>
      have hwritten : ∀ e ∈ entries, Written style e.2 :=
        fun e he => written_of_storable hstyle (hvalues e he)
      obtain ⟨members, hrender, hstored, hnames, hspells⟩ :=
        renderEntries_of_written hkeys hwritten
      refine ⟨separated style (members.map (Member.text style)) ++ ['\x7d'],
        by rw [render, hstyle.container_eq hrender]; rfl, ?_⟩
      rw [← hstored]
      exact readFront_object hstyle hspells (hnames ▸ hdistinct)

/-- The text of a mapping that is kept as it is stands for this mapping. -/
theorem readDocument_of_render {style : Style} (hstyle : style.Plain)
    {entries : List (Value × Value)} (h : Storable (.mapping entries))
    (hstored : storedEntries entries = entries) {text : List Char}
    (htext : render style (.mapping entries) = .ok text) :
    readDocument text = .ok (.mapping entries) := by
  obtain ⟨tail, hrender, hread⟩ := readFront_of_storable hstyle h
  obtain rfl : text = '\x7b' :: tail := Except.ok.inj (htext.symm.trans hrender)
  rw [hstored] at hread
  exact readDocument_of_readFront hread

end DocLedger.Json
