import DocLedger.Proofs.Report.Accepted

/-!
# Every misfit is listed

A part of a value fails where its shape does not accept it and no part of it is to
blame, or where a field that must be there is missing.  What a reader complains of is
the list of all parts that fail, each once: fields in the order of their declaration,
and the items of a list in the order of the list.  No part that is accepted, and no
part of such a part, is complained of.
-/

namespace DocLedger.Report

/-! ## The parts that fail -/

/-- A field is declared among the fields of a record. -/
inductive Fields.Has : Fields → String → Shape → Option Value → Prop
  | head {name : String} {shape : Shape} {default : Option Value} {rest : Fields} :
      Has (.cons name shape default rest) name shape default
  | tail {name other : String} {shape first : Shape} {default value : Option Value}
      {rest : Fields} (h : Has rest name shape default) :
      Has (.cons other first value rest) name shape default

/-- The names of the fields of a record in the order of their declaration. -/
def Fields.names : Fields → List String
  | .nil => []
  | .cons name _ _ rest => name :: rest.names

/-- A value that is no text, no number and no truth value. -/
inductive NoScalar : Value → Prop
  | null : NoScalar .null
  | list (items : List Value) : NoScalar (.list items)
  | mapping (entries : List (Value × Value)) : NoScalar (.mapping entries)

/-- Why a value is not accepted by a shape that has no parts.  A text that is no numeral
may also be called too large once it has that many digits. -/
inductive Shape.Blames : Shape → Value → Misfit → Prop
  | notText {v : Value} (hv : ∀ s, v ≠ .text s) : Blames .text v .notText
  | notInteger {v : Value} (hv : NoScalar v) : Blames .integer v .notInteger
  | notFinite {x : Float} (hx : ∀ n d, Number.exact x ≠ .fraction n d) :
      Blames .integer (.float x) .notFinite
  | fractional {x : Float} {n : Int} {d : Nat} (hexact : Number.exact x = .fraction n d)
      (hpart : ¬ (d : Int) ∣ n) : Blames .integer (.float x) .fractional
  | largeDouble {x : Float} {n : Int} {d : Nat} (hexact : Number.exact x = .fraction n d)
      (hwhole : (d : Int) ∣ n) (hbound : ¬ (-2 ^ 63 < n / d ∧ n / d < 2 ^ 63)) :
      Blames .integer (.float x) .tooLarge
  | longNumeral {s : String} {negative : Bool} {digits : List Char}
      (hnumeral : Numeral s.toList negative digits)
      (hlength : Number.digitLimit < numeralLength negative digits) :
      Blames .integer (.text s) .tooLarge
  | noNumeral {s : String} (hs : ∀ negative digits, ¬ Numeral s.toList negative digits) :
      Blames .integer (.text s) .notIntegerText
  | longText {s : String} (hs : ∀ negative digits, ¬ Numeral s.toList negative digits)
      (hdigits : Number.digitLimit ≤ s.toList.countP Char.isDigit) :
      Blames .integer (.text s) .tooLarge
  | notTruth {v : Value} (hv : NoScalar v) : Blames .truth v .notTruth
  | otherInteger {n : Int} (hn : n ≠ 0 ∧ n ≠ 1) (hbound : -2 ^ 63 ≤ n ∧ n < 2 ^ 63) :
      Blames .truth (.int n) .notTruthWord
  | largeInteger {n : Int} (hbound : ¬ (-2 ^ 63 ≤ n ∧ n < 2 ^ 63)) :
      Blames .truth (.int n) .notTruth
  | otherDouble {x : Float} {n : Int} (hx : MeansInteger (.float x) n) (hn : n ≠ 0 ∧ n ≠ 1) :
      Blames .truth (.float x) .notTruthWord
  | noInteger {x : Float} (hx : ∀ n, ¬ MeansInteger (.float x) n) :
      Blames .truth (.float x) .notTruth
  | noWord {s : String} (hs : ∀ b, String.ofList (s.toList.map Char.toLower) ∉ truthWords b) :
      Blames .truth (.text s) .notTruthWord

/-- The part of a value at a path fails under a shape with a misfit. -/
inductive Shape.Fails : Shape → Value → List Step → Misfit → Prop
  | leaf {shape : Shape} {v : Value} {misfit : Misfit} (h : shape.Blames v misfit) :
      Fails shape v [] misfit
  | optional {shape : Shape} {v : Value} {path : List Step} {misfit : Misfit}
      (hv : v ≠ .null) (h : Fails shape v path misfit) : Fails (.optional shape) v path misfit
  | notList {shape : Shape} {v : Value} (hv : ∀ items, v ≠ .list items) :
      Fails (.list shape) v [] .notList
  | item {shape : Shape} {items : List Value} {index : Nat} {v : Value} {path : List Step}
      {misfit : Misfit} (hitem : items[index]? = some v) (h : Fails shape v path misfit) :
      Fails (.list shape) (.list items) (.item index :: path) misfit
  | notRecord {name : String} {fields : Fields} {v : Value} (hv : ∀ entries, v ≠ .mapping entries) :
      Fails (.record name fields) v [] (.notRecord name)
  | missing {name : String} {fields : Fields} {entries : List (Value × Value)} {field : String}
      {shape : Shape} (hfield : fields.Has field shape none)
      (hlookup : Value.lookup field entries = none) :
      Fails (.record name fields) (.mapping entries) [.field field] .missing
  | field {name : String} {fields : Fields} {entries : List (Value × Value)} {field : String}
      {shape : Shape} {default : Option Value} {v : Value} {path : List Step} {misfit : Misfit}
      (hfield : fields.Has field shape default) (hlookup : Value.lookup field entries = some v)
      (h : Fails shape v path misfit) :
      Fails (.record name fields) (.mapping entries) (.field field :: path) misfit

/-- The part of a value at a path is accepted, or left out where it may be. -/
inductive Shape.Passes : Shape → Value → List Step → Prop
  | here {shape : Shape} {v : Value} (h : shape.Accepts v) : Passes shape v []
  | optional {shape : Shape} {v : Value} {path : List Step} (hv : v ≠ .null)
      (h : Passes shape v path) : Passes (.optional shape) v path
  | item {shape : Shape} {items : List Value} {index : Nat} {v : Value} {path : List Step}
      (hitem : items[index]? = some v) (h : Passes shape v path) :
      Passes (.list shape) (.list items) (.item index :: path)
  | absent {name : String} {fields : Fields} {entries : List (Value × Value)} {field : String}
      {shape : Shape} {value : Value} (hfield : fields.Has field shape (some value))
      (hlookup : Value.lookup field entries = none) :
      Passes (.record name fields) (.mapping entries) [.field field]
  | field {name : String} {fields : Fields} {entries : List (Value × Value)} {field : String}
      {shape : Shape} {default : Option Value} {v : Value} {path : List Step}
      (hfield : fields.Has field shape default) (hlookup : Value.lookup field entries = some v)
      (h : Passes shape v path) :
      Passes (.record name fields) (.mapping entries) (.field field :: path)

/-- One path stands before another: the fields on them part in the order of their
declaration, or the items in the order of their list. -/
inductive Shape.Precedes : Shape → List Step → List Step → Prop
  | optional {shape : Shape} {p q : List Step} (h : Precedes shape p q) :
      Precedes (.optional shape) p q
  | items {shape : Shape} {i j : Nat} {p q : List Step} (h : i < j) :
      Precedes (.list shape) (.item i :: p) (.item j :: q)
  | item {shape : Shape} {i : Nat} {p q : List Step} (h : Precedes shape p q) :
      Precedes (.list shape) (.item i :: p) (.item i :: q)
  | fields {name : String} {fields : Fields} {a b : String} {p q : List Step}
      (h : [a, b].Sublist fields.names) :
      Precedes (.record name fields) (.field a :: p) (.field b :: q)
  | field {name : String} {fields : Fields} {a : String} {shape : Shape}
      {default : Option Value} {p q : List Step} (hfield : fields.Has a shape default)
      (h : Precedes shape p q) :
      Precedes (.record name fields) (.field a :: p) (.field a :: q)

/-- The problems are just the parts that fail, in order. -/
structure Lists (Fails : List Step → Misfit → Prop) (Precedes : List Step → List Step → Prop)
    (problems : List Problem) : Prop where
  sound : ∀ p ∈ problems, Fails p.path p.misfit
  complete : ∀ path misfit, Fails path misfit → ∃ p ∈ problems, p.path = path
  ordered : problems.Pairwise fun p q => Precedes p.path q.path

/-- How a value is read under a shape that has no parts. -/
def Shape.leaf? : Shape → Option (Value → Except Misfit Value)
  | .text => some readText
  | .integer => some readInteger
  | .truth => some readTruth
  | _ => none

section

variable {shape : Shape} {v : Value} {path : List Step} {misfit : Misfit} {name : String}
  {entries : List (Value × Value)}

theorem Shape.fails_leaf_iff {read : Value → Except Misfit Value}
    (hleaf : shape.leaf? = some read) :
    shape.Fails v path misfit ↔ path = [] ∧ shape.Blames v misfit := by
  constructor
  · intro h
    cases h with
    | leaf h => exact ⟨rfl, h⟩
    | _ => cases hleaf
  · rintro ⟨rfl, h⟩
    exact .leaf h

theorem Shape.not_fails_anything : ¬ Shape.anything.Fails v path misfit := by
  intro h
  cases h with
  | leaf h => cases h

theorem Shape.fails_optional_iff :
    (Shape.optional shape).Fails v path misfit ↔ v ≠ .null ∧ shape.Fails v path misfit := by
  constructor
  · intro h
    cases h with
    | leaf h => cases h
    | optional hv h => exact ⟨hv, h⟩
  · rintro ⟨hv, h⟩
    exact .optional hv h

theorem Shape.fails_list_iff {items : List Value} :
    (Shape.list shape).Fails (.list items) path misfit ↔
      ∃ index w rest, items[index]? = some w ∧ path = .item index :: rest ∧
        shape.Fails w rest misfit := by
  constructor
  · intro h
    cases h with
    | leaf h => cases h
    | notList hv => exact absurd rfl (hv items)
    | item hitem h => exact ⟨_, _, _, hitem, rfl, h⟩
  · rintro ⟨index, w, rest, hitem, rfl, h⟩
    exact .item hitem h

theorem Shape.forall_not_fails_list_iff {items : List Value} :
    (∀ path misfit, ¬ (Shape.list shape).Fails (.list items) path misfit) ↔
      ∀ w ∈ items, ∀ path misfit, ¬ shape.Fails w path misfit := by
  constructor
  · intro h w hw path misfit hfails
    obtain ⟨index, hitem⟩ := List.mem_iff_getElem?.mp hw
    exact h _ _ (.item hitem hfails)
  · intro h path misfit hfails
    obtain ⟨index, w, rest, hitem, -, hpart⟩ := Shape.fails_list_iff.mp hfails
    exact h w (List.mem_of_getElem? hitem) rest misfit hpart

theorem Shape.fails_not_list_iff (hv : ∀ items, v ≠ .list items) :
    (Shape.list shape).Fails v path misfit ↔ path = [] ∧ misfit = .notList := by
  constructor
  · intro h
    cases h with
    | leaf h => cases h
    | notList => exact ⟨rfl, rfl⟩
    | item => exact absurd rfl (hv _)
  · rintro ⟨rfl, rfl⟩
    exact .notList hv

theorem Shape.fails_not_record_iff {fields : Fields} (hv : ∀ entries, v ≠ .mapping entries) :
    (Shape.record name fields).Fails v path misfit ↔ path = [] ∧ misfit = .notRecord name := by
  constructor
  · intro h
    cases h with
    | leaf h => cases h
    | notRecord => exact ⟨rfl, rfl⟩
    | missing | field => exact absurd rfl (hv _)
  · rintro ⟨rfl, rfl⟩
    exact .notRecord hv

theorem Shape.not_fails_nil : ¬ (Shape.record name .nil).Fails (.mapping entries) path misfit := by
  intro h
  cases h with
  | leaf h => cases h
  | notRecord hv => exact hv entries rfl
  | missing hfield | field hfield => cases hfield

/-- What fails of a field: the part of its value, or the field itself where it is missing. -/
def Shape.FieldFails (shape : Shape) (default : Option Value) (value : Option Value)
    (path : List Step) (misfit : Misfit) : Prop :=
  match value with
  | some v => shape.Fails v path misfit
  | none => default = none ∧ path = [] ∧ misfit = .missing

theorem Shape.fails_cons_iff {field : String} {default : Option Value} {fields : Fields} :
    (Shape.record name (.cons field shape default fields)).Fails (.mapping entries) path misfit ↔
      (∃ rest, path = .field field :: rest ∧
        shape.FieldFails default (Value.lookup field entries) rest misfit) ∨
      (Shape.record name fields).Fails (.mapping entries) path misfit := by
  constructor
  · intro h
    cases h with
    | leaf h => cases h
    | notRecord hv => exact absurd rfl (hv entries)
    | missing hfield hlookup =>
        cases hfield with
        | head => exact .inl ⟨[], rfl, by simp [Shape.FieldFails, hlookup]⟩
        | tail hfield => exact .inr (.missing hfield hlookup)
    | field hfield hlookup h =>
        cases hfield with
        | head => exact .inl ⟨_, rfl, by simpa [Shape.FieldFails, hlookup] using h⟩
        | tail hfield => exact .inr (.field hfield hlookup h)
  · rintro (⟨rest, rfl, h⟩ | h)
    · cases hlookup : Value.lookup field entries with
      | some w =>
          rw [hlookup] at h
          exact .field .head hlookup h
      | none =>
          rw [hlookup] at h
          obtain ⟨rfl, rfl, rfl⟩ := h
          exact .missing .head hlookup
    · cases h with
      | leaf h => cases h
      | notRecord hv => exact absurd rfl (hv entries)
      | missing hfield hlookup => exact .missing (.tail hfield) hlookup
      | field hfield hlookup h => exact .field (.tail hfield) hlookup h

end

/-! ## Accepted is without a part that fails -/

theorem Shape.read_of_leaf {shape : Shape} {read : Value → Except Misfit Value}
    (hleaf : shape.leaf? = some read) (path : List Step) (v : Value) :
    shape.read path v = atPath path (read v) := by
  cases shape <;> cases hleaf <;> rfl

theorem blames_of_integerOfDouble {x : Float} {misfit : Misfit}
    (h : integerOfDouble x = .error misfit) : Shape.integer.Blames (.float x) misfit := by
  have hreal (hx : ∀ n d, Number.exact x ≠ .fraction n d)
      (hnone : integerOfExact (Number.exact x) = .error .notFinite) :
      Shape.integer.Blames (.float x) misfit := by
    rw [integerOfDouble, hnone] at h
    cases h
    exact .notFinite hx
  cases hexact : Number.exact x with
  | undefined => exact hreal (by simp [hexact]) (by rw [hexact]; rfl)
  | infinite negative => exact hreal (by simp [hexact]) (by rw [hexact]; rfl)
  | fraction n d =>
      by_cases hwhole : n % (d : Int) = 0
      · by_cases hbound : -doubleBound < n / d ∧ n / d < doubleBound
        · simp [integerOfDouble, hexact, integerOfExact, hwhole, hbound, bind, Except.bind, pure,
            Except.pure] at h
        · have hmisfit : Misfit.tooLarge = misfit := by
            simpa [integerOfDouble, hexact, integerOfExact, hwhole, hbound, bind, Except.bind,
              throw, throwThe, MonadExceptOf.throw] using h
          rw [doubleBound_eq] at hbound
          rw [← hmisfit]
          exact .largeDouble hexact (Int.dvd_of_emod_eq_zero hwhole) hbound
      · have hmisfit : Misfit.fractional = misfit := by
          simpa [integerOfDouble, hexact, integerOfExact, hwhole, bind, Except.bind] using h
        rw [← hmisfit]
        exact .fractional hexact fun hdvd => hwhole (Int.emod_eq_zero_of_dvd hdvd)

theorem blames_of_integerOfText {s : String} {misfit : Misfit}
    (h : integerOfText s.toList = .error misfit) : Shape.integer.Blames (.text s) misfit := by
  by_cases hnumeral : ∃ negative digits, Numeral s.toList negative digits
  · obtain ⟨negative, digits, hnumeral⟩ := hnumeral
    rw [hnumeral.integerOfText_eq] at h
    split at h
    · next hlength =>
      cases h
      exact .longNumeral hnumeral hlength
    · cases h
  · have hnone : ∀ negative digits, ¬ Numeral s.toList negative digits := by simpa using hnumeral
    rcases misfit_of_integerOfText h with rfl | ⟨rfl, hdigits⟩
    · exact .noNumeral hnone
    · exact .longText hnone hdigits

theorem blames_of_truthOfInteger {n : Int} {misfit : Misfit}
    (h : truthOfInteger n = .error misfit) : Shape.truth.Blames (.int n) misfit := by
  have hn : n ≠ 0 ∧ n ≠ 1 := by
    constructor <;> rintro rfl <;> cases h
  unfold truthOfInteger at h
  by_cases hbound : -doubleBound ≤ n ∧ n < doubleBound
  · obtain rfl : Misfit.notTruthWord = misfit := by simpa [hn, hbound] using h
    exact .otherInteger hn hbound
  · obtain rfl : Misfit.notTruth = misfit := by simpa [hn, hbound] using h
    exact .largeInteger hbound

theorem blames_of_truthOfDouble {x : Float} {misfit : Misfit}
    (h : truthOfDouble x = .error misfit) : Shape.truth.Blames (.float x) misfit := by
  unfold truthOfDouble at h
  cases hx : integerOfDouble x with
  | ok n =>
      have hn : n ≠ 0 ∧ n ≠ 1 := by
        constructor <;> rintro rfl <;> simp [hx] at h
      obtain rfl : Misfit.notTruthWord = misfit := by simpa [hx, hn] using h
      exact .otherDouble (integerOfDouble_eq_ok_iff.mp hx) hn
  | error other =>
      obtain rfl : Misfit.notTruth = misfit := by simpa [hx] using h
      refine .noInteger fun n hn => ?_
      rw [integerOfDouble_eq_ok_iff.mpr hn] at hx
      cases hx

theorem blames_of_truthOfWord {s : String} {misfit : Misfit}
    (h : truthOfWord s = .error misfit) : Shape.truth.Blames (.text s) misfit := by
  have hs : ∀ b, String.ofList (s.toList.map Char.toLower) ∉ truthWords b := by
    intro b hb
    rw [truthOfWord_eq_ok_iff.mpr (.text hb)] at h
    cases h
  unfold truthOfWord at h
  obtain rfl : Misfit.notTruthWord = misfit := by
    simpa only [List.contains_iff_mem, mem_falseWords_iff, mem_trueWords_iff, hs, ↓reduceIte,
      Except.error.injEq] using h
  exact .noWord hs

section

variable {shape : Shape} {read : Value → Except Misfit Value} {v : Value} {misfit : Misfit}

theorem map_eq_error {α : Type} {f : α → Value} {x : Except Misfit α}
    (h : x.map f = .error misfit) : x = .error misfit := by
  cases x with
  | ok a => cases h
  | error other => exact congrArg Except.error (Except.error.inj h)

theorem Shape.blames_of_read (hleaf : shape.leaf? = some read) (hv : Datum v)
    (h : read v = .error misfit) : shape.Blames v misfit := by
  cases shape with
  | text =>
      cases hleaf
      cases hv with
      | text s => cases h
      | null | bool | int | float | list | mapping =>
          cases h
          exact .notText nofun
  | integer =>
      cases hleaf
      cases hv with
      | bool | int => cases h
      | float x => exact blames_of_integerOfDouble (map_eq_error h)
      | text s => exact blames_of_integerOfText (map_eq_error h)
      | null | list | mapping =>
          cases h
          exact .notInteger (by constructor)
  | truth =>
      cases hleaf
      cases hv with
      | bool => cases h
      | int n => exact blames_of_truthOfInteger (map_eq_error h)
      | float x => exact blames_of_truthOfDouble (map_eq_error h)
      | text s => exact blames_of_truthOfWord (map_eq_error h)
      | null | list | mapping =>
          cases h
          exact .notTruth (by constructor)
  | anything | optional | list | record => cases hleaf

theorem Shape.Blames.not_accepts (h : shape.Blames v misfit) : ¬ shape.Accepts v := by
  cases h with
  | notText hv => exact fun ⟨s, hs⟩ => hv s hs
  | notInteger hv =>
      rintro ⟨n, hn⟩
      cases hv <;> cases hn
  | notFinite hx =>
      rintro ⟨_, hn⟩
      cases hn with
      | float hexact => exact hx _ _ hexact
  | fractional hexact hpart =>
      rintro ⟨_, hn⟩
      cases hn with
      | float hother hwhole =>
          cases hexact.symm.trans hother
          exact hpart hwhole
  | largeDouble hexact _ hbound =>
      rintro ⟨_, hn⟩
      cases hn with
      | float hother _ hwithin =>
          cases hexact.symm.trans hother
          exact hbound hwithin
  | longNumeral hnumeral hlength =>
      rintro ⟨n, hn⟩
      have hread := integerOfText_toList_eq_ok_iff.mpr hn
      rw [hnumeral.integerOfText_eq, if_pos hlength] at hread
      cases hread
  | noNumeral hs | longText hs =>
      rintro ⟨_, hn⟩
      cases hn with
      | text hnumeral => exact hs _ _ hnumeral
  | notTruth hv =>
      rintro ⟨b, hb⟩
      cases hv <;> cases hb
  | otherInteger hn =>
      rintro ⟨b, hb⟩
      cases hb with
      | int => cases b <;> simp at hn
  | largeInteger hbound =>
      rintro ⟨b, hb⟩
      cases hb with
      | int => cases b <;> simp at hbound
  | otherDouble hx hn =>
      rintro ⟨b, hb⟩
      cases hb with
      | float hnumber =>
          have hread := integerOfDouble_eq_ok_iff.mpr hx
          rw [integerOfDouble_eq_ok_iff.mpr hnumber] at hread
          cases hread
          cases b <;> simp at hn
  | noInteger hx =>
      rintro ⟨b, hb⟩
      cases hb with
      | float hnumber => exact hx _ hnumber
  | noWord hs =>
      rintro ⟨b, hb⟩
      cases hb with
      | text hword => exact hs b hword

theorem Shape.accepts_of_leaf_iff (hv : Datum v) (hleaf : shape.leaf? = some read) :
    shape.Accepts v ↔ ∀ path misfit, ¬ shape.Fails v path misfit := by
  constructor
  · intro haccepts path misfit hfails
    exact ((Shape.fails_leaf_iff hleaf).mp hfails).2.not_accepts haccepts
  · intro hnone
    rw [← Shape.accepts_iff hv [], Shape.read_of_leaf hleaf]
    simp only [atPath_eq_ok_iff]
    cases hread : read v with
    | ok r => exact ⟨r, rfl⟩
    | error misfit => exact absurd (.leaf (Shape.blames_of_read hleaf hv hread)) (hnone [] misfit)

end

mutual

/-- A value is accepted just if no part of it fails. -/
theorem Shape.accepts_iff_forall_not_fails (shape : Shape) (v : Value) (hv : Datum v) :
    shape.Accepts v ↔ ∀ path misfit, ¬ shape.Fails v path misfit := by
  cases shape with
  | text | integer | truth => exact Shape.accepts_of_leaf_iff hv rfl
  | anything => exact ⟨fun _ _ _ => Shape.not_fails_anything, fun _ => trivial⟩
  | optional shape =>
      rw [Shape.Accepts, Shape.accepts_iff_forall_not_fails shape v hv]
      by_cases h : v = .null <;> simp [Shape.fails_optional_iff, h]
  | list shape =>
      cases hv with
      | @list items hitems =>
          have hitem (w : Value) (hw : w ∈ items) :=
            Shape.accepts_iff_forall_not_fails shape w (hitems w hw)
          rw [Shape.forall_not_fails_list_iff]
          simp +contextual [Shape.Accepts, hitem]
      | null | bool | int | float | text | mapping =>
          simp [Shape.Accepts, Shape.fails_not_list_iff]
  | record name fields =>
      cases hv with
      | @mapping entries hvalues =>
          simp [Shape.Accepts, Fields.accept_iff_forall_not_fails fields name entries hvalues]
      | null | bool | int | float | text | list =>
          simp [Shape.Accepts, Shape.fails_not_record_iff]

theorem Fields.accept_iff_forall_not_fails (fields : Fields) (name : String)
    (entries : List (Value × Value)) (hvalues : ∀ e ∈ entries, Datum e.2) :
    fields.Accept entries ↔
      ∀ path misfit, ¬ (Shape.record name fields).Fails (.mapping entries) path misfit := by
  cases fields with
  | nil => exact ⟨fun _ _ _ => Shape.not_fails_nil, fun _ => trivial⟩
  | cons field shape default rest =>
      rw [Fields.Accept, Fields.accept_iff_forall_not_fails rest name entries hvalues]
      simp only [Shape.fails_cons_iff, not_or, forall_and]
      apply and_congr_left'
      cases hlookup : Value.lookup field entries with
      | some v =>
          obtain ⟨e, hmem, rfl⟩ := mem_of_lookup hlookup
          simp [Shape.FieldFails, Shape.accepts_iff_forall_not_fails shape e.2 (hvalues e hmem)]
          grind
      | none => cases default <;> simp [Shape.FieldFails]

end

/-! ## What is complained of -/

/-- What a reader complains of: nothing if it reads the value. -/
def complaints {α : Type} : Read α → List Problem
  | .ok _ => []
  | .error problems => problems

/-- A problem of a part, seen from the whole. -/
def Problem.under (path : List Step) (p : Problem) : Problem :=
  { p with path := path ++ p.path }

@[simp] theorem complaints_map {α β : Type} (f : α → β) (x : Read α) :
    complaints (x.map f) = complaints x := by
  cases x <;> rfl

@[simp] theorem complaints_joinRead {α β γ : Type} (join : α → β → γ) (first : Read α)
    (rest : Read β) :
    complaints (joinRead join first rest) = complaints first ++ complaints rest := by
  cases first <;> cases rest <;> simp [joinRead, complaints]

theorem Problem.map_under_nil (problems : List Problem) :
    problems.map (Problem.under []) = problems :=
  List.map_id problems

theorem Problem.map_under_append (path more : List Step) (problems : List Problem) :
    problems.map (Problem.under (path ++ more)) =
      (problems.map (Problem.under more)).map (Problem.under path) := by
  simp [Problem.under, Function.comp_def]

section

variable {Fails FailsFirst FailsRest : List Step → Misfit → Prop}
  {Precedes PrecedesFirst : List Step → List Step → Prop} {first rest : List Problem}

theorem Lists.nil (h : ∀ path misfit, ¬ Fails path misfit) : Lists Fails Precedes [] :=
  ⟨nofun, fun path misfit hfails => absurd hfails (h path misfit), .nil⟩

theorem Lists.singleton {misfit : Misfit} (hfails : Fails [] misfit)
    (hpath : ∀ path other, Fails path other → path = []) : Lists Fails Precedes [⟨[], misfit⟩] where
  sound := by simpa using hfails
  complete path other hother := ⟨_, List.mem_singleton_self _, (hpath path other hother).symm⟩
  ordered := List.pairwise_singleton _ _

theorem Lists.imp (h : Lists FailsFirst PrecedesFirst first)
    (hfails : ∀ path misfit, Fails path misfit ↔ FailsFirst path misfit)
    (hprecedes : ∀ p q, PrecedesFirst p q → Precedes p q) : Lists Fails Precedes first where
  sound p hp := (hfails _ _).mpr (h.sound p hp)
  complete path misfit hpath := h.complete path misfit ((hfails _ _).mp hpath)
  ordered := h.ordered.imp fun hpq => hprecedes _ _ hpq

/-- The problems behind one step, and then those of the rest. -/
theorem Lists.append (step : Step) (hfirst : Lists FailsFirst PrecedesFirst first)
    (hrest : Lists FailsRest Precedes rest)
    (hfails : ∀ path misfit, Fails path misfit ↔
      (∃ more, path = step :: more ∧ FailsFirst more misfit) ∨ FailsRest path misfit)
    (hbehind : ∀ p q, PrecedesFirst p q → Precedes (step :: p) (step :: q))
    (hbefore : ∀ p q misfit, FailsRest q misfit → Precedes (step :: p) q) :
    Lists Fails Precedes (first.map (Problem.under [step]) ++ rest) where
  sound := by
    intro p hp
    rw [hfails]
    rcases List.mem_append.mp hp with hp | hp
    · obtain ⟨q, hq, rfl⟩ := List.mem_map.mp hp
      exact .inl ⟨q.path, rfl, hfirst.sound q hq⟩
    · exact .inr (hrest.sound p hp)
  complete := by
    intro path misfit h
    rcases (hfails path misfit).mp h with ⟨more, rfl, hmore⟩ | h
    · obtain ⟨q, hq, rfl⟩ := hfirst.complete more misfit hmore
      exact ⟨q.under [step], List.mem_append_left _ (List.mem_map_of_mem hq), rfl⟩
    · obtain ⟨q, hq, hpath⟩ := hrest.complete path misfit h
      exact ⟨q, List.mem_append_right _ hq, hpath⟩
  ordered := by
    rw [List.pairwise_append]
    refine ⟨?_, hrest.ordered, ?_⟩
    · rw [List.pairwise_map]
      exact hfirst.ordered.imp fun h => hbehind _ _ h
    · intro p hp q hq
      obtain ⟨p, -, rfl⟩ := List.mem_map.mp hp
      exact hbefore _ _ _ (hrest.sound q hq)

end

/-- One of the items of a list fails, of which the first has the given index. -/
def Shape.ItemFails (shape : Shape) (index : Nat) (items : List Value) (path : List Step)
    (misfit : Misfit) : Prop :=
  ∃ offset w rest, items[offset]? = some w ∧ path = .item (index + offset) :: rest ∧
    shape.Fails w rest misfit

theorem Shape.itemFails_cons_iff {shape : Shape} {index : Nat} {v : Value} {items : List Value}
    {path : List Step} {misfit : Misfit} :
    shape.ItemFails index (v :: items) path misfit ↔
      (∃ more, path = .item index :: more ∧ shape.Fails v more misfit) ∨
      shape.ItemFails (index + 1) items path misfit := by
  constructor
  · rintro ⟨offset, w, rest, hitem, rfl, h⟩
    cases offset with
    | zero =>
        obtain rfl : v = w := by simpa using hitem
        exact .inl ⟨rest, rfl, h⟩
    | succ offset =>
        refine .inr ⟨offset, w, rest, by simpa using hitem, ?_, h⟩
        rw [Nat.add_right_comm, Nat.add_assoc]
  · rintro (⟨more, rfl, h⟩ | ⟨offset, w, rest, hitem, rfl, h⟩)
    · exact ⟨0, v, more, rfl, rfl, h⟩
    · refine ⟨offset + 1, w, rest, by simpa using hitem, ?_, h⟩
      rw [Nat.add_right_comm, Nat.add_assoc]

theorem Shape.exists_lists_items {shape : Shape}
    (hread : ∀ path v, Datum v → ∃ problems,
      complaints (shape.read path v) = problems.map (Problem.under path) ∧
        Lists (shape.Fails v) shape.Precedes problems)
    (path : List Step) {items : List Value} (hitems : ∀ v ∈ items, Datum v) (index : Nat) :
    ∃ problems, complaints (readItems shape.read path index items) =
      problems.map (Problem.under path) ∧
        Lists (shape.ItemFails index items) (Shape.list shape).Precedes problems := by
  induction items generalizing index with
  | nil =>
      refine ⟨[], rfl, .nil ?_⟩
      rintro path misfit ⟨offset, w, rest, hitem, -⟩
      cases hitem
  | cons v rest ih =>
      obtain ⟨hv, hrest⟩ := List.forall_mem_cons.mp hitems
      obtain ⟨first, hfirst, hlists⟩ := hread (path ++ [.item index]) v hv
      obtain ⟨more, hmore, hlistsRest⟩ := ih hrest (index + 1)
      refine ⟨first.map (Problem.under [.item index]) ++ more, ?_,
        hlists.append _ hlistsRest ?_ ?_ ?_⟩
      · rw [readItems, complaints_joinRead, hfirst, hmore, Problem.map_under_append,
          List.map_append]
      · intro path misfit
        exact Shape.itemFails_cons_iff
      · intro p q h
        exact .item h
      · rintro p q misfit ⟨offset, w, after, -, rfl, -⟩
        exact .items (by omega)

theorem Shape.Precedes.tail {name field : String} {shape : Shape} {default : Option Value}
    {fields : Fields} {p q : List Step} (h : (Shape.record name fields).Precedes p q) :
    (Shape.record name (.cons field shape default fields)).Precedes p q := by
  cases h with
  | fields h => exact .fields (h.cons _)
  | field hfield h => exact .field hfield.tail h

theorem Fields.Has.mem_names {fields : Fields} {name : String} {shape : Shape}
    {default : Option Value} (h : fields.Has name shape default) : name ∈ fields.names := by
  induction h with
  | head => exact List.mem_cons_self
  | tail _ ih => exact List.mem_cons_of_mem _ ih

theorem Shape.Fails.exists_field {name : String} {fields : Fields} {entries : List (Value × Value)}
    {path : List Step} {misfit : Misfit}
    (h : (Shape.record name fields).Fails (.mapping entries) path misfit) :
    ∃ field rest, path = .field field :: rest ∧ field ∈ fields.names := by
  cases h with
  | leaf h => cases h
  | notRecord hv => exact absurd rfl (hv entries)
  | missing hfield | field hfield => exact ⟨_, _, rfl, hfield.mem_names⟩

theorem exists_complaint {Fails : List Step → Misfit → Prop}
    {Precedes : List Step → List Step → Prop} {misfit : Misfit} {α : Type} {x : Read α}
    {path : List Step} (hx : x = .error [⟨path, misfit⟩]) (hfails : Fails [] misfit)
    (hpath : ∀ path other, Fails path other → path = []) :
    ∃ problems, complaints x = problems.map (Problem.under path) ∧ Lists Fails Precedes problems :=
  ⟨[⟨[], misfit⟩], by simp [hx, complaints, Problem.under], .singleton hfails hpath⟩

theorem Shape.exists_lists_of_leaf {shape : Shape} {read : Value → Except Misfit Value}
    (hleaf : shape.leaf? = some read) (path : List Step) {v : Value} (hv : Datum v) :
    ∃ problems, complaints (shape.read path v) = problems.map (Problem.under path) ∧
      Lists (shape.Fails v) shape.Precedes problems := by
  cases hread : read v with
  | ok r =>
      have hok : shape.read path v = .ok r := by rw [Shape.read_of_leaf hleaf, hread]; rfl
      have haccepts : shape.Accepts v := (Shape.accepts_iff hv path).mp ⟨r, hok⟩
      exact ⟨[], by rw [hok]; rfl, .nil ((Shape.accepts_of_leaf_iff hv hleaf).mp haccepts)⟩
  | error misfit =>
      have hfailed : shape.read path v = .error [⟨path, misfit⟩] := by
        rw [Shape.read_of_leaf hleaf, hread]
        rfl
      apply exists_complaint hfailed (.leaf (Shape.blames_of_read hleaf hv hread))
      intro path other hfails
      exact ((Shape.fails_leaf_iff hleaf).mp hfails).1

mutual

/-- What is complained of are the parts that fail. -/
theorem Shape.exists_lists (shape : Shape) (path : List Step) (v : Value) (hv : Datum v) :
    ∃ problems, complaints (shape.read path v) = problems.map (Problem.under path) ∧
      Lists (shape.Fails v) shape.Precedes problems := by
  cases shape with
  | text | integer | truth => exact Shape.exists_lists_of_leaf rfl path hv
  | anything => exact ⟨[], rfl, .nil fun _ _ => Shape.not_fails_anything⟩
  | optional shape =>
      by_cases h : v = .null
      · subst h
        refine ⟨[], rfl, .nil ?_⟩
        intro path misfit hfails
        exact (Shape.fails_optional_iff.mp hfails).1 rfl
      · have hnull : v.isNull = false := by
          cases hv <;> first | rfl | exact absurd rfl h
        obtain ⟨problems, hproblems, hlists⟩ := Shape.exists_lists shape path v hv
        refine ⟨problems, by simpa [Shape.read, hnull] using hproblems, hlists.imp ?_ ?_⟩
        · intro path misfit
          rw [Shape.fails_optional_iff, and_iff_right h]
        · exact fun _ _ => .optional
  | list shape =>
      cases hv with
      | @list items hitems =>
          obtain ⟨problems, hproblems, hlists⟩ :=
            Shape.exists_lists_items (Shape.exists_lists shape) path hitems 0
          refine ⟨problems, by simpa [Shape.read, itemsOf?] using hproblems, hlists.imp ?_ ?_⟩
          · intro path misfit
            rw [Shape.fails_list_iff]
            simp [Shape.ItemFails]
          · exact fun _ _ h => h
      | null | bool | int | float | text | mapping =>
          apply exists_complaint rfl (.notList nofun)
          intro path misfit hfails
          exact ((Shape.fails_not_list_iff (by simp)).mp hfails).1
  | record name fields =>
      cases hv with
      | @mapping entries hvalues =>
          obtain ⟨problems, hproblems, hlists⟩ :=
            Fields.exists_lists fields name path entries hvalues
          exact ⟨problems, by simpa [Shape.read] using hproblems, hlists⟩
      | null | bool | int | float | text | list =>
          apply exists_complaint rfl (.notRecord nofun)
          intro path misfit hfails
          exact ((Shape.fails_not_record_iff (by simp)).mp hfails).1

theorem Fields.exists_lists (fields : Fields) (name : String) (path : List Step)
    (entries : List (Value × Value)) (hvalues : ∀ e ∈ entries, Datum e.2) :
    ∃ problems, complaints (fields.read path entries) = problems.map (Problem.under path) ∧
      Lists ((Shape.record name fields).Fails (.mapping entries))
        (Shape.record name fields).Precedes problems := by
  cases fields with
  | nil => exact ⟨[], rfl, .nil fun _ _ => Shape.not_fails_nil⟩
  | cons field shape default rest =>
      obtain ⟨more, hmore, hlistsRest⟩ := Fields.exists_lists rest name path entries hvalues
      unfold Fields.read
      rw [complaints_joinRead, hmore]
      -- the problems of the first field, seen from the field
      suffices hfirst : ∃ first, complaints _ = first.map (Problem.under (path ++ [.field field])) ∧
          Lists (shape.FieldFails default (Value.lookup field entries)) shape.Precedes first by
        obtain ⟨first, hcomplaints, hlists⟩ := hfirst
        refine ⟨first.map (Problem.under [.field field]) ++ more, ?_,
          hlists.append _ (hlistsRest.imp (fun _ _ => Iff.rfl) fun _ _ => .tail) ?_ ?_ ?_⟩
        · rw [hcomplaints, Problem.map_under_append, List.map_append]
        · intro path misfit
          exact Shape.fails_cons_iff
        · intro p q h
          exact .field .head h
        · intro p q misfit h
          obtain ⟨other, after, rfl, hmem⟩ := h.exists_field
          exact .fields ((List.singleton_sublist.mpr hmem).cons_cons _)
      cases hlookup : Value.lookup field entries with
      | some v =>
          obtain ⟨e, hmem, rfl⟩ := mem_of_lookup hlookup
          exact Shape.exists_lists shape _ e.2 (hvalues e hmem)
      | none =>
          cases default with
          | some value =>
              refine ⟨[], rfl, .nil ?_⟩
              rintro path misfit ⟨hdefault, -⟩
              cases hdefault
          | none => exact exists_complaint rfl ⟨rfl, rfl, rfl⟩ fun _ _ hfails => hfails.2.1

end

/-! ## Each part once -/

mutual

/-- No two fields of a record have the same name. -/
def Shape.Distinct : Shape → Prop
  | .optional shape => shape.Distinct
  | .list shape => shape.Distinct
  | .record _ fields => fields.Distinct
  | _ => True

@[inherit_doc Shape.Distinct]
def Fields.Distinct : Fields → Prop
  | .nil => True
  | .cons name shape _ rest => name ∉ rest.names ∧ shape.Distinct ∧ rest.Distinct

end

theorem Model.shape_distinct (m : Model) : m.shape.Distinct := by
  cases m <;>
    simp [shape, logEntryShape, manifestShape, issueShape, required, nullable, withDefault,
      Shape.Distinct, Fields.Distinct, Fields.names]

section

variable {fields : Fields} {name : String} {shape other : Shape} {default value : Option Value}

theorem Fields.Distinct.nodup : {fields : Fields} → fields.Distinct → fields.names.Nodup
  | .nil, _ => List.nodup_nil
  | .cons .., h => List.nodup_cons.mpr ⟨h.1, h.2.2.nodup⟩

theorem Fields.Has.distinct (h : fields.Has name shape default) (hfields : fields.Distinct) :
    shape.Distinct := by
  induction h with
  | head => exact hfields.2.1
  | tail _ ih => exact ih hfields.2.2

theorem Fields.Has.unique (h : fields.Has name shape default) (hother : fields.Has name other value)
    (hfields : fields.Distinct) : shape = other ∧ default = value := by
  induction h with
  | head =>
      cases hother with
      | head => exact ⟨rfl, rfl⟩
      | tail hother => exact absurd hother.mem_names hfields.1
  | tail h ih =>
      cases hother with
      | head => exact absurd h.mem_names hfields.1
      | tail hother => exact ih hother hfields.2.2

theorem Shape.Precedes.ne {p q : List Step} (h : shape.Precedes p q) (hshape : shape.Distinct) :
    p ≠ q := by
  induction h with
  | optional _ ih => exact ih hshape
  | items h =>
      intro heq
      cases heq
      exact lt_irrefl _ h
  | item _ ih =>
      intro heq
      exact ih hshape (List.cons.inj heq).2
  | fields h =>
      intro heq
      cases heq
      have hpair := (Fields.Distinct.nodup hshape).sublist h
      simp at hpair
  | field hfield _ ih =>
      intro heq
      exact ih (hfield.distinct hshape) (List.cons.inj heq).2

/-- No part fails where a part passes or below it. -/
theorem Shape.Passes.not_fails {v : Value} {path : List Step} (h : shape.Passes v path)
    (hshape : shape.Distinct) (hv : Datum v) (below : List Step) (misfit : Misfit) :
    ¬ shape.Fails v (path ++ below) misfit := by
  induction h with
  | here h => exact (Shape.accepts_iff_forall_not_fails _ _ hv).mp h below misfit
  | optional _ _ ih =>
      intro hfails
      exact ih hshape hv (Shape.fails_optional_iff.mp hfails).2
  | item hitem _ ih =>
      intro hfails
      obtain ⟨index, w, rest, hw, hpath, hfails⟩ := Shape.fails_list_iff.mp hfails
      cases hpath
      rw [hitem] at hw
      cases hw
      cases hv with
      | list hitems => exact ih hshape (hitems _ (List.mem_of_getElem? hitem)) hfails
  | absent hfield hlookup =>
      intro hfails
      rw [List.singleton_append] at hfails
      cases hfails with
      | missing hmissing => cases (hfield.unique hmissing hshape).2
      | field _ hsome => simp [hlookup] at hsome
  | @field _ _ _ _ _ _ _ path hfield hlookup _ ih =>
      intro hfails
      rw [List.cons_append] at hfails
      generalize path ++ below = whole at hfails ih
      cases hfails with
      | missing _ hnone => simp [hlookup] at hnone
      | field hsame hsome hpart =>
          obtain ⟨rfl, -⟩ := hfield.unique hsame hshape
          rw [hlookup] at hsome
          cases hsome
          cases hv with
          | mapping hvalues =>
              obtain ⟨e, hmem, rfl⟩ := mem_of_lookup hlookup
              exact ih (hfield.distinct hshape) (hvalues e hmem) hpart

end

/-! ## Messages -/

def placeText : List Step → String
  | [] => "<root>"
  | path => ".".intercalate (path.map Step.text)

/-- The message on a value that does not fit: an entry for each of its problems. -/
def messageText (name : String) (problems : List Problem) : String :=
  "unexpected " ++ name ++ " shape: " ++
    "; ".intercalate (problems.map fun p => placeText p.path ++ ": " ++ p.misfit.words)

theorem joined_eq_intercalate (separator : String) (parts : List String) :
    Text.joined separator parts = separator.intercalate parts := by
  induction parts with
  | nil => rfl
  | cons first rest ih =>
      cases rest with
      | nil => simp [Text.joined]
      | cons second more => rw [Text.joined, ih, String.intercalate_cons_cons]

/-- Where the first step has a text, the place of a problem has one too. -/
theorem Problem.text_eq {p : Problem} (h : ∀ step ∈ p.path.head?, step.text ≠ "") :
    p.text = placeText p.path ++ ": " ++ p.misfit.words := by
  obtain ⟨path, misfit⟩ := p
  cases path with
  | nil => rfl
  | cons step rest =>
      have hplace : Text.joined "." ((step :: rest).map Step.text) = placeText (step :: rest) :=
        joined_eq_intercalate "." _
      have hne : placeText (step :: rest) ≠ "" := by
        have hstep : step.text ≠ "" := h step rfl
        cases rest with
        | nil => simpa [placeText] using hstep
        | cons other more => simp [placeText]
      simp only [Problem.text, hplace, beq_iff_eq, hne, ↓reduceIte]

theorem Model.exists_fields (m : Model) :
    ∃ name fields, m.shape = .record name fields ∧ "" ∉ fields.names := by
  cases m <;> exact ⟨_, _, rfl, by decide⟩

theorem Model.head_ne_empty {m : Model} {v : Value} {path : List Step} {misfit : Misfit}
    (h : m.shape.Fails v path misfit) : ∀ step ∈ path.head?, step.text ≠ "" := by
  obtain ⟨name, fields, hshape, hnames⟩ := m.exists_fields
  rw [hshape] at h
  have hfield {field : String} {shape : Shape} {default : Option Value}
      (hhas : fields.Has field shape default) : field ≠ "" := by
    rintro rfl
    exact hnames hhas.mem_names
  cases h with
  | leaf h => cases h
  | notRecord => exact nofun
  | missing hhas | field hhas => simpa [Step.text] using hfield hhas

/-- What a report's problems are is said in words, each in an entry of its own. -/
theorem summary_eq {m : Model} {v : Value} {problems : List Problem}
    (h : ∀ p ∈ problems, m.shape.Fails v p.path p.misfit) :
    "unexpected " ++ m.name ++ " shape: " ++ summary problems = messageText m.name problems := by
  have hentries : problems.map Problem.text =
      problems.map fun p => placeText p.path ++ ": " ++ p.misfit.words :=
    List.map_congr_left fun p hp => Problem.text_eq (Model.head_ne_empty (h p hp))
  rw [messageText, summary, joined_eq_intercalate, hentries]

/-! ## Reports -/

theorem validate_of_error {m : Model} {v : Value} {problems : List Problem}
    (h : read m v = .error problems) (command : List Value) (stderr : String) :
    validate m command stderr v = .error (.ledger (.decode
      ("unexpected " ++ m.name ++ " shape: " ++ summary problems) command stderr)) := by
  simp only [validate, h]

/-- A value is read as a report just if its model accepts it; otherwise the message of the
error lists each part that fails, once and in order, and no part that passes. -/
theorem validate_exact (m : Model) (command : List Value) (stderr : String) {v : Value}
    (hv : Datum v) :
    ((∃ report, validate m command stderr v = .ok report) ↔ m.shape.Accepts v) ∧
    (¬ m.shape.Accepts v → ∃ problems,
      validate m command stderr v =
        .error (.ledger (.decode (messageText m.name problems) command stderr)) ∧
      problems ≠ [] ∧ Lists (m.shape.Fails v) m.shape.Precedes problems ∧
      (problems.map Problem.path).Nodup ∧
      ∀ path, m.shape.Passes v path → ∀ p ∈ problems, ¬ path <+: p.path) := by
  have haccepts : (∃ r, m.shape.read [] v = .ok r) ↔ m.shape.Accepts v := Shape.accepts_iff hv []
  cases hread : m.shape.read [] v with
  | ok report =>
      have hok : m.shape.Accepts v := haccepts.mp ⟨report, hread⟩
      have hvalidate : validate m command stderr v = .ok report := by simp [validate, read, hread]
      exact ⟨⟨fun _ => hok, fun _ => ⟨report, hvalidate⟩⟩, fun h => absurd hok h⟩
  | error problems =>
      have hnot : ¬ m.shape.Accepts v := by
        rw [← haccepts]
        rintro ⟨report, hok⟩
        rw [hread] at hok
        cases hok
      have hlists : Lists (m.shape.Fails v) m.shape.Precedes problems := by
        obtain ⟨listed, hlisted, hlists⟩ := m.shape.exists_lists [] v hv
        have hsame : problems = listed := by
          rw [hread, Problem.map_under_nil] at hlisted
          exact hlisted
        rw [hsame]
        exact hlists
      have hvalidate : validate m command stderr v =
          .error (.ledger (.decode (messageText m.name problems) command stderr)) := by
        rw [← summary_eq hlists.sound]
        exact validate_of_error hread command stderr
      refine ⟨⟨?_, fun h => absurd h hnot⟩, fun _ => ⟨problems, hvalidate, ?_, hlists, ?_, ?_⟩⟩
      · rintro ⟨report, hok⟩
        rw [hvalidate] at hok
        cases hok
      · rintro rfl
        apply hnot
        rw [Shape.accepts_iff_forall_not_fails _ _ hv]
        intro path misfit hfails
        obtain ⟨p, hp, -⟩ := hlists.complete path misfit hfails
        cases hp
      · rw [List.Nodup, List.pairwise_map]
        exact hlists.ordered.imp fun h => h.ne m.shape_distinct
      · rintro path hpasses p hp ⟨below, hpath⟩
        have hfails := hlists.sound p hp
        rw [← hpath] at hfails
        exact hpasses.not_fails m.shape_distinct hv below p.misfit hfails

/-- Checks of streams with a word for a number, without a required number, and with two
issues: one that has a number for a text and no path, and one that is no record. -/
def garbledChecks : Value :=
  .mapping [
    (.text "streams", .text "many"),
    (.text "issues", .list [
      .mapping [(.text "code", .int 3), (.text "message", .text "unreadable")],
      .text "stale head"])]

theorem validate_exact_garbledChecks :
    (Datum garbledChecks ∧ ¬ Model.integrity.shape.Accepts garbledChecks) ∧
    validate .integrity [] "" garbledChecks = .error (.ledger (.decode
      ("unexpected IntegrityResult shape: " ++
        "streams: Input should be a valid integer, unable to parse string as an integer; " ++
        "valid: Field required; " ++
        "issues.0.stream_path: Field required; " ++
        "issues.0.code: Input should be a valid string; " ++
        "issues.1: Input should be a valid dictionary or instance of Issue") [] "")) ∧
    ∃ problems,
      validate .integrity [] "" garbledChecks =
        .error (.ledger (.decode (messageText "IntegrityResult" problems) [] "")) ∧
      problems ≠ [] ∧
      Lists (Model.integrity.shape.Fails garbledChecks) Model.integrity.shape.Precedes problems ∧
      (problems.map Problem.path).Nodup ∧
      ∀ path, Model.integrity.shape.Passes garbledChecks path →
        ∀ p ∈ problems, ¬ path <+: p.path := by
  have hdatum : Datum garbledChecks := by
    have hissue :
        Datum (.mapping [(.text "code", .int 3), (.text "message", .text "unreadable")]) :=
      .mapping (by simp [Datum.int, Datum.text])
    apply Datum.mapping
    simp only [List.forall_mem_cons]
    exact ⟨.text _, .list (by simp [hissue, Datum.text]), nofun⟩
  have hnot : ¬ Model.integrity.shape.Accepts garbledChecks := by
    rw [Shape.accepts_iff_forall_not_fails _ _ hdatum]
    intro h
    exact h [.field "valid"] .missing (.missing (.tail .head) rfl)
  have hread : read .integrity garbledChecks = .error [
      ⟨[.field "streams"], .notIntegerText⟩, ⟨[.field "valid"], .missing⟩,
      ⟨[.field "issues", .item 0, .field "stream_path"], .missing⟩,
      ⟨[.field "issues", .item 0, .field "code"], .notText⟩,
      ⟨[.field "issues", .item 1], .notRecord "Issue"⟩] := rfl
  have hvalidate := validate_of_error hread [] ""
  refine ⟨⟨hdatum, hnot⟩, hvalidate.trans ?_, (validate_exact .integrity [] "" hdatum).2 hnot⟩
  refine congrArg (fun reason => Except.error (Failure.ledger (.decode reason [] ""))) ?_
  decide +kernel

end DocLedger.Report
