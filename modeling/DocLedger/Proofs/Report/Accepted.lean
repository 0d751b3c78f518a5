import DocLedger.Proofs.Report.Fits
import Mathlib.Algebra.Ring.Int.Defs
import Mathlib.Data.Int.Basic
import Mathlib.Data.List.Forall2

/-!
# Values that a shape accepts

A value of JSON is accepted where every declared field is there with a value that its
shape accepts, or may be left out.  Which values stand for integers and truth values
is a relation between the two; nothing here depends on how a value is read, and it
turns out that the reader accepts just these values.
-/

namespace DocLedger.Report

/-- The values of JSON, with integers of any size. -/
inductive Datum : Value → Prop
  | null : Datum .null
  | bool (b : Bool) : Datum (.bool b)
  | int (n : Int) : Datum (.int n)
  | float (x : Float) : Datum (.float x)
  | text (s : String) : Datum (.text s)
  | list {items : List Value} (hitems : ∀ v ∈ items, Datum v) : Datum (.list items)
  | mapping {entries : List (Value × Value)} (hvalues : ∀ e ∈ entries, Datum e.2) :
      Datum (.mapping entries)

/-! ## What values stand for -/

/-- A value stands for an integer: a double does if it is whole and within the bound, and a
text if it is a numeral that is not too long. -/
inductive MeansInteger : Value → Int → Prop
  | int (n : Int) : MeansInteger (.int n) n
  | bool (b : Bool) : MeansInteger (.bool b) (if b then 1 else 0)
  | float {x : Float} {n : Int} {d : Nat} (hexact : Number.exact x = .fraction n d)
      (hwhole : (d : Int) ∣ n) (hbound : -2 ^ 63 < n / d ∧ n / d < 2 ^ 63) :
      MeansInteger (.float x) (n / d)
  | text {s : String} {negative : Bool} {digits : List Char}
      (hnumeral : Numeral s.toList negative digits)
      (hlength : numeralLength negative digits ≤ Number.digitLimit) :
      MeansInteger (.text s) (signedValue negative digits)

/-- The usual words for a truth value, in small letters. -/
def truthWords : Bool → List String
  | false => ["0", "f", "false", "n", "no", "off"]
  | true => ["1", "t", "true", "y", "yes", "on"]

/-- A value stands for a truth value: zero and one do, and the usual words in letters
of either case. -/
inductive MeansTruth : Value → Bool → Prop
  | bool (b : Bool) : MeansTruth (.bool b) b
  | int (b : Bool) : MeansTruth (.int (if b then 1 else 0)) b
  | float {x : Float} {b : Bool} (hnumber : MeansInteger (.float x) (if b then 1 else 0)) :
      MeansTruth (.float x) b
  | text {s : String} {b : Bool}
      (hword : String.ofList (s.toList.map Char.toLower) ∈ truthWords b) :
      MeansTruth (.text s) b

theorem doubleBound_eq : doubleBound = 2 ^ 63 := rfl

theorem integerOfDouble_eq_ok_iff {x : Float} {n : Int} :
    integerOfDouble x = .ok n ↔ MeansInteger (.float x) n := by
  constructor
  · intro h
    rw [integerOfDouble] at h
    cases hexact : Number.exact x with
    | undefined | infinite => simp [hexact, integerOfExact, bind, Except.bind] at h
    | fraction m d =>
        by_cases hwhole : m % (d : Int) = 0
        · by_cases hbound : -doubleBound < m / d ∧ m / d < doubleBound
          · have hn : m / d = n := by
              simpa [hexact, integerOfExact, hwhole, hbound, bind, Except.bind, pure,
                Except.pure] using h
            rw [doubleBound_eq] at hbound
            rw [← hn]
            exact .float hexact (Int.dvd_of_emod_eq_zero hwhole) hbound
          · simp [hexact, integerOfExact, hwhole, hbound, bind, Except.bind, throw, throwThe,
              MonadExceptOf.throw] at h
        · simp [hexact, integerOfExact, hwhole, bind, Except.bind] at h
  · intro h
    cases h with
    | float hexact hwhole hbound =>
        rw [← doubleBound_eq] at hbound
        simp [integerOfDouble, integerOfExact, hexact, Int.emod_eq_zero_of_dvd hwhole, hbound,
          bind, Except.bind, pure, Except.pure]

theorem integerOfText_toList_eq_ok_iff {s : String} {n : Int} :
    integerOfText s.toList = .ok n ↔ MeansInteger (.text s) n := by
  rw [integerOfText_eq_ok_iff]
  constructor
  · rintro ⟨negative, digits, hnumeral, hlength, rfl⟩
    exact .text hnumeral hlength
  · intro h
    cases h with
    | text hnumeral hlength => exact ⟨_, _, hnumeral, hlength, rfl⟩

section

variable {v r : Value}

theorem readText_eq_ok_iff (hv : Datum v) :
    readText v = .ok r ↔ ∃ s, v = .text s ∧ r = .text s := by
  cases hv <;> simp [readText, eq_comm]

theorem readInteger_eq_ok_iff (hv : Datum v) :
    readInteger v = .ok r ↔ ∃ n, MeansInteger v n ∧ r = .int n := by
  have hmean {w : Value} {x : Except Misfit Int} (hiff : ∀ n, x = .ok n ↔ MeansInteger w n) :
      x.map Value.int = .ok r ↔ ∃ n, MeansInteger w n ∧ r = .int n := by
    simp only [map_eq_ok_iff, hiff]
  have hnone {w : Value} (hw : ∀ n, ¬ MeansInteger w n) :
      Except.error Misfit.notInteger = Except.ok r ↔ ∃ n, MeansInteger w n ∧ r = .int n := by
    simp [hw]
  cases hv with
  | null => exact hnone nofun
  | bool b =>
      refine hmean (x := .ok _) fun n => ⟨fun h => Except.ok.inj h ▸ .bool b, ?_⟩
      rintro ⟨⟩
      rfl
  | int m =>
      refine hmean (x := .ok _) fun n => ⟨fun h => Except.ok.inj h ▸ .int m, ?_⟩
      rintro ⟨⟩
      rfl
  | float x => exact hmean fun n => integerOfDouble_eq_ok_iff
  | text s => exact hmean fun n => integerOfText_toList_eq_ok_iff
  | list | mapping => exact hnone nofun

theorem mem_falseWords_iff {word : String} : word ∈ falseWords ↔ word ∈ truthWords false := by
  simp only [falseWords, truthWords, List.mem_cons]
  grind

theorem mem_trueWords_iff {word : String} : word ∈ trueWords ↔ word ∈ truthWords true := by
  simp only [trueWords, truthWords, List.mem_cons]
  grind

theorem not_mem_truthWords {word : String} (h : word ∈ truthWords true) :
    word ∉ truthWords false := by
  revert word
  decide

theorem truthOfWord_eq_ok_iff {s : String} {b : Bool} :
    truthOfWord s = .ok b ↔ MeansTruth (.text s) b := by
  have hwords : MeansTruth (.text s) b ↔
      String.ofList (s.toList.map Char.toLower) ∈ truthWords b :=
    ⟨fun h => by cases h; assumption, .text⟩
  rw [hwords]
  unfold truthOfWord
  generalize String.ofList (s.toList.map Char.toLower) = word
  simp only [List.contains_iff_mem, mem_falseWords_iff, mem_trueWords_iff]
  by_cases hfalse : word ∈ truthWords false
  · have htrue : word ∉ truthWords true := fun h => not_mem_truthWords h hfalse
    cases b <;> simp [hfalse, htrue]
  · by_cases htrue : word ∈ truthWords true <;> cases b <;> simp [hfalse, htrue]

theorem truthOfDouble_eq_ok_iff {x : Float} {b : Bool} :
    truthOfDouble x = .ok b ↔ MeansTruth (.float x) b := by
  have hnumber : MeansTruth (.float x) b ↔ integerOfDouble x = .ok (if b then 1 else 0) := by
    rw [integerOfDouble_eq_ok_iff]
    exact ⟨fun h => by cases h; assumption, .float⟩
  rw [hnumber, truthOfDouble]
  cases integerOfDouble x with
  | error misfit => simp
  | ok n =>
      by_cases hzero : n = 0
      · cases b <;> simp [hzero]
      · by_cases hone : n = 1 <;> cases b <;> simp [hzero, hone]

theorem truthOfInteger_eq_ok_iff {n : Int} {b : Bool} :
    truthOfInteger n = .ok b ↔ MeansTruth (.int n) b := by
  have hvalue : MeansTruth (.int n) b ↔ n = if b then 1 else 0 := by
    constructor
    · rintro ⟨⟩
      rfl
    · rintro rfl
      exact .int b
  rw [hvalue]
  unfold truthOfInteger
  by_cases hzero : n = 0
  · cases b <;> simp [hzero]
  · by_cases hone : n = 1
    · cases b <;> simp [hone]
    · have hfault (c : Prop) [Decidable c] :
          ¬ (if c then Except.error Misfit.notTruthWord else .error .notTruth) = .ok b := by
        split <;> exact nofun
      cases b <;> simp [hzero, hone, hfault]

theorem readTruth_eq_ok_iff (hv : Datum v) :
    readTruth v = .ok r ↔ ∃ b, MeansTruth v b ∧ r = .bool b := by
  have hmean {w : Value} {x : Except Misfit Bool} (hiff : ∀ b, x = .ok b ↔ MeansTruth w b) :
      x.map Value.bool = .ok r ↔ ∃ b, MeansTruth w b ∧ r = .bool b := by
    simp only [map_eq_ok_iff, hiff]
  have hnone {w : Value} (hw : ∀ b, ¬ MeansTruth w b) :
      Except.error Misfit.notTruth = Except.ok r ↔ ∃ b, MeansTruth w b ∧ r = .bool b := by
    simp [hw]
  cases hv with
  | null => exact hnone nofun
  | bool c =>
      refine hmean (x := .ok _) fun b => ⟨fun h => Except.ok.inj h ▸ .bool c, ?_⟩
      rintro ⟨⟩
      rfl
  | int n => exact hmean fun b => truthOfInteger_eq_ok_iff
  | float x => exact hmean fun b => truthOfDouble_eq_ok_iff
  | text s => exact hmean fun b => truthOfWord_eq_ok_iff
  | list | mapping => exact hnone nofun

end

/-! ## Shapes as relations -/

mutual

/-- A value has a normal form under a shape. -/
def Shape.Means : Shape → Value → Value → Prop
  | .text, v, r => ∃ s, v = .text s ∧ r = .text s
  | .integer, v, r => ∃ n, MeansInteger v n ∧ r = .int n
  | .truth, v, r => ∃ b, MeansTruth v b ∧ r = .bool b
  | .anything, v, r => r = v
  | .optional shape, v, r => (v = .null ∧ r = .null) ∨ (v ≠ .null ∧ shape.Means v r)
  | .list shape, v, r =>
    ∃ items rs, v = .list items ∧ r = .list rs ∧ List.Forall₂ shape.Means items rs
  | .record _ fields, v, r =>
    ∃ entries rs, v = .mapping entries ∧ r = .mapping rs ∧ fields.Mean entries rs

/-- The entries of a mapping have a normal form under the fields of a record. -/
def Fields.Mean : Fields → List (Value × Value) → List (Value × Value) → Prop
  | .nil, _, rs => rs = []
  | .cons name shape default rest, entries, rs =>
    ∃ r more, rs = (.text name, r) :: more ∧
      (match Value.lookup name entries with
        | some v => shape.Means v r
        | none => default = some r) ∧
      rest.Mean entries more

end

mutual

/-- A value that a shape accepts. -/
def Shape.Accepts : Shape → Value → Prop
  | .text, v => ∃ s, v = .text s
  | .integer, v => ∃ n, MeansInteger v n
  | .truth, v => ∃ b, MeansTruth v b
  | .anything, _ => True
  | .optional shape, v => v = .null ∨ shape.Accepts v
  | .list shape, v => ∃ items, v = .list items ∧ ∀ item ∈ items, shape.Accepts item
  | .record _ fields, v => ∃ entries, v = .mapping entries ∧ fields.Accept entries

/-- Every field is there with a value that its shape accepts, or may be left out. -/
def Fields.Accept : Fields → List (Value × Value) → Prop
  | .nil, _ => True
  | .cons name shape default rest, entries =>
    (match Value.lookup name entries with
      | some v => shape.Accepts v
      | none => default ≠ none) ∧
    rest.Accept entries

end

theorem readItems_eq_ok_iff {read : List Step → Value → Read Value} {Means : Value → Value → Prop}
    (hread : ∀ path v r, Datum v → (read path v = .ok r ↔ Means v r)) {path : List Step}
    {items rs : List Value} (hitems : ∀ v ∈ items, Datum v) (index : Nat) :
    readItems read path index items = .ok rs ↔ List.Forall₂ Means items rs := by
  induction items generalizing index rs with
  | nil => simp [readItems, eq_comm]
  | cons v rest ih =>
      obtain ⟨hfirst, hrest⟩ := List.forall_mem_cons.mp hitems
      rw [readItems, joinRead_eq_ok_iff, List.forall₂_cons_left_iff]
      simp only [hread _ v _ hfirst, ih hrest]

mutual

/-- Just the normal form of a value is read. -/
theorem Shape.read_eq_ok_iff (shape : Shape) (path : List Step) (v r : Value) (hv : Datum v) :
    shape.read path v = .ok r ↔ shape.Means v r := by
  cases shape with
  | text => exact atPath_eq_ok_iff.trans (readText_eq_ok_iff hv)
  | integer => exact atPath_eq_ok_iff.trans (readInteger_eq_ok_iff hv)
  | truth => exact atPath_eq_ok_iff.trans (readTruth_eq_ok_iff hv)
  | anything => simp [Shape.read, Shape.Means, eq_comm]
  | optional shape =>
      by_cases h : v = .null
      · subst h
        simp [Shape.read, Shape.Means, Value.isNull, @eq_comm _ r]
      · have hnull : v.isNull = false := by
          cases hv <;> first | rfl | exact absurd rfl h
        simp [Shape.read, Shape.Means, hnull, h, Shape.read_eq_ok_iff shape path v r hv]
  | list shape =>
      cases hv with
      | list hitems =>
          simp [Shape.read, Shape.Means, itemsOf?, map_eq_ok_iff, and_comm,
            readItems_eq_ok_iff (Shape.read_eq_ok_iff shape) hitems]
      | null | bool | int | float | text | mapping => simp [Shape.read, Shape.Means, itemsOf?]
  | record name fields =>
      cases hv with
      | @mapping entries hvalues =>
          simp [Shape.read, Shape.Means, map_eq_ok_iff, and_comm,
            Fields.read_eq_ok_iff fields path entries _ hvalues]
      | null | bool | int | float | text | list => simp [Shape.read, Shape.Means]

theorem Fields.read_eq_ok_iff (fields : Fields) (path : List Step)
    (entries rs : List (Value × Value)) (hvalues : ∀ e ∈ entries, Datum e.2) :
    fields.read path entries = .ok rs ↔ fields.Mean entries rs := by
  cases fields with
  | nil => simp [Fields.read, Fields.Mean, eq_comm]
  | cons name shape default rest =>
      have hrest (more) := Fields.read_eq_ok_iff rest path entries more hvalues
      unfold Fields.read Fields.Mean
      rw [joinRead_eq_ok_iff]
      cases hlookup : Value.lookup name entries with
      | some v =>
          obtain ⟨e, hmem, rfl⟩ := mem_of_lookup hlookup
          have hshape (r) :=
            Shape.read_eq_ok_iff shape (path ++ [.field name]) e.2 r (hvalues e hmem)
          simp only [hshape, hrest]
          grind
      | none =>
          cases default <;> simp only [hrest] <;> grind

end

theorem exists_forall₂_iff {α β : Type} {R : α → β → Prop} {P : α → Prop}
    (h : ∀ v, (∃ r, R v r) ↔ P v) (items : List α) :
    (∃ rs, List.Forall₂ R items rs) ↔ ∀ v ∈ items, P v := by
  induction items with
  | nil => simp
  | cons v rest ih =>
      rw [List.forall_mem_cons, ← h, ← ih]
      constructor
      · rintro ⟨_, hall⟩
        cases hall with
        | cons hfirst hrest => exact ⟨⟨_, hfirst⟩, _, hrest⟩
      · rintro ⟨⟨r, hfirst⟩, rs, hrest⟩
        exact ⟨r :: rs, .cons hfirst hrest⟩

mutual

theorem Shape.exists_means_iff (shape : Shape) (v : Value) :
    (∃ r, shape.Means v r) ↔ shape.Accepts v := by
  cases shape with
  | text | integer | truth =>
      constructor
      · rintro ⟨_, content, hmeans, _⟩
        exact ⟨content, hmeans⟩
      · rintro ⟨content, hmeans⟩
        exact ⟨_, content, hmeans, rfl⟩
  | anything => exact ⟨fun _ => trivial, fun _ => ⟨v, rfl⟩⟩
  | optional shape =>
      rw [Shape.Accepts, ← Shape.exists_means_iff shape v]
      by_cases h : v = .null <;> simp [Shape.Means, h]
  | list shape =>
      have hitems (items : List Value) := exists_forall₂_iff (Shape.exists_means_iff shape) items
      simp only [Shape.Means, Shape.Accepts, ← hitems]
      grind
  | record _ fields =>
      have hentries (entries : List (Value × Value)) := Fields.exists_mean_iff fields entries
      simp only [Shape.Means, Shape.Accepts, ← hentries]
      grind

theorem Fields.exists_mean_iff (fields : Fields) (entries : List (Value × Value)) :
    (∃ rs, fields.Mean entries rs) ↔ fields.Accept entries := by
  cases fields with
  | nil => simp [Fields.Mean, Fields.Accept]
  | cons name shape default rest =>
      unfold Fields.Mean Fields.Accept
      rw [← Fields.exists_mean_iff rest entries]
      cases Value.lookup name entries with
      | some v =>
          simp only [← Shape.exists_means_iff shape v]
          grind
      | none => cases default <;> simp

end

theorem Shape.accepts_iff {shape : Shape} {v : Value} (hv : Datum v) (path : List Step) :
    (∃ r, shape.read path v = .ok r) ↔ shape.Accepts v := by
  simp only [shape.read_eq_ok_iff path v _ hv, shape.exists_means_iff]

end DocLedger.Report
