import DocLedger.Proofs.Json.Given
import DocLedger.Proofs.Report.Numeral
import DocLedger.Proofs.Report.Pass

/-!
# Reports in normal form

What a shape asks for is a property of values.  A reader that accepts what a text of
JSON gives leaves a value with this property, whose integers are within the limit on
digits: those of the text are, and those that stand for texts or doubles are no
larger.  So the output of the engine is a report in normal form or cannot be decoded,
unless it has a number with too many digits.
-/

namespace DocLedger.Report

open Json (Given)

/-! ## Integers that are read -/

theorem tooLong_of_integerOfText {cs : List Char} {n : Int} (h : integerOfText cs = .ok n) :
    Number.tooLong n = false := by
  obtain ⟨negative, ds, hnumeral, hlength, rfl⟩ := integerOfText_eq_ok_iff.mp h
  have hcount : ds.length ≤ Number.digitLimit := Nat.le_trans (Nat.le_add_right _ _) hlength
  exact Number.tooLong_of_digits hnumeral.digits.all hcount negative

theorem tooLong_of_integerOfDouble {x : Float} {n : Int} (h : integerOfDouble x = .ok n) :
    Number.tooLong n = false := by
  rw [integerOfDouble] at h
  cases hexact : integerOfExact (Number.exact x) with
  | error misfit =>
      rw [hexact] at h
      cases h
  | ok m =>
      rw [hexact] at h
      simp only [bind, Except.bind] at h
      split at h
      · next hbound =>
        rw [Bool.and_eq_true, decide_eq_true_eq, decide_eq_true_eq, doubleBound] at hbound
        obtain rfl : m = n := Except.ok.inj h
        have hsmall : m.natAbs < 10000000000000000000 := by omega
        exact Number.tooLong_of_natAbs_lt hsmall
      · cases h

theorem map_eq_ok_iff {ε α β : Type} {f : α → β} {x : Except ε α} {b : β} :
    x.map f = .ok b ↔ ∃ a, x = .ok a ∧ b = f a := by
  cases x <;> simp [Except.map, eq_comm]

/-- An integer that is read from what a text of JSON gives is within the limit. -/
theorem exists_of_readInteger {v r : Value} (hv : Given v) (h : readInteger v = .ok r) :
    ∃ n, r = .int n ∧ Number.tooLong n = false := by
  cases hv with
  | null | list | mapping => cases h
  | bool b =>
      cases h
      exact ⟨_, rfl, by cases b <;> exact Number.tooLong_of_natAbs_lt (by decide)⟩
  | int hshort =>
      cases h
      exact ⟨_, rfl, hshort⟩
  | float x =>
      obtain ⟨n, hn, rfl⟩ := map_eq_ok_iff.mp h
      exact ⟨n, rfl, tooLong_of_integerOfDouble hn⟩
  | text s =>
      obtain ⟨n, hn, rfl⟩ := map_eq_ok_iff.mp h
      exact ⟨n, rfl, tooLong_of_integerOfText hn⟩

/-! ## What a shape asks for -/

mutual

def Shape.Fits : Shape → Value → Prop
  | .text, v => ∃ s, v = .text s
  | .integer, v => ∃ n, v = .int n ∧ Number.tooLong n = false
  | .truth, v => ∃ b, v = .bool b
  | .anything, _ => True
  | .optional shape, v => v = .null ∨ shape.Fits v
  | .list shape, v => ∃ items, v = .list items ∧ ∀ item ∈ items, shape.Fits item
  | .record _ fields, v => ∃ entries, v = .mapping entries ∧ fields.Fit entries

/-- What the fields of a record ask of the entries of a mapping. -/
def Fields.Fit : Fields → List (Value × Value) → Prop
  | .nil, entries => entries = []
  | .cons name shape _ rest, entries =>
    ∃ v more, entries = (.text name, v) :: more ∧ shape.Fits v ∧ rest.Fit more

end

mutual

/-- The values that stand for fields that are left out are themselves what these
fields ask for. -/
def Shape.Complete : Shape → Prop
  | .optional shape => shape.Complete
  | .list shape => shape.Complete
  | .record _ fields => fields.Complete
  | _ => True

@[inherit_doc Shape.Complete]
def Fields.Complete : Fields → Prop
  | .nil => True
  | .cons _ shape default rest =>
    shape.Complete ∧ (∀ v, default = some v → shape.Fits v) ∧ rest.Complete

end

theorem Model.shape_complete (m : Model) : m.shape.Complete := by
  cases m <;>
    simp [shape, logEntryShape, manifestShape, issueShape, required, nullable, withDefault,
      Shape.Complete, Fields.Complete, Shape.Fits]

/-! ## What is read fits -/

theorem atPath_eq_ok_iff {path : List Step} {x : Except Misfit Value} {r : Value} :
    atPath path x = .ok r ↔ x = .ok r := by
  constructor
  · intro h
    cases x with
    | error misfit => cases h
    | ok v => exact congrArg Except.ok (Except.ok.inj h)
  · rintro rfl
    rfl

theorem joinRead_eq_ok_iff {α β γ : Type} {join : α → β → γ} {first : Read α} {rest : Read β}
    {c : γ} :
    joinRead join first rest = .ok c ↔ ∃ a b, first = .ok a ∧ rest = .ok b ∧ c = join a b := by
  cases first <;> cases rest <;> simp [joinRead, eq_comm]

theorem exists_of_readText {v r : Value} (h : readText v = .ok r) : ∃ s, r = .text s := by
  unfold readText at h
  split at h
  · exact ⟨_, (Except.ok.inj h).symm⟩
  · split at h
    · exact ⟨_, (Except.ok.inj h).symm⟩
    · cases h
  · cases h

theorem exists_of_readTruth {v r : Value} (hv : Given v) (h : readTruth v = .ok r) :
    ∃ b, r = .bool b := by
  have hmap {x : Except Misfit Bool} (h : x.map Value.bool = .ok r) : ∃ b, r = .bool b := by
    cases x with
    | error misfit => cases h
    | ok b => exact ⟨b, (Except.ok.inj h).symm⟩
  cases hv with
  | null | list | mapping => cases h
  | bool b => exact ⟨b, (Except.ok.inj h).symm⟩
  | int | float | text => exact hmap h

theorem mem_of_lookup {name : String} {entries : List (Value × Value)} {v : Value}
    (h : Value.lookup name entries = some v) : ∃ e ∈ entries, e.2 = v := by
  induction entries with
  | nil => cases h
  | cons first rest ih =>
      have hrest (h : Value.lookup name rest = some v) : ∃ e ∈ first :: rest, e.2 = v := by
        obtain ⟨e, hmem, heq⟩ := ih h
        exact ⟨e, List.mem_cons_of_mem _ hmem, heq⟩
      obtain ⟨key, w⟩ := first
      cases key with
      | text k =>
          rw [Value.lookup] at h
          split at h
          · exact ⟨_, List.mem_cons_self, Option.some.inj h⟩
          · exact hrest h
      | _ => exact hrest h

theorem forall_of_readItems {read : List Step → Value → Read Value} {P : Value → Prop}
    (hread : ∀ path v r, Given v → read path v = .ok r → P r) {path : List Step}
    {items rs : List Value} (hitems : ∀ v ∈ items, Given v) {index : Nat}
    (h : readItems read path index items = .ok rs) : ∀ r ∈ rs, P r := by
  induction items generalizing index rs with
  | nil =>
      cases h
      exact nofun
  | cons v rest ih =>
      obtain ⟨r, more, hfirst, hrest, rfl⟩ := joinRead_eq_ok_iff.mp h
      refine List.forall_mem_cons.mpr ⟨hread _ _ _ (hitems v List.mem_cons_self) hfirst, ?_⟩
      exact ih (fun w hw => hitems w (List.mem_cons_of_mem _ hw)) hrest

mutual

/-- What is read from a value of JSON fits the shape. -/
theorem Shape.fits_of_read (shape : Shape) (hcomplete : shape.Complete) (path : List Step)
    (v r : Value) (hv : Given v) (h : shape.read path v = .ok r) : shape.Fits r := by
  cases shape with
  | text => exact exists_of_readText (atPath_eq_ok_iff.mp h)
  | integer => exact exists_of_readInteger hv (atPath_eq_ok_iff.mp h)
  | truth => exact exists_of_readTruth hv (atPath_eq_ok_iff.mp h)
  | anything => trivial
  | optional shape =>
      rw [Shape.read] at h
      split at h
      · exact .inl (Except.ok.inj h).symm
      · exact .inr (Shape.fits_of_read shape hcomplete path v r hv h)
  | list shape =>
      rw [Shape.read] at h
      cases hv with
      | list hitems =>
          obtain ⟨items, hread, rfl⟩ := map_eq_ok_iff.mp h
          exact ⟨items, rfl, forall_of_readItems (Shape.fits_of_read shape hcomplete) hitems hread⟩
      | null | bool | int | float | text | mapping => cases h
  | record name fields =>
      cases hv with
      | @mapping entries hvalues =>
          have h : (fields.read path entries).map Value.mapping = .ok r := h
          obtain ⟨rs, hread, rfl⟩ := map_eq_ok_iff.mp h
          exact ⟨rs, rfl, Fields.fit_of_read fields hcomplete path entries rs hvalues hread⟩
      | null | bool | int | float | text | list => cases h

theorem Fields.fit_of_read (fields : Fields) (hcomplete : fields.Complete) (path : List Step)
    (entries rs : List (Value × Value)) (hvalues : ∀ e ∈ entries, Given e.2)
    (h : fields.read path entries = .ok rs) : fields.Fit rs := by
  cases fields with
  | nil => exact (Except.ok.inj h).symm
  | cons name shape default rest =>
      obtain ⟨hshape, hdefault, hrest⟩ := hcomplete
      unfold Fields.read at h
      obtain ⟨v, more, hfirst, hmore, rfl⟩ := joinRead_eq_ok_iff.mp h
      refine ⟨v, more, rfl, ?_, Fields.fit_of_read rest hrest path entries more hvalues hmore⟩
      split at hfirst
      · next w hlookup =>
        obtain ⟨e, hmem, rfl⟩ := mem_of_lookup hlookup
        exact Shape.fits_of_read shape hshape _ _ v (hvalues e hmem) hfirst
      · next w _ =>
        exact hdefault v (congrArg some (Except.ok.inj hfirst))
      · cases hfirst

end

/-- A pass is read off a report in normal form, and its counts are within the limit
on digits. -/
theorem SyncPass.exists_of_fits {report : Value} (h : Model.indexSync.shape.Fits report) :
    ∃ p : SyncPass, p.Short ∧ report = p.toValue := by
  simp only [Model.shape, Model.required, Model.nullable, Shape.Fits, Fields.Fit] at h
  obtain ⟨_, rfl, _, _, rfl, ⟨reset, rfl⟩, _, _, rfl, ⟨fetched, rfl⟩, _, _, rfl,
    ⟨commits, rfl, hcommits⟩, _, _, rfl, ⟨applied, rfl, happlied⟩, _, _, rfl,
    ⟨upserted, rfl, hupserted⟩, _, _, rfl, ⟨deleted, rfl, hdeleted⟩, _, _, rfl,
    ⟨collections, rfl, hcollections⟩, last, _, rfl, hlast, rfl⟩ := h
  have hshort (lastCommit : Option String) : Short
      ⟨reset, fetched, commits, applied, upserted, deleted, collections, lastCommit⟩ := by
    simp [Short, hcommits, happlied, hupserted, hdeleted, hcollections]
  rcases hlast with rfl | ⟨commit, rfl⟩
  · exact ⟨_, hshort none, rfl⟩
  · exact ⟨_, hshort (some commit), rfl⟩

theorem forall_of_fits_log {report : Value} (h : Model.log.shape.Fits report) :
    ∀ entry ∈ listField report "entries", Model.logEntry.shape.Fits entry := by
  simp only [Model.shape, Model.nullable, Shape.Fits, Fields.Fit] at h
  obtain ⟨_, rfl, _, _, rfl, hentries, rfl⟩ := h
  rcases hentries with rfl | ⟨items, rfl, hitems⟩
  · exact List.forall_mem_nil _
  · exact hitems

/-! ## Decoding -/

/-- The output is a text of JSON, and what it gives is read as a report. -/
def Reads (m : Model) (stdout : String) (report : Value) : Prop :=
  ∃ v, Json.readDocument stdout.toList = .ok v ∧ read m v = .ok report

/-- The output has an integer of so many digits, which are too many. -/
def Overlong (stdout : String) (count : Nat) : Prop :=
  Json.readDocument stdout.toList = .error (.tooManyDigits count)

section

variable {m : Model} {stdout : String} {report : Value}

theorem Reads.fits (h : Reads m stdout report) : m.shape.Fits report := by
  obtain ⟨v, hread, hreport⟩ := h
  exact Shape.fits_of_read _ m.shape_complete [] v report (Json.given_readDocument hread) hreport

theorem Reads.unique {other : Value} (h : Reads m stdout report) (hother : Reads m stdout other) :
    other = report := by
  obtain ⟨v, hread, hreport⟩ := h
  obtain ⟨w, hreadOther, hreportOther⟩ := hother
  rw [hread] at hreadOther
  cases hreadOther
  rw [hreport] at hreportOther
  exact (Except.ok.inj hreportOther).symm

theorem Overlong.unique {count other : Nat} (h : Overlong stdout count)
    (hother : Overlong stdout other) : other = count := by
  rw [Overlong, h] at hother
  cases hother
  rfl

theorem Overlong.not_reads {count : Nat} (h : Overlong stdout count) : ¬ Reads m stdout report := by
  rintro ⟨v, hread, -⟩
  rw [h] at hread
  cases hread

theorem decode_of_reads (h : Reads m stdout report) (command : List Value) (stderr : String) :
    decode m command stdout stderr = .ok report := by
  obtain ⟨v, hread, hreport⟩ := h
  simp only [decode, hread, validate, hreport]

theorem decode_of_overlong {count : Nat} (h : Overlong stdout count) (m : Model)
    (command : List Value) (stderr : String) :
    decode m command stdout stderr = .error (.fault (.tooManyDigitsRead count)) := by
  rw [Overlong] at h
  simp only [decode, h, Json.ParseFault.toFault]

/-- A pass that is written in any plain style is read. -/
theorem SyncPass.reads_of_render {p : SyncPass} (h : p.Short) {style : Json.Style}
    (hstyle : style.Plain) {text : List Char} (htext : Json.render style p.toValue = .ok text) :
    Reads .indexSync (String.ofList text) p.toValue := by
  obtain ⟨⟨tail, rfl⟩, hfront⟩ := p.readFront_render h hstyle htext
  refine ⟨p.toValue, ?_, p.read_toValue⟩
  rw [String.toList_ofList]
  exact Json.readDocument_of_readFront hfront

/-- Output is decoded as the report that it is read as, or it is a decode error, unless
it has an integer of too many digits. -/
theorem decode_cases (m : Model) (command : List Value) (stdout stderr : String) :
    (∃ report, Reads m stdout report ∧ decode m command stdout stderr = .ok report) ∨
    ((∀ report, ¬ Reads m stdout report) ∧ (∀ count, ¬ Overlong stdout count) ∧
      ∃ reason, decode m command stdout stderr = .error (.ledger (.decode reason command stderr))) ∨
    ∃ count, Overlong stdout count ∧
      decode m command stdout stderr = .error (.fault (.tooManyDigitsRead count)) := by
  cases hread : Json.readDocument stdout.toList with
  | ok v =>
      cases hreport : read m v with
      | ok report =>
          have hreads : Reads m stdout report := ⟨v, hread, hreport⟩
          exact .inl ⟨report, hreads, decode_of_reads hreads command stderr⟩
      | error problems =>
          exact .inr (.inl ⟨by simp [Reads, hread, hreport], by simp [Overlong, hread], _,
            by simp only [decode, hread, validate, hreport]; rfl⟩)
  | error fault =>
      cases fault with
      | malformed complaint left =>
          exact .inr (.inl ⟨by simp [Reads, hread], by simp [Overlong, hread],
            Json.report complaint stdout.toList left, by simp only [decode, hread]⟩)
      | tooManyDigits count =>
          exact .inr (.inr ⟨count, hread, decode_of_overlong hread m command stderr⟩)

end

end DocLedger.Report
