import DocLedger.Proofs.Report.Misfits
import Mathlib.Data.List.Nodup

/-!
# Reports stay as they are read

The normal form of a value is its own normal form: each coercion ends in a value that
the same rule leaves alone, and so do the values that stand for fields left out.  A
report written out as plain data is therefore read back as the same report, and the
elements of its lists are those of the value it was read from, one for one.
-/

namespace DocLedger.Report

/-! ## Normal forms -/

mutual

/-- The values that stand for fields that are left out are values of JSON in normal form. -/
def Shape.Settled : Shape → Prop
  | .optional shape => shape.Settled
  | .list shape => shape.Settled
  | .record _ fields => fields.Settled
  | _ => True

@[inherit_doc Shape.Settled]
def Fields.Settled : Fields → Prop
  | .nil => True
  | .cons _ shape default rest =>
    shape.Settled ∧ (∀ v, default = some v → Datum v ∧ shape.Means v v) ∧ rest.Settled

end

theorem Model.shape_settled (m : Model) : m.shape.Settled := by
  cases m <;>
    simp [shape, logEntryShape, manifestShape, issueShape, required, nullable, withDefault,
      Shape.Settled, Fields.Settled, Shape.Means, Datum.null, Datum.bool, Datum.list,
      MeansTruth.bool]

theorem Fields.Mean.keys : {fields : Fields} → {entries rs : List (Value × Value)} →
    fields.Mean entries rs → rs.map Prod.fst = fields.names.map Value.text
  | .nil, _, _, rfl => rfl
  | .cons name _ _ _, _, _, ⟨_, _, rfl, _, hrest⟩ => congrArg (Value.text name :: ·) hrest.keys

theorem lookup_of_mem {name : String} {rs : List (Value × Value)} {r : Value}
    (hkeys : (rs.map Prod.fst).Nodup) (h : (.text name, r) ∈ rs) : Value.lookup name rs = some r := by
  induction rs with
  | nil => cases h
  | cons first rest ih =>
      obtain ⟨key, w⟩ := first
      obtain ⟨hkey, hrest⟩ := List.nodup_cons.mp hkeys
      rw [List.mem_cons] at h
      rcases h with heq | hmem
      · cases heq
        simp [Value.lookup]
      · have hne : key ≠ .text name := by
          rintro rfl
          exact hkey (List.mem_map.mpr ⟨_, hmem, rfl⟩)
        cases key with
        | text k =>
            have hk : k ≠ name := fun heq => hne (congrArg Value.text heq)
            simpa [Value.lookup, hk] using ih hrest hmem
        | _ => exact ih hrest hmem

theorem forall₂_self {R : Value → Value → Prop} (hself : ∀ v r, R v r → R r r)
    {items rs : List Value} (h : List.Forall₂ R items rs) : List.Forall₂ R rs rs := by
  induction h with
  | nil => exact .nil
  | cons hfirst _ ih => exact .cons (hself _ _ hfirst) ih

mutual

/-- A normal form is its own normal form. -/
theorem Shape.means_self (shape : Shape) (hdistinct : shape.Distinct) (hsettled : shape.Settled)
    (v r : Value) (h : shape.Means v r) : shape.Means r r := by
  cases shape with
  | text =>
      obtain ⟨s, -, rfl⟩ := h
      exact ⟨s, rfl, rfl⟩
  | integer =>
      obtain ⟨n, -, rfl⟩ := h
      exact ⟨n, .int n, rfl⟩
  | truth =>
      obtain ⟨b, -, rfl⟩ := h
      exact ⟨b, .bool b, rfl⟩
  | anything => rfl
  | optional shape =>
      by_cases hr : r = .null
      · exact .inl ⟨hr, hr⟩
      · rcases h with ⟨-, hnull⟩ | ⟨-, h⟩
        · exact absurd hnull hr
        · exact .inr ⟨hr, Shape.means_self shape hdistinct hsettled v r h⟩
  | list shape =>
      obtain ⟨items, rs, rfl, rfl, hitems⟩ := h
      exact ⟨rs, rs, rfl, rfl, forall₂_self (Shape.means_self shape hdistinct hsettled) hitems⟩
  | record name fields =>
      obtain ⟨entries, rs, rfl, rfl, hfields⟩ := h
      refine ⟨rs, rs, rfl, rfl, Fields.mean_self fields hdistinct hsettled entries rs rs hfields ?_⟩
      have hkeys : (rs.map Prod.fst).Nodup := by
        rw [hfields.keys]
        exact List.Nodup.map (fun _ _ => Value.text.inj) (Fields.Distinct.nodup hdistinct)
      intro name r hmem
      exact lookup_of_mem hkeys hmem

/-- The entries in normal form are those of every mapping that holds them. -/
theorem Fields.mean_self (fields : Fields) (hdistinct : fields.Distinct) (hsettled : fields.Settled)
    (entries rs whole : List (Value × Value)) (h : fields.Mean entries rs)
    (hwhole : ∀ name r, (.text name, r) ∈ rs → Value.lookup name whole = some r) :
    fields.Mean whole rs := by
  cases fields with
  | nil => exact h
  | cons name shape default rest =>
      obtain ⟨-, hshape, hrest⟩ := hdistinct
      obtain ⟨hsettled, hdefault, hsettledRest⟩ := hsettled
      obtain ⟨r, more, rfl, hfirst, hmore⟩ := h
      refine ⟨r, more, rfl, ?_, Fields.mean_self rest hrest hsettledRest entries more whole hmore ?_⟩
      · rw [hwhole name r List.mem_cons_self]
        cases hlookup : Value.lookup name entries with
        | some v =>
            rw [hlookup] at hfirst
            exact Shape.means_self shape hshape hsettled v r hfirst
        | none =>
            rw [hlookup] at hfirst
            exact (hdefault r hfirst).2
      · intro name r hmem
        exact hwhole name r (List.mem_cons_of_mem _ hmem)

end

theorem forall_of_forall₂ {R : Value → Value → Prop} {P Q : Value → Prop}
    (hstep : ∀ v r, P v → R v r → Q r) {items rs : List Value} (hitems : ∀ v ∈ items, P v)
    (h : List.Forall₂ R items rs) : ∀ r ∈ rs, Q r := by
  induction h with
  | nil => exact List.forall_mem_nil _
  | cons hfirst _ ih =>
      obtain ⟨hv, hrest⟩ := List.forall_mem_cons.mp hitems
      exact List.forall_mem_cons.mpr ⟨hstep _ _ hv hfirst, ih hrest⟩

mutual

theorem Shape.datum_of_means (shape : Shape) (hsettled : shape.Settled) (v r : Value)
    (hv : Datum v) (h : shape.Means v r) : Datum r := by
  cases shape with
  | text =>
      obtain ⟨s, -, rfl⟩ := h
      exact .text s
  | integer =>
      obtain ⟨n, -, rfl⟩ := h
      exact .int n
  | truth =>
      obtain ⟨b, -, rfl⟩ := h
      exact .bool b
  | anything =>
      obtain rfl : r = v := h
      exact hv
  | optional shape =>
      rcases h with ⟨-, rfl⟩ | ⟨-, h⟩
      · exact .null
      · exact Shape.datum_of_means shape hsettled v r hv h
  | list shape =>
      obtain ⟨items, rs, rfl, rfl, h⟩ := h
      cases hv with
      | list hitems =>
          exact .list (forall_of_forall₂ (Shape.datum_of_means shape hsettled) hitems h)
  | record name fields =>
      obtain ⟨entries, rs, rfl, rfl, h⟩ := h
      cases hv with
      | mapping hvalues =>
          exact .mapping (Fields.datum_of_mean fields hsettled entries rs hvalues h)

theorem Fields.datum_of_mean (fields : Fields) (hsettled : fields.Settled)
    (entries rs : List (Value × Value)) (hvalues : ∀ e ∈ entries, Datum e.2)
    (h : fields.Mean entries rs) : ∀ e ∈ rs, Datum e.2 := by
  cases fields with
  | nil =>
      obtain rfl : rs = [] := h
      exact List.forall_mem_nil _
  | cons name shape default rest =>
      obtain ⟨hsettled, hdefault, hsettledRest⟩ := hsettled
      obtain ⟨r, more, rfl, hfirst, hmore⟩ := h
      refine List.forall_mem_cons.mpr ⟨?_, Fields.datum_of_mean rest hsettledRest entries more hvalues hmore⟩
      cases hlookup : Value.lookup name entries with
      | some v =>
          rw [hlookup] at hfirst
          obtain ⟨e, hmem, rfl⟩ := mem_of_lookup hlookup
          exact Shape.datum_of_means shape hsettled e.2 r (hvalues e hmem) hfirst
      | none =>
          rw [hlookup] at hfirst
          exact (hdefault r hfirst).1

end

/-! ## Plain data -/

theorem circularItems_eq_false {items : List Value} (h : ∀ v ∈ items, v.circular = false) :
    Value.circularItems items = false := by
  induction items with
  | nil => rfl
  | cons v rest ih =>
      obtain ⟨hv, hrest⟩ := List.forall_mem_cons.mp h
      rw [Value.circularItems, hv, ih hrest, Bool.or_false]

theorem circularEntries_eq_false {entries : List (Value × Value)}
    (h : ∀ e ∈ entries, e.2.circular = false) : Value.circularEntries entries = false := by
  induction entries with
  | nil => rfl
  | cons e rest ih =>
      obtain ⟨he, hrest⟩ := List.forall_mem_cons.mp h
      rw [Value.circularEntries, he, ih hrest, Bool.or_false]

theorem unfoldedItems_eq_self {items : List Value} (h : ∀ v ∈ items, v.unfolded = v) :
    Value.unfoldedItems items = items := by
  induction items with
  | nil => rfl
  | cons v rest ih =>
      obtain ⟨hv, hrest⟩ := List.forall_mem_cons.mp h
      rw [Value.unfoldedItems, hv, ih hrest]

theorem unfoldedEntries_eq_self {entries : List (Value × Value)}
    (h : ∀ e ∈ entries, e.2.unfolded = e.2) : Value.unfoldedEntries entries = entries := by
  induction entries with
  | nil => rfl
  | cons e rest ih =>
      obtain ⟨he, hrest⟩ := List.forall_mem_cons.mp h
      rw [Value.unfoldedEntries, he, ih hrest]

theorem Datum.circular_eq_false {v : Value} (hv : Datum v) : v.circular = false := by
  induction hv with
  | null | bool | int | float | text => rfl
  | list _ ih => exact circularItems_eq_false ih
  | mapping _ ih => exact circularEntries_eq_false ih

theorem Datum.unfolded_eq_self {v : Value} (hv : Datum v) : v.unfolded = v := by
  induction hv with
  | null | bool | int | float | text => rfl
  | list _ ih => exact congrArg Value.list (unfoldedItems_eq_self ih)
  | mapping _ ih => exact congrArg Value.mapping (unfoldedEntries_eq_self ih)

theorem Datum.dump_eq_self {v : Value} (hv : Datum v) : dump v = .ok v := by
  rw [dump, hv.circular_eq_false, hv.unfolded_eq_self, if_neg Bool.false_ne_true]

/-! ## Reports -/

/-- The field of a model that lists records, and the model of these. -/
def Model.elements? : Model → Option (String × Model)
  | .log => some ("entries", .logEntry)
  | .integrity => some ("issues", .issue)
  | .snapshot => some ("issues", .issue)
  | _ => none

def Model.fieldNames (m : Model) : List String :=
  match m.shape with
  | .record _ fields => fields.names
  | _ => []

theorem Model.exists_record (m : Model) : ∃ name fields, m.shape = .record name fields := by
  cases m <;> exact ⟨_, _, rfl⟩

theorem validate_eq_ok_iff {m : Model} {command : List Value} {stderr : String} {v report : Value}
    (hv : Datum v) : validate m command stderr v = .ok report ↔ m.shape.Means v report := by
  rw [← m.shape.read_eq_ok_iff [] v report hv]
  cases hread : m.shape.read [] v <;> simp [validate, read, hread]

/-- A field of a record in normal form is the normal form of the value's field. -/
theorem Fields.Mean.exists_part {fields : Fields} {name : String} {shape : Shape}
    {default : Option Value} (hfield : fields.Has name shape default) (hdistinct : fields.Distinct)
    {entries rs : List (Value × Value)} (h : fields.Mean entries rs) :
    ∃ r, Value.lookup name rs = some r ∧
      match Value.lookup name entries with
      | some v => shape.Means v r
      | none => default = some r := by
  induction hfield generalizing rs with
  | head =>
      obtain ⟨r, more, rfl, hfirst, -⟩ := h
      exact ⟨r, by simp [Value.lookup], hfirst⟩
  | @tail name other _ _ _ _ _ hrest ih =>
      obtain ⟨-, more, rfl, -, hmore⟩ := h
      obtain ⟨r, hlookup, hpart⟩ := ih hdistinct.2.2 hmore
      have hne : other ≠ name := by
        rintro rfl
        exact hdistinct.1 hrest.mem_names
      exact ⟨r, by simpa [Value.lookup, hne] using hlookup, hpart⟩

/-- A field that lists elements has the normal forms of the value's elements, in their order. -/
theorem Fields.Mean.forall₂_elements {fields : Fields} {field : String} {shape element : Shape}
    {default : Option Value} (hfield : fields.Has field shape default)
    (hdistinct : fields.Distinct)
    (hlist : shape = .list element ∧ default = some (.list []) ∨
      shape = .optional (.list element) ∧ default = some .null)
    {entries rs : List (Value × Value)} (h : fields.Mean entries rs) :
    List.Forall₂ element.Means (listField (.mapping entries) field)
      (listField (.mapping rs) field) := by
  obtain ⟨r, hr, hpart⟩ := h.exists_part hfield hdistinct
  simp only [listField, Value.get?, hr]
  cases hlookup : Value.lookup field entries with
  | none =>
      rw [hlookup] at hpart
      rcases hlist with ⟨-, rfl⟩ | ⟨-, rfl⟩
      · cases hpart
        exact .nil
      · cases hpart
        exact .nil
  | some v =>
      rw [hlookup] at hpart
      rcases hlist with ⟨rfl, -⟩ | ⟨rfl, -⟩
      · obtain ⟨items, rs, rfl, rfl, hitems⟩ := hpart
        exact hitems
      · rcases hpart with ⟨rfl, rfl⟩ | ⟨-, items, rs, rfl, rfl, hitems⟩
        · exact .nil
        · exact hitems

theorem Model.forall₂_elements {m element : Model} {field : String}
    (helements : m.elements? = some (field, element)) {v report : Value}
    (h : m.shape.Means v report) :
    List.Forall₂ element.shape.Means (listField v field) (listField report field) := by
  have hdistinct := m.shape_distinct
  cases m <;> cases helements <;> obtain ⟨entries, rs, rfl, rfl, h⟩ := h
  case log => exact h.forall₂_elements .head hdistinct (.inr ⟨rfl, rfl⟩)
  case integrity => exact h.forall₂_elements (.tail (.tail .head)) hdistinct (.inl ⟨rfl, rfl⟩)
  case snapshot =>
    exact h.forall₂_elements (.tail (.tail (.tail (.tail (.tail (.tail (.tail .head)))))))
      hdistinct (.inl ⟨rfl, rfl⟩)

theorem Datum.mem_listField {v : Value} (hv : Datum v) (field : String) :
    ∀ item ∈ listField v field, Datum item := by
  cases hv with
  | mapping hvalues =>
      simp only [listField, Value.get?]
      split
      next items hlookup =>
        obtain ⟨e, hmem, he⟩ := mem_of_lookup hlookup
        have hlist := hvalues e hmem
        rw [he] at hlist
        cases hlist with
        | list hitems => exact hitems
      · exact List.forall_mem_nil _
  | null | bool | int | float | text | list => exact List.forall_mem_nil _

theorem Model.keys_of_means {m : Model} {v report : Value} (h : m.shape.Means v report) :
    ∃ entries, report = .mapping entries ∧ entries.map Prod.fst = m.fieldNames.map Value.text := by
  obtain ⟨name, fields, hshape⟩ := m.exists_record
  rw [hshape] at h
  obtain ⟨entries, rs, -, rfl, hfields⟩ := h
  refine ⟨rs, rfl, ?_⟩
  rw [hfields.keys, Model.fieldNames, hshape]

/-- A report that is read from a value is written out with all the fields of its model,
and what is written is read as the same report; the elements that it lists are read from
those of the value, one for one. -/
theorem validate_dump (m : Model) (command again : List Value) (stderr other : String)
    {v report : Value} (hv : Datum v) (h : validate m command stderr v = .ok report) :
    (∃ dumped, dump report = .ok dumped ∧ validate m again other dumped = .ok report) ∧
    (∃ entries, report = .mapping entries ∧
      entries.map Prod.fst = m.fieldNames.map Value.text) ∧
    ∀ field element, m.elements? = some (field, element) →
      List.Forall₂ (fun item entry => validate element command stderr item = .ok entry)
        (listField v field) (listField report field) := by
  have hmeans : m.shape.Means v report := (validate_eq_ok_iff hv).mp h
  have hreport : Datum report := m.shape.datum_of_means m.shape_settled v report hv hmeans
  refine ⟨⟨report, hreport.dump_eq_self, ?_⟩, Model.keys_of_means hmeans, ?_⟩
  · rw [validate_eq_ok_iff hreport]
    exact m.shape.means_self m.shape_distinct m.shape_settled v report hmeans
  · intro field element helements
    have hall := (List.forall₂_and_left _ _).mpr
      ⟨hv.mem_listField field, Model.forall₂_elements helements hmeans⟩
    exact hall.imp fun item entry hitem => (validate_eq_ok_iff hitem.1).mpr hitem.2

/-- A report of snapshots with numbers and truth values as text, a truth value for a
number, and one issue that says more than its model. -/
def laxSnapshots : Value :=
  .mapping [
    (.text "streams", .text " 012 "),
    (.text "processed", .bool true),
    (.text "snapshotted", .text "+3"),
    (.text "planned", .text "1_000"),
    (.text "skipped", .int 0),
    (.text "truncated", .text "Yes"),
    (.text "issues", .list [.mapping [
      (.text "code", .text "gap"), (.text "line", .int 7), (.text "message", .text "tx missing"),
      (.text "stream_path", .text "documents/orders")]])]

/-- The same report in normal form. -/
def plainSnapshots : Value :=
  .mapping [
    (.text "streams", .int 12),
    (.text "processed", .int 1),
    (.text "snapshotted", .int 3),
    (.text "planned", .int 1000),
    (.text "skipped", .int 0),
    (.text "truncated", .bool true),
    (.text "dry_run", .bool false),
    (.text "issues", .list [.mapping [
      (.text "stream_path", .text "documents/orders"), (.text "code", .text "gap"),
      (.text "message", .text "tx missing")]])]

theorem validate_dump_laxSnapshots :
    Datum laxSnapshots ∧ validate .snapshot [] "" laxSnapshots = .ok plainSnapshots ∧
    (∃ dumped, dump plainSnapshots = .ok dumped ∧
      validate .snapshot [] "" dumped = .ok plainSnapshots) ∧
    (∃ entries, plainSnapshots = .mapping entries ∧
      entries.map Prod.fst = Model.snapshot.fieldNames.map Value.text) ∧
    ∀ field element, Model.snapshot.elements? = some (field, element) →
      List.Forall₂ (fun item entry => validate element [] "" item = .ok entry)
        (listField laxSnapshots field) (listField plainSnapshots field) := by
  have hdatum : Datum laxSnapshots := by
    have hissue : Datum (.mapping [
        (.text "code", .text "gap"), (.text "line", .int 7), (.text "message", .text "tx missing"),
        (.text "stream_path", .text "documents/orders")]) :=
      .mapping (by simp [Datum.int, Datum.text])
    exact .mapping (by simp [Datum.int, Datum.text, Datum.bool, Datum.list, hissue])
  have hread : validate .snapshot [] "" laxSnapshots = .ok plainSnapshots := rfl
  exact ⟨hdatum, hread, validate_dump .snapshot [] [] "" "" hdatum hread⟩

end DocLedger.Report
