import DocLedger.Proofs.Report.Misfits
import Mathlib.Data.Option.Basic
import Mathlib.Data.List.Nodup

/-!
# Reports of newer engines

A newer engine may report more than a model declares, and in another order.  Two
values agree under a shape if they differ in nothing but undeclared keys and the
order of keys, at the top and inside the records below it, while a document that is
held as it is has to be the same.  A reader answers alike for values that agree: with
the same normal form, or with the same problems in the same order.
-/

namespace DocLedger.Report

/-! ## Values that agree -/

mutual

/-- Two values differ in nothing but undeclared keys and the order of keys. -/
def Shape.Agree : Shape → Value → Value → Prop
  | .optional shape, v, w => shape.Agree v w
  | .list shape, v, w =>
    v = w ∨ ∃ items others, v = .list items ∧ w = .list others ∧
      List.Forall₂ shape.Agree items others
  | .record _ fields, v, w =>
    v = w ∨ ∃ entries others, v = .mapping entries ∧ w = .mapping others ∧
      fields.Agree entries others
  | _, v, w => v = w

/-- Under each declared key the entries of two mappings agree, or there are none. -/
def Fields.Agree : Fields → List (Value × Value) → List (Value × Value) → Prop
  | .nil, _, _ => True
  | .cons name shape _ rest, entries, others =>
    Option.Rel shape.Agree (Value.lookup name entries) (Value.lookup name others) ∧
      rest.Agree entries others

end

theorem Shape.agree_refl (shape : Shape) (v : Value) : shape.Agree v v := by
  cases shape with
  | optional shape => exact Shape.agree_refl shape v
  | list | record => exact .inl rfl
  | text | integer | truth | anything => rfl

theorem Shape.isNull_eq_of_agree (shape : Shape) {v w : Value} (h : shape.Agree v w) :
    v.isNull = w.isNull := by
  cases shape with
  | optional shape => exact Shape.isNull_eq_of_agree shape h
  | list | record =>
      obtain rfl | ⟨_, _, rfl, rfl, -⟩ := h <;> rfl
  | text | integer | truth | anything => rw [show v = w from h]

theorem Fields.agree_iff (fields : Fields) (entries others : List (Value × Value)) :
    fields.Agree entries others ↔ ∀ name shape default, fields.Has name shape default →
      Option.Rel shape.Agree (Value.lookup name entries) (Value.lookup name others) := by
  cases fields with
  | nil => exact iff_of_true trivial nofun
  | cons field first value rest =>
      rw [Fields.Agree, Fields.agree_iff rest]
      constructor
      · rintro ⟨hfirst, hrest⟩ name shape default hhas
        cases hhas with
        | head => exact hfirst
        | tail hhas => exact hrest name shape default hhas
      · intro h
        exact ⟨h _ _ _ .head, fun name shape default hhas => h name shape default hhas.tail⟩

/-! ## Keys that are added, removed or moved -/

section

variable {name : String} {entries others : List (Value × Value)}

theorem lookup_of_perm (hperm : entries.Perm others) (hkeys : (entries.map Prod.fst).Nodup) :
    Value.lookup name entries = Value.lookup name others := by
  induction hperm with
  | nil => rfl
  | cons e _ ih =>
      have hrest := ih (List.nodup_cons.mp hkeys).2
      obtain ⟨key, v⟩ := e
      cases key <;> simp only [Value.lookup, hrest]
  | swap e f rest =>
      obtain ⟨key, v⟩ := e
      obtain ⟨other, w⟩ := f
      have hne : other ≠ key := by
        intro heq
        simp [heq] at hkeys
      cases key with
      | text k =>
          cases other with
          | text l =>
              by_cases hk : k = name
              · have hl : l ≠ name := fun hl => hne (by rw [hk, hl])
                simp [Value.lookup, hk, hl]
              · simp [Value.lookup, hk]
          | _ => simp only [Value.lookup]
      | _ => cases other <;> simp only [Value.lookup]
  | trans hleft _ ihleft ihright =>
      have hmiddle := (hleft.map Prod.fst).nodup_iff.mp hkeys
      exact (ihleft hkeys).trans (ihright hmiddle)

theorem lookup_filter {keep : Value × Value → Bool} (hkeep : ∀ v, keep (.text name, v) = true) :
    Value.lookup name (entries.filter keep) = Value.lookup name entries := by
  induction entries with
  | nil => rfl
  | cons e rest ih =>
      obtain ⟨key, v⟩ := e
      by_cases h : keep (key, v) = true
      · rw [List.filter_cons_of_pos h]
        cases key <;> simp only [Value.lookup, ih]
      · rw [List.filter_cons_of_neg h, ih]
        cases key with
        | text k =>
            have hk : k ≠ name := by
              rintro rfl
              exact h (hkeep v)
            simp [Value.lookup, hk]
        | _ => simp only [Value.lookup]

def Fields.declares (fields : Fields) (e : Value × Value) : Bool :=
  match e.1 with
  | .text key => fields.names.contains key
  | _ => false

/-- Mappings agree when their entries under declared keys are the same up to order. -/
theorem Fields.agree_of_perm {fields : Fields}
    (hperm : (entries.filter fields.declares).Perm (others.filter fields.declares))
    (hkeys : (entries.map Prod.fst).Nodup) : fields.Agree entries others := by
  rw [Fields.agree_iff]
  intro name shape default hhas
  have hkeep (v : Value) : fields.declares (.text name, v) = true := by
    simpa [declares] using hhas.mem_names
  have hdeclared (some : List (Value × Value)) :
      Value.lookup name (some.filter fields.declares) = Value.lookup name some :=
    lookup_filter hkeep
  have hsame : Value.lookup name entries = Value.lookup name others := by
    rw [← hdeclared entries, ← hdeclared others]
    exact lookup_of_perm hperm (hkeys.sublist (List.filter_sublist.map Prod.fst))
  rw [hsame]
  cases Value.lookup name others with
  | none => exact .none
  | some v => exact .some (shape.agree_refl v)

end

/-! ## Reading values that agree -/

theorem readItems_eq_of_forall₂ {read : List Step → Value → Read Value}
    {Agree : Value → Value → Prop} (hread : ∀ path v w, Agree v w → read path v = read path w)
    (path : List Step) {items others : List Value} (h : List.Forall₂ Agree items others)
    (index : Nat) : readItems read path index items = readItems read path index others := by
  induction h generalizing index with
  | nil => rfl
  | cons hfirst _ ih => rw [readItems, readItems, hread _ _ _ hfirst, ih]

mutual

/-- Values that agree have the same normal form, or the same problems. -/
theorem Shape.read_eq_of_agree (shape : Shape) (path : List Step) (v w : Value)
    (h : shape.Agree v w) : shape.read path v = shape.read path w := by
  cases shape with
  | text | integer | truth | anything => rw [show v = w from h]
  | optional shape =>
      rw [Shape.read, Shape.read, shape.isNull_eq_of_agree h,
        Shape.read_eq_of_agree shape path v w h]
  | list shape =>
      obtain rfl | ⟨items, others, rfl, rfl, hitems⟩ := h
      · rfl
      · simp only [Shape.read, itemsOf?]
        rw [readItems_eq_of_forall₂ (Shape.read_eq_of_agree shape) path hitems]
  | record name fields =>
      obtain rfl | ⟨entries, others, rfl, rfl, hentries⟩ := h
      · rfl
      · simp only [Shape.read]
        rw [Fields.read_eq_of_agree fields path entries others hentries]

theorem Fields.read_eq_of_agree (fields : Fields) (path : List Step)
    (entries others : List (Value × Value)) (h : fields.Agree entries others) :
    fields.read path entries = fields.read path others := by
  cases fields with
  | nil => rfl
  | cons name shape default rest =>
      obtain ⟨hfirst, hrest⟩ := h
      unfold Fields.read
      rw [Fields.read_eq_of_agree rest path entries others hrest]
      generalize Value.lookup name entries = here at hfirst ⊢
      generalize Value.lookup name others = there at hfirst ⊢
      cases hfirst with
      | none => rfl
      | some hagree => simp only [Shape.read_eq_of_agree shape _ _ _ hagree]

end

/-- Two outputs whose documents agree under a model are decoded to the same report, or
cannot be decoded for the same reason. -/
theorem decode_agrees (m : Model) (command : List Value) (stderr : String)
    {stdout other : String} {v w : Value} (hv : Json.readDocument stdout.toList = .ok v)
    (hw : Json.readDocument other.toList = .ok w) (h : m.shape.Agree v w) :
    (∃ report, decode m command stdout stderr = .ok report ∧
      decode m command other stderr = .ok report) ∨
    ∃ reason,
      decode m command stdout stderr = .error (.ledger (.decode reason command stderr)) ∧
      decode m command other stderr = .error (.ledger (.decode reason command stderr)) := by
  have hsame : read m v = read m w := m.shape.read_eq_of_agree [] v w h
  simp only [decode, hv, hw, validate, hsame]
  cases read m w with
  | ok report => exact .inl ⟨report, rfl, rfl⟩
  | error problems => exact .inr ⟨_, rfl, rfl⟩

def plainStatus (version : Value) : List (Value × Value) := [
  (.text "path", .text "/srv/orders"), (.text "bare", .bool true),
  (.text "manifest", .mapping [(.text "version", version), (.text "name", .text "orders")])]

/-- The status with more keys and in another order. -/
def newerStatus (version : Value) : List (Value × Value) := [
  (.text "shards", .list [.int 4]),
  (.text "manifest", .mapping [
    (.text "name", .text "orders"), (.text "sealed", .null), (.text "version", version)]),
  (.text "bare", .bool true), (.text "path", .text "/srv/orders")]

theorem agree_newerStatus (version : Value) :
    Model.status.shape.Agree (.mapping (plainStatus version)) (.mapping (newerStatus version)) := by
  have hmanifest : Model.manifestShape.Agree
      (.mapping [(.text "version", version), (.text "name", .text "orders")])
      (.mapping [(.text "name", .text "orders"), (.text "sealed", .null),
        (.text "version", version)]) := by
    refine .inr ⟨_, _, rfl, rfl, Fields.agree_of_perm ?_ (by simp)⟩
    exact .swap _ _ _
  refine .inr ⟨_, _, rfl, rfl, .some rfl, .some rfl, .none, .some hmanifest, trivial⟩

/-- What the engine prints of a status, given the text of the version. -/
def plainStatusText (version : String) : String :=
  "\x7b\"path\":\"/srv/orders\",\"bare\":true,\"manifest\":\x7b\"version\":" ++ version ++
    ",\"name\":\"orders\"\x7d\x7d"

@[inherit_doc plainStatusText]
def newerStatusText (version : String) : String :=
  "\x7b\"shards\":[4],\"manifest\":\x7b\"name\":\"orders\",\"sealed\":null,\"version\":" ++
    version ++ "\x7d,\"bare\":true,\"path\":\"/srv/orders\"\x7d"

section

variable {version : Value} {text : String}

theorem storable_statuses (h : version.Storable) :
    Value.Storable (.mapping (plainStatus version)) ∧
    Value.Storable (.mapping (newerStatus version)) := by
  have hshards : Value.Storable (.list [.int 4]) :=
    .list (by simp [Value.Storable.int (Number.tooLong_of_natAbs_lt (n := 4) (by decide))])
  have hmanifest : Value.Storable
      (.mapping [(.text "version", version), (.text "name", .text "orders")]) :=
    .mapping (by simp [Value.IsKey.text]) (by simp [Value.Storable.text, h])
      (by simp [Value.keyName])
  have hnewer : Value.Storable (.mapping [
      (.text "name", .text "orders"), (.text "sealed", .null), (.text "version", version)]) :=
    .mapping (by simp [Value.IsKey.text]) (by simp [Value.Storable.text, Value.Storable.null, h])
      (by simp [Value.keyName])
  constructor
  · refine .mapping (by simp [plainStatus, Value.IsKey.text]) ?_ (by simp [plainStatus, Value.keyName])
    simp [plainStatus, Value.Storable.text, Value.Storable.bool, hmanifest]
  · refine .mapping (by simp [newerStatus, Value.IsKey.text]) ?_ (by simp [newerStatus, Value.keyName])
    simp [newerStatus, Value.Storable.text, Value.Storable.bool, hshards, hnewer]

theorem readDocument_statusTexts
    (h : (version, text) ∈ [(Value.int 2, "2"), (.text "two", "\"two\"")]) :
    Json.readDocument (plainStatusText text).toList = .ok (.mapping (plainStatus version)) ∧
    Json.readDocument (newerStatusText text).toList = .ok (.mapping (newerStatus version)) := by
  have hversion : version.Storable := by
    rcases List.mem_pair.mp h with h | h <;> cases h
    · exact .int (Number.tooLong_of_natAbs_lt (by decide))
    · exact .text _
  have hstored : version.stored = version := by
    rcases List.mem_pair.mp h with h | h <;> cases h <;> rfl
  obtain ⟨hplain, hnewer⟩ := storable_statuses hversion
  constructor
  · apply Json.readDocument_of_render Json.Style.compact_plain hplain
    · simp [plainStatus, Value.storedEntries, Value.stored, Value.keyName, hstored]
    · rcases List.mem_pair.mp h with h | h <;> cases h
      all_goals
        simp only [plainStatus, Json.render, Json.renderEntries, Json.keyText,
          @Json.integer_of_natAbs_lt 2 (by decide)]
        exact congrArg Except.ok (by decide +kernel)
  · apply Json.readDocument_of_render Json.Style.compact_plain hnewer
    · simp [newerStatus, Value.storedEntries, Value.storedItems, Value.stored, Value.keyName,
        hstored]
    · rcases List.mem_pair.mp h with h | h <;> cases h
      all_goals
        simp only [newerStatus, Json.render, Json.renderEntries, Json.renderItems, Json.keyText,
          @Json.integer_of_natAbs_lt 2 (by decide), @Json.integer_of_natAbs_lt 4 (by decide)]
        exact congrArg Except.ok (by decide +kernel)

end

/-- Read as a status, both give the version of the manifest, and neither can be read if
the version is a word. -/
theorem decode_agrees_newerStatus :
    (∃ report,
      (report.get? "manifest").bind (Value.get? "version") = some (.int 2) ∧
      decode .status [] (plainStatusText "2") "" = .ok report ∧
      decode .status [] (newerStatusText "2") "" = .ok report) ∧
    ∃ reason,
      reason = "unexpected RepoStatus shape: " ++
        summary [⟨[.field "manifest", .field "version"], .notIntegerText⟩] ∧
      decode .status [] (plainStatusText "\"two\"") "" = .error (.ledger (.decode reason [] "")) ∧
      decode .status [] (newerStatusText "\"two\"") "" =
        .error (.ledger (.decode reason [] "")) := by
  constructor
  · obtain ⟨hplain, hnewer⟩ := readDocument_statusTexts (List.mem_pair.mpr (.inl rfl))
    have hread : ∃ report, read .status (.mapping (plainStatus (.int 2))) = .ok report ∧
        (report.get? "manifest").bind (Value.get? "version") = some (.int 2) :=
      ⟨_, rfl, rfl⟩
    obtain ⟨known, hread, hversion⟩ := hread
    have hknown : decode .status [] (plainStatusText "2") "" = .ok known := by
      simp only [decode, hplain, validate, hread]
    obtain ⟨report, hdecode, hsame⟩ | ⟨reason, hdecode, -⟩ :=
      decode_agrees .status [] "" hplain hnewer (agree_newerStatus (.int 2))
    · obtain rfl : report = known := Except.ok.inj (hdecode.symm.trans hknown)
      exact ⟨report, hversion, hdecode, hsame⟩
    · rw [hknown] at hdecode
      cases hdecode
  · obtain ⟨hplain, hnewer⟩ := readDocument_statusTexts (List.mem_pair.mpr (.inr rfl))
    have hread : read .status (.mapping (plainStatus (.text "two"))) =
        .error [⟨[.field "manifest", .field "version"], .notIntegerText⟩] := rfl
    have hknown := decode_agrees .status [] "" hplain hnewer (agree_newerStatus (.text "two"))
    have hfails : ∃ reason, reason = "unexpected RepoStatus shape: " ++
          summary [⟨[.field "manifest", .field "version"], .notIntegerText⟩] ∧
        decode .status [] (plainStatusText "\"two\"") "" =
          .error (.ledger (.decode reason [] "")) := by
      simp only [decode, hplain, validate, hread]
      exact ⟨_, rfl, rfl⟩
    obtain ⟨reason, hreason, hfails⟩ := hfails
    obtain ⟨report, hdecode, -⟩ | ⟨other, hdecode, hsame⟩ := hknown
    · rw [hfails] at hdecode
      cases hdecode
    · have hother : reason = other := by
        rw [hfails, Except.error.injEq, Failure.ledger.injEq, LedgerError.decode.injEq] at hdecode
        exact hdecode.1
      exact ⟨reason, hreason, hfails, hother ▸ hsame⟩

end DocLedger.Report
