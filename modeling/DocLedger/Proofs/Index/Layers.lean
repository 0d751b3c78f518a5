import DocLedger.Index.Options
import DocLedger.Proofs.Value.Stored

/-!
# Layers of options for a watch

A layer either stands for options of a watch or is malformed: it is of another
kind, has a key that names no option, or attaches the output in no known way.  The
options that it stands for are read off the layer itself, and the settings of a
call are those of the session with the given ones in front.
-/

namespace DocLedger.Index

/-! ## Values of the kinds that settings ask for -/

/-- Whether a value is of the kind that a setting asks for.  Of the switches only
the truth counts, so any value will do. -/
def Setting.Takes : Setting → Value → Prop
  | .dbPath, v => ∃ s, v = .text s
  | .mode, v => ∃ s, v = .text s
  | .intervalMs, v => ∃ n, v = .int n
  | .jitterMs, v => ∃ n, v = .int n
  | .batchCommits, v => ∃ n, v = .int n
  | .fast, _ => True
  | .fetch, _ => True
  | .onlyChanges, _ => True

def Settings.Filled (s : Settings) : Prop :=
  ∀ setting : Setting, setting.Takes (s setting)

/-- Settings some of which have a value of their kind; the others are not set. -/
def Settings.Given (s : Settings) : Prop :=
  ∀ setting : Setting, (s setting).isNull = false → setting.Takes (s setting)

theorem Settings.Filled.overlay {base layer : Settings} (hbase : base.Filled)
    (hlayer : layer.Given) : (base.overlay layer).Filled := by
  intro setting
  rw [Settings.overlay]
  cases hset : (layer setting).isNull with
  | true => exact hbase setting
  | false => exact hlayer setting hset

theorem Settings.overlay_of_isUnset {base layer : Settings} (h : layer.isUnset = true) :
    base.overlay layer = base := by
  have hall : ∀ setting ∈ Setting.all, (layer setting).isNull = true := by
    simpa [Settings.isUnset] using h
  funext setting
  have hnull : (layer setting).isNull = true := hall setting (by cases setting <;> decide)
  rw [Settings.overlay, hnull]
  rfl

/-! ## What a layer says -/

/-- Whether a value is neither nothing nor a mapping. -/
def IsOther : Value → Prop
  | .null => False
  | .mapping _ => False
  | .loop isMapping => isMapping = false
  | _ => True

namespace Layer

/-- The settings that a layer gives. -/
def given : Layer → Settings
  | .options o => o.settings
  | .value (.mapping entries) => fun s => (Value.lookup s.name entries).getD .null
  | .value _ => unset

/-- How a layer attaches the output of a watch. -/
def stdio : Layer → Value
  | .options (.watch _ _ stdio) => stdio
  | .value (.mapping entries) => (Value.lookup "stdio" entries).getD (.text "inherit")
  | _ => .text "inherit"

/-- The layers that callers may hand over for a watch: nothing, options, a mapping
from texts, or a value of another kind.  Options of a watch have been made with a
known attachment.  What is set is of the kind that the setting asks for. -/
inductive Typed : Layer → Prop
  | nothing : Typed (.value .null)
  | overrides {s : Settings} (hgiven : s.Given) : Typed (.options (.overrides s))
  | watch {s : Settings} (json : Value) {word : String} (hgiven : s.Given)
      (hword : word ∈ stdioModes) : Typed (.options (.watch s json (.text word)))
  | mapping {entries : List (Value × Value)} (hkeys : ∀ e ∈ entries, ∃ name, e.1 = .text name)
      (hgiven : (given (.value (.mapping entries))).Given)
      (hstdio : ∀ v, Value.lookup "stdio" entries = some v → v = .null ∨ ∃ word, v = .text word) :
      Typed (.value (.mapping entries))
  /-- The mapping whose only entry is the mapping itself, under the key `self`. -/
  | loop : Typed (.value (.loop true))
  | other {v : Value} (hother : IsOther v) : Typed (.value v)

/-- The layers that stand for no options of a watch. -/
inductive Malformed : Layer → Prop
  | kind {v : Value} (hother : IsOther v) : Malformed (.value v)
  | key {entries : List (Value × Value)} {name : String} {v : Value}
      (hmem : (.text name, v) ∈ entries) (hunknown : name ∉ OptionsKind.watch.optionNames) :
      Malformed (.value (.mapping entries))
  | loop : Malformed (.value (.loop true))
  | stdio {entries : List (Value × Value)} {v : Value}
      (hstdio : Value.lookup "stdio" entries = some v)
      (hunknown : ∀ word ∈ stdioModes, v ≠ .text word) : Malformed (.value (.mapping entries))

/-- What a layer sets is of the kinds that the settings ask for. -/
theorem Typed.given {layer : Layer} (h : layer.Typed) : layer.given.Given := by
  have hunset : unset.Given := nofun
  cases h with
  | nothing | loop => exact hunset
  | overrides hgiven => exact hgiven
  | watch json hgiven hword => exact hgiven
  | mapping hkeys hgiven hstdio => exact hgiven
  | @other v hother =>
      cases v with
      | mapping entries => exact hother.elim
      | _ => exact hunset

end Layer

/-! ## Keys of a mapping -/

theorem insertKey_text (name : String) (names : List String) :
    ∃ more : List String, insertKey (.text name) (names.map .text) = .ok (more.map .text) ∧
      more.length = names.length + 1 := by
  induction names with
  | nil => exact ⟨[name], rfl, rfl⟩
  | cons first rest ih =>
      obtain ⟨more, hmore, hlength⟩ := ih
      rw [List.map_cons, insertKey, Value.compare, hmore]
      cases Value.Comparison.less.decides (decide (name < first)) (decide (first < name)) with
      | true => exact ⟨name :: first :: rest, rfl, rfl⟩
      | false => exact ⟨first :: more, rfl, congrArg (· + 1) hlength⟩

theorem sortKeys_texts (names : List String) :
    ∃ sorted : List String, sortKeys (names.map .text) = .ok (sorted.map .text) ∧
      sorted.length = names.length := by
  -- insertion starts from nothing but goes on from what has been sorted so far
  have hinsert (done : List String) :
      ∃ sorted : List String, (names.map Value.text).foldlM (fun done k => insertKey k done)
        (done.map .text) = .ok (sorted.map .text) ∧ sorted.length = done.length + names.length := by
    induction names generalizing done with
    | nil => exact ⟨done, rfl, rfl⟩
    | cons name rest ih =>
        obtain ⟨more, hmore, hlength⟩ := insertKey_text name done
        obtain ⟨sorted, hsorted, hsum⟩ := ih more
        refine ⟨sorted, ?_, by rw [hsum, hlength, List.length_cons]; omega⟩
        rw [List.map_cons, List.foldlM_cons, hmore]
        exact hsorted
  -- texts are all of one rank, so the ranks before and after it stay empty
  have hranked : ([0, 1, 2, 3].flatMap fun rank =>
      (names.map Value.text).filter fun k => keyRank k == rank) = names.map .text := by
    have hnone : names.filter (fun _ => false) = [] := List.filter_eq_nil_iff.mpr (by simp)
    have hall : names.filter (fun _ => true) = names := List.filter_eq_self.mpr (by simp)
    simp [List.filter_map, Function.comp_def, keyRank, hnone, hall]
  obtain ⟨sorted, hsorted, hlength⟩ := hinsert []
  rw [sortKeys, hranked]
  exact ⟨sorted, hsorted, by simpa using hlength⟩

theorem keyTexts_texts (names : List String) : keyTexts (names.map .text) = .ok names :=
  Value.mapM_texts (fun _ _ => rfl) names 0

theorem exists_names {entries : List (Value × Value)}
    (hkeys : ∀ e ∈ entries, ∃ name, e.1 = .text name) :
    ∃ names : List String, entries.map Prod.fst = names.map .text := by
  induction entries with
  | nil => exact ⟨[], rfl⟩
  | cons e rest ih =>
      obtain ⟨name, hname⟩ := hkeys e List.mem_cons_self
      obtain ⟨names, hnames⟩ := ih fun e he => hkeys e (List.mem_cons_of_mem _ he)
      exact ⟨name :: names, by rw [List.map_cons, List.map_cons, hname, hnames]⟩

theorem overlongItems_texts (names : List String) :
    Value.overlongItems (names.map .text) = false := by
  induction names with
  | nil => rfl
  | cons name rest ih =>
      rw [List.map_cons, Value.overlongItems, ih]
      rfl

/-- A mapping from texts is refused just in case one of them names no option. -/
theorem checkKnown_cases (kind : OptionsKind) {entries : List (Value × Value)}
    (hkeys : ∀ e ∈ entries, ∃ name, e.1 = .text name) :
    ((∀ name v, (.text name, v) ∈ entries → name ∈ kind.optionNames) ∧
      checkKnown kind entries = .ok ()) ∨
    ((∃ name v, (.text name, v) ∈ entries ∧ name ∉ kind.optionNames) ∧
      ∃ message field value,
        checkKnown kind entries = .error (.ledger (.configuration message field value))) := by
  obtain ⟨names, hnames⟩ := exists_names hkeys
  have hmem (name : String) : name ∈ names ↔ ∃ v, (.text name, v) ∈ entries := by
    have hfst : Value.text name ∈ entries.map Prod.fst ↔ ∃ v, (Value.text name, v) ∈ entries := by
      simp
    rw [← hfst, hnames]
    simp
  obtain ⟨sorted, hsorted, hlength⟩ :=
    sortKeys_texts (names.filter fun name => !kind.optionNames.contains name)
  have hcheck : checkKnown kind entries = (do
      let unknown ← .ok (sorted.map Value.text)
      if unknown.isEmpty then return ()
      let names ← (keyTexts unknown).mapError Failure.fault
      throw (.configuration ("unknown index option(s): " ++ Text.joined ", " names) "overrides"
        (.list unknown))) := by
    rw [checkKnown, hnames, List.filter_map]
    simp only [Function.comp_def]
    rw [hsorted]
    rfl
  cases sorted with
  | nil =>
      have hnone := List.filter_eq_nil_iff.mp (List.length_eq_zero_iff.mp hlength.symm)
      refine .inl ⟨?_, hcheck⟩
      intro name v hentry
      have hknown := hnone name ((hmem name).mpr ⟨v, hentry⟩)
      simpa using hknown
  | cons first rest =>
      have hsome : 0 < (names.filter fun name => !kind.optionNames.contains name).length := by
        rw [← hlength]
        exact Nat.succ_pos _
      obtain ⟨name, hname⟩ := List.exists_mem_of_length_pos hsome
      obtain ⟨hname, hunknown⟩ := List.mem_filter.mp hname
      obtain ⟨v, hentry⟩ := (hmem name).mp hname
      refine .inr ⟨⟨name, v, hentry, by simpa using hunknown⟩,
        "unknown index option(s): " ++ Text.joined ", " (first :: rest), some "overrides",
        .list ((first :: rest).map .text), ?_⟩
      have hshort : (Value.list ((first :: rest).map .text)).overlong = false :=
        overlongItems_texts (first :: rest)
      have hfailure (message : String) : Failure.configuration message "overrides"
          (.list ((first :: rest).map .text)) = .ledger (.configuration message (some "overrides")
            (.list ((first :: rest).map .text))) := by
        rw [Failure.configuration, hshort]
        rfl
      rw [hcheck, ← hfailure]
      simp only [bind, Except.bind, keyTexts_texts (first :: rest)]
      rfl

/-! ## The options of a layer -/

theorem Config.checkWord_text (allowed : List String) (complaint field word : String) :
    (word ∈ allowed ∧ checkWord allowed complaint field (.text word) = .ok ()) ∨
    (word ∉ allowed ∧ checkWord allowed complaint field (.text word) =
      .error (.ledger (.configuration (complaint ++ word) (some field) (.text word)))) := by
  by_cases h : word ∈ allowed
  · exact .inl ⟨h, by simp [checkWord, lookupFault?, Value.keyFault?, h]⟩
  · refine .inr ⟨h, ?_⟩
    simp [checkWord, lookupFault?, Value.keyFault?, h, Failure.configuration, Value.overlong]

/-- The attachment of a layer is refused just in case it is not known. -/
theorem checkStdio_cases {v : Value} (hv : v = .null ∨ ∃ word, v = .text word) :
    (checkStdio v = .ok () ∧ ∃ word ∈ stdioModes, v = .text word) ∨
    ((∀ word ∈ stdioModes, v ≠ .text word) ∧ ∃ message field value,
      checkStdio v = .error (.ledger (.configuration message field value))) := by
  rcases hv with rfl | ⟨word, rfl⟩
  · exact .inr ⟨nofun, _, _, _, rfl⟩
  · rcases Config.checkWord_text stdioModes "invalid stdio mode: " "stdio" word with
      ⟨hmem, hcheck⟩ | ⟨hmem, hcheck⟩
    · exact .inl ⟨hcheck, word, hmem, rfl⟩
    · refine .inr ⟨?_, _, _, _, hcheck⟩
      rintro other hother heq
      exact hmem (Value.text.inj heq ▸ hother)

/-- A layer for a watch is refused with a configuration error just in case it is
malformed; otherwise it stands for what it says. -/
theorem Layer.coerce_watch_cases {layer : Layer} (h : layer.Typed) :
    (layer.Malformed ∧ ∃ message field value,
      layer.coerce .watch = .error (.ledger (.configuration message field value))) ∨
    (¬ layer.Malformed ∧ ∃ json, layer.coerce .watch = .ok (.watch layer.given json layer.stdio) ∧
      ∃ word ∈ stdioModes, layer.stdio = .text word) := by
  cases h with
  | nothing =>
      refine .inr ⟨?_, .bool false, rfl, "inherit", by decide, rfl⟩
      rintro ⟨hother⟩
      exact hother
  | overrides hgiven => exact .inr ⟨nofun, .bool false, rfl, "inherit", by decide, rfl⟩
  | watch json hgiven hword => exact .inr ⟨nofun, json, rfl, _, hword, rfl⟩
  | @mapping entries hkeys hgiven hstdio =>
      rcases checkKnown_cases .watch hkeys with ⟨hknown, hcheck⟩ |
        ⟨⟨name, v, hentry, hunknown⟩, message, field, value, hcheck⟩
      · have hattach : stdio (.value (.mapping entries)) = .null ∨
            ∃ word, stdio (.value (.mapping entries)) = .text word := by
          cases hlookup : Value.lookup "stdio" entries with
          | none => exact .inr ⟨"inherit", by rw [stdio, hlookup]; rfl⟩
          | some v =>
              rw [stdio, hlookup]
              exact hstdio v hlookup
        have hcoerce : coerce .watch (.value (.mapping entries)) = (do
            checkStdio (stdio (.value (.mapping entries)))
            return .watch (given (.value (.mapping entries)))
              ((Value.lookup "json" entries).getD (.bool false))
              (stdio (.value (.mapping entries)))) := by
          rw [coerce, hcheck]
          rfl
        rcases checkStdio_cases hattach with ⟨hok, hword⟩ |
          ⟨hunknown, message, field, value, herror⟩
        · refine .inr ⟨?_, (Value.lookup "json" entries).getD (.bool false), ?_, hword⟩
          · intro hmalformed
            cases hmalformed with
            | kind hother => exact hother
            | key hmem hunknown => exact hunknown (hknown _ _ hmem)
            | stdio hgiven hunknown =>
                obtain ⟨word, hmem, heq⟩ := hword
                rw [stdio, hgiven] at heq
                exact hunknown word hmem heq
          · rw [hcoerce, hok]
            rfl
        · refine .inl ⟨?_, message, field, value, by rw [hcoerce, herror]; rfl⟩
          cases hlookup : Value.lookup "stdio" entries with
          | none =>
              rw [stdio, hlookup] at hunknown
              exact absurd rfl (hunknown "inherit" (by decide))
          | some v =>
              rw [stdio, hlookup] at hunknown
              exact .stdio hlookup hunknown
      · exact .inl ⟨.key hentry hunknown, message, field, value, by rw [coerce, hcheck]; rfl⟩
  | loop => exact .inl ⟨.loop, _, _, _, rfl⟩
  | @other v hother =>
      refine .inl ⟨.kind hother, "overrides must be WatchOptions or a mapping, got " ++ v.typeName,
        some "overrides", .null, ?_⟩
      cases v with
      | null | mapping => exact hother.elim
      | loop isMapping =>
          obtain rfl : isMapping = false := hother
          rfl
      | _ => rfl

end DocLedger.Index
